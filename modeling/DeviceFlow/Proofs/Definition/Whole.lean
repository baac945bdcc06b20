import DeviceFlow.Proofs.Definition.Stamp
import DeviceFlow.Proofs.Definition.Step

/-!
# Workflows, written and read

A tree that bears what is written for a workflow is read as this workflow: its variables in their
order, its steps one by one, and its stamps as far as they are set. So whatever format reads back
the tree that it has written reads back the workflow.
-/

namespace DeviceFlow

open Document

namespace Dict

variable {κ α : Type} [DecidableEq κ]

/-- A new name comes last. -/
theorem put_of_not_mem {name : κ} {value : α} {es : List (κ × α)} (h : name ∉ es.map Prod.fst) :
    put name value es = es ++ [(name, value)] := by
  induction es with
  | nil => rfl
  | cons e es ih =>
    obtain ⟨key, old⟩ := e
    rw [List.map_cons, List.mem_cons, not_or] at h
    unfold put
    rw [if_neg (Ne.symm h.1), ih h.2]
    rfl

/-- The names of a list that are all new come in their order. -/
theorem entries_foldl_insert {es : List (κ × α)} {d : Dict κ α}
    (h : (d.entries.map Prod.fst ++ es.map Prod.fst).Nodup) :
    (es.foldl (fun d e => d.insert e.1 e.2) d).entries = d.entries ++ es := by
  induction es generalizing d with
  | nil => simp
  | cons e es ih =>
    have hnew : e.1 ∉ d.entries.map Prod.fst := by
      intro hmem
      exact (List.nodup_append.mp h).2.2 _ hmem _ (by simp) rfl
    have hentries : (d.insert e.1 e.2).entries = d.entries ++ [e] := put_of_not_mem hnew
    rw [List.foldl_cons, ih (by simpa [hentries] using h), hentries, List.append_assoc]
    rfl

/-- A dictionary is made of its own list of entries. -/
theorem ofList_entries (d : Dict κ α) : ofList d.entries = d := by
  have hentries : (ofList d.entries).entries = d.entries :=
    entries_foldl_insert (d := empty) (by simpa [empty] using d.nodup)
  generalize ofList d.entries = d' at hentries ⊢
  obtain ⟨es, hes⟩ := d
  obtain ⟨es', hes'⟩ := d'
  cases hentries
  rfl

end Dict

variable {doc : Document} {node : Node} {entries : List (String × Node)}
  {fields : List (String × Value)} {name : String}

theorem Variables.ofNode?_of_bears {vars : Variables}
    (h : node.bears (Variables.encode vars) = true) : ofNode? doc node = some vars := by
  obtain ⟨entries, hentries, hbear⟩ := entries?_of_bears doc h
  have htexts : entries.mapM (fun e => (doc.text? e.2).map (e.1, ·)) = some vars.entries := by
    clear hentries h
    generalize vars.entries = es at hbear
    induction es generalizing entries with
    | nil =>
      cases hbear
      rfl
    | cons e es ih =>
      cases hbear with
      | cons hfirst hrest =>
        rw [List.mapM_cons, text?_of_bears hfirst.2, ih _ hrest, hfirst.1]
        rfl
  unfold ofNode?
  rw [hentries]
  simp only [Option.bind_eq_bind, Option.bind_some]
  rw [htexts]
  simp only [Option.bind_some, Dict.ofList_entries]
  rfl

/-- A stamp is read as it has been written, or left out. -/
theorem fieldOr_stamp_of_bear (doc : Document) (hbear : FieldsBear entries fields)
    (name : String) {stamp : Option Timestamp}
    (htellable : ∀ t, stamp = some t → t.Tellable)
    (h : find? name fields = stamp.map fun t => .text t.text) :
    fieldOr none (doc.optional? fun node => (doc.text? node).bind Timestamp.ofText?) name entries =
      some stamp := by
  cases stamp with
  | none => exact fieldOr_of_find?_eq_none (hbear.find?_eq_none h)
  | some t =>
    obtain ⟨node, hfind, hnode⟩ := hbear.exists_find? _ _ h
    have htext := Timestamp.ofText?_text (htellable t rfl)
    rw [fieldOr_of_find? hfind, optional?_of_bears_text _ hnode, text?_of_bears hnode,
      Option.bind_some, htext, Option.map_some]

namespace Workflow

variable {w : Workflow}

/-- The stamps of a workflow are moments in the years 0 to 9999. -/
def Tellable (w : Workflow) : Prop :=
  (∀ t, w.createdAt = some t → t.Tellable) ∧ ∀ t, w.updatedAt = some t → t.Tellable

theorem mapM_ofNode?_of_bear {depth : Nat} (hdepth : 1 ≤ depth) {nodes : List Node}
    {steps : List Step}
    (h : List.Forall₂ (fun node v => node.bears v = true) nodes (steps.map Step.encode)) :
    nodes.mapM (Step.ofNode? doc depth) = some steps := by
  induction steps generalizing nodes with
  | nil =>
    cases h
    rfl
  | cons s steps ih =>
    cases h with
    | cons hfirst hrest =>
      rw [List.mapM_cons, Step.ofNode?_of_bears hdepth hfirst, ih hrest]
      rfl

theorem ofTree?_of_bears (hw : w.Tellable) (h : doc.root.bears w.encode = true) :
    ofTree? doc = some w := by
  have hkeys : (([("id", .text w.id), ("name", .text w.name),
      ("variables", Variables.encode w.vars), ("steps", .list (w.steps.map Step.encode))] ++
      setField "created_at" (w.createdAt.map fun t => Value.text t.text) ++
      setField "updated_at" (w.updatedAt.map fun t => .text t.text)).map (·.1)).Sublist
        Workflow.fields := by
    simp only [List.map_append]
    exact ((List.Sublist.refl ["id", "name", "variables", "steps"]).append
      (keys_setField_sublist ..)).append (keys_setField_sublist ..)
  obtain ⟨entries, hrecord, hbear⟩ := record?_of_sublist doc (by decide) hkeys h
  have hdepth : 1 ≤ doc.format.maxDepth - 3 := by
    cases doc.format with
    | json => decide
    | yaml => decide
  obtain ⟨idNode, hidFound, hid⟩ := hbear.exists_find? "id" (.text w.id) rfl
  obtain ⟨nameNode, hnameFound, hname⟩ :=
    hbear.exists_find? "name" (.text w.name) rfl
  obtain ⟨varsNode, hvarsFound, hvars⟩ :=
    hbear.exists_find? "variables" (Variables.encode w.vars) rfl
  obtain ⟨stepsNode, hstepsFound, hsteps⟩ :=
    hbear.exists_find? "steps" (.list (w.steps.map Step.encode)) rfl
  obtain ⟨stepNodes, hitems, hstepNodes⟩ := items?_of_bears doc hsteps
  have hcreated := fieldOr_stamp_of_bear doc hbear "created_at" hw.1
    (by rw [find?_append, find?_append, find?_setField, find?_setField]; simp [find?])
  have hupdated := fieldOr_stamp_of_bear doc hbear "updated_at" hw.2
    (by rw [find?_append, find?_append, find?_setField, find?_setField]; simp [find?])
  unfold ofTree?
  rw [hrecord]
  simp only [Option.bind_eq_bind, Option.bind_some, hidFound, text?_of_bears hid, hstepsFound,
    hitems, hcreated, hupdated, mapM_ofNode?_of_bear hdepth hstepNodes]
  rw [fieldOr_of_find? hnameFound, text?_of_bears hname, fieldOr_of_find? hvarsFound,
    Variables.ofNode?_of_bears hvars]
  rfl

/-- A format that reads back the tree of a workflow reads back the workflow. -/
theorem ofText?_toText {format : Format} (hw : w.Tellable) (h : ReadsBack format w.encode) :
    ofText? format (w.toText format) = some w := by
  obtain ⟨doc, hread, hformat, hanchors, hroot⟩ := h
  unfold ofText? toText ofDocument?
  rw [hread]
  have hadmits : doc.admits interest = true := by
    unfold admits
    rw [hanchors]
    rfl
  rw [Option.bind_some, if_pos hadmits]
  exact ofTree?_of_bears hw hroot

/-- Whether the YAML characters of a value are read back can be computed. -/
theorem readsBack_yaml_of_chars {v : Value}
    (h : ((Yaml.tokens? (Yaml.itemChars 0 v)).bind fun ts => Yaml.ofTokens? ts.toList).any
      (fun doc => doc.format = .yaml ∧ doc.anchors = #[] ∧ doc.root.bears v = true) = true) :
    ReadsBack .yaml v := by
  obtain ⟨doc, hdoc, hbears⟩ := (Option.any_eq_true _ _).mp h
  refine ⟨doc, ?_, of_decide_eq_true hbears⟩
  show Yaml.read? (String.ofList (Yaml.itemChars 0 v)) = some doc
  unfold Yaml.read?
  rw [String.toList_ofList]
  exact hdoc

end Workflow

end DeviceFlow
