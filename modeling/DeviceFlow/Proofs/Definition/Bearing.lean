import DeviceFlow.Document.Node
import DeviceFlow.Document.Value
import DeviceFlow.Workflow.Text
import Mathlib.Data.List.Forall2

/-!
# Trees that bear values

A tree that has been read bears a value when it has the shape of the value, and each of its scalars
answers as the scalar of the value. Whatever is asked of the tree then has the answer that the value
gives, and loosening the tree gives the value itself.
-/

namespace DeviceFlow.Document

/-- The plain tree of a value. -/
def Value.loose : Value → Loose
  | .null => .atom .null
  | .bool b => .atom (.bool b)
  | .int i => .atom (.int i)
  | .text s => .atom (.text s)
  | .list items => .list (looseItems items)
  | .table entries => .table (looseEntries entries)
where
  looseItems : List Value → List Loose
    | [] => []
    | v :: rest => v.loose :: looseItems rest
  looseEntries : List (String × Value) → List (Loose × Loose)
    | [] => []
    | (key, v) :: rest => (.atom (.text key), v.loose) :: looseEntries rest

mutual

/-- How deep the lists and tables of a value are nested. -/
def Value.depth : Value → Nat
  | .null | .bool _ | .int _ | .text _ => 0
  | .list items => Value.itemsDepth items + 1
  | .table entries => Value.entriesDepth entries + 1

def Value.itemsDepth : List Value → Nat
  | [] => 0
  | v :: rest => max v.depth (Value.itemsDepth rest)

def Value.entriesDepth : List (String × Value) → Nat
  | [] => 0
  | (_, v) :: rest => max v.depth (Value.entriesDepth rest)

end

/-- A scalar answers as the scalar of a value. An integer may be too large to be one with a sign. -/
def Scalar.bears (s : Scalar) : Value → Bool
  | .null => s.present = some false ∧ s.atom = some .null
  | .bool b => s.present = some true ∧ s.atom = some (.bool b)
  | .int i =>
    s.present = some true ∧ s.atom = some (.int i) ∧
      (i < Decimal.twoTo 63 → s.integer = some i) ∧ (0 ≤ i → s.natural = some i.toNat)
  | .text t =>
    s.present = some true ∧ s.atom = some (.text t) ∧ s.text = some t ∧ s.choice = some t
  | .list _ | .table _ => false

mutual

/-- A tree has the shape of a value and answers as the value. -/
def Node.bears : Node → Value → Bool
  | .scalar s, v => s.bears v
  | .list false items, .list values => Node.itemsBear items values
  | .table false entries, .table fields => Node.entriesBear entries fields
  | _, _ => false

def Node.itemsBear : List Node → List Value → Bool
  | [], [] => true
  | node :: nodes, v :: values => node.bears v && Node.itemsBear nodes values
  | _, _ => false

def Node.entriesBear : List (Node × Node) → List (String × Value) → Bool
  | [], [] => true
  | (key, node) :: entries, (name, v) :: fields =>
    key.bears (.text name) && node.bears v && Node.entriesBear entries fields
  | _, _ => false

end

/-- What is written for a value is read as a document that bears it. -/
def ReadsBack (format : Format) (v : Value) : Prop :=
  ∃ doc, Document.ofText? format (Document.toText format v) = some doc ∧ doc.format = format ∧
    doc.anchors = #[] ∧ doc.root.bears v = true

variable {doc : Document} {node : Node} {v : Value} {t : String} {i : Int} {n : Nat}

/-! ## Single values -/

/-- A tree that bears a value is a scalar, or a list or table as the value is. -/
theorem cases_of_bears (h : node.bears v = true) :
    (∃ s, node = .scalar s ∧ s.bears v = true) ∨
      (∃ items values, node = .list false items ∧ v = .list values ∧
        Node.itemsBear items values = true) ∨
      ∃ entries fields, node = .table false entries ∧ v = .table fields ∧
        Node.entriesBear entries fields = true := by
  unfold Node.bears at h
  split at h
  · exact .inl ⟨_, rfl, h⟩
  · exact .inr (.inl ⟨_, _, rfl, rfl, h⟩)
  · exact .inr (.inr ⟨_, _, rfl, rfl, h⟩)
  · cases h

theorem exists_scalar_of_bears_text (h : node.bears (.text t) = true) :
    ∃ s, node = .scalar s ∧ s.present = some true ∧ s.atom = some (.text t) ∧ s.text = some t ∧
      s.choice = some t := by
  rcases cases_of_bears h with ⟨s, rfl, hs⟩ | ⟨_, _, _, hv, _⟩ | ⟨_, _, _, hv, _⟩
  · exact ⟨s, rfl, of_decide_eq_true hs⟩
  · cases hv
  · cases hv

theorem exists_scalar_of_bears_int (h : node.bears (.int i) = true) :
    ∃ s, node = .scalar s ∧ s.present = some true ∧ s.atom = some (.int i) ∧
      (i < Decimal.twoTo 63 → s.integer = some i) ∧ (0 ≤ i → s.natural = some i.toNat) := by
  rcases cases_of_bears h with ⟨s, rfl, hs⟩ | ⟨_, _, _, hv, _⟩ | ⟨_, _, _, hv, _⟩
  · exact ⟨s, rfl, of_decide_eq_true hs⟩
  · cases hv
  · cases hv

theorem exists_list_of_bears {values : List Value} (h : node.bears (.list values) = true) :
    ∃ items, node = .list false items ∧ Node.itemsBear items values = true := by
  rcases cases_of_bears h with ⟨s, rfl, hs⟩ | ⟨items, _, rfl, hv, hitems⟩ | ⟨_, _, _, hv, _⟩
  · cases hs
  · cases hv
    exact ⟨items, rfl, hitems⟩
  · cases hv

theorem exists_table_of_bears {fields : List (String × Value)}
    (h : node.bears (.table fields) = true) :
    ∃ entries, node = .table false entries ∧ Node.entriesBear entries fields = true := by
  rcases cases_of_bears h with ⟨s, rfl, hs⟩ | ⟨_, _, _, hv, _⟩ | ⟨entries, _, rfl, hv, hentries⟩
  · cases hs
  · cases hv
  · cases hv
    exact ⟨entries, rfl, hentries⟩

theorem text?_of_bears (h : node.bears (.text t) = true) : doc.text? node = some t := by
  obtain ⟨s, rfl, _, _, htext, _⟩ := exists_scalar_of_bears_text h
  exact htext

theorem choice?_of_bears (depth : Nat) (h : node.bears (.text t) = true) :
    doc.choice? depth node = some t := by
  obtain ⟨s, rfl, _, _, _, hchoice⟩ := exists_scalar_of_bears_text h
  exact hchoice

theorem integer?_of_bears (h : node.bears (.int i) = true) (hi : i < Decimal.twoTo 63) :
    doc.integer? node = some i := by
  obtain ⟨s, rfl, _, _, hinteger, _⟩ := exists_scalar_of_bears_int h
  exact hinteger hi

theorem natural?_of_bears (h : node.bears (.int n) = true) : doc.natural? node = some n := by
  obtain ⟨s, rfl, _, _, _, hnatural⟩ := exists_scalar_of_bears_int h
  exact hnatural (Int.natCast_nonneg n)

theorem optional?_of_bears_text {α : Type} (read : Node → Option α)
    (h : node.bears (.text t) = true) : doc.optional? read node = (read node).map some := by
  obtain ⟨s, rfl, hpresent, _⟩ := exists_scalar_of_bears_text h
  unfold optional? resolve
  simp [hpresent]

theorem optional?_of_bears_int {α : Type} (read : Node → Option α)
    (h : node.bears (.int i) = true) : doc.optional? read node = (read node).map some := by
  obtain ⟨s, rfl, hpresent, _⟩ := exists_scalar_of_bears_int h
  unfold optional? resolve
  simp [hpresent]

/-! ## Lists and tables -/

/-- Fields that have been read bear the fields of a table, one by one. -/
def FieldsBear (entries : List (String × Node)) (fields : List (String × Value)) : Prop :=
  List.Forall₂ (fun e f => e.1 = f.1 ∧ e.2.bears f.2 = true) entries fields

theorem forall₂_of_itemsBear {items : List Node} {values : List Value}
    (h : Node.itemsBear items values = true) :
    List.Forall₂ (fun node v => node.bears v = true) items values := by
  induction items generalizing values with
  | nil =>
    cases values with
    | nil => exact .nil
    | cons v values => cases h
  | cons node items ih =>
    cases values with
    | nil => cases h
    | cons v values =>
      simp only [Node.itemsBear, Bool.and_eq_true] at h
      exact .cons h.1 (ih h.2)

theorem items?_of_bears (doc : Document) {values : List Value}
    (h : node.bears (.list values) = true) :
    ∃ items, doc.items? node = some items ∧
      List.Forall₂ (fun node v => node.bears v = true) items values := by
  obtain ⟨items, rfl, hitems⟩ := exists_list_of_bears h
  exact ⟨items, rfl, forall₂_of_itemsBear hitems⟩

theorem exists_entries_of_entriesBear {entries : List (Node × Node)}
    {fields : List (String × Value)} (h : Node.entriesBear entries fields = true) :
    ∃ es, entries.mapM (fun (key, value) => (doc.text? key).map (·, value)) = some es ∧
      FieldsBear es fields := by
  induction entries generalizing fields with
  | nil =>
    cases fields with
    | nil => exact ⟨[], rfl, .nil⟩
    | cons f fields => cases h
  | cons e entries ih =>
    cases fields with
    | nil => cases h
    | cons f fields =>
      simp only [Node.entriesBear, Bool.and_eq_true] at h
      obtain ⟨⟨hkey, hvalue⟩, hrest⟩ := h
      obtain ⟨es, hes, hbear⟩ := ih hrest
      refine ⟨(f.1, e.2) :: es, ?_, .cons ⟨rfl, hvalue⟩ hbear⟩
      simp [List.mapM_cons, text?_of_bears hkey, hes]

theorem entries?_of_bears (doc : Document) {fields : List (String × Value)}
    (h : node.bears (.table fields) = true) :
    ∃ entries, doc.entries? node = some entries ∧ FieldsBear entries fields := by
  obtain ⟨entries, rfl, hentries⟩ := exists_table_of_bears h
  exact exists_entries_of_entriesBear hentries

/-- A tree that bears a table is no list. -/
theorem not_list_of_bears {fields : List (String × Value)} (h : node.bears (.table fields) = true)
    (marked : Bool) (items : List Node) : doc.resolve node ≠ .list marked items := by
  obtain ⟨entries, rfl, _⟩ := exists_table_of_bears h
  nofun

/-! ## Fields -/

section

variable {α : Type} {name : String} {names : List String} {entries : List (String × Node)}
  {fields : List (String × Value)}

theorem find?_append (name : String) (es es' : List (String × α)) :
    find? name (es ++ es') = (find? name es).or (find? name es') := by
  unfold find?
  rw [List.find?_append]
  cases es.find? (·.1 = name) with
  | some e => rfl
  | none => rfl

namespace FieldsBear

theorem keys (h : FieldsBear entries fields) : entries.map (·.1) = fields.map (·.1) := by
  induction h with
  | nil => rfl
  | cons hfirst _ ih => rw [List.map_cons, List.map_cons, ih, hfirst.1]

theorem find?_eq_none (h : FieldsBear entries fields) (hnone : find? name fields = none) :
    find? name entries = none := by
  induction h with
  | nil => rfl
  | @cons e f es fs hfirst _ ih =>
    unfold find? at *
    by_cases hname : f.1 = name
    · simp [hname] at hnone
    · have hkey : e.1 ≠ name := hfirst.1 ▸ hname
      simp only [hname, decide_false, Bool.false_eq_true, not_false_eq_true,
        List.find?_cons_of_neg] at hnone
      simp only [hkey, decide_false, Bool.false_eq_true, not_false_eq_true,
        List.find?_cons_of_neg]
      exact ih hnone

theorem exists_find? (h : FieldsBear entries fields) (name : String) (v : Value)
    (hsome : find? name fields = some v) :
    ∃ node, find? name entries = some node ∧ node.bears v = true := by
  induction h with
  | nil => cases hsome
  | @cons e f es fs hfirst _ ih =>
    unfold find? at *
    by_cases hname : f.1 = name
    · have hkey : e.1 = name := hfirst.1.trans hname
      simp only [hname, decide_true, List.find?_cons_of_pos, Option.map_some] at hsome
      simp only [hkey, decide_true, List.find?_cons_of_pos, Option.map_some]
      exact ⟨e.2, rfl, Option.some.inj hsome ▸ hfirst.2⟩
    · have hkey : e.1 ≠ name := hfirst.1 ▸ hname
      simp only [hname, decide_false, Bool.false_eq_true, not_false_eq_true,
        List.find?_cons_of_neg] at hsome
      simp only [hkey, decide_false, Bool.false_eq_true, not_false_eq_true,
        List.find?_cons_of_neg]
      exact ih hsome

/-- Fields are kept or dropped by their names. -/
theorem filter (h : FieldsBear entries fields) (keep : String → Bool) :
    FieldsBear (entries.filter fun e => keep e.1) (fields.filter fun f => keep f.1) := by
  induction h with
  | nil => exact .nil
  | @cons e f es fs hfirst _ ih =>
    have hkey : keep e.1 = keep f.1 := congrArg keep hfirst.1
    cases hkeep : keep f.1 with
    | true =>
      simp only [List.filter_cons, hkey, hkeep, if_true]
      exact .cons hfirst ih
    | false =>
      simp only [List.filter_cons, hkey, hkeep, Bool.false_eq_true, if_false]
      exact ih

end FieldsBear

/-- Fields with different names are kept when they are known. -/
theorem known?_of_nodup {es : List (String × α)} (h : (es.map (·.1)).Nodup)
    (names : List String) : known? names es = some (es.filter fun e => names.contains e.1) :=
  if_pos (h.sublist (List.filter_sublist.map _))

/-- The fields of a record are the known ones of the table. -/
theorem record?_of_bears (doc : Document) (hkeys : (fields.map (·.1)).Nodup)
    (h : node.bears (.table fields) = true) (names : List String) :
    ∃ entries, doc.record? names node = some entries ∧
      FieldsBear entries (fields.filter fun f => names.contains f.1) := by
  obtain ⟨entries, hentries, hbear⟩ := entries?_of_bears doc h
  refine ⟨_, ?_, hbear.filter fun name => names.contains name⟩
  have hknown := known?_of_nodup (hbear.keys ▸ hkeys) names
  unfold record?
  split
  · rename_i hlist
    exact absurd hlist (not_list_of_bears h _ _)
  · rename_i hlist
    exact absurd hlist (not_list_of_bears h _ _)
  · rw [hentries]
    exact hknown

end

/-! ## Loosening -/

theorem loosen?_scalar {s : Scalar} {a : Atom} {depth : Nat} (h : s.atom = some a) :
    doc.loosen? depth (.scalar s) = some (.atom a) := by
  cases depth with
  | zero =>
    show s.atom.map Loose.atom = _
    rw [h]
    rfl
  | succ depth =>
    show s.atom.map Loose.atom = _
    rw [h]
    rfl

mutual

/-- Loosening a tree gives the value that it bears, if it is allowed to go as deep. -/
theorem loosen?_of_bears {node : Node} {depth : Nat} : (v : Value) → node.bears v = true →
    v.depth ≤ depth → doc.loosen? depth node = some v.loose
  | .list values, h, hdepth => by
    obtain ⟨items, rfl, hitems⟩ := exists_list_of_bears h
    cases depth with
    | zero => simp [Value.depth] at hdepth
    | succ depth =>
      have hloose := loosenItems_of_bears values hitems (Nat.le_of_succ_le_succ hdepth)
      show (items.mapM (doc.loosen? depth)).map Loose.list = _
      rw [hloose]
      rfl
  | .table fields, h, hdepth => by
    obtain ⟨entries, rfl, hentries⟩ := exists_table_of_bears h
    cases depth with
    | zero => simp [Value.depth] at hdepth
    | succ depth =>
      have hloose := loosenEntries_of_bears fields hentries (Nat.le_of_succ_le_succ hdepth)
      show (entries.mapM fun (key, value) => do
        return (← doc.loosen? depth key, ← doc.loosen? depth value)).map Loose.table = _
      rw [hloose]
      rfl
  | .text t, h, _ => by
    obtain ⟨s, rfl, _, hatom, _⟩ := exists_scalar_of_bears_text h
    exact loosen?_scalar hatom
  | .int i, h, _ => by
    obtain ⟨s, rfl, _, hatom, _⟩ := exists_scalar_of_bears_int h
    exact loosen?_scalar hatom
  | .null, h, _ => by
    rcases cases_of_bears h with ⟨s, rfl, hs⟩ | ⟨_, _, _, hv, _⟩ | ⟨_, _, _, hv, _⟩
    · exact loosen?_scalar (of_decide_eq_true hs).2
    · cases hv
    · cases hv
  | .bool b, h, _ => by
    rcases cases_of_bears h with ⟨s, rfl, hs⟩ | ⟨_, _, _, hv, _⟩ | ⟨_, _, _, hv, _⟩
    · exact loosen?_scalar (of_decide_eq_true hs).2
    · cases hv
    · cases hv

theorem loosenItems_of_bears {items : List Node} {depth : Nat} : (values : List Value) →
    Node.itemsBear items values = true → Value.itemsDepth values ≤ depth →
      items.mapM (doc.loosen? depth) = some (Value.loose.looseItems values)
  | [], h, _ => by
    cases items with
    | nil => rfl
    | cons node items => cases h
  | v :: values, h, hdepth => by
    cases items with
    | nil => cases h
    | cons node items =>
      simp only [Node.itemsBear, Bool.and_eq_true] at h
      have hdepths : v.depth ≤ depth ∧ Value.itemsDepth values ≤ depth := Nat.max_le.mp hdepth
      rw [List.mapM_cons, loosen?_of_bears v h.1 hdepths.1,
        loosenItems_of_bears values h.2 hdepths.2]
      rfl

theorem loosenEntries_of_bears {entries : List (Node × Node)} {depth : Nat} :
    (fields : List (String × Value)) → Node.entriesBear entries fields = true →
      Value.entriesDepth fields ≤ depth →
      (entries.mapM fun (key, value) => do
        return (← doc.loosen? depth key, ← doc.loosen? depth value)) =
          some (Value.loose.looseEntries fields)
  | [], h, _ => by
    cases entries with
    | nil => rfl
    | cons e entries => cases h
  | (name, v) :: fields, h, hdepth => by
    cases entries with
    | nil => cases h
    | cons e entries =>
      obtain ⟨key, node⟩ := e
      simp only [Node.entriesBear, Bool.and_eq_true] at h
      have hdepths : v.depth ≤ depth ∧ Value.entriesDepth fields ≤ depth := Nat.max_le.mp hdepth
      obtain ⟨s, rfl, _, hatom, _⟩ := exists_scalar_of_bears_text h.1.1
      rw [List.mapM_cons, loosenEntries_of_bears fields h.2 hdepths.2]
      simp only [loosen?_scalar hatom, loosen?_of_bears v h.1.2 hdepths.1]
      rfl

end

/-- Fields are loosened one by one. -/
theorem FieldsBear.mapM_loosen? {entries : List (String × Node)} {fields : List (String × Value)}
    {depth : Nat} (h : FieldsBear entries fields) (hdepth : ∀ f ∈ fields, f.2.depth ≤ depth) :
    entries.mapM (fun e => (doc.loosen? depth e.2).map (e.1, ·)) =
      some (fields.map fun f => (f.1, f.2.loose)) := by
  induction h with
  | nil => rfl
  | @cons e f es fs hfirst _ ih =>
    have hloose : doc.loosen? depth e.2 = some f.2.loose :=
      loosen?_of_bears f.2 hfirst.2 (hdepth f List.mem_cons_self)
    rw [List.mapM_cons, hloose, ih fun f hf => hdepth f (List.mem_cons_of_mem _ hf), hfirst.1]
    rfl

end DeviceFlow.Document
