import DeviceFlow.Proofs.Definition.Bearing

/-!
# Steps, written and read

The parameters of a kind are read from their plain values as they have been written: each number,
name and selector is read back, missing parameters stay missing, and the name of the kind selects
the reading of the same kind.

A step is one table for the fields that all steps have and for those of its kind. The names tell
them apart: the fields of no kind have the name of a common field, so that both are found again
among each other, and a field that has been left out is read as its default.
-/

namespace DeviceFlow

open Document

/-! ## Kinds -/

theorem int32?_toInt (i : Int32) : int32? i.toInt = some i := by
  have hrange : -(Decimal.twoTo 31 : Int) ≤ i.toInt ∧ i.toInt < Decimal.twoTo 31 :=
    ⟨i.le_toInt, i.toInt_lt⟩
  unfold int32?
  rw [if_pos hrange, Int32.ofInt_toInt]

/-- A number of 32 bits is an integer of 64 bits with a sign. -/
theorem toInt_lt_twoTo (i : Int32) : i.toInt < Decimal.twoTo 63 := by
  have hlt : i.toInt < 2 ^ 31 := i.toInt_lt
  have hbound : (Decimal.twoTo 63 : Int) = 2 ^ 63 := rfl
  omega

theorem uint64?_toNat (n : UInt64) : uint64? n.toNat = some n := by
  have hrange : n.toNat < Decimal.twoTo 64 := n.toNat_lt
  unfold uint64?
  rw [if_pos hrange, UInt64.ofNat_toNat]

/-- One of several alternatives is read from its name. -/
theorem looseChoice?_name {α : Type} {all : List α} {name : α → String}
    (hnames : (all.map name).Nodup) {a : α} (ha : a ∈ all) :
    looseChoice? all name (.atom (.text (name a))) = some a := by
  unfold looseChoice? Loose.choice?
  dsimp only
  induction all with
  | nil => cases ha
  | cons b all ih =>
    rw [List.map_cons, List.nodup_cons] at hnames
    rw [List.map_cons, List.idxOf?_cons]
    by_cases hname : name b = name a
    · have hsame : a = b := by
        rcases List.mem_cons.mp ha with hsame | hmem
        · exact hsame
        · exact absurd (hname ▸ List.mem_map_of_mem hmem) hnames.1
      simp [hname, hsame]
    · have hmem : a ∈ all := by
        rcases List.mem_cons.mp ha with rfl | hmem
        · exact absurd rfl hname
        · exact hmem
      rw [← ih hnames.2 hmem]
      cases (all.map name).idxOf? (name a) with
      | none => simp [hname]
      | some i => simp [hname]

/-! ## Parameters -/

theorem optional?_ofText? (t : Option String) :
    (Value.ofText? t).loose.optional? Loose.text? = some t := by
  cases t with
  | none => rfl
  | some t => rfl

theorem optional?_int32Value (x : Option Int32) :
    (int32Value x).loose.optional? (fun v => v.integer?.bind int32?) = some x := by
  cases x with
  | none => rfl
  | some x =>
    show (int32? x.toInt).map some = some (some x)
    rw [int32?_toInt]
    rfl

theorem optional?_uint64Value (n : Option UInt64) :
    (uint64Value n).loose.optional? (fun v => v.natural?.bind uint64?) = some n := by
  cases n with
  | none => rfl
  | some n =>
    show (uint64? n.toNat).map some = some (some n)
    rw [uint64?_toNat]
    rfl

theorem optional?_name {α : Type} {all : List α} {name : α → String}
    (hnames : (all.map name).Nodup) (hall : ∀ a, a ∈ all) (a : Option α) :
    (Value.ofText? (a.map name)).loose.optional? (looseChoice? all name) = some a := by
  cases a with
  | none => rfl
  | some a =>
    show (looseChoice? all name (.atom (.text (name a)))).map some = some (some a)
    rw [looseChoice?_name hnames (hall a)]
    rfl

theorem Selector.ofLoose?_encode (s : Selector) : ofLoose? s.encode.loose = some s := by
  have hkind : looseChoice? SelectorKind.all SelectorKind.name (.atom (.text s.kind.name)) =
      some s.kind :=
    looseChoice?_name (by decide) (by cases s.kind <;> decide)
  simp [encode, Value.loose, Value.loose.looseEntries, ofLoose?, Loose.record?, Loose.fieldName?,
    known?, find?, hkind, Loose.text?]

theorem optional?_selectorValue (s : Option Selector) :
    (selectorValue s).loose.optional? Selector.ofLoose? = some s := by
  cases s with
  | none => rfl
  | some s =>
    show (Selector.ofLoose? s.encode.loose).map some = some (some s)
    rw [Selector.ofLoose?_encode]
    rfl

/-- A kind is read from its name and its parameters. -/
theorem StepKind.ofFields?_parameters (kind : StepKind) :
    ofFields? kind.typeName (kind.parameters.map fun f => (f.1, f.2.loose)) = some kind := by
  have haction : ∀ action : Option ElementActionKind,
      (Value.ofText? (action.map (·.name))).loose.optional?
        (looseChoice? ElementActionKind.all ElementActionKind.name) = some action :=
    optional?_name (by decide) fun a => by cases a <;> decide
  have hdirection : ∀ direction : Option Direction,
      (Value.ofText? (direction.map (·.name))).loose.optional?
        (looseChoice? Direction.all Direction.name) = some direction :=
    optional?_name (by decide) fun a => by cases a <;> decide
  have happ : ∀ action : Option AppAction,
      (Value.ofText? (action.map (·.name))).loose.optional?
        (looseChoice? AppAction.all AppAction.name) = some action :=
    optional?_name (by decide) fun a => by cases a <;> decide
  have hattribute : ∀ what : Attribute,
      looseChoice? Attribute.all Attribute.name (Value.text what.name).loose = some what :=
    fun what => looseChoice?_name (by decide) (by cases what <;> decide)
  cases kind with
  | _ =>
    simp [typeName, parameters, ofFields?, known?, optionalField?, find?, optional?_int32Value,
      optional?_uint64Value, optional?_ofText?, optional?_selectorValue, haction, hdirection, happ,
      hattribute]

/-! ## Steps -/

section

variable {doc : Document} {entries : List (String × Node)} {fields : List (String × Value)}
  {name : String} {node : Node}

theorem find?_setField (name key : String) (v : Option Value) :
    find? name (setField key v) = if key = name then v else none := by
  cases v with
  | none => simp [setField, find?]
  | some v =>
    by_cases hname : key = name
    · simp [setField, find?, hname]
    · simp [setField, find?, hname]

theorem fieldOr_of_find? {α : Type} {default : α} {read : Node → Option α}
    (h : find? name entries = some node) : fieldOr default read name entries = read node := by
  unfold fieldOr
  rw [h]

theorem fieldOr_of_find?_eq_none {α : Type} {default : α} {read : Node → Option α}
    (h : find? name entries = none) : fieldOr default read name entries = some default := by
  unfold fieldOr
  rw [h]

/-- A connection is read as it has been written, or left out. -/
theorem fieldOr_text_of_bear (hbear : FieldsBear entries fields) (target : Option String)
    (h : find? name fields = target.map .text) :
    fieldOr none (doc.optional? doc.text?) name entries = some target := by
  cases target with
  | none => exact fieldOr_of_find?_eq_none (hbear.find?_eq_none h)
  | some t =>
    obtain ⟨node, hfind, hnode⟩ := hbear.exists_find? _ _ h
    rw [fieldOr_of_find? hfind, optional?_of_bears_text _ hnode, text?_of_bears hnode]
    rfl

/-- A pause is read as it has been written. -/
theorem fieldOr_millis_of_bear (doc : Document) (default : UInt64)
    (hbear : FieldsBear entries fields) (name : String) {n : UInt64}
    (h : find? name fields = some (.int n.toNat)) :
    fieldOr default (fun node => (doc.natural? node).bind uint64?) name entries = some n := by
  obtain ⟨node, hfind, hnode⟩ := hbear.exists_find? _ _ h
  rw [fieldOr_of_find? hfind, natural?_of_bears hnode]
  exact uint64?_toNat n

/-- A limit is read as it has been written, or left out. -/
theorem fieldOr_limit_of_bear (doc : Document) (hbear : FieldsBear entries fields)
    (name : String) (limit : Option UInt64)
    (h : find? name fields = limit.map fun n => .int n.toNat) :
    fieldOr none (doc.optional? fun node => (doc.natural? node).bind uint64?) name entries =
      some limit := by
  cases limit with
  | none => exact fieldOr_of_find?_eq_none (hbear.find?_eq_none h)
  | some n =>
    obtain ⟨node, hfind, hnode⟩ := hbear.exists_find? _ _ h
    rw [fieldOr_of_find? hfind, optional?_of_bears_int _ hnode, natural?_of_bears hnode]
    show (uint64? n.toNat).map some = some (some n)
    rw [uint64?_toNat]
    rfl

/-- The fields of a record are all fields of a table when each of them has a place in it. -/
theorem record?_of_sublist (doc : Document) {names : List String} (hnames : names.Nodup)
    (hkeys : (fields.map (·.1)).Sublist names) (h : node.bears (.table fields) = true) :
    ∃ entries, doc.record? names node = some entries ∧ FieldsBear entries fields := by
  obtain ⟨entries, hrecord, hbear⟩ :=
    record?_of_bears doc (hnames.sublist hkeys) h names
  have hall : fields.filter (fun f => names.contains f.1) = fields := by
    rw [List.filter_eq_self]
    intro f hf
    exact List.contains_iff_mem.mpr (hkeys.subset (List.mem_map_of_mem hf))
  rw [hall] at hbear
  exact ⟨entries, hrecord, hbear⟩

/-- A field that may be left out has its own name or none. -/
theorem keys_setField_sublist (key : String) (v : Option Value) :
    ((setField key v).map (·.1)).Sublist [key] := by
  cases v with
  | none => exact List.nil_sublist _
  | some v => exact List.Sublist.refl _

theorem Connections.ofNode?_of_bears {c : Connections} (h : node.bears c.encode = true) :
    ofNode? doc node = some c := by
  have hkeys : ((setField "success_step_id" (c.onSuccess.map Value.text) ++
      setField "error_step_id" (c.onError.map Value.text) ++
      setField "true_step_id" (c.onTrue.map Value.text) ++
      setField "false_step_id" (c.onFalse.map Value.text)).map (·.1)).Sublist
        Connections.fields := by
    simp only [List.map_append]
    exact (((keys_setField_sublist ..).append (keys_setField_sublist ..)).append
      (keys_setField_sublist ..)).append (keys_setField_sublist ..)
  obtain ⟨entries, hrecord, hbear⟩ := record?_of_sublist doc (by decide) hkeys h
  unfold ofNode?
  rw [hrecord]
  simp only [Option.bind_eq_bind, Option.bind_some]
  rw [fieldOr_text_of_bear hbear c.onSuccess (by simp [find?_append, find?_setField]),
    fieldOr_text_of_bear hbear c.onError (by simp [find?_append, find?_setField]),
    fieldOr_text_of_bear hbear c.onTrue (by simp [find?_append, find?_setField]),
    fieldOr_text_of_bear hbear c.onFalse (by simp [find?_append, find?_setField])]
  rfl

end

/-- No kind has a parameter with the name of a common field. -/
theorem StepKind.parameters_apart (kind : StepKind) : ∀ f ∈ kind.parameters,
    Step.commonFields.contains f.1 = false ∧ f.1 ≠ "type" ∧ f.2.depth ≤ 1 := by
  have htext : ∀ t : Option String, (Value.ofText? t).depth = 0 := by
    intro t
    cases t with
    | none => rfl
    | some t => rfl
  have hint : ∀ x : Option Int32, (int32Value x).depth = 0 := by
    intro x
    cases x with
    | none => rfl
    | some x => rfl
  have hmillis : ∀ n : Option UInt64, (uint64Value n).depth = 0 := by
    intro n
    cases n with
    | none => rfl
    | some n => rfl
  have hselector : ∀ s : Option Selector, (selectorValue s).depth ≤ 1 := by
    intro s
    cases s with
    | none => exact Nat.zero_le 1
    | some s => exact Nat.le_refl 1
  cases kind with
  | _ => simp [parameters, Step.commonFields, htext, hint, hmillis, hselector, Value.depth]

namespace Step

variable {doc : Document} {node : Node} {s : Step}

/-- The fields of a step that all steps have. -/
def common (s : Step) : List (String × Value) :=
  [("id", .text s.id), ("loop_count", .int s.loopCount.toInt),
    ("pre_wait_ms", .int s.preWaitMs.toNat), ("post_delay_ms", .int s.postDelayMs.toNat)] ++
  setField "timeout_ms" (s.timeoutMs.map fun n => .int n.toNat) ++
  [("on_error", .text s.onError.name), ("connections", s.connections.encode)]

theorem find?_common (s : Step) (name : String) :
    find? name s.common =
      ((find? name [("id", .text s.id), ("loop_count", .int s.loopCount.toInt),
        ("pre_wait_ms", .int s.preWaitMs.toNat), ("post_delay_ms", .int s.postDelayMs.toNat)]).or
        (if "timeout_ms" = name then s.timeoutMs.map fun n => .int n.toNat else none)).or
      (find? name [("on_error", .text s.onError.name), ("connections", s.connections.encode)]) := by
  unfold common
  rw [find?_append, find?_append, find?_setField]

/-- All fields of a step. -/
def fields (s : Step) : List (String × Value) :=
  [("id", .text s.id), ("type", .text s.typeName)] ++ s.kind.parameters ++
    [("loop_count", .int s.loopCount.toInt), ("pre_wait_ms", .int s.preWaitMs.toNat),
      ("post_delay_ms", .int s.postDelayMs.toNat)] ++
    setField "timeout_ms" (s.timeoutMs.map fun n => .int n.toNat) ++
    [("on_error", .text s.onError.name), ("connections", s.connections.encode)]

theorem filter_common (s : Step) :
    s.fields.filter (fun f => commonFields.contains f.1) = s.common := by
  have hparameters : s.kind.parameters.filter (fun f => commonFields.contains f.1) = [] := by
    rw [List.filter_eq_nil_iff]
    intro f hf
    rw [(s.kind.parameters_apart f hf).1]
    exact Bool.false_ne_true
  unfold fields common
  simp only [List.filter_append, hparameters]
  cases s.timeoutMs with
  | none => simp [setField, commonFields]
  | some n => simp [setField, commonFields]

theorem filter_rest (s : Step) :
    s.fields.filter (fun f => !commonFields.contains f.1) =
      ("type", .text s.typeName) :: s.kind.parameters := by
  have hparameters : s.kind.parameters.filter (fun f => !commonFields.contains f.1) =
      s.kind.parameters := by
    rw [List.filter_eq_self]
    intro f hf
    rw [(s.kind.parameters_apart f hf).1]
    rfl
  unfold fields
  simp only [List.filter_append, hparameters]
  cases s.timeoutMs with
  | none => simp [setField, commonFields]
  | some n => simp [setField, commonFields]

theorem nodup_common (s : Step) : (s.common.map (·.1)).Nodup := by
  unfold common
  cases s.timeoutMs with
  | none => simp [setField]
  | some n => simp [setField]

/-- The fields that are not common, as they are read: the name of the kind, and its parameters. -/
def looseRest (s : Step) : List (String × Loose) :=
  (("type", Value.text s.typeName) :: s.kind.parameters).map fun f => (f.1, f.2.loose)

theorem filter_type (s : Step) :
    s.looseRest.filter (·.1 = "type") = [("type", .atom (.text s.typeName))] := by
  have hparameters : (s.kind.parameters.map fun f => (f.1, f.2.loose)).filter
      (fun e => e.1 = "type") = [] := by
    rw [List.filter_eq_nil_iff]
    intro e he
    obtain ⟨f, hf, rfl⟩ := List.mem_map.mp he
    simpa using (s.kind.parameters_apart f hf).2.1
  unfold looseRest
  rw [List.map_cons, List.filter_cons_of_pos (by simp), hparameters]
  rfl

theorem filter_ne_type (s : Step) :
    s.looseRest.filter (·.1 ≠ "type") = s.kind.parameters.map fun f => (f.1, f.2.loose) := by
  unfold looseRest
  rw [List.map_cons, List.filter_cons_of_neg (by simp), List.filter_eq_self]
  intro e he
  obtain ⟨f, hf, rfl⟩ := List.mem_map.mp he
  simpa using (s.kind.parameters_apart f hf).2.1

/-- A step is read as it has been written. -/
theorem ofNode?_of_bears {depth : Nat} (hdepth : 1 ≤ depth) (h : node.bears s.encode = true) :
    ofNode? doc depth node = some s := by
  have htable : node.bears (.table s.fields) = true := h
  obtain ⟨entries, hentries, hbear⟩ := entries?_of_bears doc htable
  have hcommon := hbear.filter fun name => commonFields.contains name
  rw [filter_common] at hcommon
  have hknown : known? commonFields entries =
      some (entries.filter fun e => commonFields.contains e.1) :=
    if_pos (hcommon.keys ▸ s.nodup_common)
  have hrest := hbear.filter fun name => !commonFields.contains name
  rw [filter_rest] at hrest
  have hdepths : ∀ f ∈ ("type", Value.text s.typeName) :: s.kind.parameters,
      f.2.depth ≤ depth := by
    intro f hf
    rcases List.mem_cons.mp hf with rfl | hf
    · exact Nat.zero_le depth
    · exact Nat.le_trans (s.kind.parameters_apart f hf).2.2 hdepth
  have hloose : (entries.filter fun e => !commonFields.contains e.1).mapM
      (fun e => (doc.loosen? depth e.2).map (e.1, ·)) = some s.looseRest :=
    hrest.mapM_loosen? hdepths
  generalize (entries.filter fun e => commonFields.contains e.1) = common at hcommon hknown
  obtain ⟨idNode, hidFound, hid⟩ :=
    hcommon.exists_find? "id" (.text s.id) (by rw [find?_common]; rfl)
  obtain ⟨countNode, hcountFound, hcount⟩ :=
    hcommon.exists_find? "loop_count" (.int s.loopCount.toInt)
      (by rw [find?_common]; rfl)
  obtain ⟨policyNode, hpolicyFound, hpolicy⟩ := hcommon.exists_find? "on_error"
    (.text s.onError.name) (by rw [find?_common]; simp [find?])
  obtain ⟨wiringNode, hwiringFound, hwiring⟩ := hcommon.exists_find? "connections"
    s.connections.encode (by rw [find?_common]; simp [find?])
  have hloop : find? "loop" common = none :=
    hcommon.find?_eq_none (by rw [find?_common]; simp [find?])
  have hpre := fieldOr_millis_of_bear doc 0 hcommon "pre_wait_ms" (n := s.preWaitMs)
    (by rw [find?_common]; simp [find?])
  have hpost := fieldOr_millis_of_bear doc 0 hcommon "post_delay_ms" (n := s.postDelayMs)
    (by rw [find?_common]; simp [find?])
  have hlimit := fieldOr_limit_of_bear doc hcommon "timeout_ms" s.timeoutMs
    (by rw [find?_common]; simp [find?])
  have hpolicyRead : named? FailurePolicy.all FailurePolicy.name s.onError.name =
      some s.onError := by
    cases s.onError with
    | stop => rfl
    | proceed => rfl
  have hkind : (StepKind.typeNameOf? (.atom (.text s.typeName))).bind (fun name =>
      StepKind.ofFields? name (s.looseRest.filter (·.1 ≠ "type"))) = some s.kind := by
    rw [filter_ne_type]
    exact s.kind.ofFields?_parameters
  obtain ⟨es, rfl, _⟩ := exists_table_of_bears htable
  unfold ofNode?
  dsimp only [resolve]
  rw [hentries]
  simp only [Option.bind_eq_bind, Option.bind_some]
  rw [hknown]
  simp only [Option.bind_some]
  rw [hloose]
  simp only [Option.bind_some, filter_type, hidFound, text?_of_bears hid, hcountFound,
    hloop, integer?_of_bears hcount (toInt_lt_twoTo _), int32?_toInt, hkind, hpre, hpost, hlimit]
  rw [fieldOr_of_find? hpolicyFound, fieldOr_of_find? hwiringFound,
    choice?_of_bears depth hpolicy, Connections.ofNode?_of_bears hwiring]
  simp only [Option.bind_some, hpolicyRead]
  rfl

end Step

end DeviceFlow
