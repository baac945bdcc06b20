import DeviceFlow.Proofs.CommandLine.Word

/-!
# Clauses

A command line that runs a workflow is made of clauses: a flag, a setting with its value, or
the name of the workflow. Every clause may come in its long or its short spelling, and clauses
may come in any order.

Everything that clauses can settle is a slot of the options. A clause that can be read fills one
slot and leaves the others alone, so that of the clauses for one slot the last one counts.
-/

namespace DeviceFlow.CommandLine

/-- One thing that is said on the command line. -/
inductive Clause where
  | flag (flag : Flag)
  | setting (setting : Setting) (value : String)
  | workflow (path : String)
  deriving DecidableEq, Repr

/-- The ways in which a clause may be written. -/
def Clause.spellings : Clause → List (List String)
  | .flag f => f.spellings.map fun word => [word]
  | .setting s value => s.spellings.map fun word => [word, value]
  | .workflow path => [[path]]

/-- The words of clauses, each written in one of its ways. -/
inductive Spells : List Clause → List String → Prop where
  | nil : Spells [] []
  | cons {clause : Clause} {spelling : List String} {clauses : List Clause}
      {words : List String} : spelling ∈ clause.spellings → Spells clauses words →
      Spells (clause :: clauses) (spelling ++ words)

namespace Options

/-- The clause of a setting that has a value. -/
def settingClause (setting : Setting) (value : Option String) : List Clause :=
  value.toList.map (Clause.setting setting)

/-- The clause of a flag that is raised. -/
def flagClause (flag : Flag) (isRaised : Bool) : List Clause :=
  if isRaised then [.flag flag] else []

/-- The clauses that say what the options are. -/
def clauses (o : Options) : List Clause :=
  Clause.workflow o.workflow ::
    flagClause .dryRun o.isDryRun ++ flagClause .verbose o.isVerbose ++
    flagClause .timeline o.showsTimeline ++ settingClause .device o.device ++
    settingClause .config o.config ++ settingClause .workflows o.workflows ++
    settingClause .snapshot o.snapshot ++ settingClause .adb o.adb ++
    o.vars.toList.map fun e => .setting .variable (e.1 ++ "=" ++ e.2)

end Options

/-! ## Slots -/

/-- What a command line settles. -/
inductive Slot where
  | workflow
  | flag (flag : Flag)
  /-- A setting other than the definition of a variable. -/
  | setting (setting : Setting)
  | variable (name : String)
  deriving DecidableEq, Repr

/-- What options have in a slot. A flag that is raised has the empty text. -/
def Options.value? (o : Options) : Slot → Option String
  | .workflow => some o.workflow
  | .flag .dryRun => if o.isDryRun then some "" else none
  | .flag .verbose => if o.isVerbose then some "" else none
  | .flag .timeline => if o.showsTimeline then some "" else none
  | .setting .device => o.device
  | .setting .config => o.config
  | .setting .workflows => o.workflows
  | .setting .snapshot => o.snapshot
  | .setting .adb => o.adb
  | .setting .variable => none
  | .variable name => o.vars.get? name

/-- What a clause puts into a slot. -/
def Clause.value? : Clause → Slot → Option String
  | .workflow path, .workflow => some path
  | .flag f, .flag f' => if f = f' then some "" else none
  | .setting s value, .setting s' => if s = s' ∧ s ≠ .variable then some value else none
  | .setting .variable text, .variable name =>
    match readVariable text with
    | .ok (defined, value) => if defined = name then some value else none
    | .error _ => none
  | _, _ => none

namespace Clause

variable {c : Clause} {value : String}

theorem value?_workflow_iff : c.value? .workflow = some value ↔ c = .workflow value := by
  cases c <;> simp [value?]

theorem value?_flag_iff {f : Flag} :
    c.value? (.flag f) = some value ↔ c = .flag f ∧ "" = value := by
  cases c <;> simp [value?]

theorem value?_setting_iff {s : Setting} :
    c.value? (.setting s) = some value ↔ s ≠ .variable ∧ c = .setting s value := by
  cases c with
  | setting s' value' =>
    simp only [value?, Option.ite_none_right_eq_some, Option.some.injEq,
      setting.injEq]
    constructor
    · rintro ⟨⟨rfl, hs⟩, rfl⟩
      exact ⟨hs, rfl, rfl⟩
    · rintro ⟨hs, rfl, rfl⟩
      exact ⟨⟨rfl, hs⟩, rfl⟩
  | _ => simp [value?]

theorem value?_variable_iff {name : String} :
    c.value? (.variable name) = some value ↔
      ∃ text, c = .setting .variable text ∧ readVariable text = .ok (name, value) := by
  match c with
  | .setting .variable text =>
    cases hread : readVariable text with
    | ok definition => simp [value?, hread, Prod.ext_iff]
    | error e => simp [value?, hread]
  | .setting .device _ | .setting .config _ | .setting .workflows _ | .setting .snapshot _
  | .setting .adb _ | .flag _ | .workflow _ => simp [value?]

end Clause

/-- Whether a clause names the workflow. -/
def Clause.namesWorkflow : Clause → Bool
  | .workflow _ => true
  | .flag _ => false
  | .setting .. => false

/-- A clause that can be read: the workflow does not look like an option, and the definition of a
    variable is one. -/
def Clause.IsReadable : Clause → Prop
  | .workflow path => isOption path = false
  | .setting .variable text => ∃ definition, readVariable text = .ok definition
  | _ => True

/-- The options after one more clause. -/
def Options.heed (o : Options) : Clause → Except UsageError Options
  | .flag f => .ok (o.raise f)
  | .setting s value => o.assign value s
  | .workflow path => .ok { o with workflow := path }

variable {o o' : Options} {c : Clause} {cs : List Clause} {named : Bool}
  {spelling words rest : List String} {slot : Slot}

theorem value?_raise (f : Flag) :
    (o.raise f).value? slot = ((Clause.flag f).value? slot).or (o.value? slot) := by
  cases slot with
  | flag f' => cases f <;> cases f' <;> rfl
  | setting s => cases f <;> cases s <;> rfl
  | _ => cases f <;> rfl

theorem value?_assign {s : Setting} {value : String} (h : o.assign value s = .ok o') :
    o'.value? slot = ((Clause.setting s value).value? slot).or (o.value? slot) := by
  match s with
  | .variable =>
    cases hread : readVariable value with
    | error e => simp [Options.assign, hread, bind, Except.bind] at h
    | ok definition =>
      obtain ⟨name, text⟩ := definition
      simp only [Options.assign, hread, bind, Except.bind, pure, Except.pure] at h
      cases h
      rcases slot with _ | f | s | name'
      · rfl
      · cases f <;> rfl
      · cases s <;> rfl
      · simp only [Options.value?, Clause.value?, hread, Dict.get?_insert]
        by_cases hname : name = name' <;> simp [hname]
  | .device | .config | .workflows | .snapshot | .adb =>
    cases h
    rcases slot with _ | f | s | name
    · rfl
    · cases f <;> rfl
    · cases s <;> rfl
    · rfl

/-- A clause fills its slot and leaves the others alone. -/
theorem value?_heed (h : o.heed c = .ok o') :
    o'.value? slot = (c.value? slot).or (o.value? slot) := by
  cases c with
  | flag f =>
    cases h
    exact value?_raise f
  | setting s value => exact value?_assign h
  | workflow path =>
    cases h
    rcases slot with _ | f | s | name
    · rfl
    · cases f <;> rfl
    · cases s <;> rfl
    · rfl

theorem Clause.IsReadable.exists_heed (h : c.IsReadable) (o : Options) :
    ∃ o', o.heed c = .ok o' := by
  match c, h with
  | .workflow path, _ => exact ⟨_, rfl⟩
  | .flag f, _ => exact ⟨_, rfl⟩
  | .setting s value, h =>
    cases hassign : o.assign value s with
    | ok o' => exact ⟨o', hassign⟩
    | error e =>
      obtain ⟨rfl, e, hrefused⟩ := exists_error_assign_iff.mp ⟨e, hassign⟩
      obtain ⟨definition, hread⟩ := h
      rw [hread] at hrefused
      cases hrefused

theorem Command.ofWordsFrom_spelling (h : spelling ∈ c.spellings) (hreadable : c.IsReadable)
    (hnamed : c.namesWorkflow = true → named = false) :
    ofWordsFrom o named (spelling ++ rest) =
      o.heed c >>= fun o' => ofWordsFrom o' (named || c.namesWorkflow) rest := by
  cases c with
  | flag f =>
    obtain ⟨word, hword, rfl⟩ := List.mem_map.mp h
    rw [Clause.namesWorkflow, Bool.or_false]
    exact ofWordsFrom_flag hword
  | setting s value =>
    obtain ⟨word, hword, rfl⟩ := List.mem_map.mp h
    rw [Clause.namesWorkflow, Bool.or_false]
    exact ofWordsFrom_setting hword
  | workflow path =>
    obtain rfl := List.mem_singleton.mp h
    rw [hnamed rfl]
    exact ofWordsFrom_workflow hreadable

/-- Of the clauses that fill a slot the last one counts. -/
theorem Command.ofWordsFrom_spells (hwords : Spells cs words) (hreadable : ∀ c ∈ cs, c.IsReadable)
    (honce : cs.countP Clause.namesWorkflow ≤ if named then 0 else 1) :
    ∃ o', ofWordsFrom o named words = .ok (.run o') ∧
      ∀ slot, o'.value? slot = (cs.reverse.findSome? (·.value? slot)).or (o.value? slot) := by
  induction hwords generalizing o named with
  | nil => exact ⟨o, by simp [ofWordsFrom], fun slot => rfl⟩
  | @cons c spelling cs words hspelling _ ih =>
    rw [List.forall_mem_cons] at hreadable
    rw [List.countP_cons] at honce
    have hfirst : c.namesWorkflow = true → named = false := by
      intro hworkflow
      cases named with
      | false => rfl
      | true => simp [hworkflow] at honce
    have hrest : cs.countP Clause.namesWorkflow ≤ if named || c.namesWorkflow then 0 else 1 := by
      cases hworkflow : c.namesWorkflow with
      | false => simpa [hworkflow] using honce
      | true =>
        rw [hfirst hworkflow] at honce
        simpa [hworkflow] using honce
    obtain ⟨o₁, hheed⟩ := hreadable.1.exists_heed o
    obtain ⟨o', hread, hvalue⟩ := ih (o := o₁) hreadable.2 hrest
    refine ⟨o', ?_, fun slot => ?_⟩
    · rw [ofWordsFrom_spelling hspelling hreadable.1 hfirst, hheed]
      exact hread
    · rw [hvalue, value?_heed hheed, List.reverse_cons, List.findSome?_append,
        List.findSome?_singleton, Option.or_assoc]

/-- A device takes the next word, and of two devices the second one counts. -/
example : Command.ofWords ["-s", "--help", "--device", "-x"] =
    .ok (.run { Options.default with device := some "-x" }) := by
  decide

end DeviceFlow.CommandLine
