import DeviceFlow.Proofs.CommandLine.Clause
import DeviceFlow.Proofs.CommandLine.Refusal

/-!
# Command lines that are read back

The clauses of options fill each slot with what the options have there, and no two of them fill one
slot with different texts. So their order does not matter, and options are read back from every
command line that spells their clauses. A command line that is refused has a fault.
-/

namespace DeviceFlow.CommandLine

variable {o o' : Options} {c : Clause} {cs : List Clause} {words : List String} {slot : Slot}

/-- A name that stays as it is when it is written in front of an equals sign and read again. -/
structure IsPlainName (name : String) : Prop where
  nonempty : name ≠ ""
  trimmed : Text.trimmed name = name
  unmarked : '=' ∉ name.toList

/-- Options that can be said on a command line. -/
structure Options.IsSayable (o : Options) : Prop where
  workflow : isOption o.workflow = false
  names : ∀ name ∈ o.vars.keys, IsPlainName name

theorem readVariable_plain {name value : String} (h : IsPlainName name) :
    readVariable (name ++ "=" ++ value) = .ok (name, value) := by
  have hvisible : Text.isBlankText name = false := by
    rw [← Bool.not_eq_true]
    intro hblank
    exact h.nonempty (h.trimmed.symm.trans (Text.trimmed_of_isBlankText hblank))
  rw [readVariable_definition h.unmarked, hvisible, h.trimmed]
  rfl

theorem workflow_mem_clauses_iff {path : String} :
    Clause.workflow path ∈ o.clauses ↔ path = o.workflow := by
  simp [Options.clauses, Options.flagClause, Options.settingClause]

theorem flag_mem_clauses_iff {f : Flag} {value : String} :
    Clause.flag f ∈ o.clauses ∧ "" = value ↔ o.value? (.flag f) = some value := by
  cases f <;> simp [Options.clauses, Options.flagClause, Options.settingClause, Options.value?]

theorem setting_mem_clauses_iff {s : Setting} {value : String} :
    s ≠ .variable ∧ Clause.setting s value ∈ o.clauses ↔ o.value? (.setting s) = some value := by
  cases s <;> simp [Options.clauses, Options.flagClause, Options.settingClause, Options.value?]

theorem variable_mem_clauses_iff {text : String} :
    Clause.setting .variable text ∈ o.clauses ↔
      ∃ name value, o.vars.get? name = some value ∧ name ++ "=" ++ value = text := by
  simp [Options.clauses, Options.flagClause, Options.settingClause, ← Dict.mem_toList_iff]

theorem Options.IsSayable.readVariable (h : o.IsSayable) {name value : String}
    (hget : o.vars.get? name = some value) :
    readVariable (name ++ "=" ++ value) = .ok (name, value) :=
  readVariable_plain (h.names name (Dict.mem_keys_iff.mpr (by simp [hget])))

/-- The clauses of options say what the options have. -/
theorem exists_clause_iff (h : o.IsSayable) {value : String} :
    (∃ c ∈ o.clauses, c.value? slot = some value) ↔ o.value? slot = some value := by
  match slot with
  | .workflow =>
    simp only [Clause.value?_workflow_iff, exists_eq_right, workflow_mem_clauses_iff]
    exact eq_comm.trans Option.some_inj.symm
  | .flag f => simp [Clause.value?_flag_iff, ← flag_mem_clauses_iff]
  | .setting s => simp [Clause.value?_setting_iff, ← setting_mem_clauses_iff, and_left_comm]
  | .variable name =>
    simp only [Clause.value?_variable_iff]
    constructor
    · rintro ⟨_, hc, text, rfl, htext⟩
      obtain ⟨name', value', hget, rfl⟩ := variable_mem_clauses_iff.mp hc
      rw [h.readVariable hget] at htext
      cases htext
      exact hget
    · intro hget
      exact ⟨_, variable_mem_clauses_iff.mpr ⟨name, value, hget, rfl⟩, _, rfl,
        h.readVariable hget⟩

theorem isReadable_of_mem_clauses (h : o.IsSayable) (hc : c ∈ o.clauses) : c.IsReadable := by
  match c, hc with
  | .workflow path, hc =>
    obtain rfl := workflow_mem_clauses_iff.mp hc
    exact h.workflow
  | .setting .variable text, hc =>
    obtain ⟨name, value, hget, rfl⟩ := variable_mem_clauses_iff.mp hc
    exact ⟨_, h.readVariable hget⟩
  | .setting .device _, _ | .setting .config _, _ | .setting .workflows _, _
  | .setting .snapshot _, _ | .setting .adb _, _ | .flag _, _ => trivial

theorem countP_clauses : o.clauses.countP Clause.namesWorkflow = 1 := by
  have hflag : ∀ f b, (Options.flagClause f b).countP Clause.namesWorkflow = 0 := by
    intro f b
    cases b <;> rfl
  have hsetting : ∀ s v, (Options.settingClause s v).countP Clause.namesWorkflow = 0 := by
    intro s v
    cases v <;> rfl
  simp [Options.clauses, List.countP_cons, hflag, hsetting, Clause.namesWorkflow,
    Function.comp_def]

/-- Options with the same in every slot differ at most in the order of the variables. -/
theorem eq_of_value? (h : ∀ slot, o'.value? slot = o.value? slot) :
    o' = { o with vars := o'.vars } ∧ ∀ name, o'.vars.get? name = o.vars.get? name := by
  have hraised : ∀ {b b' : Bool},
      (if b' then some "" else none) = (if b then some "" else none) → b' = b := by
    decide
  refine ⟨?_, fun name => h (.variable name)⟩
  cases o'
  cases o
  rw [Options.mk.injEq]
  exact ⟨Option.some_inj.mp (h .workflow), h (.setting .device), hraised (h (.flag .dryRun)),
    h (.setting .config), h (.setting .workflows), h (.setting .snapshot), h (.setting .adb), rfl,
    hraised (h (.flag .timeline)), hraised (h (.flag .verbose))⟩

theorem value?_default (h : slot ≠ .workflow) : Options.default.value? slot = none := by
  rcases slot with _ | f | s | name
  · exact absurd rfl h
  · cases f <;> rfl
  · cases s <;> rfl
  · rfl

/-- Options are read back from their clauses, which may come in any order and be spelled in any of
    their ways. -/
theorem exists_run_of_spells (h : o.IsSayable) (hclauses : cs.Perm o.clauses)
    (hwords : Spells cs words) :
    ∃ o', Command.ofWords words = .ok (.run o') ∧ ∀ slot, o'.value? slot = o.value? slot := by
  have hreadable : ∀ c ∈ cs, c.IsReadable := fun c hc =>
    isReadable_of_mem_clauses h (hclauses.mem_iff.mp hc)
  have honce : cs.countP Clause.namesWorkflow ≤ 1 := by
    rw [hclauses.countP_eq, countP_clauses]
  obtain ⟨o', hread, hvalue⟩ : ∃ o', Command.ofWords words = .ok (.run o') ∧ ∀ slot,
      o'.value? slot =
        (cs.reverse.findSome? (·.value? slot)).or (Options.default.value? slot) :=
    Command.ofWordsFrom_spells hwords hreadable honce
  refine ⟨o', hread, fun slot => ?_⟩
  have hclause : ∀ value, (∃ c ∈ cs, c.value? slot = some value) ↔ o.value? slot = some value := by
    intro value
    rw [← exists_clause_iff h]
    simp only [hclauses.mem_iff]
  rw [hvalue]
  cases hlast : cs.reverse.findSome? (·.value? slot) with
  | some value =>
    obtain ⟨c, hc, hsaid⟩ := List.exists_of_findSome?_eq_some hlast
    exact ((hclause value).mp ⟨c, List.mem_reverse.mp hc, hsaid⟩).symm
  | none =>
    have hunset : o.value? slot = none := by
      rw [Option.eq_none_iff_forall_ne_some]
      intro value hvalue
      obtain ⟨c, hc, hsaid⟩ := (hclause value).mpr hvalue
      rw [List.findSome?_eq_none_iff.mp hlast c (List.mem_reverse.mpr hc)] at hsaid
      cases hsaid
    rw [Option.none_or, hunset]
    exact value?_default (fun hslot => by simp [hslot, Options.value?] at hunset)

/-- Options that can be said are read back from their clauses, in whatever order these come and in
    whichever of its ways each is spelled; only the order of the variables may be another. And a
    command line is refused just when it goes on with a fault from a place where an option may
    stand, without having asked for the help or for the version before. -/
theorem readsBack_and_refuses :
    (∀ (o : Options) (clauses : List Clause) (words : List String), o.IsSayable →
      clauses.Perm o.clauses → Spells clauses words →
      ∃ vars, Command.ofWords words = .ok (.run { o with vars := vars }) ∧
        ∀ name, vars.get? name = o.vars.get? name) ∧
    ∀ words : List String, (∃ e, Command.ofWords words = .error e) ↔
      ∃ groups, FaultAfter false groups words ∧ ∀ g ∈ groups, g.isRequest = false := by
  constructor
  · intro o clauses words hsayable hclauses hwords
    obtain ⟨o', hread, hvalue⟩ := exists_run_of_spells hsayable hclauses hwords
    obtain ⟨heq, hvars⟩ := eq_of_value? hvalue
    exact ⟨o'.vars, heq ▸ hread, hvars⟩
  · intro words
    constructor
    · rintro ⟨e, he⟩
      exact Command.exists_faultAfter_of_error he
    · rintro ⟨groups, hfault, hrequest⟩
      exact Command.exists_error_of_faultAfter hfault hrequest

/-- A device and a value that look like options, a value with an equals sign, and empty names. -/
def intricate : Options :=
  { Options.default with
    workflow := "", device := some "--dry-run", adb := some "",
    vars := (Dict.empty.insert "user" "-x").insert "query" "a=b",
    showsTimeline := true, isVerbose := true }

theorem readsBack_and_refuses_intricate :
    let words := ["--var", "query=a=b", "-s", "--dry-run", "", "-v", "--timeline", "--adb", "",
      "--var", "user=-x"]
    intricate.IsSayable ∧
      (∃ vars, Command.ofWords words = .ok (.run { intricate with vars := vars }) ∧
        ∀ name, vars.get? name = intricate.vars.get? name) ∧
      ∃ e, Command.ofWords ["--device", "--help", "--var", " = 5"] = .error e := by
  intro words
  obtain ⟨hreads, hrefuses⟩ := readsBack_and_refuses
  have hsayable : intricate.IsSayable := by
    refine ⟨by decide, fun name hname => ?_⟩
    have hcases : name = "user" ∨ name = "query" := by
      simpa using (show name ∈ ["user", "query"] from hname)
    rcases hcases with rfl | rfl
    · exact ⟨by decide, by decide, by decide⟩
    · exact ⟨by decide, by decide, by decide⟩
  have hwords : Spells [.setting .variable "query=a=b", .setting .device "--dry-run", .workflow "",
      .flag .verbose, .flag .timeline, .setting .adb "", .setting .variable "user=-x"]
      (["--var", "query=a=b"] ++ (["-s", "--dry-run"] ++ ([""] ++ (["-v"] ++ (["--timeline"] ++
        (["--adb", ""] ++ (["--var", "user=-x"] ++ []))))))) :=
    .cons (by decide) <| .cons (by decide) <| .cons (by decide) <| .cons (by decide) <|
      .cons (by decide) <| .cons (by decide) <| .cons (by decide) .nil
  refine ⟨hsayable, hreads _ _ _ hsayable (by decide) hwords, (hrefuses _).mpr ?_⟩
  have hblank : " ".toList.all Text.isBlank = true := by decide
  have hfault : Fault false ["--var", " " ++ "=" ++ " 5"] :=
    .blankName (by decide) (List.all_eq_true.mp hblank)
  exact ⟨[.setting .device "--help"], ⟨["--device", "--help"], ["--var", " = 5"], rfl,
    .setting (by decide) .nil, hfault⟩, by decide⟩

/-- Whoever asks for the help gets it, whatever is wrong behind. -/
theorem help_before_unknown_option :
    FaultAfter false [.single "--help"] ["--help", "--bogus"] ∧
      Command.ofWords ["--help", "--bogus"] = .ok .help ∧
      ¬ ∃ e, Command.ofWords ["--help", "--bogus"] = .error e := by
  have hhelp : Command.ofWords ["--help", "--bogus"] = .ok .help := by decide
  have hsingle : ∀ s : Setting, "--help" ∉ s.spellings := by
    intro s
    cases s <;> decide
  refine ⟨⟨["--help"], ["--bogus"], rfl, .single hsingle .nil,
    .unknown (by decide) (Keyword.ofWord?_eq_none_iff.mp (by decide))⟩, hhelp, ?_⟩
  rintro ⟨e, he⟩
  rw [hhelp] at he
  cases he

end DeviceFlow.CommandLine
