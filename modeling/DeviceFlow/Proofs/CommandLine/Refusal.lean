import DeviceFlow.Proofs.CommandLine.Word

/-!
# Refused command lines

The words of a command line are read in groups: a setting with its value, or a word that takes no
value. An option may stand where a group has come to its end. A command line is refused just when it
goes on from such a place with a fault, and no group in front of the fault asks for the help or for
the version, which end the reading.
-/

namespace DeviceFlow.CommandLine

/-- Words that are read together. -/
inductive Group where
  /-- A word that takes no value. -/
  | single (word : String)
  | setting (setting : Setting) (value : String)
  deriving DecidableEq, Repr

namespace Group

/-- Whether a group names a workflow. -/
def namesWorkflow : Group → Bool
  | .single word => !isOption word
  | .setting .. => false

/-- Whether a group asks for the help or for the version. -/
def isRequest : Group → Bool
  | .single word => word ∈ Keyword.help.spellings ++ Keyword.version.spellings
  | .setting .. => false

end Group

/-- The words of groups. A setting takes the next word as its value, whatever that looks like. -/
inductive Grouped : List Group → List String → Prop where
  | nil : Grouped [] []
  | single {word : String} {groups : List Group} {words : List String} :
      (∀ s : Setting, word ∉ s.spellings) → Grouped groups words →
      Grouped (.single word :: groups) (word :: words)
  | setting {s : Setting} {word value : String} {groups : List Group} {words : List String} :
      word ∈ s.spellings → Grouped groups words →
      Grouped (.setting s value :: groups) (word :: value :: words)

/-- Words that are wrong where an option may stand. It matters whether a workflow has been named
    before. -/
inductive Fault (named : Bool) : List String → Prop where
  /-- An option that there is not. -/
  | unknown {word : String} {rest : List String} :
      isOption word = true → (∀ k : Keyword, word ∉ k.spellings) → Fault named (word :: rest)
  /-- Another workflow. -/
  | second {word : String} {rest : List String} :
      named = true → isOption word = false → Fault named (word :: rest)
  /-- A setting behind which nothing stands. -/
  | missingValue {s : Setting} {word : String} : word ∈ s.spellings → Fault named [word]
  /-- A variable without an equals sign. -/
  | noDefinition {word text : String} {rest : List String} :
      word ∈ Setting.variable.spellings → '=' ∉ text.toList → Fault named (word :: text :: rest)
  /-- A variable with nothing but blanks in front of the equals sign. -/
  | blankName {word name value : String} {rest : List String} :
      word ∈ Setting.variable.spellings → (∀ c ∈ name.toList, Text.isBlank c = true) →
      Fault named (word :: (name ++ "=" ++ value) :: rest)

/-- Behind the words of some groups a command line goes on with a fault. -/
def FaultAfter (named : Bool) (groups : List Group) (words : List String) : Prop :=
  ∃ before rest, words = before ++ rest ∧ Grouped groups before ∧
    Fault (named || groups.any Group.namesWorkflow) rest

variable {word value : String} {words before rest : List String} {groups : List Group}
  {o : Options} {named : Bool} {s : Setting}

theorem isRequest_single (hhelp : Keyword.ofWord? word ≠ some .help)
    (hversion : Keyword.ofWord? word ≠ some .version) : (Group.single word).isRequest = false := by
  rw [ne_eq, Keyword.ofWord?_eq_some_iff] at hhelp hversion
  simp [Group.isRequest, hhelp, hversion]

namespace FaultAfter

theorem here (h : Fault named words) : FaultAfter named [] words :=
  ⟨[], words, rfl, .nil, by rwa [List.any_nil, Bool.or_false]⟩

theorem single (hword : ∀ s : Setting, Keyword.ofWord? word ≠ some (.setting s))
    (h : FaultAfter (named || !isOption word) groups words) :
    FaultAfter named (.single word :: groups) (word :: words) := by
  obtain ⟨before, rest, rfl, hgroups, hfault⟩ := h
  rw [Bool.or_assoc] at hfault
  have hnone : ∀ s : Setting, word ∉ s.spellings := fun s hs =>
    hword s (Keyword.ofWord?_of_mem_spellings (k := .setting s) hs)
  exact ⟨word :: before, rest, rfl, .single hnone hgroups, hfault⟩

theorem setting (hword : word ∈ s.spellings) (h : FaultAfter named groups words) :
    FaultAfter named (.setting s value :: groups) (word :: value :: words) := by
  obtain ⟨before, rest, rfl, hgroups, hfault⟩ := h
  exact ⟨word :: value :: before, rest, rfl, .setting hword hgroups, hfault⟩

end FaultAfter

namespace Command

theorem exists_error_of_fault (h : Fault named words) :
    ∃ e, ofWordsFrom o named words = .error e := by
  have hdefinition : ∀ {word text : String} {rest : List String},
      word ∈ Setting.variable.spellings → (∃ e, readVariable text = .error e) →
      ∃ e, ofWordsFrom o named (word :: text :: rest) = .error e := by
    intro word text rest hword hread
    obtain ⟨e, he⟩ := exists_error_assign_iff (o := o).mpr ⟨rfl, hread⟩
    rw [ofWordsFrom_setting hword, he]
    exact ⟨e, rfl⟩
  cases h with
  | unknown hoption hunknown => exact ⟨_, ofWordsFrom_unknown hoption hunknown⟩
  | second hnamed hplain =>
    subst hnamed
    exact ⟨_, ofWordsFrom_second hplain⟩
  | missingValue hword => exact ⟨_, ofWordsFrom_missing hword⟩
  | noDefinition hword hmark =>
    exact hdefinition hword (exists_error_readVariable_iff.mpr (.inl hmark))
  | blankName hword hblank =>
    exact hdefinition hword (exists_error_readVariable_iff.mpr (.inr ⟨_, _, rfl, hblank⟩))

/-- A word that takes no value and asks for nothing is refused or passed over. -/
theorem ofWordsFrom_single (hword : ∀ s : Setting, word ∉ s.spellings)
    (hrequest : (Group.single word).isRequest = false) :
    (∃ e, ofWordsFrom o named (word :: rest) = .error e) ∨
      ∃ o', ofWordsFrom o named (word :: rest) =
        ofWordsFrom o' (named || !isOption word) rest := by
  cases hoption : isOption word with
  | false =>
    rw [Bool.not_false, Bool.or_true]
    cases named with
    | true => exact .inl ⟨_, ofWordsFrom_second hoption⟩
    | false => exact .inr ⟨_, ofWordsFrom_workflow hoption⟩
  | true =>
    rw [Bool.not_true, Bool.or_false]
    by_cases hunknown : ∀ k : Keyword, word ∉ k.spellings
    · exact .inl ⟨_, ofWordsFrom_unknown hoption hunknown⟩
    · rw [not_forall_not] at hunknown
      obtain ⟨k, hk⟩ := hunknown
      match k with
      | .help | .version => simp [Group.isRequest, hk] at hrequest
      | .flag f => exact .inr ⟨_, ofWordsFrom_flag hk⟩
      | .setting s => exact absurd hk (hword s)

/-- The reading comes as far as a fault, or it is refused sooner. -/
theorem exists_error_of_faultAfter (h : FaultAfter named groups words)
    (hrequest : ∀ g ∈ groups, g.isRequest = false) :
    ∃ e, ofWordsFrom o named words = .error e := by
  obtain ⟨before, rest, rfl, hgroups, hfault⟩ := h
  -- Whether a workflow has been named is handed on from group to group, as the reading does it.
  induction hgroups generalizing o named with
  | nil =>
    rw [List.any_nil, Bool.or_false] at hfault
    exact exists_error_of_fault hfault
  | single hword _ ih =>
    rw [List.forall_mem_cons] at hrequest
    rw [List.any_cons, ← Bool.or_assoc, Group.namesWorkflow] at hfault
    rw [List.cons_append]
    rcases ofWordsFrom_single hword hrequest.1 with hrefused | ⟨o', hpassed⟩
    · exact hrefused
    · rw [hpassed]
      exact ih hrequest.2 hfault
  | @setting s _ value _ _ hword _ ih =>
    rw [List.forall_mem_cons] at hrequest
    rw [List.any_cons, Group.namesWorkflow, Bool.false_or] at hfault
    rw [List.cons_append, List.cons_append, ofWordsFrom_setting hword]
    cases o.assign value s with
    | ok o' => exact ih hrequest.2 hfault
    | error e => exact ⟨e, rfl⟩

/-- What is refused goes on with a fault, and nothing in front of it asks for anything. -/
theorem exists_faultAfter_of_error {e : UsageError} (h : ofWordsFrom o named words = .error e) :
    ∃ groups, FaultAfter named groups words ∧ ∀ g ∈ groups, g.isRequest = false := by
  -- The cases are those of the reading: no word, a request, a flag, a setting, and any other word.
  induction o, named, words using ofWordsFrom.induct with
  | case1 o named => cases h
  | case2 o named word rest hword =>
    rw [ofWordsFrom_help (Keyword.ofWord?_eq_some_iff.mp hword)] at h
    cases h
  | case3 o named word rest hword =>
    rw [ofWordsFrom_version (Keyword.ofWord?_eq_some_iff.mp hword)] at h
    cases h
  | case4 o named word rest f hword ih =>
    have hspelled := Keyword.ofWord?_eq_some_iff.mp hword
    rw [ofWordsFrom_flag hspelled] at h
    obtain ⟨groups, hfault, hrequest⟩ := ih h
    have hnamed : (named || !isOption word) = named := by
      rw [isOption_of_mem_spellings hspelled, Bool.not_true, Bool.or_false]
    exact ⟨_, .single (by simp [hword]) (hnamed.symm ▸ hfault),
      List.forall_mem_cons.mpr ⟨isRequest_single (by simp [hword]) (by simp [hword]), hrequest⟩⟩
  | case5 o named word s hword =>
    exact ⟨[], .here (.missingValue (Keyword.ofWord?_eq_some_iff.mp hword)), nofun⟩
  | case6 o named word s hword value rest o' hassign ih =>
    have hspelled := Keyword.ofWord?_eq_some_iff.mp hword
    rw [ofWordsFrom_setting hspelled, hassign] at h
    obtain ⟨groups, hfault, hrequest⟩ := ih h
    exact ⟨_, hfault.setting hspelled, List.forall_mem_cons.mpr ⟨rfl, hrequest⟩⟩
  | case7 o named word s hword value rest e' hassign =>
    obtain ⟨rfl, hread⟩ := exists_error_assign_iff.mp ⟨_, hassign⟩
    have hspelled := Keyword.ofWord?_eq_some_iff.mp hword
    rcases exists_error_readVariable_iff.mp hread with hmark | ⟨name, text, rfl, hblank⟩
    · exact ⟨[], .here (.noDefinition hspelled hmark), nofun⟩
    · exact ⟨[], .here (.blankName hspelled hblank), nofun⟩
  | case8 o named word rest hword hoption =>
    exact ⟨[], .here (.unknown hoption (Keyword.ofWord?_eq_none_iff.mp hword)), nofun⟩
  | case9 o word rest hword hoption =>
    exact ⟨[], .here (.second rfl (eq_false_of_ne_true hoption)), nofun⟩
  | case10 o named word rest hword hoption hnamed ih =>
    have hplain := eq_false_of_ne_true hoption
    rw [eq_false_of_ne_true hnamed, ofWordsFrom_workflow hplain] at h
    obtain ⟨groups, hfault, hrequest⟩ := ih h
    have hlater : (named || !isOption word) = true := by
      rw [hplain, Bool.not_false, Bool.or_true]
    exact ⟨_, .single (by simp [hword]) (hlater.symm ▸ hfault),
      List.forall_mem_cons.mpr ⟨isRequest_single (by simp [hword]) (by simp [hword]), hrequest⟩⟩

end Command

end DeviceFlow.CommandLine
