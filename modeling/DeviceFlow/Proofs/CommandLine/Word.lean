import DeviceFlow.CommandLine.Options
import DeviceFlow.Proofs.Text.Cut
import DeviceFlow.Proofs.Text.Trim

/-!
# The words of a command line

A word stands for the keyword that is spelled so, and every keyword begins with a dash. One equation
for each kind of word says how a command line that begins with it is read. The definition of a
variable is cut at its first equals sign, and it is refused just when there is none or nothing but
blanks in front of it.
-/

namespace DeviceFlow.CommandLine

/-- What the words of a keyword are, the longest first. -/
def Keyword.spellings : Keyword → List String
  | .help => ["--help", "-h"]
  | .version => ["--version", "-V"]
  | .flag f => f.spellings
  | .setting s => s.spellings

variable {word value : String} {rest : List String} {o : Options} {named : Bool}

theorem Keyword.ofWord?_of_mem_spellings {k : Keyword} (h : word ∈ k.spellings) :
    ofWord? word = some k := by
  have hread : ∀ word ∈ k.spellings, ofWord? word = some k := by
    rcases k with _ | _ | f | s
    · decide
    · decide
    · cases f <;> decide
    · cases s <;> decide
  exact hread word h

theorem Keyword.ofWord?_eq_some_iff {k : Keyword} :
    ofWord? word = some k ↔ word ∈ k.spellings := by
  refine ⟨fun h => ?_, ofWord?_of_mem_spellings⟩
  unfold ofWord? at h
  split at h
  case h_16 => cases h
  all_goals
    cases h
    decide

theorem Keyword.ofWord?_eq_none_iff :
    ofWord? word = none ↔ ∀ k : Keyword, word ∉ k.spellings := by
  simp only [← ofWord?_eq_some_iff, Option.eq_none_iff_forall_ne_some, ne_eq]

theorem isOption_of_mem_spellings {k : Keyword} (h : word ∈ k.spellings) :
    isOption word = true := by
  have hdash : ∀ word ∈ k.spellings, isOption word = true := by
    rcases k with _ | _ | f | s
    · decide
    · decide
    · cases f <;> decide
    · cases s <;> decide
  exact hdash word h

theorem Keyword.ofWord?_of_not_isOption (h : isOption word = false) : ofWord? word = none := by
  rw [ofWord?_eq_none_iff]
  intro k hk
  rw [isOption_of_mem_spellings hk] at h
  cases h

/-! ## Reading on from a word -/

namespace Command

theorem ofWordsFrom_help (h : word ∈ Keyword.help.spellings) :
    ofWordsFrom o named (word :: rest) = .ok .help := by
  simp only [ofWordsFrom, Keyword.ofWord?_of_mem_spellings h]

theorem ofWordsFrom_version (h : word ∈ Keyword.version.spellings) :
    ofWordsFrom o named (word :: rest) = .ok .version := by
  simp only [ofWordsFrom, Keyword.ofWord?_of_mem_spellings h]

theorem ofWordsFrom_flag {f : Flag} (h : word ∈ f.spellings) :
    ofWordsFrom o named (word :: rest) = ofWordsFrom (o.raise f) named rest := by
  have hread := Keyword.ofWord?_of_mem_spellings (k := .flag f) h
  simp only [ofWordsFrom, hread]

theorem ofWordsFrom_missing {s : Setting} (h : word ∈ s.spellings) :
    ofWordsFrom o named [word] = .error (.missingValue s) := by
  have hread := Keyword.ofWord?_of_mem_spellings (k := .setting s) h
  simp only [ofWordsFrom, hread]

/-- A setting takes the next word, whatever that is. -/
theorem ofWordsFrom_setting {s : Setting} (h : word ∈ s.spellings) :
    ofWordsFrom o named (word :: value :: rest) =
      o.assign value s >>= fun o' => ofWordsFrom o' named rest := by
  have hread := Keyword.ofWord?_of_mem_spellings (k := .setting s) h
  simp only [ofWordsFrom, hread]
  cases o.assign value s with
  | ok o' => rfl
  | error e => rfl

theorem ofWordsFrom_unknown (hoption : isOption word = true)
    (h : ∀ k : Keyword, word ∉ k.spellings) :
    ofWordsFrom o named (word :: rest) = .error (.unknownOption word) := by
  simp only [ofWordsFrom, Keyword.ofWord?_eq_none_iff.mpr h, hoption, if_true]

theorem ofWordsFrom_workflow (h : isOption word = false) :
    ofWordsFrom o false (word :: rest) = ofWordsFrom { o with workflow := word } true rest := by
  simp [ofWordsFrom, Keyword.ofWord?_of_not_isOption h, h]

theorem ofWordsFrom_second (h : isOption word = false) :
    ofWordsFrom o true (word :: rest) = .error (.unexpectedWord word) := by
  simp [ofWordsFrom, Keyword.ofWord?_of_not_isOption h, h]

end Command

/-! ## Definitions of variables -/

variable {name text : String}

theorem toList_definition :
    (name ++ "=" ++ value).toList = name.toList ++ ['='] ++ value.toList := by
  simp

theorem readVariable_of_unmarked (h : '=' ∉ text.toList) :
    readVariable text = .error (.noDefinition text) := by
  have hcut : Text.cut? ['='] text.toList = none := by
    rw [Text.cut?_eq_none_iff, List.singleton_infix_iff]
    exact h
  simp only [readVariable, Text.splitAt?, hcut, Option.map_none]

/-- The first equals sign ends the name, and the value is what stands behind it. -/
theorem readVariable_definition (h : '=' ∉ name.toList) :
    readVariable (name ++ "=" ++ value) =
      if Text.isBlankText name then .error (.emptyName (name ++ "=" ++ value))
      else .ok (Text.trimmed name, value) := by
  have hcut : Text.cut? ['='] (name ++ "=" ++ value).toList = some (name.toList, value.toList) :=
    (Text.cut?_eq_some_iff (by simp)).mpr ⟨toList_definition, Text.free_singleton h⟩
  simp only [readVariable, Text.splitAt?, hcut, Option.map_some, String.ofList_toList]

/-- Every text with an equals sign is such a definition. -/
theorem exists_definition (h : '=' ∈ text.toList) :
    ∃ name value, text = name ++ "=" ++ value ∧ '=' ∉ name.toList := by
  obtain ⟨before, after, htext, hfirst⟩ := List.eq_append_cons_of_mem h
  refine ⟨String.ofList before, String.ofList after, ?_, ?_⟩
  · rw [← String.toList_inj, toList_definition, htext]
    simp
  · rwa [String.toList_ofList]

/-- A definition is refused without an equals sign, and with nothing but blanks in front of it. -/
theorem exists_error_readVariable_iff :
    (∃ e, readVariable text = .error e) ↔
      '=' ∉ text.toList ∨
        ∃ name value, text = name ++ "=" ++ value ∧ ∀ c ∈ name.toList, Text.isBlank c = true := by
  constructor
  · rintro ⟨e, he⟩
    by_cases hmark : '=' ∈ text.toList
    · obtain ⟨name, value, rfl, hname⟩ := exists_definition hmark
      rw [readVariable_definition hname] at he
      cases hblank : Text.isBlankText name with
      | true => exact .inr ⟨name, value, rfl, List.all_eq_true.mp hblank⟩
      | false => simp [hblank] at he
    · exact .inl hmark
  · rintro (hmark | ⟨name, value, rfl, hblank⟩)
    · exact ⟨_, readVariable_of_unmarked hmark⟩
    · have hname : '=' ∉ name.toList := by
        intro hmark
        have hvisible : Text.isBlank '=' = false := by decide
        rw [hblank _ hmark] at hvisible
        cases hvisible
      have hall : Text.isBlankText name = true := List.all_eq_true.mpr hblank
      rw [readVariable_definition hname, if_pos hall]
      exact ⟨_, rfl⟩

/-- Only the definition of a variable can be refused as a value. -/
theorem exists_error_assign_iff {s : Setting} :
    (∃ e, o.assign value s = .error e) ↔ s = .variable ∧ ∃ e, readVariable value = .error e := by
  match s with
  | .variable =>
    cases hread : readVariable value with
    | ok pair => simp [Options.assign, hread, bind, Except.bind, pure, Except.pure]
    | error e => simp [Options.assign, hread, bind, Except.bind]
  | .device | .config | .workflows | .snapshot | .adb => simp [Options.assign]

end DeviceFlow.CommandLine
