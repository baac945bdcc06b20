import DeviceFlow.Proofs.Substitution.Flat

/-!
# What is left of placeholders

A placeholder of a variable can be left in a text after substitution, even if no value contains a
brace: it stands at the end of a longer placeholder that begins with an earlier opening mark and
names no variable. It is left in no other case.
-/

namespace DeviceFlow.Variables

open Text

variable {vars : Variables} {text body rest name : List Char} {bodies : List (List Char)}

/-- A text holds no brace. -/
def Braceless (text : List Char) : Prop := '\x7b' ∉ text ∧ '\x7d' ∉ text

/-- A placeholder as it is written. -/
def mention (name : List Char) : List Char := openMark ++ name ++ closeMark

/-- No placeholder begins in a text in which no opening mark begins. -/
theorem mention_infix_append_of_free (h : Free openMark text) :
    mention name <:+: text ++ rest ↔ mention name <:+: rest := by
  rw [mention, List.append_assoc]
  exact h.infix_append_iff

theorem not_closeMark_infix_openMark_append (h : ¬ closeMark <:+: rest) :
    ¬ closeMark <:+: openMark ++ rest := by
  intro hwithin
  rcases List.infix_cons_iff.mp hwithin with hpre | hwithin
  · simp [closeMark] at hpre
  · rcases List.infix_cons_iff.mp hwithin with hpre | hwithin
    · simp [closeMark] at hpre
    · exact h hwithin

/-- A placeholder without braces in its name that stands in the written form of another placeholder,
    or behind it, stands at the end of the other or behind it. -/
theorem mention_infix_append_iff (hname : Braceless name) (hbody : Free closeMark body) :
    mention name <:+: openMark ++ body ++ closeMark ++ rest ↔
      openMark ++ name <:+ openMark ++ body ∨ mention name <:+: rest := by
  have hmark : Free openMark closeMark := free_openMark_of_notMem (by decide)
  have hopening : Free closeMark (openMark ++ body) := by
    obtain ⟨hclose, hlast⟩ := free_doubled_iff.mp hbody
    refine free_doubled_iff.mpr ⟨not_closeMark_infix_openMark_append hclose, fun hend => ?_⟩
    cases hcase : body.getLast? with
    | none => simp [List.getLast?_eq_none_iff.mp hcase, openMark] at hend
    | some c =>
      rw [List.getLast?_append, hcase] at hend
      exact hlast (hcase.trans hend)
  constructor
  · intro h
    rw [List.append_assoc] at h
    rcases List.infix_append_iff.mp h with hin | hbehind | ⟨front, back, hsplit, hfront, hback⟩
    · exact absurd ((List.suffix_append ..).isInfix.trans hin) hopening.not_within
    · exact .inr ((mention_infix_append_of_free hmark).mp hbehind)
    · -- The other placeholder ends within this one, and where the closing mark of this one stands:
      -- sooner there is none of its own, and later the name would contain a brace.
      left
      rcases List.append_eq_append_iff.mp hsplit with ⟨part, rfl, hclosing⟩ | ⟨part, hopens, rfl⟩
      · cases part with
        | nil => rwa [List.append_nil] at hfront
        | cons c cs =>
          have hbrace : ∀ d ∈ c :: cs, d = '\x7d' := by
            intro d hd
            have hmem : d ∈ closeMark := by
              rw [hclosing]
              exact List.mem_append_left _ hd
            simpa [closeMark] using hmem
          obtain ⟨before, hopens⟩ := hfront
          refine absurd ?_ (free_doubled_iff.mp hopening).2
          rw [← hopens, ← List.append_assoc, List.getLast?_append,
            List.getLast?_eq_some_getLast (List.cons_ne_nil c cs),
            hbrace _ (List.getLast_mem (List.cons_ne_nil c cs))]
          rfl
      · cases part with
        | nil => rwa [hopens, List.append_nil]
        | cons c cs =>
          obtain ⟨rfl, -⟩ := List.cons_prefix_cons.mp hback
          have hmem : '\x7d' ∈ openMark ++ name := by
            rw [hopens]
            simp
          simp [openMark, hname.2] at hmem
  · rintro (hend | hrest)
    · obtain ⟨front, hfront⟩ := hend
      refine ⟨front, rest, ?_⟩
      rw [← hfront, mention]
      simp only [List.append_assoc]
    · exact hrest.trans (List.suffix_append ..).isInfix

/-- A placeholder of a variable is left in a text that has been substituted just if it stands at the
    end of a placeholder that the reading has found and that names no variable. -/
theorem Reads.mention_infix_expand_iff (h : Reads text bodies) (hflat : vars.Flat)
    (hname : Braceless name) (hdefined : vars.contains (String.ofList (trim name)) = true) :
    mention name <:+: vars.expand text ↔
      ∃ body ∈ bodies, vars.get? (String.ofList (trim body)) = none ∧
        openMark ++ name <:+ '\x7b' :: body := by
  induction h with
  | plain htext =>
    rw [expand_of_plain vars htext]
    simp only [List.not_mem_nil, false_and, exists_false, iff_false]
    intro hwithin
    refine htext (List.IsInfix.trans ?_ hwithin)
    exact ⟨[], name ++ closeMark, by simp [mention]⟩
  | @unclosed front rest hfront hrest =>
    rw [expand_of_unclosed vars hfront.not_within hrest, List.append_assoc,
      mention_infix_append_of_free hfront]
    simp only [List.not_mem_nil, false_and, exists_false, iff_false]
    intro hwithin
    refine not_closeMark_infix_openMark_append hrest (List.IsInfix.trans ?_ hwithin)
    exact (List.suffix_append ..).isInfix
  | @closed front body rest bodies hfront hbody _ ih =>
    rw [expand_of_closed vars hfront hbody, List.append_assoc, mention_infix_append_of_free hfront]
    cases hvalue : vars.get? (String.ofList (trim body)) with
    | some value =>
      have hfree := free_openMark_of_notMem (hflat _ value hvalue)
      rw [placeholder_of_some hvalue, mention_infix_append_of_free hfree, ih]
      simp [hvalue]
    | none =>
      -- The longer placeholder is not this one, which has a value.
      have hother : openMark ++ name ≠ openMark ++ body := by
        intro hsame
        rw [List.append_cancel_left hsame, Dict.contains, hvalue] at hdefined
        cases hdefined
      have hend : openMark ++ name <:+ openMark ++ body ↔ openMark ++ name <:+ '\x7b' :: body :=
        List.suffix_cons_iff.trans (or_iff_right hother)
      rw [placeholder_of_none hvalue, mention_infix_append_iff hname hbody, hend, ih]
      simp [hvalue]

/-- If no value contains an opening brace, a placeholder of a variable is left after substitution
    just in the texts in which it stands at the end of a longer placeholder that names no variable.
    Its first brace may be the last one of the mark with which the longer one begins. -/
theorem contains_substitute_iff (vars : Variables) (hflat : vars.Flat) (name : String)
    (hname : Braceless name.toList) (hdefined : vars.contains (Text.trimmed name) = true)
    (text : String) :
    (∃ bodies, Reads text.toList bodies) ∧
      ∀ bodies, Reads text.toList bodies →
        (Text.contains (vars.substitute text) (String.ofList (mention name.toList)) = true ↔
          ∃ body ∈ bodies, vars.get? (String.ofList (Text.trim body)) = none ∧
            openMark ++ name.toList <:+ '\x7b' :: body) := by
  refine ⟨exists_reads text.toList, fun bodies h => ?_⟩
  rw [contains_iff, String.toList_ofList, substitute, String.toList_ofList]
  exact h.mention_infix_expand_iff hflat hname hdefined

/-- The first placeholder is replaced. The second one stands within another that nothing closes
    before it. -/
theorem contains_substitute_within_placeholder :
    let vars : Variables := Dict.empty.insert "a" "1"
    let text := "\x7b\x7b a \x7d\x7d, \x7b\x7bb \x7b\x7b a \x7d\x7d"
    vars.Flat ∧ Braceless " a ".toList ∧ vars.contains (Text.trimmed " a ") = true ∧
      vars.substitute text = "1, \x7b\x7bb \x7b\x7b a \x7d\x7d" ∧
      ∃ bodies, Reads text.toList bodies ∧
        ∃ body ∈ bodies, vars.get? (String.ofList (Text.trim body)) = none ∧
          openMark ++ " a ".toList <:+ '\x7b' :: body := by
  intro vars text
  have hflat : vars.Flat := flat_empty.insert (by decide)
  have hname : Braceless " a ".toList := by
    unfold Braceless
    decide
  have hdefined : vars.contains (Text.trimmed " a ") = true := by decide
  have hleft : Text.contains (vars.substitute text) (String.ofList (mention " a ".toList)) = true :=
    by decide +kernel
  obtain ⟨⟨bodies, hreads⟩, hiff⟩ := contains_substitute_iff vars hflat " a " hname hdefined text
  exact ⟨hflat, hname, hdefined, by decide +kernel, bodies, hreads, (hiff bodies hreads).mp hleft⟩

/-- One more opening brace in front of a placeholder, or an opening mark before it that nothing
    closes, keeps it from being replaced. -/
theorem substitute_leaves_defined_placeholder :
    let vars : Variables := Dict.empty.insert "a" "1"
    (∀ name value, vars.get? name = some value → Braceless value.toList) ∧
      Braceless "a".toList ∧ vars.contains (Text.trimmed "a") = true ∧
      vars.substitute "\x7b\x7b\x7ba\x7d\x7d" = "\x7b\x7b\x7ba\x7d\x7d" ∧
      vars.substitute "\x7b\x7bx \x7b\x7ba\x7d\x7d" = "\x7b\x7bx \x7b\x7ba\x7d\x7d" ∧
      Text.contains "\x7b\x7b\x7ba\x7d\x7d" "\x7b\x7ba\x7d\x7d" = true ∧
      Text.contains "\x7b\x7bx \x7b\x7ba\x7d\x7d" "\x7b\x7ba\x7d\x7d" = true := by
  intro vars
  refine ⟨fun name value h => ?_, ?_, by decide, by decide +kernel, by decide +kernel,
    by decide +kernel, by decide +kernel⟩
  · simp only [vars, Dict.get?_insert] at h
    split at h
    · cases h
      unfold Braceless
      decide
    · cases h
  · unfold Braceless
    decide

end DeviceFlow.Variables
