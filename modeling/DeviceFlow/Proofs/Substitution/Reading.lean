import DeviceFlow.Proofs.Text.Cut
import DeviceFlow.Variables

/-!
# The placeholders of a text

A text is read from left to right. A placeholder reaches from the first opening mark to the first
closing mark after it, and the reading goes on behind it; an opening mark that is never closed ends
the reading. Every text is read in this way, and substitution replaces what the reading finds.
-/

namespace DeviceFlow.Variables

open Text

/-- A text with the bodies of its placeholders, from left to right. -/
inductive Reads : List Char → List (List Char) → Prop where
  | plain {text : List Char} (htext : ¬ openMark <:+: text) : Reads text []
  | unclosed {literal rest : List Char} (hliteral : Free openMark literal)
      (hrest : ¬ closeMark <:+: rest) : Reads (literal ++ openMark ++ rest) []
  | closed {literal body rest : List Char} {bodies : List (List Char)}
      (hliteral : Free openMark literal) (hbody : Free closeMark body) (h : Reads rest bodies) :
      Reads (literal ++ openMark ++ (body ++ closeMark ++ rest)) (body :: bodies)

variable {text literal body rest : List Char}

theorem openMark_ne_nil : openMark ≠ [] := by decide

theorem closeMark_ne_nil : closeMark ≠ [] := by decide

/-- Every text can be read. -/
theorem exists_reads (text : List Char) : ∃ bodies, Reads text bodies := by
  -- The reading is that of the substitution, whatever the variables are.
  induction text using expand.induct with
  | case1 text hnone => exact ⟨[], .plain (cut?_eq_none_iff.mp hnone)⟩
  | case2 text literal rest hopen hnone =>
    obtain ⟨rfl, hliteral⟩ := (cut?_eq_some_iff openMark_ne_nil).mp hopen
    exact ⟨[], .unclosed hliteral (cut?_eq_none_iff.mp hnone)⟩
  | case3 text literal rest hopen body rest' hclose ih =>
    obtain ⟨rfl, hliteral⟩ := (cut?_eq_some_iff openMark_ne_nil).mp hopen
    obtain ⟨rfl, hbody⟩ := (cut?_eq_some_iff closeMark_ne_nil).mp hclose
    obtain ⟨bodies, h⟩ := ih
    exact ⟨body :: bodies, .closed hliteral hbody h⟩

variable (vars : Variables)

theorem expand_eq (text : List Char) :
    vars.expand text =
      match cut? openMark text with
      | none => text
      | some (literal, rest) =>
        match cut? closeMark rest with
        | none => text
        | some (body, rest) => literal ++ vars.placeholder body ++ vars.expand rest := by
  rw [expand]
  split
  · rename_i hopen
    rw [hopen]
  · rename_i hopen
    rw [hopen]
    dsimp only
    split
    · rename_i hclose
      rw [hclose]
    · rename_i hclose
      rw [hclose]

theorem expand_of_plain (h : ¬ openMark <:+: text) : vars.expand text = text := by
  rw [expand_eq, cut?_eq_none_iff.mpr h]

theorem expand_of_closed (hliteral : Free openMark literal) (hbody : Free closeMark body) :
    vars.expand (literal ++ openMark ++ (body ++ closeMark ++ rest)) =
      literal ++ vars.placeholder body ++ vars.expand rest := by
  rw [expand_eq, (cut?_eq_some_iff openMark_ne_nil).mpr ⟨rfl, hliteral⟩]
  dsimp only
  rw [(cut?_eq_some_iff closeMark_ne_nil).mpr ⟨rfl, hbody⟩]

/-- An opening mark that is not closed is plain text, also if a brace stands before it. -/
theorem expand_of_unclosed (hliteral : ¬ openMark <:+: literal) (hrest : ¬ closeMark <:+: rest) :
    vars.expand (literal ++ openMark ++ rest) = literal ++ openMark ++ rest := by
  have hstart : literal <+: literal ++ openMark ++ rest := ⟨openMark ++ rest, by simp⟩
  have hend : '\x7b' :: rest <:+ literal ++ openMark ++ rest :=
    ⟨literal ++ ['\x7b'], by simp [openMark]⟩
  rw [expand_eq]
  cases hopen : cut? openMark (literal ++ openMark ++ rest) with
  | none => rfl
  | some cut =>
    obtain ⟨before, after⟩ := cut
    obtain ⟨htext, -⟩ := (cut?_eq_some_iff openMark_ne_nil).mp hopen
    have hlength := congrArg List.length htext
    rw [htext] at hstart hend
    simp only [List.length_append, show openMark.length = 2 from rfl] at hlength
    -- The first opening mark is the one behind the literal, or begins with the brace before it.
    have hlate : ¬ before.length + 2 ≤ literal.length := by
      intro hle
      have hbefore : before ++ openMark <+: literal := by
        refine List.prefix_of_prefix_length_le (List.prefix_append ..) hstart ?_
        rwa [List.length_append]
      exact hliteral ((List.suffix_append ..).isInfix.trans hbefore.isInfix)
    have hafter : after <:+ '\x7b' :: rest := by
      refine List.suffix_of_suffix_length_le (List.suffix_append ..) hend ?_
      rw [List.length_cons]
      omega
    have hclose : ¬ closeMark <:+: after := by
      intro hwithin
      rcases List.infix_cons_iff.mp (hwithin.trans hafter.isInfix) with hpre | hwithin
      · simp [closeMark] at hpre
      · exact hrest hwithin
    dsimp only
    rw [cut?_eq_none_iff.mpr hclose]

end DeviceFlow.Variables
