import DeviceFlow.Text.Blank
import DeviceFlow.Text.Search
import Mathlib.Data.List.TakeWhile

/-!
# The ends of a text

Trimming leaves a text alone just when neither end of it is blank, and what is trimmed has only been
padded with blanks. A mark at one end of a text can be taken off again.
-/

namespace DeviceFlow.Text

variable {mark text before after rest : List Char}

theorem trimStart_eq_self_iff :
    trimStart text = text ↔ ∀ c, text.head? = some c → isBlank c = false := by
  unfold trimStart
  cases text with
  | nil => simp
  | cons c cs => simp [List.dropWhile_eq_self_iff]

theorem trimEnd_eq_self_iff :
    trimEnd text = text ↔ ∀ c, text.getLast? = some c → isBlank c = false := by
  have hreverse : trimEnd text = text ↔ trimStart text.reverse = text.reverse := by
    unfold trimEnd trimStart
    rw [List.reverse_eq_iff]
  rw [hreverse, trimStart_eq_self_iff, List.head?_reverse]

theorem trimStart_suffix : trimStart text <:+ text := List.dropWhile_suffix _

theorem trimEnd_prefix : trimEnd text <+: text := by
  unfold trimEnd
  rw [← List.reverse_suffix, List.reverse_reverse]
  exact List.dropWhile_suffix _

/-- A text is left alone by trimming if neither end is blank. -/
theorem trim_eq_self_iff :
    trim text = text ↔
      (∀ c, text.head? = some c → isBlank c = false) ∧
        ∀ c, text.getLast? = some c → isBlank c = false := by
  rw [← trimStart_eq_self_iff, ← trimEnd_eq_self_iff]
  unfold trim
  constructor
  · intro h
    have hlength : text.length ≤ (trimStart text).length := by
      have hprefix : trimEnd (trimStart text) <+: trimStart text := trimEnd_prefix
      rw [h] at hprefix
      exact hprefix.length_le
    have hstart : trimStart text = text := trimStart_suffix.eq_of_length_le hlength
    rw [hstart] at h
    exact ⟨hstart, h⟩
  · rintro ⟨hstart, hend⟩
    rw [hstart, hend]

/-- Between two characters that are not blank nothing is trimmed. -/
theorem trim_cons_concat {c d : Char} (hc : isBlank c = false) (hd : isBlank d = false) :
    trim (c :: text ++ [d]) = c :: text ++ [d] := by
  refine trim_eq_self_iff.mpr ⟨?_, ?_⟩
  · simp [hc]
  · rw [List.getLast?_concat]
    simp [hd]

/-- Blanks around a text make no difference to what is left when it is trimmed. -/
theorem trim_pad (hbefore : ∀ c ∈ before, isBlank c = true)
    (hafter : ∀ c ∈ after, isBlank c = true) : trim (before ++ text ++ after) = trim text := by
  have hend : ∀ cs : List Char, trimEnd (cs ++ after) = trimEnd cs := by
    intro cs
    unfold trimEnd
    rw [List.reverse_append, List.dropWhile_append_of_pos]
    simpa using hafter
  have hnone : trimStart after = [] := List.dropWhile_eq_nil_iff.mpr hafter
  have hstart : trimStart (before ++ text ++ after) = trimStart (text ++ after) := by
    unfold trimStart
    rw [List.append_assoc, List.dropWhile_append_of_pos hbefore]
  unfold trim
  rw [hstart, trimStart, List.dropWhile_append]
  -- A text of blanks is gone before the end is looked at.
  by_cases hblank : (List.dropWhile isBlank text).isEmpty = true
  · rw [if_pos hblank]
    have hempty : trimStart text = [] := List.isEmpty_iff.mp hblank
    exact (congrArg trimEnd hnone).trans (congrArg trimEnd hempty).symm
  · rw [if_neg hblank]
    exact hend _

/-- A text stands in another one with nothing but blanks around it. -/
def Padded (core text : List Char) : Prop :=
  ∃ before after, (∀ c ∈ before, isBlank c = true) ∧ (∀ c ∈ after, isBlank c = true) ∧
    text = before ++ core ++ after

theorem Padded.refl (text : List Char) : Padded text text := ⟨[], [], nofun, nofun, by simp⟩

theorem Padded.trim_eq {core : List Char} (h : Padded core text) : trim text = trim core := by
  obtain ⟨before, after, hbefore, hafter, rfl⟩ := h
  exact trim_pad hbefore hafter

/-- What trimming takes away are blanks. -/
theorem padded_trim (text : List Char) : Padded (trim text) text := by
  refine ⟨text.takeWhile isBlank, ((trimStart text).reverse.takeWhile isBlank).reverse,
    fun c hc => List.mem_takeWhile_imp hc, fun c hc => ?_, ?_⟩
  · exact List.mem_takeWhile_imp (List.mem_reverse.mp hc)
  · have hend : trim text ++ ((trimStart text).reverse.takeWhile isBlank).reverse =
        trimStart text := by
      unfold trim trimEnd
      rw [← List.reverse_append, List.takeWhile_append_dropWhile, List.reverse_reverse]
    rw [List.append_assoc, hend]
    exact (List.takeWhile_append_dropWhile ..).symm

theorem trim_trim (text : List Char) : trim (trim text) = trim text :=
  (padded_trim text).trim_eq.symm

/-- Of blanks nothing is left. -/
theorem trimmed_of_isBlankText {s : String} (h : isBlankText s = true) : trimmed s = "" := by
  have hpad : trim (s.toList ++ [] ++ []) = trim [] := trim_pad (List.all_eq_true.mp h) nofun
  rw [List.append_nil, List.append_nil] at hpad
  rw [trimmed, hpad]
  rfl

theorem afterStart?_eq_some_iff : afterStart? mark text = some rest ↔ text = mark ++ rest := by
  unfold afterStart?
  constructor
  · intro h
    split at h
    · rename_i hstarts
      cases h
      exact (List.prefix_iff_eq_append.mp (List.isPrefixOf_iff_prefix.mp hstarts)).symm
    · cases h
  · rintro rfl
    simp

theorem beforeEnd?_eq_some_iff : beforeEnd? mark text = some rest ↔ text = rest ++ mark := by
  unfold beforeEnd?
  constructor
  · intro h
    split at h
    · rename_i hends
      cases h
      exact (List.suffix_iff_eq_append.mp (List.isSuffixOf_iff_suffix.mp hends)).symm
    · cases h
  · rintro rfl
    simp

end DeviceFlow.Text
