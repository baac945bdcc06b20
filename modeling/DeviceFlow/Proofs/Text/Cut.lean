import DeviceFlow.Text.Search
import Mathlib.Data.List.Infix

/-!
# Where a text is cut

A text is cut around the first occurrence of a mark. It is the part before the mark, the mark and
the part after it; and with the mark behind it, the first part does not contain the mark any sooner.
Both together determine the cut.
-/

namespace DeviceFlow.Text

variable {mark text before after : List Char}

/-- No mark begins in a text behind which a mark stands: the text does not contain the mark, not
    even together with the beginning of the other. -/
def Free (mark text : List Char) : Prop := ¬ mark <:+: text ++ mark.dropLast

theorem cut?_eq_none_iff : cut? mark text = none ↔ ¬ mark <:+: text := by
  induction text with
  | nil => cases mark <;> simp [cut?]
  | cons c cs ih =>
    rw [List.infix_cons_iff, not_or, ← List.isPrefixOf_iff_prefix]
    rw [cut?]
    split
    · rename_i hstarts
      simp [hstarts]
    · rename_i hstarts
      simp [hstarts, ih]

theorem append_dropLast_begins (before mark after : List Char) :
    before ++ mark.dropLast <+: before ++ mark ++ after := by
  rw [List.append_assoc]
  exact (List.prefix_append_right_inj before).mpr
    ((List.dropLast_prefix mark).trans (List.prefix_append ..))

/-- The first occurrence of a mark, told without the search for it. -/
theorem cut?_eq_some_iff (hmark : mark ≠ []) :
    cut? mark text = some (before, after) ↔
      text = before ++ mark ++ after ∧ Free mark before := by
  have hlength : mark.dropLast.length + 1 = mark.length := by
    rw [List.length_dropLast]
    exact Nat.succ_pred_eq_of_pos (List.length_pos_iff.mpr hmark)
  constructor
  · intro h
    induction text generalizing before with
    | nil => simp [cut?, hmark] at h
    | cons c cs ih =>
      rw [cut?] at h
      split at h
      · rename_i hstarts
        obtain ⟨rfl, rfl⟩ := Prod.mk.inj (Option.some.inj h)
        refine ⟨(List.prefix_iff_eq_append.mp (List.isPrefixOf_iff_prefix.mp hstarts)).symm, ?_⟩
        intro hwithin
        have hshort : mark.length ≤ mark.dropLast.length := hwithin.length_le
        omega
      · rename_i hstarts
        obtain ⟨⟨b, a⟩, hcut, hpair⟩ := Option.map_eq_some_iff.mp h
        obtain ⟨rfl, rfl⟩ := Prod.mk.inj hpair
        obtain ⟨rfl, hfirst⟩ := ih hcut
        refine ⟨rfl, fun hwithin => ?_⟩
        rcases List.infix_cons_iff.mp hwithin with hpre | hwithin
        · have hstart := hpre.trans (append_dropLast_begins (c :: b) mark a)
          exact hstarts (List.isPrefixOf_iff_prefix.mpr hstart)
        · exact hfirst hwithin
  · rintro ⟨rfl, hfirst⟩
    induction before with
    | nil =>
      obtain ⟨c, cs, rfl⟩ := List.exists_cons_of_ne_nil hmark
      simp [cut?]
    | cons c b ih =>
      -- The mark is no longer than what has been excluded from containing it.
      have hstarts : ¬ mark <+: c :: (b ++ mark ++ after) := by
        intro hpre
        refine hfirst (List.prefix_of_prefix_length_le hpre
          (append_dropLast_begins (c :: b) mark after) ?_).isInfix
        simp only [List.cons_append, List.length_cons, List.length_append]
        omega
      have hrest := ih fun hwithin => hfirst (List.infix_cons_iff.mpr (.inr hwithin))
      rw [List.cons_append, List.cons_append, cut?,
        if_neg (mt List.isPrefixOf_iff_prefix.mp hstarts), hrest]
      rfl

/-- A text contains a part if the part stands somewhere in it. -/
theorem contains_iff {whole part : String} :
    contains whole part = true ↔ part.toList <:+: whole.toList := by
  unfold contains
  rw [Option.isSome_iff_ne_none, ne_eq, cut?_eq_none_iff, not_not]

theorem Free.not_within (h : Free mark text) : ¬ mark <:+: text :=
  fun hwithin => h (hwithin.trans (List.prefix_append ..).isInfix)

theorem free_singleton {c : Char} (h : c ∉ text) : Free [c] text := by
  intro hwithin
  rw [List.dropLast_singleton, List.append_nil] at hwithin
  exact h (hwithin.subset (List.mem_singleton.mpr rfl))

/-- A doubled character does not begin in a text that neither contains it nor ends with the
    character. -/
theorem free_doubled_iff {c : Char} :
    Free [c, c] text ↔ ¬ [c, c] <:+: text ∧ text.getLast? ≠ some c := by
  have hend : [c, c] <:+ text ++ [c] ↔ text.getLast? = some c := by
    rw [← List.singleton_suffix_iff_getLast?_eq_some]
    have hcons : [c] ++ [c] <:+ text ++ [c] ↔ [c] <:+ text ∧ [c] = [c] :=
      List.suffix_append_inj_of_length_eq rfl
    exact hcons.trans (and_iff_left rfl)
  unfold Free
  rw [List.dropLast_cons_cons, List.dropLast_singleton, List.infix_concat_iff, hend, not_or,
    and_comm]

/-- What begins with a doubled character that does not begin in a text stands behind the text. -/
theorem Free.infix_append_iff {c : Char} {part : List Char} (h : Free [c, c] text) :
    [c, c] ++ part <:+: text ++ after ↔ [c, c] ++ part <:+: after := by
  obtain ⟨hwithin, hlast⟩ := free_doubled_iff.mp h
  refine ⟨fun hpart => ?_, fun hpart => hpart.trans (List.suffix_append ..).isInfix⟩
  rcases List.infix_append_iff.mp hpart with hbefore | hafter | ⟨l₁, l₂, heq, hl₁, hl₂⟩
  · exact absurd ((List.prefix_append ..).isInfix.trans hbefore) hwithin
  · exact hafter
  · match l₁, heq with
    | [], heq => exact heq ▸ hl₂.isInfix
    | [d], heq =>
      obtain ⟨rfl, -⟩ := List.cons.inj heq
      exact absurd (List.singleton_suffix_iff_getLast?_eq_some.mp hl₁) hlast
    | d :: e :: l₁, heq =>
      simp only [List.cons_append, List.nil_append, List.cons.injEq] at heq
      obtain ⟨rfl, rfl, -⟩ := heq
      exact absurd ((List.prefix_append [c, c] l₁).isInfix.trans hl₁.isInfix) hwithin

theorem Free.append {c : Char} {part : List Char} (h : Free [c, c] text)
    (hpart : Free [c, c] part) : Free [c, c] (text ++ part) := by
  intro hwithin
  rw [List.append_assoc] at hwithin
  exact hpart (h.infix_append_iff.mp hwithin)

end DeviceFlow.Text
