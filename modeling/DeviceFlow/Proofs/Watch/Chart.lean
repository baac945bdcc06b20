import DeviceFlow.Proofs.Decimal.Rounded
import DeviceFlow.Proofs.Watch.Order
import DeviceFlow.Watch.Chart

/-!
# The rows of a chart

Where a bar begins and how long it is are rounded separately, and both downward, so together they
do not go beyond the column; four roundings of doubles lift their sum by less than a mark. But a bar
has one mark at least, and an iteration without any length at the very end may begin where the
column ends. Its mark then stands outside, and nothing else does.
-/

namespace DeviceFlow

open Decimal (Rounded)
open Decimal.Rounded (unitRoundoff)

variable {s : Span} {totalMs startMs lengthMs nowMs : Nat}

/-! ## Scaling -/

/-- The number of characters before its whole part is taken. -/
def scaledValue (ms : Nat) (scale : Rounded) : ℚ := ((Rounded.ofNat ms).mul scale).value

theorem scaled_le_value (ms : Nat) (scale : Rounded) :
    (scaled ms scale : ℚ) ≤ scaledValue ms scale := by
  rw [scaled, Rounded.floor_eq]
  exact Nat.floor_le (Rounded.value_nonneg _)

theorem chartScale_value_le (htotal : 0 < totalMs) :
    (chartScale totalMs).value * (1 - unitRoundoff) ≤
      barWidth / totalMs * (1 + unitRoundoff) ^ 2 := by
  have hu : 0 < 1 - unitRoundoff := by norm_num [unitRoundoff]
  have hu' : 0 < 1 + unitRoundoff := by norm_num [unitRoundoff]
  have htotal' : (0 : ℚ) < totalMs := by exact_mod_cast htotal
  have hwidth := (Rounded.ofNat_near barWidth).le
  have hrounded := (Rounded.ofNat_near totalMs).ge
  have hpos := (Rounded.ofNat_near totalMs).pos htotal'
  have hquotient := (Rounded.div_near (Rounded.ofNat barWidth) hpos).le
  calc (chartScale totalMs).value * (1 - unitRoundoff)
      ≤ (Rounded.ofNat barWidth).value / (Rounded.ofNat totalMs).value * (1 + unitRoundoff) *
          (1 - unitRoundoff) := by
        gcongr
        exact hquotient
    _ ≤ barWidth * (1 + unitRoundoff) / (totalMs * (1 - unitRoundoff)) * (1 + unitRoundoff) *
          (1 - unitRoundoff) := by gcongr
    _ = barWidth / totalMs * (1 + unitRoundoff) ^ 2 := by field_simp

/-- Four roundings change a number of characters by six units of roundoff at most. -/
theorem scaledValue_le (htotal : 0 < totalMs) (ms : Nat) :
    scaledValue ms (chartScale totalMs) ≤ ms * (barWidth / totalMs) * (1 + 6 * unitRoundoff) := by
  have hu : 0 < 1 - unitRoundoff := by norm_num [unitRoundoff]
  have hu' : 0 < 1 + unitRoundoff := by norm_num [unitRoundoff]
  have hscale := Rounded.value_nonneg (chartScale totalMs)
  have htime := (Rounded.ofNat_near ms).le
  have hproduct := (Rounded.mul_near (Rounded.ofNat ms) (chartScale totalMs)).le
  have hroundings : (1 + unitRoundoff) ^ 4 ≤ (1 + 6 * unitRoundoff) * (1 - unitRoundoff) := by
    norm_num [unitRoundoff]
  refine le_of_mul_le_mul_right ?_ hu
  calc scaledValue ms (chartScale totalMs) * (1 - unitRoundoff)
      ≤ (Rounded.ofNat ms).value * (chartScale totalMs).value * (1 + unitRoundoff) *
          (1 - unitRoundoff) := by
        gcongr
        exact hproduct
    _ ≤ ms * (1 + unitRoundoff) * (chartScale totalMs).value * (1 + unitRoundoff) *
          (1 - unitRoundoff) := by gcongr
    _ = ms * (1 + unitRoundoff) ^ 2 * ((chartScale totalMs).value * (1 - unitRoundoff)) := by ring
    _ ≤ ms * (1 + unitRoundoff) ^ 2 * (barWidth / totalMs * (1 + unitRoundoff) ^ 2) :=
        mul_le_mul_of_nonneg_left (chartScale_value_le htotal) (by positivity)
    _ = ms * (barWidth / totalMs) * (1 + unitRoundoff) ^ 4 := by ring
    _ ≤ ms * (barWidth / totalMs) * ((1 + 6 * unitRoundoff) * (1 - unitRoundoff)) := by gcongr
    _ = ms * (barWidth / totalMs) * (1 + 6 * unitRoundoff) * (1 - unitRoundoff) := by ring

/-- A start and a length that together stay in the total time stay in the column. -/
theorem scaled_add_le (htotal : 0 < totalMs) (h : startMs + lengthMs ≤ totalMs) :
    scaled startMs (chartScale totalMs) + scaled lengthMs (chartScale totalMs) ≤ barWidth := by
  have htotal' : (0 : ℚ) < totalMs := by exact_mod_cast htotal
  have hu : 0 < 1 + 6 * unitRoundoff := by norm_num [unitRoundoff]
  have hstart := (scaled_le_value startMs _).trans (scaledValue_le htotal startMs)
  have hlength := (scaled_le_value lengthMs _).trans (scaledValue_le htotal lengthMs)
  have hsum : (scaled startMs (chartScale totalMs) : ℚ) + scaled lengthMs (chartScale totalMs) <
      (barWidth + 1 : Nat) := by
    calc (scaled startMs (chartScale totalMs) : ℚ) + scaled lengthMs (chartScale totalMs)
        ≤ ((startMs + lengthMs : Nat) : ℚ) * (barWidth / totalMs) * (1 + 6 * unitRoundoff) := by
          push_cast
          linarith
      _ ≤ totalMs * (barWidth / totalMs) * (1 + 6 * unitRoundoff) := by gcongr
      _ = barWidth * (1 + 6 * unitRoundoff) := by field_simp
      _ < (barWidth + 1 : Nat) := by norm_num [unitRoundoff, barWidth]
  exact Nat.lt_succ_iff.mp (by exact_mod_cast hsum)

/-- What is before the end is drawn before the end of the column, unless the time is out of all
    proportion. -/
theorem scaled_lt_barWidth (h : startMs < totalMs) (htotal : totalMs ≤ 2 ^ 50) :
    scaled startMs (chartScale totalMs) < barWidth := by
  have hpos : (0 : ℚ) < totalMs := by exact_mod_cast Nat.zero_lt_of_lt h
  have hwidth : (0 : ℚ) < barWidth := by norm_num [barWidth]
  have hbefore : (startMs : ℚ) + 1 ≤ totalMs := by exact_mod_cast h
  have htotal' : (totalMs : ℚ) ≤ 2 ^ 50 := by exact_mod_cast htotal
  have hdrift : (startMs : ℚ) * (1 + 6 * unitRoundoff) < totalMs := by
    rw [unitRoundoff]
    linarith
  have hstart : (scaled startMs (chartScale totalMs) : ℚ) < barWidth := by
    calc (scaled startMs (chartScale totalMs) : ℚ)
        ≤ startMs * (barWidth / totalMs) * (1 + 6 * unitRoundoff) :=
          (scaled_le_value startMs _).trans (scaledValue_le (Nat.zero_lt_of_lt h) startMs)
      _ = startMs * (1 + 6 * unitRoundoff) / totalMs * barWidth := by ring
      _ < 1 * barWidth := by
          gcongr
          exact (div_lt_one hpos).mpr hdrift
      _ = barWidth := one_mul _
  exact_mod_cast hstart

/-! ## The shape of a row -/

/-- The character that a bar consists of. -/
def Span.markChar (s : Span) : Char := if s.success then '#' else 'x'

/-- What follows the bar of a row. -/
def rowEnd (s : Span) : List Char := s!"| ({s.endMs - s.startMs} ms)\n".toList

/-- A row has a label, a bar that does not run out of its column, and the length. -/
def InShape (s : Span) (row : List Char) : Prop :=
  ∃ (label : List Char) (before marks after : Nat),
    row = label ++ [' ', '|'] ++ (List.replicate before ' ' ++ List.replicate marks s.markChar ++
      List.replicate after ' ') ++ rowEnd s ∧
    label.length = labelWidth ∧ 1 ≤ marks ∧ before + marks + after = barWidth

theorem length_rowLabel (stepId : String) : (rowLabel stepId).length = labelWidth := by
  unfold rowLabel
  simp only
  split
  · rw [padEnd, List.length_append, List.length_replicate]
    omega
  · rename_i hlong
    rw [List.length_append, List.length_take, Nat.min_eq_left (by omega)]
    rfl

theorem length_rowBar (scale : Rounded) (s : Span) :
    (rowBar scale s).length =
      scaled s.startMs scale + max (scaled (s.endMs - s.startMs) scale) 1 := by
  simp [rowBar]

/-- A row is in shape just when its bar is no longer than the column. -/
theorem inShape_chartRow_iff (scale : Rounded) (s : Span) :
    InShape s (chartRow scale s) ↔ (rowBar scale s).length ≤ barWidth := by
  constructor
  · rintro ⟨label, before, marks, after, hrow, hlabel, -, hcolumn⟩
    have hlength := congrArg List.length hrow
    simp only [chartRow, padEnd, rowEnd, List.length_append, List.length_replicate,
      length_rowLabel, hlabel] at hlength
    omega
  · intro hfits
    refine ⟨rowLabel s.stepId, scaled s.startMs scale,
      max (scaled (s.endMs - s.startMs) scale) 1, barWidth - (rowBar scale s).length, rfl,
      length_rowLabel _, le_max_right _ _, ?_⟩
    rw [← length_rowBar]
    omega

/-- What a row of a chart says about an iteration: its times are in the time of the chart, and its
    bar keeps to the column just when it begins there. -/
structure RowOf (totalMs : Nat) (s : Span) (row : List Char) : Prop where
  startMs_le : s.startMs ≤ s.endMs
  endMs_le : s.endMs ≤ totalMs
  length_label : (rowLabel s.stepId).length = labelWidth
  inShape_iff : InShape s row ↔ scaled s.startMs (chartScale totalMs) < barWidth
  /-- It does so when the iteration starts before the end. -/
  inShape : s.startMs < totalMs → totalMs ≤ 2 ^ 50 → InShape s row
  /-- Otherwise it has one mark, and that is outside. -/
  outside : ¬ InShape s row →
    row = rowLabel s.stepId ++ [' ', '|'] ++ (List.replicate barWidth ' ' ++ [s.markChar]) ++
      rowEnd s

theorem rowOf_chartRow (hstart : s.startMs ≤ s.endMs) (hend : s.endMs ≤ totalMs)
    (htotal : 0 < totalMs) : RowOf totalMs s (chartRow (chartScale totalMs) s) := by
  have hsum : scaled s.startMs (chartScale totalMs) +
      scaled (s.endMs - s.startMs) (chartScale totalMs) ≤ barWidth :=
    scaled_add_le htotal (by omega)
  have hiff : InShape s (chartRow (chartScale totalMs) s) ↔
      scaled s.startMs (chartScale totalMs) < barWidth := by
    rw [inShape_chartRow_iff, length_rowBar]
    omega
  refine ⟨hstart, hend, length_rowLabel _, hiff,
    fun hbefore hlong => hiff.mpr (scaled_lt_barWidth hbefore hlong), fun hout => ?_⟩
  rw [hiff] at hout
  have hblanks : scaled s.startMs (chartScale totalMs) = barWidth := by omega
  have hmarks : max (scaled (s.endMs - s.startMs) (chartScale totalMs)) 1 = 1 := by omega
  unfold chartRow rowBar padEnd
  rw [hblanks, hmarks]
  rfl

/-! ## The chart -/

namespace Timeline

/-- The times of a span stay in the time of the chart. -/
theorem times_of_mem_spans {t : Timeline}
    (hforward : t.marks.Pairwise (·.timeMs ≤ ·.timeMs)) (hnow : ∀ m ∈ t.marks, m.timeMs ≤ nowMs)
    (hs : s ∈ t.spans) : s.startMs ≤ s.endMs ∧ s.endMs ≤ t.elapsed nowMs := by
  have hmem := t.spans_perm_spansByStart.mem_iff.mp hs
  obtain ⟨first, _, last, hlast, hle, hstart, hend⟩ := marks_of_mem_spansByStart hforward hmem
  rw [hstart, hend]
  exact ⟨Nat.sub_le_sub_right hle _, Nat.sub_le_sub_right (hnow last hlast) _⟩

/-- The rows of the chart, one for each iteration that has ended. -/
theorem chart_rows (t : Timeline) (nowMs : Nat)
    (hforward : t.marks.Pairwise (·.timeMs ≤ ·.timeMs))
    (hnow : ∀ m ∈ t.marks, m.timeMs ≤ nowMs) (htotal : 1 ≤ t.elapsed nowMs) :
    ∃ rows : List (List Char),
      t.chart nowMs = "\nExecution Timeline:\n\n" ++ String.ofList rows.flatten ++
        s!"\nTotal: {t.elapsed nowMs} ms\n" ∧
      List.Forall₂ (RowOf (t.elapsed nowMs)) t.spans rows := by
  refine ⟨t.spans.map (chartRow (chartScale (t.elapsed nowMs))), ?_, ?_⟩
  · unfold chart
    simp only
    rw [if_neg (by omega), List.flatMap_def]
  · rw [List.forall₂_map_right_iff, List.forall₂_same]
    intro s hs
    obtain ⟨hstart, hend⟩ := times_of_mem_spans hforward hnow hs
    exact rowOf_chartRow hstart hend htotal

/-- A tap on a timeline that begins at zero. -/
def tapped (startMs endMs : Nat) : Timeline :=
  ⟨0, [⟨"", "tap", .started, startMs⟩, ⟨"", "tap", .completed, endMs⟩], []⟩

theorem chart_rows_tapped :
    (tapped 2 4).marks.Pairwise (·.timeMs ≤ ·.timeMs) ∧ (∀ m ∈ (tapped 2 4).marks, m.timeMs ≤ 10) ∧
      1 ≤ (tapped 2 4).elapsed 10 ∧
      ∃ rows : List (List Char),
        (tapped 2 4).chart 10 = "\nExecution Timeline:\n\n" ++ String.ofList rows.flatten ++
          "\nTotal: 10 ms\n" ∧
        List.Forall₂ (RowOf 10) [⟨"", "tap", 2, 4, true⟩] rows := by
  have hforward : (tapped 2 4).marks.Pairwise (·.timeMs ≤ ·.timeMs) := by decide
  have hnow : ∀ m ∈ (tapped 2 4).marks, m.timeMs ≤ 10 := by decide
  have htotal : 1 ≤ (tapped 2 4).elapsed 10 := by decide
  have hspans : (tapped 2 4).spans = [⟨"", "tap", 2, 4, true⟩] := List.mergeSort_singleton ..
  exact ⟨hforward, hnow, htotal, hspans ▸ chart_rows (tapped 2 4) 10 hforward hnow htotal⟩

/-- The mark of a tap that takes no time at the very end stands outside the column. -/
theorem instant_at_the_end_sticks_out :
    (tapped 10 10).marks.Pairwise (·.timeMs ≤ ·.timeMs) ∧
      (∀ m ∈ (tapped 10 10).marks, m.timeMs ≤ 10) ∧ 1 ≤ (tapped 10 10).elapsed 10 ∧
      ∃ s ∈ (tapped 10 10).spans, ¬ InShape s (chartRow (chartScale 10) s) := by
  have hspans : (tapped 10 10).spans = [⟨"", "tap", 10, 10, true⟩] := List.mergeSort_singleton ..
  refine ⟨by decide, by decide, by decide, ⟨"", "tap", 10, 10, true⟩, ?_, ?_⟩
  · rw [hspans]
    exact List.mem_singleton.mpr rfl
  · rw [inShape_chartRow_iff]
    decide +kernel

end Timeline

end DeviceFlow
