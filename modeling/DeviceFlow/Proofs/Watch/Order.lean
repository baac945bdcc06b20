import DeviceFlow.Watch.Timeline
import Mathlib.Data.List.Basic
import Mathlib.Data.List.Pairwise
import Mathlib.Data.List.Perm.Basic

/-!
# The order of spans

The spans of a timeline come about in the order in which iterations end, and are then sorted by the
milliseconds in which these have started. Sorting leaves the spans of one millisecond as they are,
so an iteration that starts and ends within another stands before it when both have started in the
same millisecond: the spans stand in the order of the starts just when, in each millisecond, the
iterations that start in it end in the order in which they start.

The order of the starts is said without a list of open starts. An iteration ends with the first end
of its step at which no later iteration of the step is still under way, so its end is found from its
start and the marks that follow.
-/

namespace DeviceFlow

/-- The step of a workflow that a mark is about. -/
def Mark.step (m : Mark) : String × String := (m.workflowId, m.stepId)

namespace Timeline

/-- The step of a workflow that has been started. -/
def OpenStart.step (o : OpenStart) : String × String := (o.workflowId, o.stepId)

/-- The span that a start comes to with its end. -/
def OpenStart.spanTo (origin : Nat) (o : OpenStart) (last : Mark) : Span :=
  ⟨o.workflowId, o.stepId, o.startMs, last.timeMs - origin, last.kind = .completed⟩

/-- The start that a mark tells of. -/
def opening (origin : Nat) (m : Mark) : OpenStart := ⟨m.workflowId, m.stepId, m.timeMs - origin⟩

/-- The end of an iteration of a step among the marks after its start, when a number of later
    iterations of the step are still under way. -/
def closing? (step : String × String) : Nat → List Mark → Option Mark
  | _, [] => none
  | later, m :: rest =>
    if m.step ≠ step then closing? step later rest
    else if m.kind = .started then closing? step (later + 1) rest
    else match later with
      | 0 => some m
      | later + 1 => closing? step later rest

/-- The spans in the order of their starts. -/
def spansByStart (origin : Nat) : List Mark → List Span
  | [] => []
  | m :: rest =>
    if m.kind = .started then
      ((closing? m.step 0 rest).map ((opening origin m).spanTo origin)).toList ++
        spansByStart origin rest
    else spansByStart origin rest

/-- In each millisecond, the iterations that start in it end in the order in which they start. -/
def EndsInTurn (t : Timeline) : Prop :=
  ∀ ms, (spansByEnd t.startMs [] t.marks).filter (·.startMs = ms) =
    (spansByStart t.startMs t.marks).filter (·.startMs = ms)

variable {origin : Nat} {step : String × String} {m : Mark} {marks : List Mark}

/-! ## The end of an iteration -/

theorem closing?_of_ne (h : m.step ≠ step) (later : Nat) (rest : List Mark) :
    closing? step later (m :: rest) = closing? step later rest := by
  simp [closing?, h]

theorem closing?_started (hm : m.kind = .started) (later : Nat) (rest : List Mark) :
    closing? m.step later (m :: rest) = closing? m.step (later + 1) rest := by
  simp [closing?, hm]

theorem closing?_ended_zero (hm : m.kind ≠ .started) (rest : List Mark) :
    closing? m.step 0 (m :: rest) = some m := by
  simp [closing?, hm]

theorem closing?_ended_succ (hm : m.kind ≠ .started) (later : Nat) (rest : List Mark) :
    closing? m.step (later + 1) (m :: rest) = closing? m.step later rest := by
  simp [closing?, hm]

/-! ## Every span once

The iterations under way are followed to their ends, the latest first, with the number of later ones
that are under way on each step. -/

/-- One more iteration of a step is under way. -/
def oneMore (step : String × String) (depth : String × String → Nat) : String × String → Nat :=
  fun s => if s = step then depth s + 1 else depth s

theorem oneMore_self (step : String × String) (depth : String × String → Nat) :
    oneMore step depth step = depth step + 1 := if_pos rfl

theorem oneMore_of_ne {s : String × String} (h : s ≠ step) (depth : String × String → Nat) :
    oneMore step depth s = depth s := if_neg h

theorem oneMore_comm (step step' : String × String) (depth : String × String → Nat) :
    oneMore step (oneMore step' depth) = oneMore step' (oneMore step depth) := by
  funext s
  unfold oneMore
  split <;> split <;> rfl

/-- The spans that the iterations under way come to with the marks that follow. -/
def pending (origin : Nat) (marks : List Mark) :
    (String × String → Nat) → List OpenStart → List Span
  | _, [] => []
  | depth, o :: opened =>
    ((closing? o.step (depth o.step) marks).map (o.spanTo origin)).toList ++
      pending origin marks (oneMore o.step depth) opened

theorem pending_nil (origin : Nat) (depth : String × String → Nat) (opened : List OpenStart) :
    pending origin [] depth opened = [] := by
  induction opened generalizing depth with
  | nil => rfl
  | cons o opened ih =>
    rw [pending, ih]
    rfl

/-- A start adds to the iterations that the earlier ones have to wait for. -/
theorem pending_started (hm : m.kind = .started) (rest : List Mark)
    (depth : String × String → Nat) (opened : List OpenStart) :
    pending origin (m :: rest) depth opened =
      pending origin rest (oneMore m.step depth) opened := by
  induction opened generalizing depth with
  | nil => rfl
  | cons o opened ih =>
    have hclosing : closing? o.step (depth o.step) (m :: rest) =
        closing? o.step (oneMore m.step depth o.step) rest := by
      by_cases hstep : m.step = o.step
      · rw [← hstep, closing?_started hm, oneMore_self]
      · rw [closing?_of_ne hstep, oneMore_of_ne (Ne.symm hstep)]
    rw [pending, pending, ih, hclosing, oneMore_comm]

/-- An end takes from the iterations that the earlier ones have to wait for. -/
theorem pending_ended_later (hm : m.kind ≠ .started) (rest : List Mark)
    (depth : String × String → Nat) (opened : List OpenStart) :
    pending origin (m :: rest) (oneMore m.step depth) opened =
      pending origin rest depth opened := by
  induction opened generalizing depth with
  | nil => rfl
  | cons o opened ih =>
    have hclosing : closing? o.step (oneMore m.step depth o.step) (m :: rest) =
        closing? o.step (depth o.step) rest := by
      by_cases hstep : m.step = o.step
      · rw [← hstep, oneMore_self, closing?_ended_succ hm]
      · rw [closing?_of_ne hstep, oneMore_of_ne (Ne.symm hstep)]
    rw [pending, pending, hclosing, oneMore_comm, ih]

/-- An end that no later iteration takes belongs to the latest one of its step under way. -/
theorem pending_ended (origin : Nat) (hm : m.kind ≠ .started) (rest : List Mark)
    (depth : String × String → Nat) (hdepth : depth m.step = 0) (opened : List OpenStart) :
    (pending origin (m :: rest) depth opened).Perm
      (match takeStart? m.workflowId m.stepId opened with
        | some (startMs, left) =>
          (⟨m.workflowId, m.stepId, startMs⟩ : OpenStart).spanTo origin m ::
            pending origin rest depth left
        | none => pending origin rest depth opened) := by
  induction opened generalizing depth with
  | nil => exact .refl _
  | cons o opened ih =>
    by_cases hstep : o.step = m.step
    · have hids := Prod.mk.inj hstep
      obtain ⟨workflowId, stepId, startMs⟩ := o
      obtain ⟨rfl, rfl⟩ : workflowId = m.workflowId ∧ stepId = m.stepId := hids
      rw [takeStart?, if_pos ⟨rfl, rfl⟩, pending, hstep, hdepth, closing?_ended_zero hm,
        pending_ended_later hm]
      exact .refl _
    · have hids : ¬ (o.workflowId = m.workflowId ∧ o.stepId = m.stepId) :=
        fun h => hstep (Prod.ext h.1 h.2)
      have hrest := ih (oneMore o.step depth)
        ((oneMore_of_ne (Ne.symm hstep) depth).trans hdepth)
      rw [takeStart?, if_neg hids, pending, closing?_of_ne (Ne.symm hstep)]
      cases htake : takeStart? m.workflowId m.stepId opened with
      | none =>
        rw [htake] at hrest
        exact hrest.append_left _
      | some taken =>
        rw [htake] at hrest
        exact (hrest.append_left _).trans List.perm_middle

/-- What iterations under way and marks come to is listed by the ends as it is by the starts. -/
theorem spansByEnd_perm (origin : Nat) (marks : List Mark) (opened : List OpenStart) :
    (spansByEnd origin opened marks).Perm
      (pending origin marks (fun _ => 0) opened ++ spansByStart origin marks) := by
  induction marks generalizing opened with
  | nil =>
    rw [pending_nil]
    exact .refl _
  | cons m rest ih =>
    by_cases hm : m.kind = .started
    · have hopen := ih (opening origin m :: opened)
      rw [pending, List.append_assoc] at hopen
      rw [spansByEnd, if_pos hm, spansByStart, if_pos hm, pending_started hm]
      exact hopen.trans (List.perm_append_comm_assoc ..)
    · have hpending := pending_ended origin hm rest (fun _ => 0) rfl opened
      rw [spansByEnd, if_neg hm, spansByStart, if_neg hm]
      cases htake : takeStart? m.workflowId m.stepId opened with
      | none =>
        rw [htake] at hpending
        exact (ih opened).trans (hpending.symm.append_right _)
      | some taken =>
        rw [htake] at hpending
        exact ((ih taken.2).cons _).trans (hpending.symm.append_right _)

/-! ## The times of spans -/

theorem mem_of_closing? {later : Nat} {last : Mark} (h : closing? step later marks = some last) :
    last ∈ marks := by
  induction marks generalizing later with
  | nil => cases h
  | cons m rest ih =>
    rw [closing?.eq_def] at h
    dsimp only at h
    split at h
    · exact List.mem_cons_of_mem _ (ih h)
    · split at h
      · exact List.mem_cons_of_mem _ (ih h)
      · cases later with
        | zero =>
          cases h
          exact List.mem_cons_self ..
        | succ later => exact List.mem_cons_of_mem _ (ih h)

/-- A span has its times from two marks, the later one for its end. -/
theorem marks_of_mem_spansByStart {s : Span} (h : marks.Pairwise (·.timeMs ≤ ·.timeMs))
    (hs : s ∈ spansByStart origin marks) :
    ∃ first ∈ marks, ∃ last ∈ marks, first.timeMs ≤ last.timeMs ∧
      s.startMs = first.timeMs - origin ∧ s.endMs = last.timeMs - origin := by
  induction h with
  | nil => cases hs
  | @cons m rest hm _ ih =>
    have hsplit : s ∈ spansByStart origin rest ∨
        s ∈ ((closing? m.step 0 rest).map ((opening origin m).spanTo origin)).toList := by
      rw [spansByStart] at hs
      split at hs
      · exact (List.mem_append.mp hs).symm
      · exact .inl hs
    rcases hsplit with hlater | hown
    · obtain ⟨first, hfirst, last, hlast, htimes⟩ := ih hlater
      exact ⟨first, List.mem_cons_of_mem m hfirst, last, List.mem_cons_of_mem m hlast, htimes⟩
    · obtain ⟨last, hclosing, rfl⟩ := Option.map_eq_some_iff.mp (Option.mem_toList.mp hown)
      have hlast := mem_of_closing? hclosing
      exact ⟨m, List.mem_cons_self .., last, List.mem_cons_of_mem m hlast, hm last hlast, rfl, rfl⟩

/-- In the order of the starts, the milliseconds never go back. -/
theorem spansByStart_sorted (origin : Nat) (h : marks.Pairwise (·.timeMs ≤ ·.timeMs)) :
    (spansByStart origin marks).Pairwise (·.startMs ≤ ·.startMs) := by
  induction h with
  | nil => exact .nil
  | @cons m rest hm hforward ih =>
    rw [spansByStart]
    split
    · refine List.pairwise_append.mpr ⟨?_, ih, fun a ha b hb => ?_⟩
      · cases closing? m.step 0 rest with
        | none => exact .nil
        | some last => exact List.pairwise_singleton ..
      · obtain ⟨last, _, rfl⟩ := Option.map_eq_some_iff.mp (Option.mem_toList.mp ha)
        obtain ⟨first, hfirst, _, _, _, hstart, _⟩ := marks_of_mem_spansByStart hforward hb
        rw [hstart]
        exact Nat.sub_le_sub_right (hm first hfirst) origin
    · exact ih

/-! ## Sorted by milliseconds -/

theorem startMs_trans (a b c : Span) (hab : decide (a.startMs ≤ b.startMs) = true)
    (hbc : decide (b.startMs ≤ c.startMs) = true) : decide (a.startMs ≤ c.startMs) = true :=
  decide_eq_true (Nat.le_trans (of_decide_eq_true hab) (of_decide_eq_true hbc))

theorem startMs_total (a b : Span) :
    (decide (a.startMs ≤ b.startMs) || decide (b.startMs ≤ a.startMs)) = true := by
  simpa using Nat.le_total a.startMs b.startMs

theorem spans_perm (t : Timeline) : t.spans.Perm (spansByEnd t.startMs [] t.marks) :=
  List.mergeSort_perm _ _

theorem spans_perm_spansByStart (t : Timeline) : t.spans.Perm (spansByStart t.startMs t.marks) :=
  t.spans_perm.trans (spansByEnd_perm t.startMs t.marks [])

theorem spans_sorted (t : Timeline) : t.spans.Pairwise (·.startMs ≤ ·.startMs) :=
  (List.pairwise_mergeSort startMs_trans startMs_total _).imp of_decide_eq_true

/-- The spans of one millisecond stand in the order of their ends. -/
theorem filter_spans (t : Timeline) (ms : Nat) :
    t.spans.filter (·.startMs = ms) =
      (spansByEnd t.startMs [] t.marks).filter (·.startMs = ms) := by
  have hequal : ((spansByEnd t.startMs [] t.marks).filter (·.startMs = ms)).Pairwise
      fun a b => decide (a.startMs ≤ b.startMs) = true := by
    refine List.pairwise_of_forall_mem_list fun a ha b hb => ?_
    have hams : a.startMs = ms := by simpa using (List.mem_filter.mp ha).2
    have hbms : b.startMs = ms := by simpa using (List.mem_filter.mp hb).2
    exact decide_eq_true (Nat.le_of_eq (hams.trans hbms.symm))
  have hsub : ((spansByEnd t.startMs [] t.marks).filter (·.startMs = ms)).Sublist t.spans :=
    List.sublist_mergeSort startMs_trans startMs_total hequal List.filter_sublist
  have hkept : ((spansByEnd t.startMs [] t.marks).filter (·.startMs = ms)).Sublist
      (t.spans.filter (·.startMs = ms)) := by
    simpa [List.filter_filter] using hsub.filter (·.startMs = ms)
  exact (hkept.eq_of_length (t.spans_perm.filter _).length_eq.symm).symm

theorem mem_of_filter_startMs {l l' : List Span} {s : Span}
    (h : ∀ ms, l.filter (·.startMs = ms) = l'.filter (·.startMs = ms)) (hs : s ∈ l) : s ∈ l' := by
  have hown : s ∈ l.filter (·.startMs = s.startMs) := List.mem_filter.mpr ⟨hs, by simp⟩
  rw [h] at hown
  exact (List.mem_filter.mp hown).1

/-- What is sorted by milliseconds is known from what stands in each of them. -/
theorem eq_of_filter_startMs {l l' : List Span} (hl : l.Pairwise (·.startMs ≤ ·.startMs))
    (hl' : l'.Pairwise (·.startMs ≤ ·.startMs))
    (h : ∀ ms, l.filter (·.startMs = ms) = l'.filter (·.startMs = ms)) : l = l' := by
  induction l generalizing l' with
  | nil =>
    refine (List.eq_nil_iff_forall_not_mem.mpr fun s hs => ?_).symm
    exact List.not_mem_nil (mem_of_filter_startMs (fun ms => (h ms).symm) hs)
  | cons a l ih =>
    cases l' with
    | nil => exact absurd (mem_of_filter_startMs h (List.mem_cons_self ..)) List.not_mem_nil
    | cons b l' =>
      obtain ⟨hla, hrest⟩ := List.pairwise_cons.mp hl
      obtain ⟨hlb, hrest'⟩ := List.pairwise_cons.mp hl'
      have hab : a.startMs ≤ b.startMs := by
        have hb := mem_of_filter_startMs (fun ms => (h ms).symm) (List.mem_cons_self (a := b))
        rcases List.mem_cons.mp hb with rfl | hb
        · exact Nat.le_refl _
        · exact hla b hb
      have hba : b.startMs ≤ a.startMs := by
        have ha := mem_of_filter_startMs h (List.mem_cons_self (a := a))
        rcases List.mem_cons.mp ha with rfl | ha
        · exact Nat.le_refl _
        · exact hlb a ha
      have hkey : b.startMs = a.startMs := Nat.le_antisymm hba hab
      have hfirst := h a.startMs
      rw [List.filter_cons_of_pos (by simp), List.filter_cons_of_pos (by simp [hkey])] at hfirst
      obtain rfl := (List.cons.inj hfirst).1
      refine congrArg (a :: ·) (ih hrest hrest' fun ms => ?_)
      have hms := h ms
      rw [List.filter_cons, List.filter_cons] at hms
      split at hms
      · exact (List.cons.inj hms).2
      · exact hms

/-! ## The order of the starts -/

/-- Iterations that start in milliseconds of their own end in turn in each of them. -/
theorem endsInTurn_of_startsApart {t : Timeline}
    (h : (spansByStart t.startMs t.marks).Pairwise (·.startMs < ·.startMs)) : t.EndsInTurn := by
  intro ms
  have hperm := (spansByEnd_perm t.startMs t.marks []).filter (·.startMs = ms)
  rw [pending, List.nil_append] at hperm
  have hapart := h.filter (·.startMs = ms)
  have hstart : ∀ s ∈ (spansByStart t.startMs t.marks).filter (·.startMs = ms), s.startMs = ms :=
    fun s hs => by simpa using (List.mem_filter.mp hs).2
  generalize (spansByEnd t.startMs [] t.marks).filter (·.startMs = ms) = ended at hperm
  generalize (spansByStart t.startMs t.marks).filter (·.startMs = ms) = started at *
  match started with
  | [] => exact hperm.eq_nil
  | [a] => exact List.perm_singleton.mp hperm
  | a :: b :: more =>
    have hab := (List.pairwise_cons.mp hapart).1 b (List.mem_cons_self ..)
    rw [hstart a (List.mem_cons_self ..),
      hstart b (List.mem_cons_of_mem _ (List.mem_cons_self ..))] at hab
    exact absurd hab (Nat.lt_irrefl ms)

/-- On a clock that does not go back, each iteration that has ended has its span, the milliseconds
    of the starts do not go back either, and the spans stand in the order of the starts just when
    the iterations that start in one millisecond end in the order in which they start. -/
theorem spans_order (t : Timeline) (h : t.marks.Pairwise (·.timeMs ≤ ·.timeMs)) :
    t.spans.Perm (spansByStart t.startMs t.marks) ∧
      t.spans.Pairwise (·.startMs ≤ ·.startMs) ∧
      (t.spans = spansByStart t.startMs t.marks ↔ t.EndsInTurn) := by
  refine ⟨t.spans_perm_spansByStart, t.spans_sorted, fun heq ms => ?_, fun hturn => ?_⟩
  · rw [← filter_spans, heq]
  · refine eq_of_filter_startMs t.spans_sorted (spansByStart_sorted t.startMs h) fun ms => ?_
    rw [filter_spans, hturn ms]

/-- A call at the beginning, and the first step of the called workflow some time later. -/
def calling (laterMs : Nat) : Timeline where
  startMs := 0
  marks := [⟨"parent", "call", .started, 0⟩, ⟨"child", "start", .started, laterMs⟩,
    ⟨"child", "start", .completed, laterMs⟩, ⟨"parent", "call", .completed, laterMs⟩]
  events := []

theorem spans_order_calling_later :
    (calling 1).marks.Pairwise (·.timeMs ≤ ·.timeMs) ∧
      (calling 1).spans = [⟨"parent", "call", 0, 1, true⟩, ⟨"child", "start", 1, 1, true⟩] :=
  have hforward : (calling 1).marks.Pairwise (·.timeMs ≤ ·.timeMs) := by decide
  ⟨hforward, (spans_order (calling 1) hforward).2.2.mpr (endsInTurn_of_startsApart (by decide))⟩

/-- A call and the first step of the called workflow in one millisecond: the step that has started
    last is listed first. -/
theorem call_listed_after_its_steps :
    (calling 0).marks.Pairwise (·.timeMs ≤ ·.timeMs) ∧
      (calling 0).spans = [⟨"child", "start", 0, 0, true⟩, ⟨"parent", "call", 0, 0, true⟩] ∧
      (calling 0).spans ≠ spansByStart 0 (calling 0).marks := by
  have hspans : (calling 0).spans =
      [⟨"child", "start", 0, 0, true⟩, ⟨"parent", "call", 0, 0, true⟩] :=
    List.mergeSort_of_pairwise (by decide)
  refine ⟨by decide, hspans, ?_⟩
  rw [hspans]
  decide

end Timeline

end DeviceFlow
