import DeviceFlow.Proofs.Events.Run
import DeviceFlow.Proofs.Watch.Underway

/-!
# The timeline of a run

A run tells the starts and the ends of its iterations like brackets. So each end belongs to one
start, and the spans from the starts to the ends lie within each other or apart, as the brackets
do. A timeline that listens to the run alone only ever looks for the latest start of a step, but
these are just the spans that it makes out.
-/

namespace DeviceFlow

/-- The id of the step of which an iteration has ended. -/
def Event.endedStep? : Event → Option String
  | .stepEnded i _ _ _ => some i.stepId
  | .stepStarted _ | .runStarted .. | .runCompleted .. | .runFailed .. => none

theorem Event.IsAside.mark?_eq_none {e : Event} (he : e.IsAside) (timeMs : Nat) :
    e.mark? timeMs = none := by
  cases e with
  | stepStarted | stepEnded => exact he.elim
  | _ => rfl

theorem Event.IsAside.endedStep?_eq_none {e : Event} (he : e.IsAside) : e.endedStep? = none := by
  cases e with
  | stepStarted | stepEnded => exact he.elim
  | _ => rfl

/-- Two spans that have no time in common but a moment at the end of one, or one of which lies
    within the other. -/
def Span.NestedOrApart (a b : Span) : Prop :=
  a.endMs ≤ b.startMs ∨ b.endMs ≤ a.startMs ∨
    (a.startMs ≤ b.startMs ∧ b.endMs ≤ a.endMs) ∨ (b.startMs ≤ a.startMs ∧ a.endMs ≤ b.endMs)

theorem Span.NestedOrApart.symm {a b : Span} (h : a.NestedOrApart b) : b.NestedOrApart a := by
  unfold NestedOrApart at h ⊢
  omega

namespace Timeline

/-- The spans of bracketed events that are told at some times: one for each iteration, from the
    time of its start to the time of its end, with the flag of its end. -/
inductive Spanned (start : Nat) : List (Nat × Event) → List Span → Prop where
  | nil : Spanned start [] []
  | aside {timeMs : Nat} {e : Event} {heard : List (Nat × Event)} {spans : List Span}
      (he : e.IsAside) (h : Spanned start heard spans) : Spanned start ((timeMs, e) :: heard) spans
  | iteration {i : Iteration} {startMs endMs durationMs : Nat} {success : Bool}
      {error : Option String} {inner rest : List (Nat × Event)} {spans later : List Span}
      (hinner : Spanned start inner spans) (hrest : Spanned start rest later) :
      Spanned start
        ((startMs, .stepStarted i) :: inner ++
          (endMs, .stepEnded i success durationMs error) :: rest)
        (⟨i.workflowId, i.stepId, startMs - start, endMs - start, success⟩ :: spans ++ later)

variable {start : Nat} {heard : List (Nat × Event)} {spans : List Span} {s : Span}

/-- Bracketed events have spans, at whatever times they are told. -/
theorem exists_spanned (start : Nat) (h : Bracketed (heard.map Prod.snd)) :
    ∃ spans, Spanned start heard spans := by
  generalize hes : heard.map Prod.snd = es at h
  induction h generalizing heard with
  | nil =>
    obtain rfl := List.map_eq_nil_iff.mp hes
    exact ⟨[], .nil⟩
  | aside he _ ih =>
    obtain ⟨⟨timeMs, e⟩, rest, rfl, rfl, hrest⟩ := List.map_eq_cons_iff.mp hes
    obtain ⟨spans, hspans⟩ := ih hrest
    exact ⟨spans, .aside he hspans⟩
  | iteration _ _ ihinner ihrest =>
    obtain ⟨opening, closing, rfl, hopening, hclosing⟩ := List.map_eq_append_iff.mp hes
    obtain ⟨⟨startMs, _⟩, inner, rfl, rfl, hinner⟩ := List.map_eq_cons_iff.mp hopening
    obtain ⟨⟨endMs, _⟩, rest, rfl, rfl, hrest⟩ := List.map_eq_cons_iff.mp hclosing
    obtain ⟨spans, hspans⟩ := ihinner hinner
    obtain ⟨later, hlater⟩ := ihrest hrest
    exact ⟨_, .iteration hspans hlater⟩

/-- Whatever iterations are under way, and whatever is told later, bracketed events add just their
    spans: within a bracket the iterations that were under way before it stay so. -/
theorem Spanned.perm_spansFrom (h : Spanned start heard spans) (begun : List Begun)
    (later : List (Nat × Event)) :
    (spansFrom start begun (heard ++ later)).Perm (spans ++ spansFrom start begun later) := by
  induction h generalizing begun later with
  | nil => exact .refl _
  | aside he _ ih =>
    rw [List.cons_append, spansFrom_other (he.mark?_eq_none _)]
    exact ih begun later
  | @iteration i startMs endMs durationMs success error inner rest spans spans' _ _ ihinner
      ihrest =>
    have hsame : Begun.sameStep i ⟨i, startMs - start⟩ = true :=
      Begun.sameStep_iff.mpr ⟨rfl, rfl⟩
    have hinner := ihinner (⟨i, startMs - start⟩ :: begun)
      ((endMs, .stepEnded i success durationMs error) :: (rest ++ later))
    rw [spansFrom_ended, List.find?_cons_of_pos hsame, List.eraseP_cons_of_pos hsame] at hinner
    simp only [List.cons_append, List.append_assoc, spansFrom_started]
    have hrest := ((ihrest begun later).append_left spans).cons
      ⟨i.workflowId, i.stepId, startMs - start, endMs - start, success⟩
    exact hinner.trans (List.perm_middle.trans hrest)

/-- The spans of a timeline that has heard bracketed events are those of the brackets. -/
theorem Spanned.perm_spans (h : Spanned start heard spans) :
    (ofEvents start heard).spans.Perm spans := by
  have hfrom := h.perm_spansFrom [] []
  rw [List.append_nil, spansFrom_nil, List.append_nil] at hfrom
  exact (spans_perm_spansFrom start heard).trans hfrom

/-- A span lies between the times of two events. -/
theorem Spanned.times_of_mem (h : Spanned start heard spans) (hs : s ∈ spans) :
    ∃ x ∈ heard, ∃ y ∈ heard, s.startMs = x.1 - start ∧ s.endMs = y.1 - start := by
  induction h with
  | nil => cases hs
  | aside _ _ ih =>
    obtain ⟨x, hx, y, hy, htimes⟩ := ih hs
    exact ⟨x, List.mem_cons_of_mem _ hx, y, List.mem_cons_of_mem _ hy, htimes⟩
  | @iteration i startMs endMs durationMs success error inner rest _ _ _ _ ihinner ihrest =>
    simp only [List.cons_append, List.mem_cons, List.mem_append] at hs
    rcases hs with hs | hs | hs
    · exact ⟨(startMs, .stepStarted i), by simp,
        (endMs, .stepEnded i success durationMs error), by simp, by rw [hs], by rw [hs]⟩
    · obtain ⟨x, hx, y, hy, htimes⟩ := ihinner hs
      exact ⟨x, by simp [hx], y, by simp [hy], htimes⟩
    · obtain ⟨x, hx, y, hy, htimes⟩ := ihrest hs
      exact ⟨x, by simp [hx], y, by simp [hy], htimes⟩

/-- There is one span of a step for each end of an iteration of it. -/
theorem Spanned.perm_endedStep? (h : Spanned start heard spans) :
    (spans.map Span.stepId).Perm ((heard.map Prod.snd).filterMap Event.endedStep?) := by
  induction h with
  | nil => exact .refl _
  | aside he _ ih =>
    rw [List.map_cons, List.filterMap_cons_none he.endedStep?_eq_none]
    exact ih
  | @iteration i _ _ _ _ _ _ _ _ _ _ _ ihinner ihrest =>
    simp only [List.cons_append, List.map_cons, List.map_append, List.filterMap_cons,
      List.filterMap_append, Event.endedStep?]
    exact ((ihinner.append ihrest).cons i.stepId).trans List.perm_middle.symm

/-- When the time does not run backwards, no span ends before it starts, and any two spans lie
    within each other or apart. -/
theorem Spanned.nestedOrApart (h : Spanned start heard spans)
    (htimes : heard.Pairwise fun x y => x.1 ≤ y.1) :
    (∀ s ∈ spans, s.startMs ≤ s.endMs) ∧ spans.Pairwise Span.NestedOrApart := by
  induction h with
  | nil => simp
  | aside _ _ ih => exact ih (List.pairwise_cons.mp htimes).2
  | @iteration i startMs endMs durationMs success error inner rest spans later hspans hlater
      ihinner ihrest =>
    simp only [List.cons_append, List.pairwise_cons, List.pairwise_append, List.mem_append,
      List.mem_cons] at htimes
    obtain ⟨hfirst, hinner, ⟨hlast, hrest⟩, hacross⟩ := htimes
    obtain ⟨hforward, hnested⟩ := ihinner hinner
    obtain ⟨hforward', hnested'⟩ := ihrest hrest
    have hwithin : ∀ s ∈ spans, startMs - start ≤ s.startMs ∧ s.endMs ≤ endMs - start := by
      intro s hs
      obtain ⟨x, hx, y, hy, hstart, hend⟩ := hspans.times_of_mem hs
      have hxfirst := hfirst x (.inl hx)
      have hylast := hacross y hy _ (.inl rfl)
      omega
    have hafter : ∀ s ∈ later, endMs - start ≤ s.startMs := by
      intro s hs
      obtain ⟨x, hx, _, _, hstart, _⟩ := hlater.times_of_mem hs
      have hxlast := hlast x hx
      omega
    have hlength := hfirst _ (.inr (.inl rfl))
    constructor
    · simp only [List.cons_append, List.mem_cons, List.mem_append]
      rintro s (rfl | hs | hs)
      · dsimp only
        omega
      · exact hforward s hs
      · exact hforward' s hs
    · simp only [List.cons_append, List.pairwise_cons, List.pairwise_append, List.mem_append]
      refine ⟨?_, hnested, hnested', ?_⟩
      · rintro s (hs | hs)
        · have hs' := hwithin s hs
          unfold Span.NestedOrApart
          dsimp only
          omega
        · exact .inl (hafter s hs)
      · intro s hs s' hs'
        have hbefore := (hwithin s hs).2
        have hbehind := hafter s' hs'
        exact .inl (Nat.le_trans hbefore hbehind)

/-- The counts of a timeline count the spans of each step. -/
theorem getD_iterationCounts (t : Timeline) (id : String) :
    t.iterationCounts.getD id 0 = (t.spans.map Span.stepId).count id := by
  have hmore : ∀ (spans : List Span) (counts : Dict String Nat),
      (spans.foldl (fun counts s => counts.insert s.stepId (counts.getD s.stepId 0 + 1))
        counts).getD id 0 = counts.getD id 0 + (spans.map Span.stepId).count id := by
    intro spans
    induction spans with
    | nil => intro counts; rfl
    | cons s spans ih =>
      intro counts
      rw [List.foldl_cons, ih, List.map_cons, List.count_cons]
      unfold Dict.getD
      rw [Dict.get?_insert]
      by_cases hid : s.stepId = id
      · subst hid
        simp
        omega
      · simp [hid]
  exact (hmore t.spans Dict.empty).trans (Nat.zero_add _)

/-- A timeline has made out every iteration that it has been told of: there is one span for each
    iteration that has ended, with the times of its start and its end and with its flag, no span
    overlaps another one in part, and the counts are those of the ends. -/
structure TracksIterations (t : Timeline) (heard : List (Nat × Event)) : Prop where
  spans : ∃ spans, Spanned t.startMs heard spans ∧ t.spans.Perm spans
  number : t.spans.length = ((heard.map Prod.snd).filterMap Event.endedStep?).length
  forward : ∀ s ∈ t.spans, s.startMs ≤ s.endMs
  apart : t.spans.Pairwise Span.NestedOrApart
  counts : ∀ id, t.iterationCounts.getD id 0 =
    ((heard.map Prod.snd).filterMap Event.endedStep?).count id

/-- A timeline makes out the iterations of bracketed events, if the time does not run backwards. -/
theorem tracksIterations_of_bracketed (start : Nat) (h : Bracketed (heard.map Prod.snd))
    (htimes : heard.Pairwise fun x y => x.1 ≤ y.1) :
    (ofEvents start heard).TracksIterations heard := by
  obtain ⟨spans, hspans⟩ := exists_spanned start h
  obtain ⟨hforward, hapart⟩ := hspans.nestedOrApart htimes
  have hperm := hspans.perm_spans
  have hended := (hperm.map Span.stepId).trans hspans.perm_endedStep?
  refine ⟨⟨spans, hspans, hperm⟩, ?_, ?_, ?_, ?_⟩
  · have hlength := hended.length_eq
    rwa [List.length_map] at hlength
  · intro s hs
    exact hforward s (hperm.mem_iff.mp hs)
  · exact (hperm.pairwise_iff Span.NestedOrApart.symm).mpr hapart
  · intro id
    rw [getD_iterationCounts]
    exact hended.count_eq id

end Timeline

namespace Session

/-- A timeline that is told of a whole run, and of nothing else, has one span for each iteration
    that the run ends, however deeply the calls are nested. -/
theorem tracksIterations_of_execute (run : Session) {w : Workflow} {vars : Variables}
    {t : List Exchange} {r : RunRecord} (start : Nat) {heard : List (Nat × Event)}
    (h : (run.execute w vars).Ends t r) (hheard : heard.map Prod.snd = eventsOf t)
    (htimes : heard.Pairwise fun x y => x.1 ≤ y.1) :
    (Timeline.ofEvents start heard).TracksIterations heard :=
  Timeline.tracksIterations_of_bracketed start (hheard ▸ bracketed_of_execute h) htimes

/-- A rehearsal that allows one level of calls and four steps. -/
def fourSteps : Rehearsal.Cast :=
  { threeSteps with settings := { threeSteps.settings with maxSteps := 4 } }

/-- A run that calls itself, so that two iterations of one step are under way at a time. -/
theorem tracksIterations_of_rounds :
    ∃ t r, ((⟨fourSteps.rig, "d"⟩ : Session).execute rounds Dict.empty).Ends t r ∧
      let heard := (eventsOf t).mapIdx fun n e => (10 * n, e)
      let timeline := Timeline.ofEvents 0 heard
      timeline.TracksIterations heard ∧ timeline.spans.length = 4 ∧
        timeline.iterationCounts.getD "call" 0 = 2 ∧
        ⟨"rounds", "call", 30, 80, false⟩ ∈ timeline.spans ∧
        ⟨"rounds", "call", 60, 70, false⟩ ∈ timeline.spans := by
  let run : Session := ⟨fourSteps.rig, "d"⟩
  have hends := fourSteps.ends_history "d" (run.execute rounds Dict.empty) (.opening .empty)
  refine ⟨_, _, hends, ?_⟩
  intro heard timeline
  have htracks : timeline.TracksIterations heard :=
    tracksIterations_of_execute run 0 hends (by decide +kernel) (by decide +kernel)
  refine ⟨htracks, ?_, ?_, ?_, ?_⟩
  · rw [htracks.number]
    decide +kernel
  · rw [htracks.counts]
    decide +kernel
  · rw [(Timeline.spans_perm_spansFrom 0 heard).mem_iff]
    decide +kernel
  · rw [(Timeline.spans_perm_spansFrom 0 heard).mem_iff]
    decide +kernel

end Session

end DeviceFlow
