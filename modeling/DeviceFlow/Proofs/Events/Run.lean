import DeviceFlow.Proofs.Cancellation.History
import DeviceFlow.Proofs.Events.Story

/-!
# The events of a run

Whatever a run comes to, it tells a story between the event of its start and a single event of
its end. The statement for each piece follows the course of the piece; a repetition tells a
dispatch from the number of its next iteration on, and an iteration tells nothing at all when the
run is cancelled in the pause before it.

The starts and the ends of iterations are told like brackets, whatever else is told between them.
The events of every run are so, and those of one run after another.
-/

namespace DeviceFlow

section

/-- The event of the end of a run that is recorded: it carries the text of the error, or the
    status if the run has not failed. -/
inductive RunRecord.Closes (device : String) (r : RunRecord) : Event → Prop where
  | failed {text : String} (hstatus : r.status = .error) (herror : r.error = some text) :
      Closes device r (.runFailed device r.workflowId text r.steps r.durationMs)
  | completed (hstatus : r.status ≠ .error) (herror : r.error = none) :
      Closes device r (.runCompleted device r.workflowId r.status r.steps r.durationMs)

/-- A workflow that the store has given out along a trace. -/
def Loaded (t : List Exchange) (child : Workflow) : Prop :=
  ∃ id, ⟨.load id, .ok (some child)⟩ ∈ t

theorem Loaded.mono {t u : List Exchange} {child : Workflow} (h : Loaded t child) (htu : t ⊆ u) :
    Loaded u child := by
  obtain ⟨id, hid⟩ := h
  exact ⟨id, htu hid⟩

/-- The events of a piece with a result. -/
def Piece.Tells (run : Session) (callable : Workflow → Prop) :
    (x : Piece) → x.Result → List Event → Prop
  | .run w _, (r : RunRecord), es =>
    ∃ story closing, es = .runStarted run.device w.id w.name r.startedAt :: story ++ [closing] ∧
      Story run callable (.walk run.rig.settings.maxNestingDepth w) story ∧
      r.workflowId = w.id ∧ r.Closes run.device closing
  | .walk levels w _, _, es | .onward levels w _ _ _, _, es =>
    Story run callable (.walk levels w) es
  | .repetition levels w s left number _, _, es =>
    left + number ≤ s.iterations + 1 → Story run callable (.dispatch levels w s number) es
  | .iteration levels w s number _, r, es =>
    (es = [] ∧ Prod.snd r = .error .cancelled) ∨
      ∃ inner success durationMs error, Story run callable (.inside levels s) inner ∧
        es = .stepStarted (run.iteration w s number) :: inner ++
          [.stepEnded (run.iteration w s number) success durationMs error]
  | .attempt levels s _, _, es => Story run callable (.inside levels s) es
  | .call levels _ _, _, es =>
    es = [] ∨ ∃ below child, levels = below + 1 ∧ callable child ∧
      Story run callable (.walk below child) es

variable {run : Session} {callable : Workflow → Prop}

/-- The event with which a run ends is that of its record. -/
theorem Session.closes_closing {w : Workflow} {p : Progress} {r : RunRecord}
    {result : Except RunError Unit} (hid : r.workflowId = w.id)
    (hconclusion : conclusion result = (r.status, r.error)) (hsteps : r.steps = p.steps) :
    r.Closes run.device (run.closing w p r.status r.error r.durationMs) := by
  unfold closing
  rw [← hid, ← hsteps]
  unfold conclusion at hconclusion
  split at hconclusion
  · obtain ⟨hstatus, herror⟩ := Prod.mk.inj hconclusion
    rw [← herror]
    exact .completed (by simp [← hstatus]) herror.symm
  · obtain ⟨hstatus, herror⟩ := Prod.mk.inj hconclusion
    rw [← herror]
    exact .completed (by simp [← hstatus]) herror.symm
  · obtain ⟨hstatus, herror⟩ := Prod.mk.inj hconclusion
    rw [← herror]
    exact .failed hstatus.symm herror.symm

theorem Session.eventsOf_bracket (w : Workflow) (s : Step) (number startedAt endedAt : Nat)
    (outcome : StepOutcome) (t : List Exchange) :
    eventsOf (run.bracket w s number startedAt endedAt outcome t) =
      .stepStarted (run.iteration w s number) :: eventsOf t ++
        [.stepEnded (run.iteration w s number) (!outcome.isFailure) (endedAt - startedAt)
          outcome.errorMessage] := by
  simp [bracket]

/-- An iteration is followed by what the next ones tell. -/
theorem Piece.Tells.followed {levels number : Nat} {w : Workflow} {s : Step} {p : Progress}
    {r : Progress × Except RunError StepOutcome} {es rest : List Event}
    (h : Piece.Tells run callable (.iteration levels w s number p) r es)
    (hnumber : number ≤ s.iterations)
    (hrest : Story run callable (.dispatch levels w s (number + 1)) rest)
    (hcancelled : r.2 = .error .cancelled → rest = []) :
    Story run callable (.dispatch levels w s number) (es ++ rest) := by
  rcases h with ⟨rfl, hr⟩ | ⟨inner, success, durationMs, error, hinner, rfl⟩
  · rw [hcancelled hr]
    exact .finished
  · rw [List.append_assoc, List.singleton_append]
    exact .iteration hnumber hinner hrest

/-- An iteration is told by itself. -/
theorem Piece.Tells.alone {levels number : Nat} {w : Workflow} {s : Step} {p : Progress}
    {r : Progress × Except RunError StepOutcome} {es : List Event}
    (h : Piece.Tells run callable (.iteration levels w s number p) r es)
    (hnumber : number ≤ s.iterations) : Story run callable (.dispatch levels w s number) es := by
  have halone := h.followed hnumber .finished fun _ => rfl
  rwa [List.append_nil] at halone

/-- A dispatched step of a workflow is told within the walk. -/
theorem Story.of_target {levels : Nat} {w : Workflow} {id : String} {s : Step}
    {es rest : List Event} (htarget : w.target? id = some s)
    (h : s.iterations + 1 ≤ s.iterations + 1 → Story run callable (.dispatch levels w s 1) es)
    (hrest : Story run callable (.walk levels w) rest) :
    Story run callable (.walk levels w) (es ++ rest) := by
  have hmem : s ∈ w.steps := List.mem_reverse.mp (List.mem_of_find?_eq_some htarget)
  exact .dispatch hmem (h (Nat.le_refl _)) hrest

/-- Every piece tells its part of the story. -/
theorem Course.tells {x : Piece} {t : List Exchange} {r : x.Result} (h : Course run x t r)
    (hloaded : ∀ child, Loaded t child → callable child) :
    x.Tells run callable r (eventsOf t) := by
  induction h with
  | @run w vars startedAt finishedAt startedMs endedMs t v q result _ hannounce ih =>
    obtain ⟨record, rfl⟩ := Session.ends_announceEnd hannounce
    refine ⟨eventsOf t, _, by simp, ih fun child h => hloaded child ?_, rfl,
      Session.closes_closing rfl rfl rfl⟩
    exact h.mono fun x hx => by simp [hx]
  | walk _ _ ih => exact ih hloaded
  | startless | forked => exact .arrival
  | arrived | halted | exhausted | lost => exact .arrival
  | broken hroom htarget h ih | stopped hroom htarget h hend ih =>
    have hstep := ih fun child h => hloaded child (h.mono (List.subset_cons_self ..))
    have htold := Story.of_target htarget hstep .arrival
    rwa [List.append_nil] at htold
  | onward hroom htarget h hend hrest ih ihrest =>
    rw [eventsOf_isCancelled, eventsOf_append]
    refine Story.of_target htarget (ih ?_) (ihrest ?_)
    · exact fun child h => hloaded child (h.mono fun x hx => by simp [hx])
    · exact fun child h => hloaded child (h.mono fun x hx => by simp [hx])
  | idle => exact fun _ => .finished
  | failed h ih => exact fun hnumber => (ih hloaded).alone (by omega)
  | last h hlast ih => exact fun hnumber => (ih hloaded).alone (by omega)
  | again h hleft hbreak hrest ih ihrest =>
    intro hnumber
    rw [eventsOf_append]
    refine (ih ?_).followed (by omega) (ihrest ?_ (by omega)) ?_
    · exact fun child h => hloaded child (h.mono (List.subset_append_left ..))
    · exact fun child h => hloaded child (h.mono (List.subset_append_right ..))
    · intro hcancelled
      cases hcancelled
  | refused => exact .inl ⟨rfl, rfl⟩
  | fatal h hfatal ih =>
    rw [eventsOf_sleep, Session.eventsOf_bracket]
    refine .inr ⟨_, _, _, _, ih ?_, rfl⟩
    exact fun child h => hloaded child (h.mono fun x hx => by simp [Session.bracket, hx])
  | bearable h hfatal hreport ih =>
    rw [eventsOf_append, eventsOf_append, eventsOf_sleep, Session.eventsOf_bracket,
      Session.eventsOf_reportFailure hreport, List.nil_append, eventsOf_sleep, eventsOf_nil,
      List.append_nil]
    refine .inr ⟨_, _, _, _, ih ?_, rfl⟩
    exact fun child h => hloaded child (h.mono fun x hx => by simp [Session.bracket, hx])
  | nameless => exact .quiet
  | returned hkind hid h ih | thrown hkind hid h ih =>
    rcases ih hloaded with hquiet | ⟨below, child, rfl, hchild, hwalk⟩
    · rw [hquiet]
      exact .quiet
    · exact .call hkind hchild hwalk
  | performed hkind h =>
    rw [eventsOf_perform h]
    exact .quiet
  | unperformed hkind h =>
    rw [eventsOf_perform h]
    exact .quiet
  | tooDeep | storeless | unloaded | missing => exact .inl rfl
  | @finished levels depth id child p q t hstore hdepth h ih =>
    refine .inr ⟨levels, child, rfl, hloaded child ⟨id, by simp⟩, ?_⟩
    have hwalk : Story run callable (.walk levels child) (eventsOf t) :=
      ih fun child h => hloaded child (h.mono fun x hx => by simp [hx])
    simpa using hwalk
  | @unfinished levels depth id child p q t e hstore hdepth h ih =>
    refine .inr ⟨levels, child, rfl, hloaded child ⟨id, by simp⟩, ?_⟩
    have hwalk : Story run callable (.walk levels child) (eventsOf t) :=
      ih fun child h => hloaded child (h.mono fun x hx => by simp [hx])
    simpa using hwalk

namespace Session

/-- Every run tells a well-bracketed story between its start and its end. -/
theorem story_of_execute (run : Session) (w : Workflow) (vars : Variables) {t : List Exchange}
    {r : RunRecord} (h : (run.execute w vars).Ends t r) :
    ∃ story closing,
      eventsOf t = .runStarted run.device w.id w.name r.startedAt :: story ++ [closing] ∧
      Story run (Loaded t) (.walk run.rig.settings.maxNestingDepth w) story ∧
      deepest 0 story ≤ run.rig.settings.maxNestingDepth + 1 ∧
      r.workflowId = w.id ∧ r.Closes run.device closing := by
  obtain ⟨story, closing, hevents, hstory, hid, hclosing⟩ :=
    (course_execute h).tells fun child h => h
  exact ⟨story, closing, hevents, hstory, hstory.deepest_le, hid, hclosing⟩

/-- A workflow that pauses and then calls itself twice. -/
def rounds : Workflow :=
  .ofSteps "rounds"
    [(Step.new "start" .start).andThen "pause",
      (Step.new "pause" (.wait (some 5))).andThen "call",
      { Step.new "call" (.subWorkflow (some "rounds")) with loopCount := 2 }]

/-- A rehearsal that allows one level of calls and three steps. -/
def threeSteps : Rehearsal.Cast where
  settings := { Settings.default with maxSteps := 3, maxNestingDepth := 1 }
  device := .dryRun
  player := .absent
  screen := .absent
  store := .memory (Dict.empty.insert "rounds" rounds)
  logsEvents := false
  breaksAtEndOf := none

/-- The story of a run that calls itself until it has used up its steps. -/
theorem story_of_rounds :
    ∃ t r story closing, ((⟨threeSteps.rig, "d"⟩ : Session).execute rounds Dict.empty).Ends t r ∧
      eventsOf t = .runStarted "d" "rounds" "rounds" r.startedAt :: story ++ [closing] ∧
      Story ⟨threeSteps.rig, "d"⟩ (Loaded t) (.walk 1 rounds) story ∧
      deepest 0 (eventsOf t) = 2 ∧ r.Closes "d" closing ∧
      r.status = .error := by
  let run : Session := ⟨threeSteps.rig, "d"⟩
  have hends := threeSteps.ends_history "d" (run.execute rounds Dict.empty) (.opening .empty)
  obtain ⟨story, closing, hevents, hstory, _, _, hclosing⟩ :=
    story_of_execute run rounds Dict.empty hends
  refine ⟨_, _, story, closing, hends, hevents, hstory, ?_, hclosing, ?_⟩
  · decide +kernel
  · decide +kernel

end Session

end

/-! ## Bracketed events -/

section

/-- An event tells neither the start nor the end of an iteration. -/
def Event.IsAside : Event → Prop
  | .stepStarted _ | .stepEnded .. => False
  | .runStarted .. | .runCompleted .. | .runFailed .. => True

/-- Every iteration that starts ends, after those that have started since. -/
inductive Bracketed : List Event → Prop where
  | nil : Bracketed []
  | aside {e : Event} {rest : List Event} (he : e.IsAside) (hrest : Bracketed rest) :
      Bracketed (e :: rest)
  | iteration {i : Iteration} {success : Bool} {durationMs : Nat} {error : Option String}
      {inner rest : List Event} (hinner : Bracketed inner) (hrest : Bracketed rest) :
      Bracketed (.stepStarted i :: inner ++ .stepEnded i success durationMs error :: rest)

variable {run : Session} {callable : Workflow → Prop} {es rest : List Event}

theorem Bracketed.append (h : Bracketed es) (hrest : Bracketed rest) : Bracketed (es ++ rest) := by
  induction h with
  | nil => exact hrest
  | aside he _ ih => exact .aside he ih
  | iteration hinner _ _ ih =>
    rw [List.append_assoc]
    exact .iteration hinner ih

theorem Story.bracketed {part : Part} (h : Story run callable part es) : Bracketed es := by
  induction h with
  | arrival | finished | quiet => exact .nil
  | dispatch _ _ _ ih ihrest => exact ih.append ihrest
  | iteration _ _ _ ih ihrest => exact .iteration ih ihrest
  | call _ _ _ ih => exact ih

/-- The events of a run are bracketed. -/
theorem Session.bracketed_of_execute {w : Workflow} {vars : Variables} {t : List Exchange}
    {r : RunRecord} (h : (run.execute w vars).Ends t r) : Bracketed (eventsOf t) := by
  obtain ⟨story, closing, hevents, hstory, _, hclosing⟩ :=
    (course_execute h).tells fun child hchild => hchild
  have hend : closing.IsAside := by
    cases hclosing with
    | failed => trivial
    | completed => trivial
  rw [hevents]
  exact .aside trivial (hstory.bracketed.append (.aside hend .nil))

end

end DeviceFlow
