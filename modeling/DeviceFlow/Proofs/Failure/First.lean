import DeviceFlow.Proofs.Failure.Level
import DeviceFlow.Proofs.Failure.Run

/-!
# The first failure ends a strict run

The main statement about runs without any wiring for failures: after the first iteration that ends
with a failure, on whatever level, the run does not act any more; and it ends with the error of the
step that has failed, as the calling steps hand it on, unless it is cancelled before that.
-/

namespace DeviceFlow

/-- The event that an iteration has ended with a failure. -/
def Exchange.failure (i : Iteration) (durationMs : Nat) (text : Option String) : Exchange :=
  ⟨.emit (.stepEnded i false durationMs text), ()⟩

@[simp] theorem Exchange.request_failure (i : Iteration) (durationMs : Nat)
    (text : Option String) :
    (failure i durationMs text).request = .emit (.stepEnded i false durationMs text) := rfl

/-! ## Where a failure is told -/

section

variable {F : Exchange} {t u a c : List Exchange}

/-- An exchange in a sequence of traces is in one of them. -/
theorem append_split (h : t ++ u = a ++ F :: c) :
    (∃ d, c = d ++ u ∧ t = a ++ F :: d) ∨ ∃ d, a = t ++ d ∧ u = d ++ F :: c := by
  rcases List.append_eq_append_iff.mp h with ⟨d, rfl, hd⟩ | ⟨d, rfl, hd⟩
  · exact .inr ⟨d, rfl, hd⟩
  · cases d with
    | nil => exact .inr ⟨[], by simp, hd.symm⟩
    | cons x d =>
      obtain ⟨rfl, rfl⟩ := List.cons.inj hd
      exact .inl ⟨d, rfl, rfl⟩

theorem ne_append (ht : ∀ y ∈ t, y.request ≠ F.request) : t ≠ a ++ F :: c := by
  rintro rfl
  exact absurd rfl (ht F (by simp))

theorem append_split_right (ht : ∀ y ∈ t, y.request ≠ F.request) (h : t ++ u = a ++ F :: c) :
    ∃ d, a = t ++ d ∧ u = d ++ F :: c := by
  rcases append_split h with ⟨d, _, rfl⟩ | hright
  · exact absurd rfl (ht F (by simp))
  · exact hright

theorem append_split_left (hu : ∀ y ∈ u, y.request ≠ F.request) (h : t ++ u = a ++ F :: c) :
    ∃ d, c = d ++ u ∧ t = a ++ F :: d := by
  rcases append_split h with hleft | ⟨d, _, rfl⟩
  · exact hleft
  · exact absurd rfl (hu F (by simp))

end

namespace Piece

open Session (endError? asStepError conclusion)

/-- A piece has come to its end because of an error of the run. -/
def GivesUp : (x : Piece) → x.Result → RunError → Prop
  | .run .., r, e => (RunRecord.status r, RunRecord.error r) = conclusion (.error e)
  | .walk .., r, e | .onward .., r, e => Prod.snd r = .error e
  | .repetition _ _ s _ _ _, r, e | .iteration _ _ s _ _, r, e =>
    Prod.snd r = .error e ∨ ∃ outcome, Prod.snd r = .ok outcome ∧ endError? s outcome = some e
  | .attempt _ s _, r, e =>
    ∃ cause, StepOutcome.error (Prod.snd r) = some cause ∧ e = cause.toRunError s.id
  | .call _ id _, r, e => Prod.snd r = .error (asStepError id e)

/-- After the failure of a step in a piece, the piece does not act any more, and it ends with what
    the error has become on its level, unless it is cancelled. -/
def StopsAfter (run : Session) (x : Piece) (t u : List Exchange) (i : Iteration)
    (text : Option String) (r : x.Result) : Prop :=
  (∀ y ∈ u, y.request.acts = false) ∧
    ∃ calls cause e, x.Fails run t calls i.stepId cause ∧ text = some cause.message ∧
      (e = .cancelled ∨ e = (cause.toRunError i.stepId).pastAll calls) ∧ x.GivesUp r e

end Piece

variable {run : Session} {i : Iteration} {durationMs : Nat} {text : Option String}

/-- A piece stops after a failure in the piece that it begins with, if it gives up with it. -/
theorem Begins.stopsAfter {x y : Piece} {b t u v : List Exchange} {r : x.Result} {ry : y.Result}
    (h : Begins run x b y) (hy : y.StopsAfter run t u i text ry)
    (hv : ∀ z ∈ v, z.request.acts = false)
    (hr : ∀ e, y.GivesUp ry e →
      ∃ e', (e' = .cancelled ∨ e' = e.pastAll (x.calls y)) ∧ x.GivesUp r e') :
    x.StopsAfter run (b ++ t) (u ++ v) i text r := by
  obtain ⟨hu, calls, cause, e, hfails, htext, he, hgives⟩ := hy
  obtain ⟨e', he', hgives'⟩ := hr e hgives
  refine ⟨?_, x.calls y ++ calls, cause, e', h.fails hfails, htext, ?_, hgives'⟩
  · intro z hz
    rcases List.mem_append.mp hz with hz | hz
    · exact hu z hz
    · exact hv z hz
  · rcases he' with rfl | rfl
    · exact .inl rfl
    · rcases he with rfl | rfl
      · exact .inl (RunError.pastAll_cancelled _)
      · exact .inr (RunError.pastAll_append ..).symm

/-- The same when nothing is left after the inner piece. -/
theorem Begins.stopsAfter_last {x y : Piece} {b t u : List Exchange} {r : x.Result}
    {ry : y.Result} (h : Begins run x b y) (hy : y.StopsAfter run t u i text ry)
    (hr : ∀ e, y.GivesUp ry e → x.GivesUp r (e.pastAll (x.calls y))) :
    x.StopsAfter run (b ++ t) u i text r := by
  have hstops := h.stopsAfter (v := []) hy (by simp) fun e he => ⟨_, .inr rfl, hr e he⟩
  rwa [List.append_nil] at hstops

variable {levels : Nat} {w : Workflow} {s : Step} {p q : Progress} {outcome : StepOutcome}

/-- An iteration stops after the failure of its step, and after one in a workflow that the step
    calls. -/
theorem Session.stopsAfter_iteration {number startedAt endedAt : Nat}
    {a t u rest : List Exchange} {r : Progress × Except RunError StepOutcome}
    (hattempt : Course run (.attempt levels s p) t (q, outcome))
    (ih : ∀ {a u}, t = a ++ Exchange.failure i durationMs text :: u →
      (Piece.attempt levels s p).StopsAfter run a u i text (q, outcome))
    (hquiet : ∀ y ∈ rest, y.request.acts = false)
    (hnone : ∀ y ∈ rest, y.request ≠ (Exchange.failure i durationMs text).request)
    (hr : ∀ cause, outcome.error = some cause →
      ∃ e, (e = .cancelled ∨ e = cause.toRunError s.id) ∧
        (Piece.iteration levels w s number p).GivesUp r e)
    (hsplit : ⟨.sleep s.preWaitMs.toNat, true⟩ ::
      run.bracket w s number startedAt endedAt outcome t ++ rest =
        a ++ Exchange.failure i durationMs text :: u) :
    (Piece.iteration levels w s number p).StopsAfter run a u i text r := by
  have hbegins : Begins run (.iteration levels w s number p) _ _ :=
    .iteration levels w s number p startedAt
  have hshape : ⟨.sleep s.preWaitMs.toNat, true⟩ ::
      run.bracket w s number startedAt endedAt outcome t ++ rest =
        [⟨.sleep s.preWaitMs.toNat, true⟩,
          ⟨.emit (.stepStarted (run.iteration w s number)), ()⟩,
          ⟨.log (.debug .run s!"Running step '{s.id}' ({s.typeName}) iteration {number}"), ()⟩,
          ⟨.clock, startedAt⟩] ++ (t ++ ([⟨.clock, endedAt⟩] ++
            (⟨.emit (.stepEnded (run.iteration w s number) (!outcome.isFailure)
              (endedAt - startedAt) outcome.errorMessage), ()⟩ :: rest))) := by
    simp [Session.bracket]
  rw [hshape] at hsplit
  obtain ⟨a, rfl, hmain⟩ := append_split_right (by simp) hsplit
  rcases append_split hmain with ⟨d, rfl, hinner⟩ | ⟨d, rfl, hown⟩
  · refine hbegins.stopsAfter (ih hinner) ?_ ?_
    · intro z hz
      rcases List.mem_append.mp hz with hz | hz
      · rw [List.mem_singleton.mp hz]
        rfl
      · rcases List.mem_cons.mp hz with rfl | hz
        · rfl
        · exact hquiet z hz
    · intro e he
      obtain ⟨cause, hcause, rfl⟩ := he
      exact hr cause hcause
  · -- The failure is that of the step itself, which the clock has been read after.
    obtain ⟨d, rfl, htail⟩ := append_split_right (by simp) hown
    cases d with
    | cons x d =>
      obtain ⟨rfl, rfl⟩ := List.cons.inj htail
      exact absurd rfl (hnone _ (by simp))
    | nil =>
      obtain ⟨htold, rfl⟩ := List.cons.inj htail
      have hevent := congrArg Exchange.request htold
      simp only [Exchange.request_failure, Request.emit.injEq, Event.stepEnded.injEq] at hevent
      obtain ⟨rfl, hfailed, -, rfl⟩ := hevent
      have herror : ∃ cause, outcome.error = some cause := by
        simpa [StepOutcome.isFailure, Option.isSome_iff_exists] using hfailed
      obtain ⟨cause, hcause⟩ := herror
      obtain ⟨e, he, hgives⟩ := hr cause hcause
      refine ⟨hquiet, [], cause, e, ?_, ?_, he, hgives⟩
      · have hencloses : Encloses run (.iteration levels w s number p) _ _ (.attempt levels s p) :=
          .inside hbegins (.here _)
        rw [List.append_nil] at hencloses
        exact ⟨_, levels, s, p, t, q, outcome, endedAt, hencloses, hattempt.ends, hcause, rfl,
          rfl⟩
      · simp [StepOutcome.errorMessage, hcause]

/-- A report of a failure neither acts nor tells that an iteration has ended. -/
theorem Session.quiet_reportFailure {number : Nat} {v : List Exchange}
    (h : (reportFailure s number outcome).Ends v ()) :
    ∀ y ∈ v, y.request.acts = false ∧
      y.request ≠ (Exchange.failure i durationMs text).request :=
  (Plan.Keeps.follows (keeps_reportFailure (G := fun q => q.acts = false ∧ q ≠ _)
    (fun _ => ⟨rfl, by simp⟩) s number outcome) h).1

theorem Session.quiet_announceEnd {status : RunStatus} {error : Option String} {ms : Nat}
    {v : List Exchange} (h : (run.announceEnd w p status error ms).Ends v ()) :
    ∀ y ∈ v, y.request.acts = false ∧
      y.request ≠ (Exchange.failure i durationMs text).request :=
  (Plan.Keeps.follows (keeps_announceEnd (G := fun q => q.acts = false ∧ q ≠ _)
    (fun _ => ⟨rfl, by simp⟩) (fun _ => ⟨rfl, by simp⟩) ⟨rfl, by simp⟩) h).1

/-- A step that calls no workflow does not tell of a failure. -/
theorem Exchange.ne_failure_of_ofStep {t : List Exchange} (h : ∀ y ∈ t, y.request.OfStep) :
    ∀ y ∈ t, y.request ≠ (failure i durationMs text).request := by
  intro y hy hsame
  have hstep := h y hy
  rw [hsame] at hstep
  exact hstep

theorem Session.breaksLoop_of_endError? {e : RunError} (h : endError? s outcome = some e) :
    breaksLoop s outcome = true := by
  unfold endError? at h
  split at h
  · rename_i hstop
    obtain ⟨cause, hcause, _⟩ := Option.map_eq_some_iff.mp h
    simp [breaksLoop, StepOutcome.isFailure, hcause, hstop.2]
  · cases h

/-- Within strict workflows every piece stops after a failure in it. -/
theorem Course.stopsAfter {x : Piece} {t a u : List Exchange} {r : x.Result}
    (h : Course run x t r) (hx : x.BelongsTo Workflow.Strict)
    (hloaded : ∀ child, Loaded t child → child.Strict)
    (hsplit : t = a ++ Exchange.failure i durationMs text :: u) :
    x.StopsAfter run a u i text r := by
  induction h generalizing a u with
  | @run w vars startedAt finishedAt startedMs endedMs t v q result hwalk hannounce ih =>
    have hquiet : ∀ y ∈ v, y.request.acts = false ∧
        y.request ≠ (Exchange.failure i durationMs text).request :=
      Session.quiet_announceEnd hannounce
    have hends : ∀ y ∈ (⟨.clock, endedMs⟩ :: v ++ [⟨.date, finishedAt⟩] : List Exchange),
        y.request.acts = false ∧ y.request ≠ (Exchange.failure i durationMs text).request := by
      intro y hy
      rcases List.mem_append.mp hy with hy | hy
      · rcases List.mem_cons.mp hy with rfl | hy
        · exact ⟨rfl, by simp⟩
        · exact hquiet y hy
      · rw [List.mem_singleton.mp hy]
        exact ⟨rfl, by simp⟩
    rw [List.append_assoc, List.append_assoc] at hsplit
    obtain ⟨a, rfl, hmain⟩ := append_split_right (by simp) hsplit
    obtain ⟨d, rfl, hinner⟩ := append_split_left (fun y hy => (hends y hy).2) hmain
    have hwalked := ih hx (Loaded.forall_of_subset hloaded fun y hy => by simp [hy]) hinner
    refine (Begins.run w vars startedAt startedMs).stopsAfter hwalked
      (fun y hy => (hends y hy).1) ?_
    intro e he
    have hresult : result = .error e := he
    subst hresult
    exact ⟨e, .inr rfl, rfl⟩
  | walk hstart h ih =>
    exact (Begins.walk hstart).stopsAfter_last
      (ih ⟨hx, fun target hid => Workflow.leads_of_starts hstart hid⟩ hloaded hsplit)
      fun e he => he
  | startless | forked | idle | nameless | tooDeep | storeless => simp at hsplit
  | arrived | halted | exhausted | lost | refused | unloaded | missing =>
    exact absurd hsplit (ne_append (by simp))
  | @broken levels room w id s p q t e hroom htarget h ih =>
    obtain ⟨a, rfl, hinner⟩ :=
      append_split_right (t := [⟨.isCancelled, false⟩]) (by simp) hsplit
    have hrepetition := ih ⟨hx.1, (Workflow.mem_of_target? htarget).1⟩
      (Loaded.forall_of_subset hloaded (List.subset_cons_self ..)) hinner
    refine (Begins.onward hroom htarget).stopsAfter_last hrepetition ?_
    intro e' he
    rcases he with he | ⟨outcome, hok, _⟩
    · exact congrArg Except.error (Except.error.inj he)
    · cases hok
  | @stopped levels room w id s p q t outcome e hroom htarget h hend ih =>
    obtain ⟨a, rfl, hinner⟩ :=
      append_split_right (t := [⟨.isCancelled, false⟩]) (by simp) hsplit
    have hrepetition := ih ⟨hx.1, (Workflow.mem_of_target? htarget).1⟩
      (Loaded.forall_of_subset hloaded (List.subset_cons_self ..)) hinner
    refine (Begins.onward hroom htarget).stopsAfter_last hrepetition ?_
    intro e' he
    rcases he with he | ⟨outcome', hok, hend'⟩
    · cases he
    · cases hok
      rw [hend] at hend'
      exact congrArg Except.error (Option.some.inj hend')
  | @onward levels room w id s p q t u' outcome r hroom htarget h hend hrest ih ihrest =>
    obtain ⟨a, rfl, hmain⟩ :=
      append_split_right (t := [⟨.isCancelled, false⟩]) (by simp) hsplit
    rcases append_split hmain with ⟨d, _, hinner⟩ | ⟨d, rfl, hlater⟩
    · -- A failure in the step would have ended the walk.
      obtain ⟨_, _, _, e, _, _, _, hgives⟩ := ih ⟨hx.1, (Workflow.mem_of_target? htarget).1⟩
        (Loaded.forall_of_subset hloaded (fun y hy => by simp [hy])) hinner
      rcases hgives with he | ⟨outcome', hok, hend'⟩
      · cases he
      · cases hok
        rw [hend] at hend'
        cases hend'
    · have honward := ihrest ⟨hx.1, fun target hid => Workflow.leads_of_next htarget hid⟩
        (Loaded.forall_of_subset hloaded (fun y hy => by simp [hy])) hlater
      exact (Begins.next hroom htarget h.ends hend).stopsAfter_last honward fun e he => he
  | failed h ih | last h hlast ih =>
    exact Begins.repetition.stopsAfter_last (ih hx hloaded hsplit) fun e he => he
  | @again levels w s left number p q t u' outcome r h hleft hbreak hrest ih ihrest =>
    rcases append_split hsplit with ⟨d, _, hinner⟩ | ⟨d, rfl, hlater⟩
    · -- A failure in the iteration would have been the last one.
      obtain ⟨_, _, _, e, _, _, _, hgives⟩ :=
        ih hx (Loaded.forall_of_subset hloaded (List.subset_append_left ..)) hinner
      rcases hgives with he | ⟨outcome', hok, hend⟩
      · cases he
      · cases hok
        rw [Session.breaksLoop_of_endError? hend] at hbreak
        cases hbreak
    · have hrepetition := ihrest hx
        (Loaded.forall_of_subset hloaded (List.subset_append_right ..)) hlater
      exact (Begins.again h.ends hleft hbreak).stopsAfter_last hrepetition fun e he => he
  | @fatal levels w s number startedAt endedAt p q t outcome e h hfatal ih =>
    have hinner : t ⊆ ⟨.sleep s.preWaitMs.toNat, true⟩ ::
        run.bracket w s number startedAt endedAt outcome t := by
      intro y hy
      simp [Session.bracket, hy]
    have hquiet : ∀ y ∈ ([] : List Exchange), y.request.acts = false := by simp
    refine Session.stopsAfter_iteration h
      (fun hfails => ih ⟨_, hx⟩ (Loaded.forall_of_subset hloaded hinner) hfails) hquiet (by simp) ?_
      (by rw [List.append_nil]; exact hsplit)
    intro cause hcause
    exact ⟨e, .inr (Session.fatalError?_eq_toRunError hcause hfatal), .inl rfl⟩
  | @bearable levels w s number startedAt endedAt p q t v outcome whole h hfatal hreport ih =>
    have hinner : t ⊆ ⟨.sleep s.preWaitMs.toNat, true⟩ ::
        run.bracket w s number startedAt endedAt outcome t ++
          (v ++ [⟨.sleep s.postDelayMs.toNat, whole⟩]) := by
      intro y hy
      simp [Session.bracket, hy]
    have hquiet : ∀ y ∈ v ++ [⟨.sleep s.postDelayMs.toNat, whole⟩], y.request.acts = false ∧
        y.request ≠ (Exchange.failure i durationMs text).request := by
      intro y hy
      rcases List.mem_append.mp hy with hy | hy
      · exact Session.quiet_reportFailure hreport y hy
      · rw [List.mem_singleton.mp hy]
        exact ⟨rfl, by simp⟩
    refine Session.stopsAfter_iteration h
      (fun hfails => ih ⟨_, hx⟩ (Loaded.forall_of_subset hloaded hinner) hfails)
      (fun y hy => (hquiet y hy).1) (fun y hy => (hquiet y hy).2) ?_ hsplit
    intro cause hcause
    cases whole with
    | false => exact ⟨.cancelled, .inl rfl, .inl rfl⟩
    | true =>
      have hfailed : outcome = .failed cause := h.eq_failed hcause
      subst hfailed
      have hend := Session.endError?_of_strict (hx.1 s hx.2) hfatal
      exact ⟨_, .inr rfl, .inr ⟨_, rfl, hend⟩⟩
  | @returned levels s p q wiredId id t hkind hid h ih =>
    refine (Begins.attempt hkind hid).stopsAfter_last (ih trivial hloaded hsplit) ?_
    intro e he
    cases he
  | @thrown levels s p q wiredId id t e hkind hid h ih =>
    refine (Begins.attempt hkind hid).stopsAfter_last (ih trivial hloaded hsplit) ?_
    intro e' he
    have hsame : e = Session.asStepError _ e' := Except.error.inj he
    exact ⟨e, rfl, by rw [hsame]; rfl⟩
  | performed hkind h | unperformed hkind h =>
    have hmodest := (Plan.Keeps.follows (Step.modest_perform ..) h).1
    exact absurd hsplit (ne_append (Exchange.ne_failure_of_ofStep hmodest))
  | @finished levels depth id child p q t hstore hdepth h ih =>
    rw [List.append_assoc] at hsplit
    obtain ⟨a, rfl, hmain⟩ := append_split_right (by simp) hsplit
    obtain ⟨d, rfl, hinner⟩ := append_split_left (by simp) hmain
    obtain ⟨_, _, _, e, _, _, _, hgives⟩ := ih (hloaded child ⟨id, by simp⟩)
      (Loaded.forall_of_subset hloaded (fun y hy => by simp [hy])) hinner
    cases hgives
  | @unfinished levels depth id child p q t e hstore hdepth h ih =>
    obtain ⟨a, rfl, hinner⟩ := append_split_right (by simp) hsplit
    have hwalk := ih (hloaded child ⟨id, by simp⟩)
      (Loaded.forall_of_subset hloaded fun y hy => by simp [hy]) hinner
    refine (Begins.call child hstore hdepth).stopsAfter_last hwalk ?_
    intro e' he
    have hsame : e = e' := Except.error.inj he
    rw [hsame]
    rfl

theorem StepError.toRunError_of_not_isFatal {step : String} {cause : StepError}
    (hfatal : cause.isFatal = false) (hcancelled : cause ≠ .cancelled) :
    cause.toRunError step = .stepFailed step cause := by
  cases cause with
  | cancelled => exact absurd rfl hcancelled
  | aborted => cases hfatal
  | _ => rfl

namespace Session

/-- A run that has given up is cancelled, or fails with the text of its error. -/
theorem conclusion_of_ne_cancelled {e : RunError} (h : e ≠ .cancelled) :
    conclusion (.error e) = (.error, some e.message) := by
  cases e with
  | cancelled => exact absurd rfl h
  | _ => rfl

/-- A run that has given up is not completed. -/
theorem conclusion_error_ne (e : RunError) : (conclusion (.error e)).1 ≠ .completed := by
  cases e with
  | _ => nofun

/-- In a run of strict workflows, nothing acts any more after an iteration that has ended with a
    failure, and the run fails with the error of the step, the text of which is wrapped once for
    each call that the step lies in, unless the run is cancelled. So a run is completed only if
    all its iterations have succeeded. -/
theorem first_failure_ends_strict_run (run : Session) {w : Workflow} {vars : Variables}
    {t : List Exchange} {r : RunRecord} (h : (run.execute w vars).Ends t r) (hw : w.Strict)
    (hloaded : ∀ child, Loaded t child → child.Strict) :
    (∀ {a u i durationMs text}, t = a ++ Exchange.failure i durationMs text :: u →
      (∀ x ∈ u, x.request.acts = false) ∧
      ∃ calls cause, (Piece.run w vars).Fails run a calls i.stepId cause ∧
        text = some cause.message ∧
        (r.status = .cancelled ∨
          r.status = .error ∧ (cause.isFatal = false →
            r.error = some
              (calls.foldr CallSite.wrap (s!"step '{i.stepId}' failed: " ++ cause.message))))) ∧
    (r.status = .completed → ∀ i success durationMs text,
      (⟨.emit (.stepEnded i success durationMs text), ()⟩ : Exchange) ∈ t → success = true) := by
  have hstops : ∀ {a u i durationMs text}, t = a ++ Exchange.failure i durationMs text :: u →
      (Piece.run w vars).StopsAfter run a u i text r := fun hsplit =>
    (course_execute h).stopsAfter hw hloaded hsplit
  constructor
  · intro a u i durationMs text hsplit
    obtain ⟨hu, calls, cause, e, hfails, htext, he, hgives⟩ := hstops hsplit
    refine ⟨hu, calls, cause, hfails, htext, ?_⟩
    have hrecord : (r.status, r.error) = conclusion (.error e) := hgives
    by_cases hcancelled : e = .cancelled
    · left
      rw [hcancelled] at hrecord
      exact congrArg Prod.fst hrecord
    · right
      rw [conclusion_of_ne_cancelled hcancelled] at hrecord
      refine ⟨congrArg Prod.fst hrecord, ?_⟩
      intro hfatal
      have hpast := he.resolve_left hcancelled
      have hcause : cause ≠ .cancelled := by
        rintro rfl
        exact hcancelled (hpast.trans (RunError.pastAll_cancelled calls))
      rw [StepError.toRunError_of_not_isFatal hfatal hcause] at hpast
      have hmessage := (RunError.pastAll_of_not_isFatal calls
        (e := .stepFailed i.stepId cause) hfatal nofun).2.2
      rw [← hpast] at hmessage
      have herror : r.error = some e.message := congrArg Prod.snd hrecord
      rw [herror, hmessage]
      rfl
  · intro hcompleted i success durationMs text htold
    cases success with
    | true => rfl
    | false =>
      obtain ⟨a, u, hsplit⟩ := List.append_of_mem htold
      obtain ⟨_, calls, cause, e, _, _, _, hgives⟩ := hstops hsplit
      have hstatus : r.status = (conclusion (.error e)).1 := congrArg Prod.fst hgives
      rw [hcompleted] at hstatus
      exact absurd hstatus.symm (conclusion_error_ne e)

/-- A tap that is repeated, in a workflow of its own. -/
def taps : Workflow :=
  .ofSteps "taps" [(Step.new "start" .start).andThen "tap",
    { Step.new "tap" (.tap (some 1) (some 2)) with loopCount := 3 }]

/-- A workflow that calls the taps twice, unless it fails. -/
def tapsTwice : Workflow :=
  .ofSteps "tapsTwice" [(Step.new "start" .start).andThen "call",
    { (Step.new "call" (.subWorkflow (some "taps"))).andThen "wait" with loopCount := 2 },
    Step.new "wait" (.wait (some 5))]

/-- The first tap fails, and it is the only one. -/
theorem first_failure_ends_tapsTwice :
    tapsTwice.Strict ∧ taps.Strict ∧
    ∃ a u r, (storeOnly.execute tapsTwice Dict.empty).Ends
        (a ++ Exchange.failure ⟨"d", "taps", "tap", "tap", 1⟩ 0 (some "no screen") :: u) r ∧
      (∀ x ∈ u, x.request.acts = false) ∧ r.status = .error ∧
      r.error = some
        "step 'call' failed: sub-workflow 'taps' failed: step 'tap' failed: no screen" := by
  have htwice : tapsTwice.Strict := by decide
  have htaps : taps.Strict := by decide
  have hbefore : (storeOnly.execute tapsTwice Dict.empty).Follows _ _ :=
    .step (q := .date) (⟨2024, 1, 1, 0, 0, 0, 0⟩ : Timestamp) <|
    .step (q := .clock) (0 : Nat) <|
    .step (q := .log _) () <|
    .step (q := .emit _) () <|
    .step (q := .isCancelled) false <|
    .step (q := .sleep _) true <|
    .step (q := .emit _) () <|
    .step (q := .log _) () <|
    .step (q := .clock) (0 : Nat) <|
    .step (q := .load _) (.ok (some taps)) <|
    .step (q := .log _) () <|
    .step (q := .isCancelled) false <|
    .step (q := .sleep _) true <|
    .step (q := .emit _) () <|
    .step (q := .log _) () <|
    .step (q := .clock) (0 : Nat) <|
    .step (q := .perform _) (.error (.other "no screen")) <|
    .step (q := .clock) (0 : Nat) <| .here _
  have hends := hbefore.append <|
    .step (q := .emit _) () <|
    .step (q := .log _) () <|
    .step (q := .sleep _) true <|
    .step (q := .clock) (0 : Nat) <|
    .step (q := .emit _) () <|
    .step (q := .log _) () <|
    .step (q := .sleep _) true <|
    .step (q := .clock) (0 : Nat) <|
    .step (q := .log _) () <|
    .step (q := .emit _) () <|
    .step (q := .date) (⟨2024, 1, 1, 0, 0, 0, 0⟩ : Timestamp) <| .here _
  obtain ⟨hfirst, _⟩ := first_failure_ends_strict_run storeOnly hends htwice (by
    intro child hloaded
    have hlisted : child ∈ [taps] := hloaded.mem_filterMap
    rw [List.mem_singleton.mp hlisted]
    exact htaps)
  obtain ⟨hquiet, _⟩ := @hfirst _ _ ⟨"d", "taps", "tap", "tap", 1⟩ 0 (some "no screen") rfl
  refine ⟨htwice, htaps, _, _, _, hends, hquiet, rfl, ?_⟩
  decide +kernel

end Session

end DeviceFlow
