import DeviceFlow.Proofs.Failure.Run
import DeviceFlow.Proofs.Nesting.Adequate

/-!
# The limit on the steps

No piece dispatches more steps than the run is allowed, and a run that fails because of the limit
has used it up: on some level there is a walk that has come to a next step with nothing left.
-/

namespace DeviceFlow

/-- Texts that are equal begin with the same characters. -/
theorem take_eq_of_append_eq {a b c d : String} (k : Nat) (h : a ++ b = c ++ d)
    (ha : k ≤ a.toList.length) (hc : k ≤ c.toList.length) :
    a.toList.take k = c.toList.take k := by
  have hchars := congrArg (fun s => s.toList.take k) h
  simpa [List.take_append_of_le_length, ha, hc] using hchars

theorem eq_of_repr_eq {m n : Nat} (h : m.repr = n.repr) : m = n := by
  have hdigits := congrArg (fun s => Nat.ofDigitChars 10 s.toList 0) h
  simpa using hdigits

/-- The text of the error about the limit says that it is this error, and what the limit is. -/
theorem RunError.eq_of_message_eq {e : RunError} {n : Nat}
    (h : e.message = (RunError.stepBudgetExceeded n).message) : e = .stepBudgetExceeded n := by
  -- The text of any other error differs in its first six characters.
  have hbegins : ∀ a b : String, e.message = a ++ b → 6 ≤ a.toList.length →
      a.toList.take 6 = "step budget exceeded (".toList.take 6 := by
    intro a b hab hlength
    have htext : a ++ b = "step budget exceeded (" ++ (toString n ++ " steps)") := by
      rw [← hab, h, ← String.append_assoc]
      rfl
    exact take_eq_of_append_eq 6 htext hlength (by decide)
  cases e with
  | stepBudgetExceeded m =>
    have htext : "step budget exceeded (" ++ m.repr ++ " steps)" =
        "step budget exceeded (" ++ n.repr ++ " steps)" := h
    have hchars := congrArg String.toList htext
    simp only [String.toList_append, List.append_assoc] at hchars
    have hdigits := List.append_cancel_right (List.append_cancel_left hchars)
    rw [eq_of_repr_eq (String.toList_injective hdigits)]
  | alreadyRunning device =>
    have hfirst := hbegins "a workflow is already running on device '" (device ++ "'")
      (String.append_assoc ..) (by decide)
    exact absurd hfirst (by decide)
  | noStartStep id =>
    have hfirst := hbegins "workflow '" (id ++ "' has no start step")
      (String.append_assoc ..) (by decide)
    exact absurd hfirst (by decide)
  | multipleStartSteps id count =>
    have hfirst := hbegins "workflow '" (id ++ ("' has " ++ (toString count ++ " start steps")))
      (by simp only [← String.append_assoc]; rfl) (by decide)
    exact absurd hfirst (by decide)
  | corruptGraph id step =>
    have hfirst := hbegins "corrupt graph: step '"
      (step ++ ("' not found in workflow '" ++ (id ++ "'")))
      (by simp only [← String.append_assoc]; rfl) (by decide)
    exact absurd hfirst (by decide)
  | stepFailed id cause =>
    have hfirst := hbegins "step '" (id ++ ("' failed: " ++ cause.message))
      (by simp only [← String.append_assoc]; rfl) (by decide)
    exact absurd hfirst (by decide)
  | cancelled => exact absurd (hbegins "cancelled" "" rfl (by decide)) (by decide)

variable {run : Session}

/-- The number of dispatched steps stays within the limit. -/
theorem Course.stepsAfter_le {x : Piece} {t : List Exchange} {r : x.Result}
    (h : Course run x t r) (hx : x.stepsBefore ≤ run.rig.settings.maxSteps) :
    x.stepsAfter r ≤ run.rig.settings.maxSteps := by
  induction h with
  | run _ _ ih => exact ih (Nat.zero_le _)
  | walk _ _ ih => exact ih hx
  | broken hroom _ _ ih | stopped hroom _ _ _ ih => exact ih hroom
  | onward hroom _ _ _ _ ih ihrest => exact ihrest (ih hroom)
  | failed _ ih | last _ _ ih => exact ih hx
  | again _ _ _ _ ih ihrest => exact ihrest (ih hx)
  | fatal _ _ ih | bearable _ _ _ ih => exact ih hx
  | returned _ _ _ ih | thrown _ _ _ ih => exact ih hx
  | finished _ _ _ ih | unfinished _ _ _ ih =>
    exact Nat.le_trans (Nat.le_of_eq (Session.Progress.steps_afterCall ..)) (ih hx)
  | _ => exact hx

/-- A walk has a next step when all the steps of the run have been dispatched. -/
inductive Exhaustion (run : Session) : Piece → List Exchange → Prop where
  | intro {levels room : Nat} {w : Workflow} {id : String} {p : Progress} {t : List Exchange}
      (hsteps : p.steps = run.rig.settings.maxSteps) :
      Exhaustion run (.onward levels w room (some id) p) (⟨.isCancelled, false⟩ :: t)

theorem Exhaustion.append {x : Piece} {t u : List Exchange} (h : Exhaustion run x t) :
    Exhaustion run x (t ++ u) := by
  cases h with
  | intro hsteps => exact .intro hsteps

/-- What is to be shown of a piece that has failed because of the limit. -/
def Piece.Exhausts (run : Session) (x : Piece) (t : List Exchange) (r : x.Result) (n : Nat) :
    Prop :=
  n = run.rig.settings.maxSteps ∧ x.stepsAfter r = run.rig.settings.maxSteps ∧
    x.Meets run (Exhaustion run) t

namespace Session

theorem result_of_conclusion {result : Except RunError Unit} {n : Nat}
    (h : (conclusion result).2 = some (RunError.stepBudgetExceeded n).message) :
    result = .error (.stepBudgetExceeded n) := by
  unfold conclusion at h
  split at h
  · cases h
  · cases h
  · rw [RunError.eq_of_message_eq (Option.some.inj h)]

/-- An execution of a step ends the run because of the limit only if it hands the error on. -/
theorem error_of_fatalError? {s : Step} {outcome : StepOutcome} {n : Nat}
    (h : fatalError? s outcome = some (.stepBudgetExceeded n)) :
    outcome.error = some (.aborted (.stepBudgetExceeded n)) := by
  unfold fatalError? at h
  split at h
  · cases h
  · cases h
  · rename_i cause hcause
    rw [hcause, Option.some.inj h]
  · split at h
    · cases h
    · cases h

theorem eq_of_asStepError {id : String} {e : RunError} {n : Nat}
    (h : asStepError id e = .aborted (.stepBudgetExceeded n)) : e = .stepBudgetExceeded n := by
  unfold asStepError at h
  split at h
  · cases h
  · split at h
    · exact StepError.aborted.inj h
    · cases h

end Session

/-- A piece that fails because of the limit has met a walk that has come up against it. -/
theorem Course.exhausts {x : Piece} {t : List Exchange} {r : x.Result} {n : Nat}
    (h : Course run x t r) (hx : x.stepsBefore ≤ run.rig.settings.maxSteps)
    (hfails : x.FailsWith r (.stepBudgetExceeded n)) : x.Exhausts run t r n := by
  induction h with
  | @run w vars startedAt finishedAt startedMs endedMs t v q result hwalk hannounce ih =>
    obtain rfl := Session.result_of_conclusion hfails.2
    obtain ⟨hn, hsteps, hmet⟩ := ih (Nat.zero_le _) rfl
    have hmet := (Begins.run w vars startedAt startedMs).meets hmet
    exact ⟨hn, hsteps, (hmet.append Exhaustion.append).append Exhaustion.append⟩
  | walk hstart h ih =>
    obtain ⟨hn, hsteps, hmet⟩ := ih hx hfails
    exact ⟨hn, hsteps, (Begins.walk hstart).meets hmet⟩
  | startless | forked | halted | lost | arrived => cases hfails
  | exhausted hlimit =>
    have hsteps := Nat.le_antisymm hx hlimit
    cases hfails
    exact ⟨rfl, hsteps, .here (.intro hsteps)⟩
  | broken hroom htarget h ih =>
    cases hfails
    obtain ⟨hn, hsteps, hmet⟩ := ih hroom rfl
    exact ⟨hn, hsteps, (Begins.onward hroom htarget).meets hmet⟩
  | stopped hroom htarget h hend ih =>
    cases hfails
    unfold Session.endError? at hend
    split at hend
    · obtain ⟨cause, _, habsurd⟩ := Option.map_eq_some_iff.mp hend
      cases habsurd
    · cases hend
  | onward hroom htarget h hend hrest ih ihrest =>
    obtain ⟨hn, hsteps, hmet⟩ := ihrest (h.stepsAfter_le hroom) hfails
    exact ⟨hn, hsteps, (Begins.next hroom htarget h.ends hend).meets hmet⟩
  | idle => cases hfails
  | failed h ih =>
    obtain ⟨hn, hsteps, hmet⟩ := ih hx hfails
    exact ⟨hn, hsteps, Begins.repetition.meets hmet⟩
  | last h hlast ih => cases hfails
  | again h hleft hbreak hrest ih ihrest =>
    obtain ⟨hn, hsteps, hmet⟩ := ihrest (h.stepsAfter_le hx) hfails
    exact ⟨hn, hsteps, (Begins.again h.ends hleft hbreak).meets hmet⟩
  | refused => cases hfails
  | @fatal levels w s number startedAt endedAt p q t outcome e h hfatal ih =>
    cases hfails
    obtain ⟨hn, hsteps, hmet⟩ := ih hx hfatal
    exact ⟨hn, hsteps,
      ((Begins.iteration levels w s number p startedAt).meets hmet).append Exhaustion.append⟩
  | @bearable levels w s number startedAt endedAt p q t v outcome whole h hfatal hreport ih =>
    cases whole with
    | false => cases hfails
    | true => cases hfails
  | nameless hkind hid => cases hfails
  | returned hkind hid h ih => cases hfails
  | thrown hkind hid h ih =>
    obtain rfl := Option.some.inj (Session.error_of_fatalError? hfails)
    obtain ⟨hn, hsteps, hmet⟩ := ih hx rfl
    exact ⟨hn, hsteps, (Begins.attempt hkind hid).meets hmet⟩
  | @performed levels s p t outcome vars hkind h =>
    obtain ⟨_, hsuccess⟩ := Plan.Keeps.follows (Step.modest_perform run.rig s p.vars) h
    have hnone : outcome.error = none := hsuccess
    rw [Session.error_of_fatalError? hfails] at hnone
    cases hnone
  | @unperformed levels s p t e hkind h =>
    obtain ⟨_, hown⟩ := Plan.Keeps.follows (Step.modest_perform run.rig s p.vars) h
    obtain rfl := Option.some.inj (Session.error_of_fatalError? hfails)
    exact hown.elim
  | tooDeep | storeless | unloaded | missing => cases hfails
  | finished => cases hfails
  | @unfinished levels depth id child p q t e hstore hdepth h ih =>
    obtain rfl := Session.eq_of_asStepError (Except.error.inj hfails)
    obtain ⟨hn, hsteps, hmet⟩ := ih hx rfl
    exact ⟨hn, (Session.Progress.steps_afterCall ..).trans hsteps,
      (Begins.call child hstore hdepth).meets hmet⟩

end DeviceFlow
