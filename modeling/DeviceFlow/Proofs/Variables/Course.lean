import DeviceFlow.Proofs.Variables.Frame

/-!
# Variables along a course

Each rule for the courses of a run is looked at once for what it does to the variables: the walk
adds defaults, a performed step writes, and an isolated call gives back what its caller has had.
-/

namespace DeviceFlow

variable {run : Session} {name : String} {x y : Piece} {b t u : List Exchange}

/-- No piece takes away a variable that it finds. -/
theorem Course.contains_varsAfter {r : x.Result} (h : Course run x t r)
    (hname : x.varsBefore.contains name = true) : (x.varsAfter r).contains name = true := by
  induction h with
  | run _ _ ih => exact ih hname
  | @walk _ w _ _ _ _ _ _ ih => exact ih (Variables.contains_seed w.vars hname)
  | @startless _ w | @forked _ w => exact Variables.contains_seed w.vars hname
  | broken _ _ _ ih | stopped _ _ _ _ ih => exact ih hname
  | onward _ _ _ _ _ ih ihrest => exact ihrest (ih hname)
  | failed _ ih | last _ _ ih => exact ih hname
  | again _ _ _ _ ih ihrest => exact ihrest (ih hname)
  | fatal _ _ ih | bearable _ _ _ ih => exact ih hname
  | returned _ _ _ ih | thrown _ _ _ ih => exact ih hname
  | performed _ h =>
    have hwritten := (Plan.Keeps.follows (Step.writes_perform ..) h).2
    exact Variables.Written.contains hwritten hname
  | finished _ _ _ ih | unfinished _ _ _ ih =>
    unfold Piece.varsAfter Session.Progress.afterCall
    cases run.rig.settings.scope with
    | shared => exact ih hname
    | isolated => exact hname
  | _ => exact hname

/-- A step that is performed leaves a name as it is, if it is spared. -/
theorem Course.get?_of_performed {levels : Nat} {s : Step} {p : Progress} {outcome : StepOutcome}
    {vars : Variables} (hkind : ∀ id, s.kind ≠ .subWorkflow id)
    (h : (s.perform run.rig p.vars).run.Ends t (.ok (outcome, vars)))
    (hspares : (Piece.attempt levels s p).Spares run name t) :
    vars.get? name = p.vars.get? name := by
  have hwritten : p.vars.Written s.kind.written? vars :=
    (Plan.Keeps.follows (Step.writes_perform ..) h).2
  have hsuits : outcome.Suits s.kind := (Plan.Keeps.follows (Step.leaves_perform ..) h).2
  refine hwritten.get?_eq fun hname => hspares (Piece.Meets.here ?_)
  have hends : (run.executeStep (run.call levels) s p).Ends t _ :=
    (Course.performed hkind h).ends
  have hwrites : run.Writes levels name (.attempt levels s p) (t ++ []) :=
    .intro [] (fun _ => rfl) hname hends hsuits.1
  rwa [List.append_nil] at hwrites

/-- The exchanges of an iteration before and after the execution of its step. -/
theorem Session.sleep_cons_bracket (run : Session) (w : Workflow) (s : Step)
    (number startedAt endedAt : Nat) (outcome : StepOutcome) (t v : List Exchange) :
    ⟨.sleep s.preWaitMs.toNat, true⟩ ::
        run.bracket w s number startedAt endedAt outcome t ++ v =
      [⟨.sleep s.preWaitMs.toNat, true⟩,
        ⟨.emit (.stepStarted (run.iteration w s number)), ()⟩,
        ⟨.log (.debug .run s!"Running step '{s.id}' ({s.typeName}) iteration {number}"), ()⟩,
        ⟨.clock, startedAt⟩] ++ (t ++ (⟨.clock, endedAt⟩ ::
          ⟨.emit (.stepEnded (run.iteration w s number) (!outcome.isFailure)
            (endedAt - startedAt) outcome.errorMessage), ()⟩ :: v)) := by
  simp [bracket]

/-- After a call, the variables are those that the called workflow has left if it shares them, and
    otherwise those before the call. -/
theorem Session.get?_afterCall {levels : Nat} {id : String} {child : Workflow} {p q : Progress}
    (hcall : Begins run (.call (levels + 1) id p) b (.walk levels child p))
    (hwalk : (Piece.walk levels child p).Spares run name t →
      q.vars.get? name = p.vars.untouched (child :: run.enteredAlong t) name)
    (hspares : (Piece.call (levels + 1) id p).Spares run name (b ++ (t ++ u)))
    (hloaded : loadedAlong (b ++ (t ++ u)) = child :: loadedAlong t) :
    (Progress.afterCall run.rig.settings.scope p q).vars.get? name =
      p.vars.untouched (run.enteredAlong (b ++ (t ++ u))) name := by
  unfold Progress.afterCall enteredAlong at *
  rw [hloaded]
  cases hscope : run.rig.settings.scope with
  | shared =>
    rw [hscope] at hwalk
    exact hwalk (hcall.spares (by simp [hscope]) hspares)
  | isolated => exact (Variables.untouched_nil ..).symm

/-- A name that no step of a piece writes to keeps its value, or gets the first default for it
    among those of the workflows that are entered. -/
theorem Course.get?_varsAfter {r : x.Result} (h : Course run x t r)
    (hspares : x.Spares run name t) :
    (x.varsAfter r).get? name = x.varsBefore.untouched (x.entered run t) name := by
  induction h with
  | @run w vars startedAt finishedAt startedMs endedMs t v q result _ hannounce ih =>
    obtain ⟨record, rfl⟩ := Session.ends_announceEnd hannounce
    have hbegins : Begins run (.run w vars) _ _ := .run w vars startedAt startedMs
    have hwalk :=
      ih (hbegins.spares (fun _ => rfl) (by simpa only [List.append_assoc] using hspares))
    refine hwalk.trans (congrArg (Variables.untouched vars · name) (congrArg (w :: ·) ?_))
    exact run.enteredAlong_congr (by simp [loadedAlong_cons, Exchange.loaded?])
  | walk hstart h ih =>
    have honward := ih ((Begins.walk hstart).spares_all (fun _ => rfl) hspares)
    exact honward.trans (Variables.untouched_seed ..)
  | @startless levels w p | @forked levels w p =>
    have hentered := run.enteredAlong_eq_nil (t := []) rfl
    have hseeded := Variables.untouched_seed p.vars w [] name
    rw [Variables.untouched_nil] at hseeded
    rw [Piece.entered, hentered]
    exact hseeded
  | arrived | halted | exhausted | lost | idle | refused | nameless | tooDeep | storeless
  | unloaded | missing =>
    rw [Piece.entered, run.enteredAlong_eq_nil (by rfl)]
    exact (Variables.untouched_nil ..).symm
  | broken hroom htarget h ih | stopped hroom htarget h hend ih =>
    have hstep := ih ((Begins.onward hroom htarget).spares_all (fun _ => rfl) hspares)
    refine hstep.trans (congrArg (Variables.untouched _ · name) ?_)
    exact run.enteredAlong_congr (by simp [loadedAlong_cons, Exchange.loaded?])
  | @onward levels room w id s p q t u outcome r hroom htarget h hend hrest ih ihrest =>
    have hstep := ih ((Begins.onward hroom htarget).spares (fun _ => rfl) hspares)
    have hnext := ihrest
      ((Begins.next hroom htarget h.ends hend).spares_all (fun _ => rfl) hspares)
    refine (hnext.trans (Variables.untouched_append hstep)).trans
      (congrArg (Variables.untouched _ · name) ?_)
    exact (run.enteredAlong_append t u).symm.trans
      (run.enteredAlong_congr (by simp [loadedAlong_cons, Exchange.loaded?]))
  | failed h ih | last h hlast ih => exact ih (Begins.repetition.spares_all (fun _ => rfl) hspares)
  | @again levels w s left number p q t u outcome r h hleft hbreak hrest ih ihrest =>
    have honce := ih (Begins.repetition.spares (b := []) (fun _ => rfl) hspares)
    have hagain := ihrest ((Begins.again h.ends hleft hbreak).spares_all (fun _ => rfl) hspares)
    refine (hagain.trans (Variables.untouched_append honce)).trans
      (congrArg (Variables.untouched _ · name) ?_)
    exact (run.enteredAlong_append t u).symm
  | @fatal levels w s number startedAt endedAt p q t outcome e h hfatal ih =>
    rw [← List.append_nil (_ :: _), run.sleep_cons_bracket] at hspares
    have hbegins : Begins run (.iteration levels w s number p) _ _ :=
      .iteration levels w s number p startedAt
    refine (ih (hbegins.spares (fun _ => rfl) hspares)).trans
      (congrArg (Variables.untouched _ · name) ?_)
    exact run.enteredAlong_congr
      (by simp [loadedAlong_cons, Exchange.loaded?, run.loadedAlong_bracket])
  | @bearable levels w s number startedAt endedAt p q t v outcome whole h hfatal hreport ih =>
    rw [run.sleep_cons_bracket] at hspares
    have hbegins : Begins run (.iteration levels w s number p) _ _ :=
      .iteration levels w s number p startedAt
    refine (ih (hbegins.spares (fun _ => rfl) hspares)).trans
      (congrArg (Variables.untouched _ · name) ?_)
    exact run.enteredAlong_congr (by simp [loadedAlong_cons, Exchange.loaded?,
      run.loadedAlong_bracket, Session.loadedAlong_reportFailure hreport])
  | returned hkind hid h ih | thrown hkind hid h ih =>
    exact ih ((Begins.attempt hkind hid).spares_all (fun _ => rfl) hspares)
  | performed hkind h =>
    rw [Piece.entered, run.enteredAlong_eq_nil (loadedAlong_perform h)]
    exact (Course.get?_of_performed hkind h hspares).trans (Variables.untouched_nil ..).symm
  | unperformed hkind h =>
    rw [Piece.entered, run.enteredAlong_eq_nil (loadedAlong_perform h)]
    exact (Variables.untouched_nil ..).symm
  | finished hstore hdepth h ih =>
    rw [List.append_assoc] at hspares ⊢
    exact Session.get?_afterCall (.call _ hstore hdepth) ih hspares
      (by simp [loadedAlong_cons, Exchange.loaded?])
  | unfinished hstore hdepth h ih =>
    rw [← List.append_nil (_ ++ _), List.append_assoc] at hspares ⊢
    exact Session.get?_afterCall (.call _ hstore hdepth) ih hspares
      (by simp [loadedAlong_cons, Exchange.loaded?])

end DeviceFlow
