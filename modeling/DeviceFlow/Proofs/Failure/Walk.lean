import DeviceFlow.Proofs.Trace.Keeps
import DeviceFlow.Proofs.Trace.Perform

/-!
# Walks hand fatal errors on

When a part of a plan fails with a fatal error, what remains of the plan has to hand the error
on without acting any more. Plans that do so form chains: the remainders of all the plans
around the innermost one follow each other, and each hands on what it gets.

Each part of a walk hands on the fatal errors of the part that it begins with. Only calls
change their form, and each call undoes what the call below it has done.
-/

namespace DeviceFlow

/-- A request by which a run does not act. -/
def Request.Idle (q : Request) : Prop := q.acts = false

namespace Plan

variable {α β γ : Type} {P : α → RunError → Prop} {Q : β → RunError → Prop}
  {R : γ → RunError → Prop}

/-- After some exchanges a plan goes on with a part of it and a remainder; and when the part
    fails with a fatal error, the remainder hands the error on without acting. -/
def HandsOn (p : Plan α) (t : List Exchange) (q : Plan β) (P : α → RunError → Prop)
    (Q : β → RunError → Prop) : Prop :=
  ∃ rest : β → Plan α, p.Follows t (q >>= rest) ∧
    ∀ r e, e.isFatal = true → Q r e → (rest r).Keeps Request.Idle (P · e)

theorem HandsOn.refl (p : Plan α) : p.HandsOn [] p P P := by
  refine ⟨done, ?_, fun r e _ hr => hr⟩
  rw [bind_done]
  exact .here p

/-- The remainder of the inner plan is followed by that of the outer one. -/
theorem HandsOn.trans {p : Plan α} {q : Plan β} {r : Plan γ} {t u : List Exchange}
    (hp : p.HandsOn t q P Q) (hq : q.HandsOn u r Q R) : p.HandsOn (t ++ u) r P R := by
  obtain ⟨f, hpf, hf⟩ := hp
  obtain ⟨g, hqg, hg⟩ := hq
  refine ⟨fun c => g c >>= f, ?_, ?_⟩
  · rw [← bind_assoc]
    exact hpf.append (hqg.bind f)
  · intro c e he hc
    exact (hg c e he hc).bind fun b hb => hf b e he hb

/-- A sequence of plans goes on with the first of them. -/
theorem handsOn_bind (q : Plan β) {f : β → Plan α}
    (hf : ∀ r e, e.isFatal = true → Q r e → (f r).Keeps Request.Idle (P · e)) :
    (q >>= f).HandsOn [] q P Q :=
  ⟨f, .here _, hf⟩

/-- A sequence of plans goes on with the second one when the first one has ended. -/
theorem HandsOn.after {p : Plan γ} {f : γ → Plan α} {q : Plan β} {t u : List Exchange} {c : γ}
    (hp : p.Ends t c) (h : (f c).HandsOn u q P Q) : (p >>= f).HandsOn (t ++ u) q P Q := by
  obtain ⟨rest, hfollows, hrest⟩ := h
  exact ⟨rest, (hp.bind f).append hfollows, hrest⟩

/-- A request is answered first. -/
theorem HandsOn.ask {r : Request} (answer : r.Answer) {f : r.Answer → Plan α} {q : Plan β}
    {u : List Exchange} (h : (f answer).HandsOn u q P Q) :
    (request r >>= f).HandsOn (⟨r, answer⟩ :: u) q P Q :=
  HandsOn.after (ends_request.mpr rfl) h

/-- When the part has failed with a fatal error, the plan does not act in what is left of it,
    and fails with that error. -/
theorem HandsOn.follows {p rest : Plan α} {q : Plan β} {t u v : List Exchange} {b : β}
    {e : RunError} (h : p.HandsOn t q P Q) (he : e.isFatal = true) (hq : q.Ends u b) (hb : Q b e)
    (hp : p.Follows (t ++ (u ++ v)) rest) :
    (∀ x ∈ v, x.request.acts = false) ∧ ∀ a, rest = done a → P a e := by
  obtain ⟨f, hpf, hf⟩ := h
  have hleft : (f b).Follows v rest := (hq.bind f).of_append (hpf.of_append hp)
  obtain ⟨hidle, hkeeps⟩ := (hf b e he hb).follows hleft
  refine ⟨hidle, ?_⟩
  rintro a rfl
  exact hkeeps

end Plan

/-! ## The parts of a walk -/

/-- The run has ended with the text of an error. -/
def RunRecord.FailsWith (r : RunRecord) (e : RunError) : Prop :=
  r.status = .error ∧ r.error = some e.message

namespace Session

open Plan

variable {run : Session} {call : Call} {e : RunError}

/-- What a walk or a call of a workflow comes to is a failure with an error. -/
def FailsWith {ε α : Type} (r : Progress × Except ε α) (e : ε) : Prop := r.2 = .error e

/-- The execution of a step comes to an error that ends the run. -/
def EndsRunWith (s : Step) (r : Progress × StepOutcome) (e : RunError) : Prop :=
  fatalError? s r.2 = some e

theorem conclusion_of_isFatal (h : e.isFatal = true) :
    conclusion (.error e) = (.error, some e.message) := by
  cases e with
  | cancelled => simp [RunError.isFatal] at h
  | _ => rfl

theorem asStepError_of_isFatal (id : String) (h : e.isFatal = true) :
    asStepError id e = .aborted e := by
  cases e with
  | cancelled => simp [RunError.isFatal] at h
  | _ => simp [asStepError, h]

theorem handsOn_execute (w : Workflow) (vars : Variables) (startedAt : Timestamp)
    (startedMs : Nat) :
    (run.execute w vars).HandsOn
      [⟨.date, startedAt⟩, ⟨.clock, startedMs⟩,
        ⟨.log (.info .run
          s!"[{run.device}] Starting workflow '{w.name}' ({w.steps.length} steps)"), ()⟩,
        ⟨.emit (.runStarted run.device w.id w.name startedAt), ()⟩]
      (run.walk run.outermostCall w ⟨vars, 0⟩) RunRecord.FailsWith FailsWith := by
  unfold execute
  refine .ask (r := .date) startedAt ?_
  refine .ask (r := .clock) startedMs ?_
  refine .ask (r := .log _) () ?_
  refine .ask (r := .emit _) () ?_
  refine handsOn_bind _ ?_
  rintro ⟨q, r⟩ e he rfl
  simp [conclusion_of_isFatal he, announceEnd, Request.Idle, Request.acts, RunRecord.FailsWith]

theorem handsOn_walk {w : Workflow} {p : Progress} {start : Step} (h : w.starts = [start]) :
    (run.walk call w p).HandsOn []
      (run.walkFrom call w (run.rig.settings.maxSteps - p.steps)
        (wired start.connections.onSuccess) { p with vars := p.vars.seed w.vars })
      FailsWith FailsWith := by
  unfold walk
  simp only [h]
  exact .refl _

theorem handsOn_walkFrom {room : Nat} {w : Workflow} {id : String} {s : Step} {p : Progress}
    (hroom : p.steps < run.rig.settings.maxSteps) (htarget : w.target? id = some s) :
    (run.walkFrom call w (room + 1) (some id) p).HandsOn [⟨.isCancelled, false⟩]
      (run.iterate call w s s.iterations 1 { p with steps := p.steps + 1 })
      FailsWith FailsWith := by
  unfold walkFrom
  refine .after (ends_obstacle hroom) ?_
  simp only [htarget]
  refine handsOn_bind _ ?_
  rintro ⟨q, r⟩ e he rfl
  exact keeps_done.mpr rfl

theorem handsOn_walkFrom_next {room : Nat} {w : Workflow} {id : String} {s : Step}
    {p q : Progress} {t : List Exchange} {outcome : StepOutcome}
    (hroom : p.steps < run.rig.settings.maxSteps) (htarget : w.target? id = some s)
    (hends : (run.iterate call w s s.iterations 1 { p with steps := p.steps + 1 }).Ends t
      (q, .ok outcome))
    (hend : endError? s outcome = none) :
    (run.walkFrom call w (room + 1) (some id) p).HandsOn (⟨.isCancelled, false⟩ :: t)
      (run.walkFrom call w room (s.next outcome) q) FailsWith FailsWith := by
  rw [walkFrom.eq_def]
  refine .after (ends_obstacle hroom) ?_
  simp only [htarget]
  rw [← List.append_nil t]
  refine .after hends ?_
  simp only [hend]
  exact .refl _

theorem handsOn_iterate (w : Workflow) (s : Step) (left number : Nat) (p : Progress) :
    (run.iterate call w s (left + 1) number p).HandsOn [] (run.iterateOnce call w s number p)
      FailsWith FailsWith := by
  unfold iterate
  refine handsOn_bind _ ?_
  rintro ⟨q, r⟩ e he rfl
  exact keeps_done.mpr rfl

theorem handsOn_iterate_again {w : Workflow} {s : Step} {left number : Nat} {p q : Progress}
    {t : List Exchange} {outcome : StepOutcome}
    (hends : (run.iterateOnce call w s number p).Ends t (q, .ok outcome))
    (hleft : left ≠ 0) (hbreak : breaksLoop s outcome = false) :
    (run.iterate call w s (left + 1) number p).HandsOn t
      (run.iterate call w s left (number + 1) q) FailsWith FailsWith := by
  rw [iterate.eq_def, ← List.append_nil t]
  refine .after hends ?_
  simp only [hleft, hbreak]
  exact .refl _

/-- A fatal error is told by the event at the end of the step, and there is no pause after
    it. -/
theorem handsOn_iterateOnce (w : Workflow) (s : Step) (number : Nat) (p : Progress)
    (startedAt : Nat) :
    (run.iterateOnce call w s number p).HandsOn
      [⟨.sleep s.preWaitMs.toNat, true⟩,
        ⟨.emit (.stepStarted ⟨run.device, w.id, s.id, s.typeName, number⟩), ()⟩,
        ⟨.log (.debug .run s!"Running step '{s.id}' ({s.typeName}) iteration {number}"), ()⟩,
        ⟨.clock, startedAt⟩]
      (run.executeStep call s p) FailsWith (EndsRunWith s) := by
  unfold iterateOnce
  refine .ask (r := .sleep _) true ?_
  have hbracket : (run.bracketStep call w s number p).HandsOn
      [⟨.emit (.stepStarted ⟨run.device, w.id, s.id, s.typeName, number⟩), ()⟩,
        ⟨.log (.debug .run s!"Running step '{s.id}' ({s.typeName}) iteration {number}"), ()⟩,
        ⟨.clock, startedAt⟩]
      (run.executeStep call s p) (EndsRunWith s) (EndsRunWith s) := by
    unfold bracketStep
    refine .ask (r := .emit _) () ?_
    refine .ask (r := .log _) () ?_
    refine .ask (r := .clock) startedAt ?_
    refine handsOn_bind _ ?_
    intro r e he hr
    simpa [Request.Idle, Request.acts] using hr
  refine HandsOn.trans (t := []) (handsOn_bind _ ?_) hbracket
  intro r e he hr
  have herror : fatalError? s r.2 = some e := hr
  simp only [herror]
  exact keeps_done.mpr rfl

/-- A call hands on a fatal error of the called workflow as the cause of its own. -/
theorem handsOn_executeStep {s : Step} {p : Progress} {wiredId : Option String} {id : String}
    (hkind : s.kind = .subWorkflow wiredId) (hid : wired wiredId = some id) :
    (run.executeStep call s p).HandsOn [] (call (p.vars.substitute id) p) (EndsRunWith s)
      fun r e => FailsWith r (.aborted e) := by
  unfold executeStep
  simp only [hkind, hid]
  refine handsOn_bind _ ?_
  rintro ⟨q, r⟩ e he rfl
  exact keeps_done.mpr rfl

theorem handsOn_call {levels depth : Nat} {id : String} {child : Workflow} {p : Progress}
    (hstore : run.rig.hasStore = true)
    (hdepth : depth = run.rig.settings.maxNestingDepth - levels) :
    (run.call (levels + 1) id p).HandsOn
      [⟨.load id, .ok (some child)⟩,
        ⟨.log (.info .run s!"Entering sub-workflow '{child.id}' at depth {depth}"), ()⟩]
      (run.walk (run.call levels) child p) (fun r e => FailsWith r (.aborted e)) FailsWith := by
  subst hdepth
  rw [Session.call.eq_def]
  simp only [hstore]
  refine .ask (r := .load id) (.ok (some child)) ?_
  refine .ask (r := .log _) () ?_
  refine handsOn_bind _ ?_
  rintro ⟨q, r⟩ e he rfl
  simp [asStepError_of_isFatal id he, FailsWith]

end Session

end DeviceFlow
