import DeviceFlow.Proofs.Trace.Basic
import DeviceFlow.Run.Walk

/-!
# The pieces of a run

A run consists of nested pieces: the walk through its workflow, the repetitions of the steps
that the walk reaches, their iterations, the attempts to execute a step, and the calls of other
workflows with their walks. A piece is begun by another one after some exchanges, and reached
by a run through a chain of such beginnings, with all that has been exchanged on the way.
-/

namespace DeviceFlow

/-- A piece of a run. Below the outermost level, `levels` is the number of levels that calls
    may still be nested. -/
inductive Piece where
  /-- A whole run. -/
  | run (w : Workflow) (vars : Variables)
  /-- A walk through a workflow. -/
  | walk (levels : Nat) (w : Workflow) (p : Progress)
  /-- The part of a walk from a step on. -/
  | onward (levels : Nat) (w : Workflow) (room : Nat) (id : Option String) (p : Progress)
  /-- The iterations of a step that are left. -/
  | repetition (levels : Nat) (w : Workflow) (s : Step) (left number : Nat) (p : Progress)
  /-- One iteration of a step with the pauses around it. -/
  | iteration (levels : Nat) (w : Workflow) (s : Step) (number : Nat) (p : Progress)
  /-- The execution of a step. -/
  | attempt (levels : Nat) (s : Step) (p : Progress)
  /-- A call of another workflow. -/
  | call (levels : Nat) (id : String) (p : Progress)

namespace Piece

/-- What a piece comes to. -/
def Result : Piece → Type
  | .run .. => RunRecord
  | .walk .. | .onward .. => Progress × Except RunError Unit
  | .repetition .. | .iteration .. => Progress × Except RunError StepOutcome
  | .attempt .. => Progress × StepOutcome
  | .call .. => Progress × Except StepError Unit

/-- What a run does in a piece. -/
def plan (run : Session) : (x : Piece) → Plan x.Result
  | .run w vars => run.execute w vars
  | .walk levels w p => run.walk (run.call levels) w p
  | .onward levels w room id p => run.walkFrom (run.call levels) w room id p
  | .repetition levels w s left number p => run.iterate (run.call levels) w s left number p
  | .iteration levels w s number p => run.iterateOnce (run.call levels) w s number p
  | .attempt levels s p => run.executeStep (run.call levels) s p
  | .call levels id p => run.call levels id p

end Piece

open Piece in
/-- A piece begins with some exchanges, and then another piece that is a part of it. -/
inductive Begins (run : Session) : Piece → List Exchange → Piece → Prop where
  | run (w : Workflow) (vars : Variables) (startedAt : Timestamp) (startedMs : Nat) :
      Begins run (.run w vars)
        [⟨.date, startedAt⟩, ⟨.clock, startedMs⟩,
          ⟨.log (.info .run
            s!"[{run.device}] Starting workflow '{w.name}' ({w.steps.length} steps)"), ()⟩,
          ⟨.emit (.runStarted run.device w.id w.name startedAt), ()⟩]
        (.walk run.rig.settings.maxNestingDepth w ⟨vars, 0⟩)
  | walk {levels : Nat} {w : Workflow} {p : Progress} {start : Step} (h : w.starts = [start]) :
      Begins run (.walk levels w p) []
        (.onward levels w (run.rig.settings.maxSteps - p.steps) (wired start.connections.onSuccess)
          { p with vars := p.vars.seed w.vars })
  /-- The walk comes to a step. -/
  | onward {levels room : Nat} {w : Workflow} {id : String} {s : Step} {p : Progress}
      (hroom : p.steps < run.rig.settings.maxSteps) (htarget : w.target? id = some s) :
      Begins run (.onward levels w (room + 1) (some id) p) [⟨.isCancelled, false⟩]
        (.repetition levels w s s.iterations 1 { p with steps := p.steps + 1 })
  /-- The walk comes to the step after the next one. -/
  | next {levels room : Nat} {w : Workflow} {id : String} {s : Step} {p q : Progress}
      {t : List Exchange} {outcome : StepOutcome}
      (hroom : p.steps < run.rig.settings.maxSteps) (htarget : w.target? id = some s)
      (hends : ((Piece.repetition levels w s s.iterations 1
        { p with steps := p.steps + 1 }).plan run).Ends t (q, .ok outcome))
      (hend : Session.endError? s outcome = none) :
      Begins run (.onward levels w (room + 1) (some id) p) (⟨.isCancelled, false⟩ :: t)
        (.onward levels w room (s.next outcome) q)
  | repetition {levels : Nat} {w : Workflow} {s : Step} {left number : Nat} {p : Progress} :
      Begins run (.repetition levels w s (left + 1) number p) [] (.iteration levels w s number p)
  /-- The step is repeated. -/
  | again {levels : Nat} {w : Workflow} {s : Step} {left number : Nat} {p q : Progress}
      {t : List Exchange} {outcome : StepOutcome}
      (hends : ((Piece.iteration levels w s number p).plan run).Ends t (q, .ok outcome))
      (hleft : left ≠ 0) (hbreak : Session.breaksLoop s outcome = false) :
      Begins run (.repetition levels w s (left + 1) number p) t
        (.repetition levels w s left (number + 1) q)
  | iteration (levels : Nat) (w : Workflow) (s : Step) (number : Nat) (p : Progress)
      (startedAt : Nat) :
      Begins run (.iteration levels w s number p)
        [⟨.sleep s.preWaitMs.toNat, true⟩,
          ⟨.emit (.stepStarted ⟨run.device, w.id, s.id, s.typeName, number⟩), ()⟩,
          ⟨.log (.debug .run s!"Running step '{s.id}' ({s.typeName}) iteration {number}"), ()⟩,
          ⟨.clock, startedAt⟩]
        (.attempt levels s p)
  | attempt {levels : Nat} {s : Step} {p : Progress} {wiredId : Option String} {id : String}
      (hkind : s.kind = .subWorkflow wiredId) (hid : wired wiredId = some id) :
      Begins run (.attempt levels s p) [] (.call levels (p.vars.substitute id) p)
  | call {levels depth : Nat} {id : String} (child : Workflow) {p : Progress}
      (hstore : run.rig.hasStore = true)
      (hdepth : depth = run.rig.settings.maxNestingDepth - levels) :
      Begins run (.call (levels + 1) id p)
        [⟨.load id, .ok (some child)⟩,
          ⟨.log (.info .run s!"Entering sub-workflow '{child.id}' at depth {depth}"), ()⟩]
        (.walk levels child p)

/-- A piece contains another one, which comes after some exchanges. -/
inductive Reaches (run : Session) : Piece → List Exchange → Piece → Prop where
  | refl (x : Piece) : Reaches run x [] x
  | head {x y z : Piece} {t u : List Exchange} (h : Begins run x t y)
      (hrest : Reaches run y u z) : Reaches run x (t ++ u) z

/-- Along a trace, a piece comes to another one that goes on in some way. -/
def Piece.Meets (run : Session) (P : Piece → List Exchange → Prop) (x : Piece)
    (t : List Exchange) : Prop :=
  ∃ b y u, Reaches run x b y ∧ t = b ++ u ∧ P y u

variable {run : Session} {P : Piece → List Exchange → Prop} {x y : Piece} {t u : List Exchange}

theorem Piece.Meets.here (h : P x t) : x.Meets run P t := ⟨[], x, t, .refl x, rfl, h⟩

theorem Begins.meets (h : Begins run x t y) (hy : y.Meets run P u) : x.Meets run P (t ++ u) := by
  obtain ⟨b, z, v, hreaches, rfl, hz⟩ := hy
  exact ⟨t ++ b, z, v, .head h hreaches, (List.append_assoc ..).symm, hz⟩

/-- What is met along a trace is met along a longer one, if it does not depend on its end. -/
theorem Piece.Meets.append (h : x.Meets run P t) (hP : ∀ {z v}, P z v → P z (v ++ u)) :
    x.Meets run P (t ++ u) := by
  obtain ⟨b, z, v, hreaches, rfl, hz⟩ := h
  exact ⟨b, z, v ++ u, hreaches, List.append_assoc .., hP hz⟩

end DeviceFlow
