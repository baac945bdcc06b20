import DeviceFlow.Proofs.Nesting.Adequate
import DeviceFlow.Proofs.Variables.Write
import DeviceFlow.Proofs.Wiring.Member

/-!
# The variables of a piece

What a piece of a run leaves of the variables that it finds. A name to which no step of the piece
writes keeps its value, or gets the first default that there is for it in the workflows entered on
the way; no name is lost. Steps and workflows count as far as they work on the variables of the
piece: on every level when called workflows share them, and on its own level otherwise.
-/

namespace DeviceFlow

/-- The workflows that the store gives out along a trace, in order. -/
def loadedAlong (t : List Exchange) : List Workflow := t.filterMap Exchange.loaded?

@[simp] theorem loadedAlong_nil : loadedAlong [] = [] := rfl

@[simp] theorem loadedAlong_append (t u : List Exchange) :
    loadedAlong (t ++ u) = loadedAlong t ++ loadedAlong u := List.filterMap_append

theorem loadedAlong_cons (x : Exchange) (t : List Exchange) :
    loadedAlong (x :: t) = x.loaded?.toList ++ loadedAlong t := by
  unfold loadedAlong
  cases h : x.loaded? with
  | none => rw [List.filterMap_cons_none h, Option.toList_none, List.nil_append]
  | some w => rw [List.filterMap_cons_some h, Option.toList_some, List.singleton_append]

theorem loadedAlong_eq_nil {t : List Exchange} (h : ∀ x ∈ t, x.request.OfStep) :
    loadedAlong t = [] := by
  refine List.filterMap_eq_nil_iff.mpr fun x hx => ?_
  have hstep := h x hx
  obtain ⟨q, answer⟩ := x
  cases q with
  | load id => exact hstep.elim
  | _ => rfl

/-- A step that calls no workflow loads none. -/
theorem loadedAlong_perform {rig : Rig} {s : Step} {vars : Variables} {t : List Exchange}
    {r : Except StepError Effect} (h : (s.perform rig vars).run.Ends t r) : loadedAlong t = [] := by
  obtain ⟨hrequests, _⟩ := Plan.Keeps.follows (Step.modest_perform rig s vars) h
  exact loadedAlong_eq_nil hrequests

theorem Session.loadedAlong_bracket (run : Session) (w : Workflow) (s : Step)
    (number startedAt endedAt : Nat) (outcome : StepOutcome) (t : List Exchange) :
    loadedAlong (run.bracket w s number startedAt endedAt outcome t) = loadedAlong t := by
  simp [bracket, loadedAlong_cons, Exchange.loaded?]

theorem Session.loadedAlong_reportFailure {s : Step} {number : Nat} {outcome : StepOutcome}
    {t : List Exchange} (h : (reportFailure s number outcome).Ends t ()) : loadedAlong t = [] := by
  rcases ends_reportFailure h with rfl | ⟨record, rfl⟩
  · rfl
  · rfl

/-- The workflows that are entered along a trace and work on the variables of their callers: none
    if every call has a copy of its own. -/
def Session.enteredAlong (run : Session) (t : List Exchange) : List Workflow :=
  match run.rig.settings.scope with
  | .shared => loadedAlong t
  | .isolated => []

theorem Session.enteredAlong_append (run : Session) (t u : List Exchange) :
    run.enteredAlong (t ++ u) = run.enteredAlong t ++ run.enteredAlong u := by
  unfold enteredAlong
  cases run.rig.settings.scope with
  | shared => exact loadedAlong_append t u
  | isolated => rfl

theorem Session.enteredAlong_congr (run : Session) {t u : List Exchange}
    (h : loadedAlong t = loadedAlong u) : run.enteredAlong t = run.enteredAlong u := by
  unfold enteredAlong
  rw [h]

theorem Session.enteredAlong_eq_nil (run : Session) {t : List Exchange}
    (h : loadedAlong t = []) : run.enteredAlong t = [] :=
  (run.enteredAlong_congr (u := []) h).trans (by unfold enteredAlong; split <;> rfl)

/-- The first default for a name in a list of workflows. -/
def firstDefault (ws : List Workflow) (name : String) : Option String :=
  ws.findSome? fun w => w.vars.get? name

theorem firstDefault_append (ws ws' : List Workflow) (name : String) :
    firstDefault (ws ++ ws') name = (firstDefault ws name).or (firstDefault ws' name) :=
  List.findSome?_append

namespace Variables

/-- The value of a name to which nothing is written: the one it has, or else the first default
    that there is for it. -/
def untouched (vars : Variables) (ws : List Workflow) (name : String) : Option String :=
  (vars.get? name).or (firstDefault ws name)

@[simp] theorem untouched_nil (vars : Variables) (name : String) :
    vars.untouched [] name = vars.get? name :=
  Option.or_none

/-- The defaults of a workflow that is entered count before those of others. -/
theorem untouched_seed (vars : Variables) (w : Workflow) (ws : List Workflow) (name : String) :
    Variables.untouched (vars.seed w.vars) ws name = vars.untouched (w :: ws) name := by
  have hcons : firstDefault (w :: ws) name = (w.vars.get? name).or (firstDefault ws name) := by
    rw [firstDefault, List.findSome?_cons]
    cases w.vars.get? name with
    | none => rfl
    | some value => rfl
  rw [untouched, untouched, get?_seed, hcons, Option.or_assoc]

/-- One stretch of a run comes after another. -/
theorem untouched_append {vars vars' : Variables} {ws ws' : List Workflow} {name : String}
    (h : vars'.get? name = vars.untouched ws name) :
    vars'.untouched ws' name = vars.untouched (ws ++ ws') name := by
  rw [untouched, h, untouched, untouched, firstDefault_append, Option.or_assoc]

end Variables

namespace Piece

/-- The variables that a piece finds. -/
def varsBefore : Piece → Variables
  | .run _ vars => vars
  | .walk _ _ p | .onward _ _ _ _ p | .repetition _ _ _ _ _ p | .iteration _ _ _ _ p
  | .attempt _ _ p | .call _ _ p => p.vars

/-- The variables that a piece leaves. -/
def varsAfter : (x : Piece) → x.Result → Variables
  | .run .., r => RunRecord.vars r
  | .walk .., r | .onward .., r => Progress.vars r.1
  | .repetition .., r | .iteration .., r => Progress.vars r.1
  | .attempt .., r => Progress.vars r.1
  | .call .., r => Progress.vars r.1

/-- The number of levels that calls may still be nested below a piece. -/
def level (run : Session) : Piece → Nat
  | .run .. => run.rig.settings.maxNestingDepth
  | .walk levels _ _ | .onward levels _ _ _ _ | .repetition levels _ _ _ _ _
  | .iteration levels _ _ _ _ | .attempt levels _ _ | .call levels _ _ => levels

/-- The workflow that a piece enters first. -/
def entry? : Piece → Option Workflow
  | .run w _ | .walk _ w _ => some w
  | _ => none

/-- The workflows that are entered in a piece along a trace, as far as they work on its
    variables. -/
def entered (run : Session) (x : Piece) (t : List Exchange) : List Workflow :=
  x.entry?.toList ++ run.enteredAlong t

end Piece

/-- A step gives a variable a value. It is one on the given level, unless the variables are
    shared by all levels. -/
inductive Session.Writes (run : Session) (level : Nat) (name : String) :
    Piece → List Exchange → Prop where
  | intro {levels : Nat} {s : Step} {p q : Progress} {t : List Exchange} {outcome : StepOutcome}
      (u : List Exchange) (hlevel : run.rig.settings.scope = .isolated → levels = level)
      (hwritten : s.kind.written? = some name)
      (hends : (run.executeStep (run.call levels) s p).Ends t (q, outcome))
      (hsuccess : outcome.error = none) :
      Writes run level name (.attempt levels s p) (t ++ u)

variable {run : Session} {name : String} {x y : Piece} {b t u v : List Exchange}

theorem Session.Writes.append {level : Nat} (h : run.Writes level name x t) :
    run.Writes level name x (t ++ u) := by
  cases h with
  | intro v hlevel hwritten hends hsuccess =>
    rw [List.append_assoc]
    exact .intro _ hlevel hwritten hends hsuccess

theorem Session.Writes.onLevel {level level' : Nat}
    (hlevel : run.rig.settings.scope = .isolated → level' = level)
    (h : run.Writes level' name x t) : run.Writes level name x t := by
  cases h with
  | intro v hown hwritten hends hsuccess =>
    exact .intro v (fun hscope => (hown hscope).trans (hlevel hscope)) hwritten hends hsuccess

/-- Along a trace no step of a piece writes to a name. -/
def Piece.Spares (run : Session) (name : String) (x : Piece) (t : List Exchange) : Prop :=
  ¬ x.Meets run (run.Writes (x.level run) name) t

/-- A name that is spared in a piece is spared in every part of it that works on its variables. -/
theorem Begins.spares (h : Begins run x b y)
    (hlevel : run.rig.settings.scope = .isolated → y.level run = x.level run)
    (hx : x.Spares run name (b ++ (u ++ v))) : y.Spares run name u := by
  intro hy
  have hmet : y.Meets run (run.Writes (x.level run) name) u := by
    obtain ⟨c, z, w, hreaches, rfl, hwrites⟩ := hy
    exact ⟨c, z, w, hreaches, rfl, hwrites.onLevel hlevel⟩
  exact hx (h.meets (hmet.append Session.Writes.append))

theorem Begins.spares_all (h : Begins run x b y)
    (hlevel : run.rig.settings.scope = .isolated → y.level run = x.level run)
    (hx : x.Spares run name (b ++ u)) : y.Spares run name u :=
  h.spares (v := []) hlevel (by rwa [List.append_nil])

end DeviceFlow
