import DeviceFlow.Proofs.Trace.Perform

/-!
# The events of a trace

What a run has told along a trace, in order. Only the walk and the iterations tell events: a step
that does not call a workflow tells none, nor does a report.
-/

namespace DeviceFlow

/-- The event that an exchange tells, if it tells one. -/
def Exchange.event? (x : Exchange) : Option Event :=
  match x.request with
  | .emit e => some e
  | _ => none

/-- The events that are told along a trace. -/
def eventsOf (t : List Exchange) : List Event := t.filterMap Exchange.event?

@[simp] theorem eventsOf_nil : eventsOf [] = [] := rfl

@[simp] theorem eventsOf_append (t u : List Exchange) :
    eventsOf (t ++ u) = eventsOf t ++ eventsOf u := List.filterMap_append

theorem eventsOf_cons (x : Exchange) (t : List Exchange) :
    eventsOf (x :: t) = x.event?.toList ++ eventsOf t := by
  unfold eventsOf
  cases h : x.event? with
  | none => rw [List.filterMap_cons_none h, Option.toList_none, List.nil_append]
  | some e => rw [List.filterMap_cons_some h, Option.toList_some, List.singleton_append]

@[simp] theorem eventsOf_emit (e : Event) (answer : Unit) (t : List Exchange) :
    eventsOf (⟨.emit e, answer⟩ :: t) = e :: eventsOf t := eventsOf_cons ..

@[simp] theorem eventsOf_log (record : LogRecord) (answer : Unit) (t : List Exchange) :
    eventsOf (⟨.log record, answer⟩ :: t) = eventsOf t := eventsOf_cons ..

@[simp] theorem eventsOf_clock (answer : Nat) (t : List Exchange) :
    eventsOf (⟨.clock, answer⟩ :: t) = eventsOf t := eventsOf_cons ..

@[simp] theorem eventsOf_date (answer : Timestamp) (t : List Exchange) :
    eventsOf (⟨.date, answer⟩ :: t) = eventsOf t := eventsOf_cons ..

@[simp] theorem eventsOf_isCancelled (answer : Bool) (t : List Exchange) :
    eventsOf (⟨.isCancelled, answer⟩ :: t) = eventsOf t := eventsOf_cons ..

@[simp] theorem eventsOf_sleep (ms : Nat) (answer : Bool) (t : List Exchange) :
    eventsOf (⟨.sleep ms, answer⟩ :: t) = eventsOf t := eventsOf_cons ..

@[simp] theorem eventsOf_load (id : String) (answer : Except String (Option Workflow))
    (t : List Exchange) : eventsOf (⟨.load id, answer⟩ :: t) = eventsOf t := eventsOf_cons ..

theorem eventsOf_eq_nil {t : List Exchange} (h : ∀ x ∈ t, x.event? = none) : eventsOf t = [] :=
  List.filterMap_eq_nil_iff.mpr h

theorem Request.OfStep.event?_eq_none {x : Exchange} (h : x.request.OfStep) : x.event? = none := by
  obtain ⟨q, answer⟩ := x
  cases q with
  | emit e => exact h.elim
  | _ => rfl

/-- A step that does not call a workflow tells no event. -/
theorem eventsOf_perform {rig : Rig} {s : Step} {vars : Variables} {t : List Exchange}
    {r : Except StepError Effect} (h : (s.perform rig vars).run.Ends t r) : eventsOf t = [] := by
  obtain ⟨hrequests, _⟩ := Plan.Keeps.follows (Step.modest_perform rig s vars) h
  exact eventsOf_eq_nil fun x hx => (hrequests x hx).event?_eq_none

namespace Session

open Plan

/-- A failure that does not end the run is reported in at most one line of the log. -/
theorem ends_reportFailure {s : Step} {number : Nat} {outcome : StepOutcome} {t : List Exchange}
    (h : (reportFailure s number outcome).Ends t ()) :
    t = [] ∨ ∃ record, t = [⟨.log record, ()⟩] := by
  unfold reportFailure at h
  split at h
  · exact .inr ⟨_, ends_request.mp h⟩
  · exact .inl (ends_done.mp h).1

/-- The report of a failure tells no event. -/
theorem eventsOf_reportFailure {s : Step} {number : Nat} {outcome : StepOutcome}
    {t : List Exchange} (h : (reportFailure s number outcome).Ends t ()) : eventsOf t = [] := by
  rcases ends_reportFailure h with rfl | ⟨record, rfl⟩
  · rfl
  · rfl

/-- The event of the end of a run. -/
def closing (run : Session) (w : Workflow) (p : Progress) (status : RunStatus)
    (error : Option String) (durationMs : Nat) : Event :=
  match error with
  | some text => .runFailed run.device w.id text p.steps durationMs
  | none => .runCompleted run.device w.id status p.steps durationMs

/-- The end of a run is told in one line of the log and one event. -/
theorem ends_announceEnd {run : Session} {w : Workflow} {p : Progress} {status : RunStatus}
    {error : Option String} {durationMs : Nat} {t : List Exchange}
    (h : (run.announceEnd w p status error durationMs).Ends t ()) :
    ∃ record, t = [⟨.log record, ()⟩,
      ⟨.emit (run.closing w p status error durationMs), ()⟩] := by
  unfold announceEnd at h
  split at h
  · obtain ⟨⟨⟩, t, rfl, hlogged⟩ := ends_request_bind.mp h
    obtain rfl := ends_request.mp hlogged
    exact ⟨_, rfl⟩
  · obtain ⟨⟨⟩, t, rfl, hlogged⟩ := ends_request_bind.mp h
    obtain rfl := ends_request.mp hlogged
    exact ⟨_, rfl⟩

end Session

end DeviceFlow
