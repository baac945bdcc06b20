import DeviceFlow.Run.Event

/-!
# Timelines

A timeline keeps the events it hears, with the times at which iterations of steps start and
end. From these it makes out the spans of the iterations. A called workflow may run a step
while an iteration of the same step is still going on, so an end belongs to the latest start
of that step which has no end yet.
-/

namespace DeviceFlow

/-- What a mark on a timeline says about a step. -/
inductive MarkKind where
  | started
  | completed
  | failed
  deriving DecidableEq, Repr

/-- The name of a kind of mark. -/
def MarkKind.name : MarkKind → String
  | .started => "started"
  | .completed => "completed"
  | .failed => "failed"

/-- A mark on a timeline. -/
structure Mark where
  workflowId : String
  stepId : String
  kind : MarkKind
  /-- The time by the clock. -/
  timeMs : Nat
  deriving DecidableEq, Repr

/-- An iteration that has ended, with its times since the start of the timeline. -/
structure Span where
  workflowId : String
  stepId : String
  startMs : Nat
  endMs : Nat
  success : Bool
  deriving DecidableEq, Repr

/-- The mark that an event leaves. -/
def Event.mark? (e : Event) (nowMs : Nat) : Option Mark :=
  match e with
  | .stepStarted i => some ⟨i.workflowId, i.stepId, .started, nowMs⟩
  | .stepEnded i success _ _ =>
    some ⟨i.workflowId, i.stepId, if success then .completed else .failed, nowMs⟩
  | _ => none

/-- What a timeline has heard. -/
structure Timeline where
  /-- The time by the clock at which the timeline begins. -/
  startMs : Nat
  marks : List Mark
  events : List Event
  deriving DecidableEq

namespace Timeline

/-- A timeline that begins now. -/
def new (nowMs : Nat) : Timeline := ⟨nowMs, [], []⟩

/-- Hears an event. -/
def hear (t : Timeline) (nowMs : Nat) (e : Event) : Timeline :=
  { t with marks := t.marks ++ (e.mark? nowMs).toList, events := t.events ++ [e] }

/-- Puts a mark on the timeline that belongs to no workflow. -/
def addMark (t : Timeline) (nowMs : Nat) (stepId : String) (kind : MarkKind) : Timeline :=
  { t with marks := t.marks ++ [⟨"", stepId, kind, nowMs⟩] }

/-- A timeline that has heard events at the given times. -/
def ofEvents (startMs : Nat) (heard : List (Nat × Event)) : Timeline :=
  ⟨startMs, heard.filterMap fun h => h.2.mark? h.1, heard.map (·.2)⟩

/-- A start that has no end yet. -/
structure OpenStart where
  workflowId : String
  stepId : String
  startMs : Nat
  deriving DecidableEq, Repr

/-- Takes out the latest start of a step, given the starts with the latest first. -/
def takeStart? (workflowId stepId : String) : List OpenStart → Option (Nat × List OpenStart)
  | [] => none
  | s :: rest =>
    if s.workflowId = workflowId ∧ s.stepId = stepId then some (s.startMs, rest)
    else (takeStart? workflowId stepId rest).map fun (startMs, left) => (startMs, s :: left)

/-- The spans in the order of their ends. -/
def spansByEnd (originMs : Nat) (opened : List OpenStart) : List Mark → List Span
  | [] => []
  | m :: rest =>
    let time := m.timeMs - originMs
    if m.kind = .started then
      spansByEnd originMs (⟨m.workflowId, m.stepId, time⟩ :: opened) rest
    else
      match takeStart? m.workflowId m.stepId opened with
      | some (startMs, left) =>
        ⟨m.workflowId, m.stepId, startMs, time, m.kind = .completed⟩ ::
          spansByEnd originMs left rest
      | none => spansByEnd originMs opened rest

/-- The spans of the iterations that have ended, sorted by the times of their starts. -/
def spans (t : Timeline) : List Span :=
  (spansByEnd t.startMs [] t.marks).mergeSort fun a b => a.startMs ≤ b.startMs

/-- The number of iterations that have ended, for each step. -/
def iterationCounts (t : Timeline) : Dict String Nat :=
  t.spans.foldl (fun counts s => counts.insert s.stepId (counts.getD s.stepId 0 + 1)) Dict.empty

/-- The time since the timeline has begun. -/
def elapsed (t : Timeline) (nowMs : Nat) : Nat := nowMs - t.startMs

end Timeline

end DeviceFlow
