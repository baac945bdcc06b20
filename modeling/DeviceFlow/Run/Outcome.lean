import DeviceFlow.Run.Error

/-!
# Outcomes and where they lead

What one iteration of a step comes to, and the step that the run reaches after it.
-/

namespace DeviceFlow

/-- What one iteration of a step comes to. Of a condition, `success` is its value. -/
structure StepOutcome where
  success : Bool
  isCondition : Bool
  error : Option StepError
  /-- What a shell command has printed. -/
  output : Option String

namespace StepOutcome

/-- A plain success. -/
def ok : StepOutcome := ⟨true, false, none, none⟩

/-- A success with an output. -/
def withOutput (output : String) : StepOutcome := ⟨true, false, none, some output⟩

/-- The value of a condition. -/
def condition (value : Bool) : StepOutcome := ⟨value, true, none, none⟩

/-- A failure. -/
def failed (error : StepError) : StepOutcome := ⟨false, false, some error, none⟩

/-- Whether the step has failed. A condition that does not hold is no failure. -/
def isFailure (o : StepOutcome) : Bool := o.error.isSome

/-- The text of the error. -/
def errorMessage (o : StepOutcome) : Option String := o.error.map StepError.message

end StepOutcome

/-- The id of the step after an outcome, or none when the run ends there. The value of a
    condition selects its connection; a success follows the success connection; a failure
    follows the error connection if there is one, and otherwise the success connection if the
    step lets the run proceed. -/
def Step.next (s : Step) (o : StepOutcome) : Option String :=
  let c := s.connections
  if s.kind.isBranch && o.isCondition then
    if o.success then wired c.onTrue else wired c.onFalse
  else if o.success then wired c.onSuccess
  else
    match wired c.onError with
    | some id => some id
    | none => if s.onError = .proceed then wired c.onSuccess else none

end DeviceFlow
