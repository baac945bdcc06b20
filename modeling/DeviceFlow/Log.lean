/-!
# Log records

What the library reports about its doings besides its results: lines of text in four grades,
each from a part of the library. The parts have names, as some may be listened to and others
not.
-/

namespace DeviceFlow

/-- How much a log record matters. -/
inductive LogLevel where
  | error
  | warn
  | info
  | debug
  deriving DecidableEq, Repr

/-- The name of a level. -/
def LogLevel.name : LogLevel → String
  | .error => "ERROR"
  | .warn => "WARN"
  | .info => "INFO"
  | .debug => "DEBUG"

/-- The part of the library that a line is from. -/
inductive LogPart where
  | session
  | settings
  | workflowFile
  | validation
  | store
  | adb
  | dryRun
  | run
  | registry
  | step
  | condition
  | expression
  | event
  deriving DecidableEq, Repr

/-- The name of a part. A name that begins with the name of another one belongs to it. -/
def LogPart.name : LogPart → String
  | .session => "tapflow"
  | .settings => "tapflow::config"
  | .workflowFile => "tapflow::workflow::parser"
  | .validation => "tapflow::workflow::validator"
  | .store => "tapflow::workflow::store"
  | .adb => "tapflow::device::adb"
  | .dryRun => "tapflow::device::dry_run"
  | .run => "tapflow::execution::engine"
  | .registry => "tapflow::execution::manager"
  | .step => "tapflow::execution::step"
  | .condition => "tapflow::execution::branch"
  | .expression => "tapflow::execution::expression"
  | .event => "tapflow::monitoring::events"

/-- A line of the log. -/
structure LogRecord where
  level : LogLevel
  part : LogPart
  text : String
  deriving DecidableEq, Repr

namespace LogRecord

/-- A record of something that went wrong. -/
def error (part : LogPart) (text : String) : LogRecord := ⟨.error, part, text⟩

/-- A record of something suspicious. -/
def warn (part : LogPart) (text : String) : LogRecord := ⟨.warn, part, text⟩

/-- A record of progress. -/
def info (part : LogPart) (text : String) : LogRecord := ⟨.info, part, text⟩

/-- A record of detail. -/
def debug (part : LogPart) (text : String) : LogRecord := ⟨.debug, part, text⟩

end LogRecord

end DeviceFlow
