import DeviceFlow.Files.Path
import DeviceFlow.Log
import DeviceFlow.Pattern.Meaning
import DeviceFlow.Text.Blank

/-!
# Log filters

Which lines of the log are shown. A filter is a text of directives with commas between them: a
level, or the name of a part of the program, or a part with a level. A slash leads to a pattern
that is looked for in the lines. The directive for the longest name that fits decides.
-/

namespace DeviceFlow.CommandLine

/-- How much is shown: nothing, or everything up to a level. -/
inductive Verbosity where
  | off
  | upTo (level : LogLevel)
  | everything
  deriving DecidableEq, Repr

/-- The verbosity with a name; capital letters may be used as well. -/
def Verbosity.ofName? (name : String) : Option Verbosity :=
  match Files.lowered name with
  | "off" => some .off
  | "error" => some (.upTo .error)
  | "warn" => some (.upTo .warn)
  | "info" => some (.upTo .info)
  | "debug" => some (.upTo .debug)
  | "trace" => some .everything
  | _ => none

/-- The place of a level, the most important one first. -/
def levelRank : LogLevel → Nat
  | .error => 1
  | .warn => 2
  | .info => 3
  | .debug => 4

/-- Whether a level is shown. -/
def Verbosity.shows (v : Verbosity) (level : LogLevel) : Bool :=
  match v with
  | .off => false
  | .upTo greatest => levelRank level ≤ levelRank greatest
  | .everything => true

/-- How much is shown of a part of the program, or of all others. -/
structure Directive where
  part : Option String
  verbosity : Verbosity
  deriving DecidableEq, Repr

/-- Which lines of the log are shown. -/
structure LogFilter where
  directives : List Directive
  /-- What is looked for in the lines, if anything is. -/
  pattern : Option Pattern

/-- A warning about a filter. -/
def invalidSpec (text : String) : String := s!"warning: invalid logging spec '{text}', ignoring it"

/-- Reads a directive, or gives a warning. A directive without text says nothing. -/
def Directive.read (text : String) : List Directive × List String :=
  if text.isEmpty then ([], [])
  else
    match (text.toList.splitOn '=').map String.ofList with
    | [word] =>
      match Verbosity.ofName? word with
      | some v => ([⟨none, v⟩], [])
      | none => ([⟨some word, .everything⟩], [])
    | [part, level] =>
      let level := Text.trimmed level
      if level.isEmpty then ([⟨some part, .everything⟩], [])
      else
        match Verbosity.ofName? level with
        | some v => ([⟨some part, v⟩], [])
        | none => ([], [invalidSpec level])
    | _ => ([], [invalidSpec text])

namespace LogFilter

/-- Adds a directive; it replaces one for the same part. -/
def add (directives : List Directive) (d : Directive) : List Directive :=
  if directives.any (·.part = d.part) then
    directives.map fun old => if old.part = d.part then d else old
  else directives ++ [d]

/-- Reads the directives of a filter, and gives warnings about what is wrong with them. Without
    directives only errors are shown. -/
def readDirectives (text : String) : List Directive × List String :=
  let found := (text.toList.splitOn ',').map fun cs =>
    Directive.read (Text.trimmed (String.ofList cs))
  let directives := (found.flatMap (·.1)).foldl add []
  (if directives.isEmpty then [⟨none, .upTo .error⟩] else directives, found.flatMap (·.2))

/-- Reads a filter, and gives warnings about what is wrong with it. A pattern that cannot be used
    is not looked for. -/
def read (text : String) : LogFilter × List String :=
  match (text.toList.splitOn '/').map String.ofList with
  | directives :: rest =>
    let (directives, warnings) := readDirectives directives
    match rest with
    | [] => (⟨directives, none⟩, warnings)
    | [pattern] =>
      match Pattern.ofText pattern with
      | .ok p => (⟨directives, some p⟩, warnings)
      | .error e =>
        (⟨directives, none⟩,
          warnings ++ [s!"warning: invalid regex filter - {e.message pattern}"])
    | _ =>
      (⟨(readDirectives "").1, none⟩,
        [s!"warning: invalid logging spec '{text}', ignoring it (too many '/'s)"])
  | [] => (⟨(readDirectives "").1, none⟩, [])

/-- The number of bytes of the name of a part. -/
def nameSize (d : Directive) : Nat := (d.part.getD "").utf8ByteSize

/-- Whether a directive is about a part of the program. -/
def concerns (part : LogPart) (d : Directive) : Bool :=
  d.part.all fun name => name.toList.isPrefixOf part.name.toList

/-- How much is shown of a part of the program. Of two directives with names of the same length
    the later one decides. -/
def verbosity (f : LogFilter) (part : LogPart) : Verbosity :=
  let concerning := f.directives.reverse.filter (concerns part)
  match (concerning.mergeSort fun a b => nameSize b ≤ nameSize a).head? with
  | some d => d.verbosity
  | none => .off

/-- Whether a line is shown. -/
def shows (f : LogFilter) (r : LogRecord) : Bool :=
  (f.verbosity r.part).shows r.level && f.pattern.all (·.isIn r.text)

end LogFilter

end DeviceFlow.CommandLine
