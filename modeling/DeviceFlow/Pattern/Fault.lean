/-!
# What is wrong with a pattern

A fault has a cause and a place in the text of the pattern. Its report shows the text with the
place marked below it.
-/

namespace DeviceFlow

namespace Pattern

/-- A place in a text. Lines and columns are counted from one. -/
structure Position where
  line : Nat
  column : Nat
  deriving DecidableEq, Repr

/-- The place where a text starts. -/
def Position.start : Position := ⟨1, 1⟩

/-- The place after a character. -/
def Position.after (p : Position) (c : Char) : Position :=
  if c = '\n' then ⟨p.line + 1, 1⟩ else ⟨p.line, p.column + 1⟩

/-- Whether a place is not behind another one. -/
def Position.le (p q : Position) : Bool :=
  p.line < q.line || (p.line == q.line && p.column ≤ q.column)

/-- A stretch of a text. -/
structure Span where
  start : Position
  finish : Position
  deriving DecidableEq, Repr

/-- A stretch without characters. -/
def Span.nothingAt (p : Position) : Span := ⟨p, p⟩

/-- What can be wrong with a pattern. -/
inductive Cause where
  | escapeInBrackets
  | rangeOrder
  | rangeBoundary
  | bracketsUnclosed
  | numberTooLarge
  | codeMissing
  | codeOfNoCharacter
  | codeDigit
  | escapeUnfinished
  | escapeUnknown
  | flagNegatesNothing
  | flagTwice
  | flagsNegatedTwice
  | flagsUnfinished
  | flagUnknown
  | groupNameTwice
  | groupNameMissing
  | groupNameCharacter
  | groupNameUnfinished
  | groupUnclosed
  | groupUnopened
  | tooDeep (limit : Nat)
  | countOrder
  | countMissing
  | countUnclosed
  | nothingToRepeat
  | boundaryUnclosed
  | boundaryUnknown
  | boundaryUnfinished
  | propertyName
  | reference
  | lookAround
  /-- A character that takes more than a byte, where characters are bytes. -/
  | wideCharacter
  /-- Bytes that are no characters would match. -/
  | partOfCharacter
  /-- No properties of characters are known. -/
  | propertyUnknown
  | propertyValueUnknown
  /-- The classes of letters, digits and blanks are known for bytes only. -/
  | shorthandUnknown
  /-- Small and capital letters are known for bytes only. -/
  | caseUnknown
  deriving DecidableEq, Repr

/-- The text of a cause. -/
def Cause.message : Cause → String
  | .escapeInBrackets => "invalid escape sequence found in character class"
  | .rangeOrder => "invalid character class range, the start must be <= the end"
  | .rangeBoundary => "invalid range boundary, must be a literal"
  | .bracketsUnclosed => "unclosed character class"
  | .numberTooLarge => "decimal literal invalid"
  | .codeMissing => "hexadecimal literal empty"
  | .codeOfNoCharacter => "hexadecimal literal is not a Unicode scalar value"
  | .codeDigit => "invalid hexadecimal digit"
  | .escapeUnfinished => "incomplete escape sequence, reached end of pattern prematurely"
  | .escapeUnknown => "unrecognized escape sequence"
  | .flagNegatesNothing => "dangling flag negation operator"
  | .flagTwice => "duplicate flag"
  | .flagsNegatedTwice => "flag negation operator repeated"
  | .flagsUnfinished => "expected flag but got end of regex"
  | .flagUnknown => "unrecognized flag"
  | .groupNameTwice => "duplicate capture group name"
  | .groupNameMissing => "empty capture group name"
  | .groupNameCharacter => "invalid capture group character"
  | .groupNameUnfinished => "unclosed capture group name"
  | .groupUnclosed => "unclosed group"
  | .groupUnopened => "unopened group"
  | .tooDeep limit =>
    s!"exceed the maximum number of nested parentheses/brackets ({limit})"
  | .countOrder => "invalid repetition count range, the start must be <= the end"
  | .countMissing => "repetition quantifier expects a valid decimal"
  | .countUnclosed => "unclosed counted repetition"
  | .nothingToRepeat => "repetition operator missing expression"
  | .boundaryUnclosed =>
    "special word boundary assertion is either unclosed or contains an invalid character"
  | .boundaryUnknown =>
    "unrecognized special word boundary assertion, valid choices are: " ++
      "start, end, start-half or end-half"
  | .boundaryUnfinished =>
    "found either the beginning of a special word boundary or a bounded repetition on a \\b " ++
      "with an opening brace, but no closing brace"
  | .propertyName => "invalid Unicode character class"
  | .reference => "backreferences are not supported"
  | .lookAround => "look-around, including look-ahead and look-behind, is not supported"
  | .wideCharacter => "Unicode not allowed here"
  | .partOfCharacter => "pattern can match invalid UTF-8"
  | .propertyUnknown => "Unicode property not found"
  | .propertyValueUnknown => "Unicode property value not found"
  | .shorthandUnknown =>
    "Unicode-aware Perl class not found (make sure the unicode-perl feature is enabled)"
  | .caseUnknown =>
    "Unicode-aware case insensitivity matching is not available " ++
      "(make sure the unicode-case feature is enabled)"

/-- Something wrong with a pattern. -/
structure Fault where
  cause : Cause
  span : Span
  /-- Where something stands that must not stand there twice. -/
  earlier : Option Span
  deriving DecidableEq, Repr

namespace Fault

/-- The stretches that a fault is about, in the order of the text. -/
def spans (f : Fault) : List Span :=
  (f.earlier.toList ++ [f.span]).mergeSort fun a b =>
    if a.start = b.start then a.finish.le b.finish else a.start.le b.start

/-- The lines of a text. A line break at the end does not start a line. -/
def linesOf (text : String) : List String :=
  let lines := text.toList.splitOn '\n'
  let lines := if lines.getLast? = some [] then lines.dropLast else lines
  lines.map fun cs => String.ofList (if cs.getLast? = some '\r' then cs.dropLast else cs)

/-- The marks for stretches of a line. Each stretch gets one at least; `column` is where the
    next mark can stand. -/
def marks : Nat → List Span → List Char
  | _, [] => []
  | column, span :: rest =>
    let gap := span.start.column - column
    let size := max 1 (span.finish.column - span.start.column)
    List.replicate gap ' ' ++ List.replicate size '^' ++ marks (column + gap + size) rest

/-- A line of a pattern, with the line of marks below it if it has any. Lines have numbers if
    there are several. -/
def notated (f : Fault) (numberSize : Nat) (line : String) (index : Nat) : List String :=
  let number := toString (index + 1)
  let lead :=
    if numberSize = 0 then "    "
    else String.ofList (List.replicate (numberSize - number.length) ' ') ++ number ++ ": "
  let onLine := f.spans.filter fun s => s.start.line = index + 1 ∧ s.finish.line = index + 1
  let indent := List.replicate (if numberSize = 0 then 4 else numberSize + 2) ' '
  (lead ++ line) ::
    if onLine.isEmpty then [] else [String.ofList (indent ++ marks 1 onLine)]

/-- The lines of a pattern with the marks below them. -/
def shownText (f : Fault) (pattern : String) : List String :=
  let lines := linesOf pattern
  let count := lines.length + if pattern.toList.getLast? = some '\n' then 1 else 0
  let numberSize := if count ≤ 1 then 0 else (toString count).length
  (lines.zipIdx.map fun (line, index) => f.notated numberSize line index).flatten

/-- The stretches that go over several lines, in words. -/
def stretches (f : Fault) : List String :=
  (f.spans.filter fun s => s.start.line ≠ s.finish.line).map fun s =>
    s!"on line {s.start.line} (column {s.start.column}) " ++
      s!"through line {s.finish.line} (column {s.finish.column - 1})"

/-- The report about a fault. Patterns of several lines stand between rulers. -/
def report (f : Fault) (pattern : String) : String :=
  let shown := f.shownText pattern
  let shown :=
    if pattern.toList.contains '\n' then
      let ruler := String.ofList (List.replicate 79 '~')
      [ruler] ++ shown ++ [ruler] ++ f.stretches
    else shown
  "\n".intercalate (["regex parse error:"] ++ shown ++ [s!"error: {f.cause.message}"])

end Fault

end Pattern

end DeviceFlow
