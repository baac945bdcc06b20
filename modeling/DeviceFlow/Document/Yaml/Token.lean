import DeviceFlow.Document.Yaml.Tag

/-!
# Tokens of YAML texts

The structural marks of a YAML text and the scalars, anchors, references and tags between
them, as they are found by the scanner; and the reading of those tokens that take more than
one character.
-/

namespace DeviceFlow.Document.Yaml

/-- The way a scalar is written. -/
inductive Style where
  | plain
  | singleQuoted
  | doubleQuoted
  | literal
  | folded
  deriving DecidableEq, Repr

/-- A token. -/
inductive Token where
  | versionDirective (major minor : Nat)
  | tagDirective (handle : String) (lead : Tag)
  | documentStart
  | documentEnd
  | blockSequenceStart
  | blockMappingStart
  | blockEnd
  | flowSequenceStart
  | flowSequenceEnd
  | flowMappingStart
  | flowMappingEnd
  | blockEntry
  | flowEntry
  | key
  | value
  | alias (name : String)
  | anchor (name : String)
  | tag (handle : String) (suffix : Tag)
  | scalar (text : String) (style : Style)
  deriving DecidableEq, Repr

/-! ## Names -/

/-- Reads the name of an anchor or reference, after its mark. -/
def anchorName? (gs : List Glyph) : Option (String × List Glyph) :=
  let (name, rest) := spanChars isNameChar gs
  let ends :=
    match rest with
    | [] => true
    | g :: _ => g.isSpace || ['?', ':', ',', ']', '\x7d', '%', '@', '\x60'].contains g.char
  if name.isEmpty || !ends then none else some (String.ofList name, rest)

/-! ## Directives -/

/-- Reads a number of at most nine digits. -/
def versionNumber? (gs : List Glyph) : Option (Nat × List Glyph) :=
  let (digits, rest) := spanChars Char.isDigit gs
  if digits.isEmpty || 9 < digits.length then none
  else some (Text.digitsValue digits, rest)

/-- Reads a directive after its mark, with the rest of its line. -/
def directive? (gs : List Glyph) : Option (Token × List Glyph) := do
  let (name, rest) := spanChars isNameChar gs
  if name.isEmpty || !spaceNext rest then none
  else
    let (token, rest) ←
      if name = ['Y', 'A', 'M', 'L'] then do
        let (major, rest) ← versionNumber? (dropBlanks rest)
        match rest with
        | g :: rest =>
          if g.char = '.' then do
            let (minor, rest) ← versionNumber? rest
            some (Token.versionDirective major minor, rest)
          else none
        | [] => none
      else if name = ['T', 'A', 'G'] then do
        let (handle, rest) ← tagHandle? (dropBlanks rest)
        if handle.length ≠ 1 ∧ handle.getLast? ≠ some '!' then none
        else
          match rest with
          | g :: _ =>
            if g.isBlank then do
              let (lead, rest) ← tagRest? true none (dropBlanks rest)
              if spaceNext rest then
                some (Token.tagDirective (String.ofList handle) lead, rest)
              else none
            else none
          | [] => none
      else none
    let rest := dropBlanks rest
    let rest := if comesNext ['#'] rest then dropLine rest else rest
    match rest with
    | [] => some (token, [])
    | g :: after =>
      if g.isBreak then some (token, after) else if g.isEnd then some (token, rest) else none

/-! ## Quoted scalars -/

/-- How the parts of a scalar that goes over several lines are put together. The text so far
    is kept last character first. -/
structure Folding where
  text : List Char
  /-- Blanks since the last other character. -/
  blanks : List Char
  /-- The first line break since the last other character. -/
  firstBreak : List Char
  /-- The further line breaks. -/
  moreBreaks : List Char
  /-- Whether a line has been broken since the last other character. -/
  broken : Bool

/-- Nothing read yet. -/
def Folding.start : Folding := ⟨[], [], [], [], false⟩

/-- Takes a blank: blanks at the start of a line do not count. -/
def Folding.blank (f : Folding) (c : Char) : Folding :=
  if f.broken then f else { f with blanks := c :: f.blanks }

/-- Takes a line break: blanks before it do not count. -/
def Folding.lineBreak (f : Folding) (c : Char) : Folding :=
  if f.broken then { f with moreBreaks := c :: f.moreBreaks }
  else { f with blanks := [], firstBreak := [c], broken := true }

/-- Puts down what stands between two words: the blanks, or a blank for a single line break,
    or the line breaks after the first. -/
def Folding.join (f : Folding) : Folding :=
  let between :=
    if f.broken then
      if f.firstBreak = ['\n'] then if f.moreBreaks.isEmpty then [' '] else f.moreBreaks
      else f.moreBreaks ++ f.firstBreak
    else f.blanks
  ⟨between ++ f.text, [], [], [], false⟩

/-- Takes a character of a word. -/
def Folding.push (f : Folding) (c : Char) : Folding :=
  let f := f.join
  { f with text := c :: f.text }

/-- The text. -/
def Folding.result (f : Folding) : String :=
  String.ofList f.text.reverse

/-- Reads a scalar in single quotes after the opening one. -/
def singleQuoted? (f : Folding) : List Glyph → Option (String × List Glyph)
  | [] => none
  | g :: rest =>
    if g.isEnd then none
    else if g.isBlank then singleQuoted? (f.blank g.char) rest
    else if g.isBreak then
      if documentMarkNext rest then none else singleQuoted? (f.lineBreak g.char) rest
    else if g.char = '\'' then
      match rest with
      | h :: rest' =>
        if h.char = '\'' then singleQuoted? (f.push '\'') rest' else some (f.join.result, rest)
      | [] => some (f.join.result, rest)
    else singleQuoted? (f.push g.char) rest

/-- The character that a one-letter escape stands for. -/
def escape? (c : Char) : Option Char :=
  match c with
  | '0' => some '\x00'
  | 'a' => some '\x07'
  | 'b' => some '\x08'
  | 't' | '\t' => some '\t'
  | 'n' => some '\n'
  | 'v' => some '\x0b'
  | 'f' => some '\x0c'
  | 'r' => some '\r'
  | 'e' => some '\x1b'
  | ' ' => some ' '
  | '"' => some '"'
  | '/' => some '/'
  | '\\' => some '\\'
  | 'N' => some '\u0085'
  | '_' => some '\u00a0'
  | 'L' => some '\u2028'
  | 'P' => some '\u2029'
  | _ => none

/-- How many hexadecimal digits follow an escape letter. -/
def escapeDigits? (c : Char) : Option Nat :=
  match c with
  | 'x' => some 2
  | 'u' => some 4
  | 'U' => some 8
  | _ => none

/-- What the reader of a scalar in double quotes is in the middle of. -/
inductive EscapeState where
  /-- No escape. -/
  | none
  /-- An escape whose letter comes next. -/
  | letter
  /-- An escape with digits to come, and the value of those before. -/
  | digits (left value : Nat)

/-- The character with a code, if there is one. -/
def charOfCode? (n : Nat) : Option Char :=
  if n < 0xD800 ∨ (0xE000 ≤ n ∧ n ≤ 0x10FFFF) then some (Char.ofNat n) else none

/-- Reads a scalar in double quotes after the opening one. An escaped line break joins two
    lines without a blank. -/
def doubleQuoted? (f : Folding) (e : EscapeState) : List Glyph → Option (String × List Glyph)
  | [] => none
  | g :: rest =>
    match e with
    | .letter =>
      if g.isBreak then
        if documentMarkNext rest then none
        else doubleQuoted? { f.join with broken := true } .none rest
      else
        match escape? g.char, escapeDigits? g.char with
        | some c, _ => doubleQuoted? (f.push c) .none rest
        | none, some n => doubleQuoted? f (.digits n 0) rest
        | none, none => none
    | .digits left value =>
      match Text.hexValue? g.char with
      | none => none
      | some d =>
        let value := value * 16 + d
        if left ≤ 1 then
          match charOfCode? value with
          | some c => doubleQuoted? (f.push c) .none rest
          | none => none
        else doubleQuoted? f (.digits (left - 1) value) rest
    | .none =>
      if g.isEnd then none
      else if g.isBlank then doubleQuoted? (f.blank g.char) .none rest
      else if g.isBreak then
        if documentMarkNext rest then none else doubleQuoted? (f.lineBreak g.char) .none rest
      else if g.char = '"' then some (f.join.result, rest)
      else if g.char = '\\' then doubleQuoted? f .letter rest
      else doubleQuoted? (f.push g.char) .none rest

/-! ## Plain scalars -/

/-- Whether a plain scalar ends before a character that is no blank. -/
def endsPlain (inFlow : Bool) (g : Glyph) (rest : List Glyph) : Bool :=
  (g.char = ':' && spaceNext rest) ||
    (inFlow && [',', '[', ']', '\x7b', '\x7d'].contains g.char)

/-- Whether a colon stands before a mark that makes it an error in a flow collection. -/
def misplacedColon (inFlow : Bool) (g : Glyph) (rest : List Glyph) : Bool :=
  inFlow && g.char = ':' &&
    match rest with
    | h :: _ => [',', '?', '[', ']', '\x7b', '\x7d'].contains h.char
    | [] => false

/-- Reads a plain scalar: words with blanks and line breaks between them, up to a mark that
    ends it or a line that is indented too little. -/
def plain? (inFlow : Bool) (indent : Int) (f : Folding) (inWord isFirst : Bool) :
    List Glyph → Option (Folding × List Glyph)
  | [] => some (f, [])
  | g :: rest =>
    if g.isEnd then some (f, g :: rest)
    else if g.isBlank then
      if f.broken && g.column < indent && g.char = '\t' then none
      else plain? inFlow indent (f.blank g.char) false false rest
    else if g.isBreak then plain? inFlow indent (f.lineBreak g.char) false false rest
    else if !inWord && !isFirst && !inFlow && g.column < indent then some (f, g :: rest)
    else if !inWord && (documentMarkNext (g :: rest) || g.char = '#') then some (f, g :: rest)
    else if misplacedColon inFlow g rest then none
    else if endsPlain inFlow g rest then some (f, g :: rest)
    else plain? inFlow indent (f.push g.char) true false rest

/-! ## Block scalars -/

/-- How the line breaks at the end of a block scalar are kept. -/
inductive Chomping where
  | strip
  | clip
  | keep
  deriving DecidableEq

/-- Reads a sign for the line breaks at the end. -/
def chomping? (g : Glyph) : Option Chomping :=
  if g.char = '+' then some .keep else if g.char = '-' then some .strip else none

/-- Reads the header of a block scalar: the sign and the digit for its indentation in either
    order, perhaps with a comment. -/
def blockHeader? (gs : List Glyph) : Option (Chomping × Nat × List Glyph) := do
  let sign (gs : List Glyph) : Option Chomping × List Glyph :=
    match gs with
    | g :: rest => match chomping? g with | some c => (some c, rest) | none => (none, gs)
    | [] => (none, gs)
  let digit (gs : List Glyph) : Nat × List Glyph :=
    match gs with
    | g :: rest => if g.char.isDigit then (g.char.toNat - '0'.toNat + 1, rest) else (0, gs)
    | [] => (0, gs)
  let (chomping, rest) := sign gs
  let (number, rest) := digit rest
  let (chomping, rest) := if chomping.isNone then sign rest else (chomping, rest)
  if number = 1 then none
  else
    let rest := dropBlanks rest
    let rest := if comesNext ['#'] rest then dropLine rest else rest
    match rest with
    | [] => some (chomping.getD .clip, number - 1, [])
    | g :: after =>
      if g.isBreak then some (chomping.getD .clip, number - 1, after)
      else if g.isEnd then some (chomping.getD .clip, number - 1, rest)
      else none

/-- Reads the indentation of a line and the empty lines before it: the widest indentation met
    and the line breaks, last first. An indentation of zero is not known yet. -/
def blockBreaks? (indent widest : Nat) (breaks : List Char) :
    List Glyph → Option (Nat × List Char × List Glyph)
  | [] => some (widest, breaks, [])
  | g :: rest =>
    let isOpen := indent = 0 ∨ g.column < indent
    if isOpen ∧ g.char = ' ' then blockBreaks? indent widest breaks rest
    else
      let widest := max widest g.column
      if isOpen ∧ g.char = '\t' then none
      else if g.isBreak then blockBreaks? indent widest (g.char :: breaks) rest
      else some (widest, breaks, g :: rest)

/-- The line break that a line ends with, and what comes after it. -/
def takeBreak (gs : List Glyph) : List Char × List Glyph :=
  match gs with
  | g :: rest => if g.isBreak then ([g.char], rest) else ([], gs)
  | [] => ([], [])

/-- Reads the lines of a block scalar of known indentation. `text` and the breaks are kept last
    character first. A folded line break becomes a blank, except next to a line that starts
    with a blank. -/
def blockLines? (folded : Bool) (chomping : Chomping) (indent : Nat)
    (text lineEnd breaks : List Char) (afterBlank : Bool) (gs : List Glyph) :
    Option (String × List Glyph) :=
  match gs with
  | [] => some (finish, [])
  | g :: tail =>
    if g.column = indent && !g.isEnd then
      let startsBlank := g.isBlank
      let joined :=
        if folded && lineEnd = ['\n'] && !afterBlank && !startsBlank then
          if breaks.isEmpty then ' ' :: text else breaks ++ text
        else breaks ++ lineEnd ++ text
      let (line, rest) := spanChars (fun c => !isBreakChar c && c ≠ endMark) (g :: tail)
      let (lineEnd, rest) := takeBreak rest
      match blockBreaks? indent 0 [] rest with
      | none => none
      | some (_, breaks, rest) =>
        if rest.length ≤ tail.length then
          blockLines? folded chomping indent (line.reverse ++ joined) lineEnd breaks startsBlank
            rest
        else none
    else some (finish, g :: tail)
termination_by gs.length
where
  /-- The text with the line breaks at its end as the sign says. -/
  finish : String :=
    let text := if chomping = .strip then text else lineEnd ++ text
    let text := if chomping = .keep then breaks ++ text else text
    String.ofList text.reverse

/-- Reads a block scalar after its mark, inside a block of the given indentation. -/
def blockScalar? (folded : Bool) (parent : Int) (gs : List Glyph) :
    Option (String × List Glyph) := do
  let (chomping, increment, rest) ← blockHeader? gs
  let known := if increment = 0 then 0 else (max parent 0).toNat + increment
  let (widest, breaks, rest) ← blockBreaks? known 0 [] rest
  let indent := if known = 0 then max (max widest (parent + 1).toNat) 1 else known
  blockLines? folded chomping indent [] [] breaks false rest

end DeviceFlow.Document.Yaml
