/-!
# Characters with their places

The reading of YAML depends on where a character stands: on its line, and on its column, by
which indentation is measured. So the text is first turned into a list of characters with
their places, which ends with a mark for the end of the text. The several ways to end a line
are made one here, and characters that no text may hold are refused.
-/

namespace DeviceFlow.Document.Yaml

/-- A character and its place, all counted from zero. -/
structure Glyph where
  char : Char
  /-- The number of characters before it. -/
  index : Nat
  line : Nat
  column : Nat
  deriving DecidableEq, Repr

/-- The character that stands for the end of the text; no text holds it. -/
def endMark : Char := '\x00'

/-- Whether a character ends a line. -/
def isBreakChar (c : Char) : Bool :=
  c = '\n' || c = '\r' || c = '\u0085' || c = '\u2028' || c = '\u2029'

/-- Whether a text may hold a character. -/
def isAllowed (c : Char) : Bool :=
  let n := c.toNat
  n = 0x09 || n = 0x0A || n = 0x0D || (0x20 ≤ n && n ≤ 0x7E) || n = 0x85 ||
    (0xA0 ≤ n && n ≤ 0xD7FF) || (0xE000 ≤ n && n ≤ 0xFFFD) || 0x10000 ≤ n

/-- The characters of a text that starts at the given place. A line ends with a line feed,
    whichever way it was ended, except for the line and paragraph separators, which remain. -/
def glyphsFrom (index line column : Nat) : List Char → List Glyph
  | [] => [⟨endMark, index, line, column⟩]
  | '\r' :: '\n' :: rest => ⟨'\n', index, line, column⟩ :: glyphsFrom (index + 2) (line + 1) 0 rest
  | c :: rest =>
    if isBreakChar c then
      let kept := if c = '\u2028' ∨ c = '\u2029' then c else '\n'
      ⟨kept, index, line, column⟩ :: glyphsFrom (index + 1) (line + 1) 0 rest
    else ⟨c, index, line, column⟩ :: glyphsFrom (index + 1) line (column + 1) rest

/-- The characters of a text with their places; none when the text holds a character that it
    may not hold. -/
def glyphs? (text : List Char) : Option (List Glyph) :=
  if text.all isAllowed then some (glyphsFrom 0 0 0 text) else none

namespace Glyph

/-- Whether this is the end of the text. -/
def isEnd (g : Glyph) : Bool := g.char = endMark

/-- Whether this ends a line. -/
def isBreak (g : Glyph) : Bool := isBreakChar g.char

/-- Whether this is a blank within a line. -/
def isBlank (g : Glyph) : Bool := g.char = ' ' || g.char = '\t'

/-- Whether this is a byte order mark at the start of a line. -/
def isLineMark (g : Glyph) : Bool := g.column = 0 && g.char = '\ufeff'

/-- Whether this is a blank or ends a line or the text. -/
def isSpace (g : Glyph) : Bool := g.isBlank || g.isBreak || g.isEnd

end Glyph

/-- Whether a blank, the end of a line or the end of the text comes next. -/
def spaceNext : List Glyph → Bool
  | [] => true
  | g :: _ => g.isSpace

/-- Whether the given characters come next. -/
def comesNext (mark : List Char) (gs : List Glyph) : Bool :=
  (gs.take mark.length).map (·.char) = mark

/-- Whether a document mark stands here, at the start of a line. -/
def documentMarkNext (gs : List Glyph) : Bool :=
  match gs with
  | [] => false
  | g :: _ =>
    g.column = 0 && (comesNext ['-', '-', '-'] gs || comesNext ['.', '.', '.'] gs) &&
      spaceNext (gs.drop 3)

/-- The characters of names. -/
def isNameChar (c : Char) : Bool :=
  c.isAlphanum || c = '_' || c = '-'

/-- Splits off the characters that satisfy a condition. -/
def spanChars (p : Char → Bool) : List Glyph → List Char × List Glyph
  | [] => ([], [])
  | g :: rest =>
    if p g.char then
      let (cs, after) := spanChars p rest
      (g.char :: cs, after)
    else ([], g :: rest)

/-- Drops the blanks within a line. -/
def dropBlanks : List Glyph → List Glyph
  | [] => []
  | g :: rest => if g.isBlank then dropBlanks rest else g :: rest

/-- Drops the rest of a line. -/
def dropLine : List Glyph → List Glyph
  | [] => []
  | g :: rest => if g.isBreak || g.isEnd then g :: rest else dropLine rest

end DeviceFlow.Document.Yaml
