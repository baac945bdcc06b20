/-!
# Blank characters

The characters that count as white space in texts written by people: the ASCII controls
from tab to carriage return, the space, and the separators of the wider repertoire.
`trim` removes them from both ends of a text.
-/

namespace DeviceFlow.Text

/-- Whether a character separates words: tab to carriage return, space, next line, and the
    spaces and separators above the ASCII range. -/
def isBlank (c : Char) : Bool :=
  let n := c.toNat
  (0x09 ≤ n && n ≤ 0x0D) || n == 0x20 || n == 0x85 || n == 0xA0 || n == 0x1680 ||
    (0x2000 ≤ n && n ≤ 0x200A) || n == 0x2028 || n == 0x2029 || n == 0x202F || n == 0x205F ||
    n == 0x3000

/-- Drops the blanks that a text starts with. -/
def trimStart (cs : List Char) : List Char :=
  cs.dropWhile isBlank

/-- Drops the blanks that a text ends with. -/
def trimEnd (cs : List Char) : List Char :=
  (cs.reverse.dropWhile isBlank).reverse

/-- Drops the blanks at both ends of a text. -/
def trim (cs : List Char) : List Char :=
  trimEnd (trimStart cs)

/-- A text without the blanks at its ends. -/
def trimmed (s : String) : String :=
  String.ofList (trim s.toList)

/-- Whether a text holds nothing but blanks. -/
def isBlankText (s : String) : Bool :=
  s.toList.all isBlank

end DeviceFlow.Text
