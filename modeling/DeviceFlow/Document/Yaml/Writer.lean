import DeviceFlow.Document.Value
import DeviceFlow.Document.Yaml.Scalar

/-!
# Writing YAML

A tree of values as YAML text in block style. A text is written without quotes where it reads
back as the same text, else in single quotes, and in double quotes with escapes when it holds
characters that cannot stand for themselves. A text of several lines is written as a block of
lines. Lines are never folded.
-/

namespace DeviceFlow.Document.Yaml

/-! ## Which style a text needs -/

/-- Whether a character can stand for itself; a tab and a byte order mark are escaped. -/
def isPrintable (c : Char) : Bool :=
  let n := c.toNat
  c = '\n' || (0x20 ≤ n && n ≤ 0x7E) || (0xA0 ≤ n && n ≤ 0xFFFD && n ≠ 0xFEFF) || 0x10000 ≤ n

/-- Whether there is a blank, a line break or the end of the text. -/
def isGap (c : Option Char) : Bool :=
  match c with
  | none => true
  | some c => c = ' ' || c = '\t' || c = '\x00' || isBreakChar c

/-- The characters that mean something at the start of a scalar. -/
def indicators : List Char :=
  ['#', ',', '[', ']', '\x7b', '\x7d', '&', '*', '!', '|', '>', '\'', '"', '%', '@', '\x60']

/-- Whether a character means something between its neighbours. -/
def isIndicator (before : Option Char) (c : Char) (after : Option Char) : Bool :=
  match before with
  | none => indicators.contains c || ((c = '?' || c = ':' || c = '-') && isGap after)
  | some _ => (c = ':' && isGap after) || (c = '#' && isGap before)

/-- Whether some character after the given one means something. -/
def hasIndicator (before : Option Char) : List Char → Bool
  | [] => false
  | c :: rest => isIndicator before c rest.head? || hasIndicator (some c) rest

/-- Whether a character that satisfies `p` stands right before one that satisfies `q`. -/
def hasPair (p q : Char → Bool) : List Char → Bool
  | a :: b :: rest => (p a && q b) || hasPair p q (b :: rest)
  | _ => false

/-- Whether a text starts like a mark between documents. -/
def startsLikeMark (cs : List Char) : Bool :=
  ['-', '-', '-'].isPrefixOf cs || ['.', '.', '.'].isPrefixOf cs

/-- Whether a character is a space or a line break. -/
def isLoose (c : Char) : Bool := c = ' ' || isBreakChar c

/-- Whether a text may stand without quotes. -/
def plainAllowed (cs : List Char) : Bool :=
  !cs.any isBreakChar && cs.all isPrintable && !hasIndicator none cs && !startsLikeMark cs &&
    !(cs.head?.any isLoose || cs.getLast?.any isLoose)

/-- Whether a text may stand in single quotes. -/
def singleAllowed (cs : List Char) : Bool :=
  cs.all isPrintable && !hasPair (· = ' ') isBreakChar cs && !hasPair isBreakChar (· = ' ') cs

/-- Whether a text may stand as a block of lines. -/
def blockAllowed (cs : List Char) : Bool :=
  cs.all isPrintable && !hasPair (· = ' ') isBreakChar cs && cs.getLast? ≠ some ' '

/-- Whether a text would be read as something else without quotes. -/
def looksOtherwise (s : String) : Bool :=
  isPaddedNumber s.toList || plainAtom s ≠ some (.text s)

/-- The style of a text. A key that fits on a line is never a block of lines. -/
def styleOf (s : String) : Style :=
  let cs := s.toList
  if cs.contains '\n' then if blockAllowed cs then .literal else .doubleQuoted
  else if !looksOtherwise s && plainAllowed cs then .plain
  else if singleAllowed cs then .singleQuoted
  else .doubleQuoted

/-! ## Scalars -/

/-- Blanks at the start of a line. -/
def blanks (indent : Nat) : List Char := List.replicate indent ' '

/-- Text over lines, each of which starts with an indentation when it is not empty. -/
def indented (indent : Nat) (atStart : Bool) (char : Char → List Char) : List Char → List Char
  | [] => []
  | c :: rest =>
    if isBreakChar c then c :: indented indent true char rest
    else (if atStart then blanks indent else []) ++ char c ++ indented indent false char rest

/-- A text in single quotes. -/
def singleQuotedChars (indent : Nat) (cs : List Char) : List Char :=
  let double (c : Char) : List Char := if c = '\'' then ['\'', '\''] else [c]
  '\'' :: indented indent false double cs ++
    (if cs.getLast?.any isBreakChar then blanks indent else []) ++ ['\'']

/-- The letter after the backslash of an escape. -/
def escapeLetter? (c : Char) : Option Char :=
  match c with
  | '\x00' => some '0'
  | '\x07' => some 'a'
  | '\x08' => some 'b'
  | '\t' => some 't'
  | '\n' => some 'n'
  | '\x0b' => some 'v'
  | '\x0c' => some 'f'
  | '\r' => some 'r'
  | '\x1b' => some 'e'
  | '"' => some '"'
  | '\\' => some '\\'
  | '\u0085' => some 'N'
  | '\u2028' => some 'L'
  | '\u2029' => some 'P'
  | _ => none

/-- A number in hexadecimal digits of a fixed width. -/
def hexChars (width n : Nat) : List Char :=
  let digits := (Nat.toDigits 16 n).map Char.toUpper
  List.replicate (width - digits.length) '0' ++ digits

/-- A character inside double quotes. -/
def doubleQuotedChar (c : Char) : List Char :=
  if isPrintable c && !isBreakChar c && c ≠ '"' && c ≠ '\\' then [c]
  else
    match escapeLetter? c with
    | some letter => ['\\', letter]
    | none =>
      let n := c.toNat
      if n ≤ 0xFF then '\\' :: 'x' :: hexChars 2 n
      else if n ≤ 0xFFFF then '\\' :: 'u' :: hexChars 4 n
      else '\\' :: 'U' :: hexChars 8 n

/-- What a block of lines says about the line breaks at its end: by itself there is one. -/
def chompChars (cs : List Char) : List Char :=
  match cs.reverse with
  | [] => ['-']
  | [c] => if isBreakChar c then ['+'] else ['-']
  | c :: d :: _ => if !isBreakChar c then ['-'] else if isBreakChar d then ['+'] else []

/-- A block of lines. Its indentation is said when its first line does not show it. -/
def literalChars (indent : Nat) (cs : List Char) : List Char :=
  '|' :: (if cs.head?.any isLoose then ['2'] else []) ++ chompChars cs ++
    '\n' :: indented indent true (fun c => [c]) cs

/-- A text as a scalar; its further lines are indented. -/
def textChars (indent : Nat) (s : String) : List Char :=
  let cs := s.toList
  match styleOf s with
  | .plain => cs
  | .singleQuoted => singleQuotedChars indent cs
  | .literal | .folded => literalChars indent cs
  | .doubleQuoted => '"' :: cs.flatMap doubleQuotedChar ++ ['"']

/-- Ends a line, unless it has been ended by the scalar on it. -/
def endLine (cs : List Char) : List Char :=
  if cs.getLast?.any isBreakChar then cs else cs ++ ['\n']

/-- Whether a text can be a key on the line of its value: it has one line of moderate
    length. -/
def isSimpleKey (s : String) : Bool :=
  !s.toList.any isBreakChar && s.utf8ByteSize ≤ 128

/-- The start of an entry, up to the mark after its key. -/
def keyChars (indent : Nat) (key : String) : List Char :=
  if isSimpleKey key then textChars (indent + 2) key ++ [':']
  else '?' :: ' ' :: endLine (textChars (indent + 2) key) ++ blanks indent ++ [':']

/-! ## Trees -/

mutual

/-- A value after the mark of an item or at the start of a text; the lines after the first are
    indented. -/
def itemChars (indent : Nat) : Value → List Char
  | .null => "null\n".toList
  | .bool b => if b then "true\n".toList else "false\n".toList
  | .int i => (toString i).toList ++ ['\n']
  | .text s => endLine (textChars indent s)
  | .list [] => "[]\n".toList
  | .list (v :: rest) => '-' :: ' ' :: itemChars (indent + 2) v ++ itemsChars indent rest
  | .table [] => "\x7b\x7d\n".toList
  | .table ((key, v) :: rest) =>
    keyChars indent key ++ valueChars indent v ++ entriesChars indent rest

/-- The items of a list, each on lines of its own. -/
def itemsChars (indent : Nat) : List Value → List Char
  | [] => []
  | v :: rest => blanks indent ++ '-' :: ' ' :: itemChars (indent + 2) v ++ itemsChars indent rest

/-- The entries of a table, each on lines of its own. -/
def entriesChars (indent : Nat) : List (String × Value) → List Char
  | [] => []
  | (key, v) :: rest =>
    blanks indent ++ keyChars indent key ++ valueChars indent v ++ entriesChars indent rest

/-- The value of an entry after the mark. A list stands below the key with no more
    indentation, a table with more. -/
def valueChars (indent : Nat) : Value → List Char
  | .null => " null\n".toList
  | .bool b => if b then " true\n".toList else " false\n".toList
  | .int i => ' ' :: (toString i).toList ++ ['\n']
  | .text s => ' ' :: endLine (textChars (indent + 2) s)
  | .list [] => " []\n".toList
  | .list (v :: rest) =>
    '\n' :: blanks indent ++ '-' :: ' ' :: itemChars (indent + 2) v ++ itemsChars indent rest
  | .table [] => " \x7b\x7d\n".toList
  | .table ((key, v) :: rest) =>
    '\n' :: blanks (indent + 2) ++ keyChars (indent + 2) key ++ valueChars (indent + 2) v ++
      entriesChars (indent + 2) rest

end

/-- The YAML text of a value. -/
def write (v : Value) : String :=
  String.ofList (itemChars 0 v)

end DeviceFlow.Document.Yaml
