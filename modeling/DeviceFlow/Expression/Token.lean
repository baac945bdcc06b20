import DeviceFlow.Text.Blank

/-!
# Tokens of an expression

An expression is read as a list of tokens: the longest runs of digits and points are numbers,
blanks between tokens are skipped, and every other character is a token of its own. Nothing
is refused here; whether the tokens make sense is the evaluator's business.
-/

namespace DeviceFlow.Expression

/-- A token with the number of characters that stand before it. -/
inductive Token where
  /-- A run of digits and points. -/
  | number (literal : List Char) (position : Nat)
  /-- Any other character. -/
  | mark (c : Char) (position : Nat)
  deriving DecidableEq, Repr

/-- The characters of numbers. -/
def isNumeral (c : Char) : Bool :=
  c.isDigit || c == '.'

/-- Reads the tokens of a text that starts at a position. The run of a number that is being
    read is collected in `run`, last character first. -/
def scan (position : Nat) (run : List Char) : List Char → List Token
  | [] => if run.isEmpty then [] else [.number run.reverse (position - run.length)]
  | c :: cs =>
    if isNumeral c then scan (position + 1) (c :: run) cs
    else
      let after := scan (position + 1) [] cs
      let here := if Text.isBlank c then after else .mark c position :: after
      if run.isEmpty then here else .number run.reverse (position - run.length) :: here

/-- The tokens of a text. -/
def tokens (text : List Char) : List Token :=
  scan 0 [] text

namespace Token

/-- The character that a token starts with. -/
def first : Token → Char
  | .number literal _ => literal.headD '.'
  | .mark c _ => c

/-- The number of characters before a token. -/
def position : Token → Nat
  | .number _ p | .mark _ p => p

end Token

end DeviceFlow.Expression
