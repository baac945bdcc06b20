import DeviceFlow.Log
import DeviceFlow.Expression.Number
import DeviceFlow.Expression.Token

/-!
# Arithmetic on texts

The value of a text that is an arithmetic expression:

    sum     := product (('+' | '-') product)*
    product := signed (('*' | '/' | '%') signed)*
    signed  := ('+' | '-') signed | operand
    operand := number | '(' sum ')'

Operators of one level associate to the left. A text that is no expression, or has no finite
value, is an error; `evaluate?` is the use that a step makes of it, where such a text simply
stays what it is.
-/

namespace DeviceFlow

/-- Why a text has no value as an expression. -/
inductive ExpressionError where
  /-- A character that cannot stand at its position. -/
  | unexpected (c : Char) (position : Nat)
  /-- The text ends where an operand or a closing parenthesis has to come. -/
  | unexpectedEnd
  /-- A run of digits and points that is no number. -/
  | invalidNumber (literal : String)
  /-- A divisor is zero. -/
  | divisionByZero
  /-- The value is infinite or undefined. -/
  | notFinite
  deriving DecidableEq, Repr

/-- The text of an error. -/
def ExpressionError.message : ExpressionError → String
  | .unexpected c position => s!"unexpected character '{c}' at {position}"
  | .unexpectedEnd => "unexpected end of expression"
  | .invalidNumber literal => s!"invalid number '{literal}'"
  | .divisionByZero => "division by zero"
  | .notFinite => "result is not a finite number"

namespace Expression

/-- The error of finding these tokens where something else has to stand. -/
def refuse : List Token → ExpressionError
  | [] => .unexpectedEnd
  | t :: _ => .unexpected t.first t.position

/-- A value together with the tokens after it, of which there are fewer than before. -/
abbrev Reading (tokens : List Token) :=
  Except ExpressionError (Float × { rest : List Token // rest.length < tokens.length })

/-- The value of a sum or difference. -/
def addition (operator : Char) (x y : Float) : Float :=
  if operator = '+' then x + y else x - y

/-- The value of a product, quotient or remainder; a divisor must not be zero. -/
def multiplication (operator : Char) (x y : Float) : Except ExpressionError Float :=
  if operator = '*' then .ok (x * y)
  else if y == 0.0 then .error .divisionByZero
  else if operator = '/' then .ok (x / y)
  else .ok (Decimal.remainder x y)

/-- The tokens after a closing parenthesis, which has to come first. -/
def afterClosing (ts : List Token) :
    Except ExpressionError { rest : List Token // rest.length < ts.length } :=
  match ts with
  | .mark c p :: rest => if c = ')' then .ok ⟨rest, by simp⟩ else .error (.unexpected c p)
  | _ => .error (refuse ts)

mutual

/-- Reads a sum. -/
def sum (ts : List Token) : Reading ts :=
  match product ts with
  | .error e => .error e
  | .ok (x, ⟨rest, _⟩) =>
    match moreTerms x rest with
    | .error e => .error e
    | .ok (v, ⟨rest', _⟩) => .ok (v, ⟨rest', by omega⟩)
termination_by (ts.length, 4)

/-- Continues a sum of which the first terms have been added up. -/
def moreTerms (x : Float) (ts : List Token) :
    Except ExpressionError (Float × { rest : List Token // rest.length ≤ ts.length }) :=
  match ts with
  | .mark c _ :: rest =>
    if c = '+' ∨ c = '-' then
      match product rest with
      | .error e => .error e
      | .ok (y, ⟨rest', _⟩) =>
        match moreTerms (addition c x y) rest' with
        | .error e => .error e
        | .ok (v, ⟨rest'', _⟩) => .ok (v, ⟨rest'', by simp only [List.length_cons]; omega⟩)
    else .ok (x, ⟨_, Nat.le_refl _⟩)
  | _ => .ok (x, ⟨_, Nat.le_refl _⟩)
termination_by (ts.length, 5)

/-- Reads a product. -/
def product (ts : List Token) : Reading ts :=
  match signed ts with
  | .error e => .error e
  | .ok (x, ⟨rest, _⟩) =>
    match moreFactors x rest with
    | .error e => .error e
    | .ok (v, ⟨rest', _⟩) => .ok (v, ⟨rest', by omega⟩)
termination_by (ts.length, 2)

/-- Continues a product of which the first factors have been multiplied. -/
def moreFactors (x : Float) (ts : List Token) :
    Except ExpressionError (Float × { rest : List Token // rest.length ≤ ts.length }) :=
  match ts with
  | .mark c _ :: rest =>
    if c = '*' ∨ c = '/' ∨ c = '%' then
      match signed rest with
      | .error e => .error e
      | .ok (y, ⟨rest', _⟩) =>
        match multiplication c x y with
        | .error e => .error e
        | .ok z =>
          match moreFactors z rest' with
          | .error e => .error e
          | .ok (v, ⟨rest'', _⟩) => .ok (v, ⟨rest'', by simp only [List.length_cons]; omega⟩)
    else .ok (x, ⟨_, Nat.le_refl _⟩)
  | _ => .ok (x, ⟨_, Nat.le_refl _⟩)
termination_by (ts.length, 3)

/-- Reads an operand with the signs before it. -/
def signed (ts : List Token) : Reading ts :=
  match ts with
  | .mark c _ :: rest =>
    if c = '+' then
      match signed rest with
      | .error e => .error e
      | .ok (x, ⟨rest', _⟩) => .ok (x, ⟨rest', by simp only [List.length_cons]; omega⟩)
    else if c = '-' then
      match signed rest with
      | .error e => .error e
      | .ok (x, ⟨rest', _⟩) => .ok (-x, ⟨rest', by simp only [List.length_cons]; omega⟩)
    else operand _
  | _ => operand _
termination_by (ts.length, 1)

/-- Reads a number or a sum in parentheses. -/
def operand (ts : List Token) : Reading ts :=
  match ts with
  | .number literal _ :: rest =>
    match readNumber? literal with
    | some x => .ok (x, ⟨rest, by simp⟩)
    | none => .error (.invalidNumber (String.ofList literal))
  | .mark c p :: rest =>
    if c = '(' then
      match sum rest with
      | .error e => .error e
      | .ok (x, ⟨rest', _⟩) =>
        match afterClosing rest' with
        | .error e => .error e
        | .ok ⟨rest'', _⟩ => .ok (x, ⟨rest'', by simp only [List.length_cons]; omega⟩)
    else .error (.unexpected c p)
  | [] => .error .unexpectedEnd
termination_by (ts.length, 0)

end

/-- The value of a text that is an expression from end to end and whose value is finite. -/
def evaluate (text : String) : Except ExpressionError Float :=
  match sum (tokens text.toList) with
  | .error e => .error e
  | .ok (x, ⟨[], _⟩) => if x.isFinite then .ok x else .error .notFinite
  | .ok (_, ⟨rest, _⟩) => .error (refuse rest)

/-- The characters that make a text worth evaluating. -/
def operators : List Char := ['+', '-', '*', '/', '%']

/-- Whether a text holds an operator. -/
def hasOperator (text : String) : Bool :=
  text.toList.any operators.contains

/-- The text of the value of an expression that holds an operator; none for any other text,
    which then stands for itself. -/
def evaluate? (text : String) : Option String :=
  if hasOperator text then
    match evaluate text with
    | .ok x => some (formatNumber x)
    | .error _ => none
  else none

/-- What is reported about a text that holds an operator but is no expression. -/
def evaluationLog (text : String) : List LogRecord :=
  if hasOperator text then
    match evaluate text with
    | .ok _ => []
    | .error e => [.debug .expression s!"'{text}' kept literal: {e.message}"]
  else []

end Expression

end DeviceFlow
