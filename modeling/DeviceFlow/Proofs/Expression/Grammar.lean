import DeviceFlow.Expression.Evaluate

/-!
# The grammar of expressions

What is an expression, and what its value is, said without reading anything. A text is spelt
out in words with blanks between them, the words are derived by the grammar

    sum     := sum ('+' | '-') product | product
    product := product ('*' | '/' | '%') signed | signed
    signed  := ('+' | '-') signed | operand
    operand := number | '(' sum ')'

whose repetitions are written as left recursions, so that a derivation also says how operators
associate, and the formula of the derivation has a value or none.

The tokens of a text are the words that spell it, and a text is spelt in one way only.
-/

namespace DeviceFlow.Expression

/-- A word of an expression, wherever it stands. -/
inductive Lexeme where
  | number (literal : List Char)
  | mark (c : Char)
  deriving DecidableEq

/-- The word that stands at a token. -/
def Token.lexeme : Token → Lexeme
  | .number literal _ => .number literal
  | .mark c _ => .mark c

/-- A text consists of words, with blanks before, between and after them. A number does not end
    before a character that could belong to it. -/
inductive Spells : List Char → List Lexeme → Prop where
  | done : Spells [] []
  | blank {c : Char} {cs : List Char} {words : List Lexeme} (hblank : Text.isBlank c = true)
      (rest : Spells cs words) : Spells (c :: cs) words
  | number {literal cs : List Char} {words : List Lexeme} (hne : literal ≠ [])
      (hall : ∀ c ∈ literal, isNumeral c = true)
      (hends : ∀ c ∈ cs.head?, isNumeral c = false) (rest : Spells cs words) :
      Spells (literal ++ cs) (.number literal :: words)
  | mark {c : Char} {cs : List Char} {words : List Lexeme} (hblank : Text.isBlank c = false)
      (hmark : isNumeral c = false) (rest : Spells cs words) : Spells (c :: cs) (.mark c :: words)

/-- The operators between two operands. -/
inductive Operator where
  | plus
  | minus
  | times
  | dividedBy
  | modulo
  deriving DecidableEq

namespace Operator

/-- The character for an operator. -/
def symbol : Operator → Char
  | plus => '+'
  | minus => '-'
  | times => '*'
  | dividedBy => '/'
  | modulo => '%'

/-- Whether an operator stands between the terms of a sum, and not between factors. -/
def isAdditive : Operator → Bool
  | plus | minus => true
  | times | dividedBy | modulo => false

/-- The value of an operation. There is none if a divisor or a modulus is zero. -/
def value? : Operator → Float → Float → Option Float
  | plus, x, y => some (x + y)
  | minus, x, y => some (x - y)
  | times, x, y => some (x * y)
  | dividedBy, x, y => if y == 0.0 then none else some (x / y)
  | modulo, x, y => if y == 0.0 then none else some (Decimal.remainder x y)

end Operator

/-- What a derivation says that is to be computed. -/
inductive Formula where
  | number (literal : List Char)
  | positive (f : Formula)
  | negative (f : Formula)
  | binary (o : Operator) (f g : Formula)

/-- The value of a formula, if its numbers can be read and nothing is divided by zero. -/
def Formula.value? : Formula → Option Float
  | number literal => readNumber? literal
  | positive f => f.value?
  | negative f => f.value?.map fun x => -x
  | binary o f g => f.value?.bind fun x => g.value?.bind fun y => o.value? x y

/-- The rules of the grammar. -/
inductive Level where
  | sum
  | product
  | signed
  | operand

/-- Words are derived by a rule of the grammar, as a formula. -/
inductive Derives : Level → List Lexeme → Formula → Prop where
  | term {words : List Lexeme} {f : Formula} (h : Derives .product words f) :
      Derives .sum words f
  | sum {left right : List Lexeme} {f g : Formula} {o : Operator} (ho : o.isAdditive = true)
      (hleft : Derives .sum left f) (hright : Derives .product right g) :
      Derives .sum (left ++ .mark o.symbol :: right) (.binary o f g)
  | factor {words : List Lexeme} {f : Formula} (h : Derives .signed words f) :
      Derives .product words f
  | product {left right : List Lexeme} {f g : Formula} {o : Operator}
      (ho : o.isAdditive = false) (hleft : Derives .product left f)
      (hright : Derives .signed right g) :
      Derives .product (left ++ .mark o.symbol :: right) (.binary o f g)
  | plain {words : List Lexeme} {f : Formula} (h : Derives .operand words f) :
      Derives .signed words f
  | positive {words : List Lexeme} {f : Formula} (h : Derives .signed words f) :
      Derives .signed (.mark '+' :: words) (.positive f)
  | negative {words : List Lexeme} {f : Formula} (h : Derives .signed words f) :
      Derives .signed (.mark '-' :: words) (.negative f)
  | number (literal : List Char) : Derives .operand [.number literal] (.number literal)
  | group {words : List Lexeme} {f : Formula} (h : Derives .sum words f) :
      Derives .operand (.mark '(' :: (words ++ [.mark ')'])) f

/-- A text is an expression with a finite value. -/
def Denotes (text : String) (x : Float) : Prop :=
  ∃ words f, Spells text.toList words ∧ Derives .sum words f ∧ f.value? = some x ∧
    x.isFinite = true

/-! ## The words of a text -/

variable {cs run : List Char} {words : List Lexeme} {position : Nat}

theorem toNat_of_isNumeral {c : Char} (h : isNumeral c = true) : 46 ≤ c.toNat ∧ c.toNat ≤ 57 := by
  unfold isNumeral at h
  rcases Bool.or_eq_true_iff.mp h with h | h
  · have hdigit : '0'.val ≤ c.val ∧ c.val ≤ '9'.val := by simpa [Char.isDigit] using h
    have hlow := UInt32.le_iff_toNat_le.mp hdigit.1
    have hhigh := UInt32.le_iff_toNat_le.mp hdigit.2
    have hzero : '0'.val.toNat = 48 := rfl
    have hnine : '9'.val.toNat = 57 := rfl
    have hc : c.toNat = c.val.toNat := rfl
    omega
  · rw [eq_of_beq h]
    decide

theorem isNumeral_of_isBlank {c : Char} (h : Text.isBlank c = true) : isNumeral c = false := by
  refine Bool.eq_false_iff.mpr fun hnumeral => ?_
  obtain ⟨hlow, hhigh⟩ := toNat_of_isNumeral hnumeral
  simp [Text.isBlank] at h
  omega

/-- The words of a text of which the start of a number has been read already. -/
def wordsFrom (position : Nat) (run cs : List Char) : List Lexeme :=
  (scan position run cs).map Token.lexeme

theorem wordsFrom_numeral {c : Char} (hc : isNumeral c = true) :
    wordsFrom position run (c :: cs) = wordsFrom (position + 1) (c :: run) cs := by
  unfold wordsFrom
  rw [scan, if_pos hc]

/-- A number ends where something else starts. -/
theorem wordsFrom_of_ends (hrun : run ≠ []) (hends : ∀ c ∈ cs.head?, isNumeral c = false) :
    wordsFrom position run cs = .number run.reverse :: wordsFrom position [] cs := by
  have hempty : run.isEmpty = false := by simpa using hrun
  unfold wordsFrom
  cases cs with
  | nil => simp [scan, hempty, Token.lexeme]
  | cons c cs =>
    have hc := hends c rfl
    simp [scan, hc, hempty, Token.lexeme]

theorem wordsFrom_mark {c : Char} (hc : isNumeral c = false) :
    wordsFrom position [] (c :: cs) =
      if Text.isBlank c then wordsFrom (position + 1) [] cs
      else .mark c :: wordsFrom (position + 1) [] cs := by
  unfold wordsFrom
  rw [scan, hc]
  by_cases hblank : Text.isBlank c = true
  · simp [hblank]
  · simp [hblank, Token.lexeme]

theorem wordsFrom_append {literal : List Char} (hall : ∀ c ∈ literal, isNumeral c = true) :
    wordsFrom position run (literal ++ cs) =
      wordsFrom (position + literal.length) (literal.reverse ++ run) cs := by
  induction literal generalizing position run with
  | nil => rfl
  | cons c literal ih =>
    rw [List.cons_append, wordsFrom_numeral (hall c List.mem_cons_self),
      ih fun d hd => hall d (List.mem_cons_of_mem c hd)]
    simp [Nat.add_assoc, Nat.add_comm 1]

/-- What ends a number also starts afresh. -/
theorem spells_of_ends (hrun : ∀ c ∈ run, isNumeral c = true)
    (hends : ∀ c ∈ cs.head?, isNumeral c = false) (h : Spells cs (wordsFrom position [] cs)) :
    Spells (run.reverse ++ cs) (wordsFrom position run cs) := by
  by_cases hempty : run = []
  · rw [hempty]
    exact h
  · rw [wordsFrom_of_ends hempty hends]
    exact .number (by simpa using hempty) (by simpa using hrun) hends h

/-- The tokens spell the text that is read. -/
theorem spells_wordsFrom (hrun : ∀ c ∈ run, isNumeral c = true) :
    Spells (run.reverse ++ cs) (wordsFrom position run cs) := by
  induction cs generalizing position run with
  | nil => exact spells_of_ends hrun (by simp) .done
  | cons c cs ih =>
    by_cases hc : isNumeral c = true
    · have hrun' : ∀ d ∈ c :: run, isNumeral d = true := by
        intro d hd
        rcases List.mem_cons.mp hd with rfl | hd
        · exact hc
        · exact hrun d hd
      have hword := @ih _ (position + 1) hrun'
      rwa [List.reverse_cons, List.append_assoc, List.singleton_append,
        ← wordsFrom_numeral hc] at hword
    · have hmark : isNumeral c = false := by simpa using hc
      refine spells_of_ends hrun (by simpa using hmark) ?_
      have hrest : Spells cs (wordsFrom (position + 1) [] cs) := @ih [] (position + 1) (by simp)
      rw [wordsFrom_mark hmark]
      split
      · rename_i hblank
        exact .blank hblank hrest
      · rename_i hblank
        exact .mark (by simpa using hblank) hmark hrest

/-- However a text is spelt, its words are those of the tokens. -/
theorem eq_wordsFrom_of_spells (h : Spells cs words) (position : Nat) :
    words = wordsFrom position [] cs := by
  induction h generalizing position with
  | done => rfl
  | blank hblank rest ih =>
    rw [wordsFrom_mark (isNumeral_of_isBlank hblank), if_pos hblank]
    exact ih _
  | number hne hall hends rest ih =>
    rw [wordsFrom_append hall, List.append_nil, wordsFrom_of_ends (by simpa using hne) hends,
      List.reverse_reverse, ← ih]
  | mark hblank hmark rest ih =>
    rw [wordsFrom_mark hmark, if_neg (Bool.eq_false_iff.mp hblank), ← ih]

/-- The tokens of a text are the words that spell it. -/
theorem spells_iff {text : List Char} :
    Spells text words ↔ words = (tokens text).map Token.lexeme := by
  constructor
  · intro h
    exact eq_wordsFrom_of_spells h 0
  · rintro rfl
    exact @spells_wordsFrom text [] 0 (by simp)

end DeviceFlow.Expression
