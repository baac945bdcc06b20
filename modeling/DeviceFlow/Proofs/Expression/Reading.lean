import DeviceFlow.Proofs.Expression.Grammar

/-!
# What the evaluator does, step by step

Each reading function as an equation between what is found: a value and the tokens after it, or
nothing. How many tokens are left and which error is raised do not appear in them.
-/

namespace DeviceFlow.Expression

/-- A value and the tokens after it. -/
abbrev Found := Float × List Token

/-- What a reading function has found, if anything. -/
def found? {p : List Token → Prop}
    (r : Except ExpressionError (Float × { rest : List Token // p rest })) : Option Found :=
  match r with
  | .ok (x, rest) => some (x, rest.val)
  | .error _ => none

variable {ts : List Token} {x : Float} {position : Nat} {o : Operator} {additive : Bool}

namespace Operator

theorem symbol_inj {o o' : Operator} (h : o.symbol = o'.symbol) : o = o' := by
  cases o <;> cases o' <;> first | rfl | exact absurd h (by decide)

/-- The operators between terms are those that the evaluator takes for them. -/
theorem isAdditive_iff : o.isAdditive = true ↔ o.symbol = '+' ∨ o.symbol = '-' := by
  cases o <;> decide

theorem isAdditive_eq_false_iff :
    o.isAdditive = false ↔ o.symbol = '*' ∨ o.symbol = '/' ∨ o.symbol = '%' := by
  cases o <;> decide

theorem value?_of_additive (ho : o.isAdditive = true) (x y : Float) :
    o.value? x y = some (addition o.symbol x y) := by
  cases o with
  | plus => rfl
  | minus => rfl
  | times => cases ho
  | dividedBy => cases ho
  | modulo => cases ho

theorem value?_of_not_additive (ho : o.isAdditive = false) (x y : Float) :
    o.value? x y = (multiplication o.symbol x y).toOption := by
  cases o with
  | plus => cases ho
  | minus => cases ho
  | times => rfl
  | dividedBy =>
    unfold value? multiplication
    by_cases h : (y == 0.0) = true
    · simp [h, symbol, Except.toOption]
    · simp [h, symbol, Except.toOption]
  | modulo =>
    unfold value? multiplication
    by_cases h : (y == 0.0) = true
    · simp [h, symbol, Except.toOption]
    · simp [h, symbol, Except.toOption]

end Operator

/-- No operator of a kind comes next. -/
def Stops (additive : Bool) (ts : List Token) : Prop :=
  ∀ o : Operator, o.isAdditive = additive → ∀ t ∈ ts.head?, t.lexeme ≠ .mark o.symbol

theorem stops_nil : Stops additive [] := by
  rintro o _ t ⟨⟩

theorem stops_cons {t : Token}
    (h : ∀ o : Operator, o.isAdditive = additive → t.lexeme ≠ .mark o.symbol) :
    Stops additive (t :: ts) := by
  rintro o ho _ ⟨⟩
  exact h o ho

/-- The operators of the other kind do not continue what is read. -/
theorem stops_operator (ho : o.isAdditive ≠ additive) :
    Stops additive (.mark o.symbol position :: ts) := by
  refine stops_cons ?_
  intro o' ho' heq
  rw [Operator.symbol_inj (Lexeme.mark.inj heq)] at ho
  exact ho ho'

theorem stops_parenthesis {c : Char} (hc : c = '(' ∨ c = ')') :
    Stops additive (.mark c position :: ts) := by
  refine stops_cons ?_
  intro o _ heq
  rw [Lexeme.mark.inj heq] at hc
  revert hc
  cases o <;> decide

theorem Stops.symbol_ne {c : Char} (h : Stops additive (.mark c position :: ts)) (o : Operator)
    (ho : o.isAdditive = additive) : c ≠ o.symbol := by
  rintro rfl
  exact h o ho _ rfl rfl

/-- Either an operator of a kind comes next, or none. -/
theorem exists_operator_or_stops (additive : Bool) (ts : List Token) :
    (∃ o position rest, o.isAdditive = additive ∧
      ts = .mark (Operator.symbol o) position :: rest) ∨ Stops additive ts := by
  cases ts with
  | nil => exact .inr stops_nil
  | cons t rest =>
    by_cases h : ∃ o : Operator, o.isAdditive = additive ∧ t.lexeme = .mark o.symbol
    · obtain ⟨o, ho, ht⟩ := h
      cases t with
      | number literal position => cases ht
      | mark c position =>
        cases ht
        exact .inl ⟨o, position, rest, ho, rfl⟩
    · refine .inr (stops_cons ?_)
      intro o ho ht
      exact h ⟨o, ho, ht⟩

theorem found?_sum : found? (sum ts) =
    (found? (product ts)).bind fun a => found? (moreTerms a.1 a.2) := by
  rw [sum]
  cases product ts with
  | error e => rfl
  | ok a =>
    obtain ⟨x, rest, hrest⟩ := a
    dsimp only [found?, Option.bind]
    cases moreTerms x rest with
    | error e => rfl
    | ok a => rfl

theorem found?_moreTerms_operator (ho : o.isAdditive = true) :
    found? (moreTerms x (.mark o.symbol position :: ts)) =
      (found? (product ts)).bind fun a =>
        (o.value? x a.1).bind fun z => found? (moreTerms z a.2) := by
  rw [moreTerms, if_pos (Operator.isAdditive_iff.mp ho)]
  cases product ts with
  | error e => rfl
  | ok a =>
    obtain ⟨y, rest, hrest⟩ := a
    simp only [found?, Option.bind, Operator.value?_of_additive ho]
    cases moreTerms (addition o.symbol x y) rest with
    | error e => rfl
    | ok a => rfl

theorem found?_moreTerms_stops (h : Stops true ts) : found? (moreTerms x ts) = some (x, ts) := by
  unfold moreTerms
  split
  · rename_i c position rest
    have hc : ¬ (c = '+' ∨ c = '-') := by
      rintro (hc | hc)
      · exact h.symbol_ne .plus rfl hc
      · exact h.symbol_ne .minus rfl hc
    rw [if_neg hc]
    rfl
  · rfl

theorem found?_product : found? (product ts) =
    (found? (signed ts)).bind fun a => found? (moreFactors a.1 a.2) := by
  rw [product]
  cases signed ts with
  | error e => rfl
  | ok a =>
    obtain ⟨x, rest, hrest⟩ := a
    dsimp only [found?, Option.bind]
    cases moreFactors x rest with
    | error e => rfl
    | ok a => rfl

theorem found?_moreFactors_operator (ho : o.isAdditive = false) :
    found? (moreFactors x (.mark o.symbol position :: ts)) =
      (found? (signed ts)).bind fun a =>
        (o.value? x a.1).bind fun z => found? (moreFactors z a.2) := by
  rw [moreFactors, if_pos (Operator.isAdditive_eq_false_iff.mp ho)]
  cases signed ts with
  | error e => rfl
  | ok a =>
    obtain ⟨y, rest, hrest⟩ := a
    simp only [found?, Option.bind, Operator.value?_of_not_additive ho]
    cases multiplication o.symbol x y with
    | error e => rfl
    | ok z =>
      dsimp only [Except.toOption]
      cases moreFactors z rest with
      | error e => rfl
      | ok a => rfl

theorem found?_moreFactors_stops (h : Stops false ts) :
    found? (moreFactors x ts) = some (x, ts) := by
  unfold moreFactors
  split
  · rename_i c position rest
    have hc : ¬ (c = '*' ∨ c = '/' ∨ c = '%') := by
      rintro (hc | hc | hc)
      · exact h.symbol_ne .times rfl hc
      · exact h.symbol_ne .dividedBy rfl hc
      · exact h.symbol_ne .modulo rfl hc
    rw [if_neg hc]
    rfl
  · rfl

theorem found?_signed_plus : found? (signed (.mark '+' position :: ts)) = found? (signed ts) := by
  rw [signed, if_pos rfl]
  cases signed ts with
  | error e => rfl
  | ok a => rfl

theorem found?_signed_minus : found? (signed (.mark '-' position :: ts)) =
    (found? (signed ts)).map fun a => (-a.1, a.2) := by
  rw [signed, if_neg (by decide), if_pos rfl]
  cases signed ts with
  | error e => rfl
  | ok a => rfl

theorem found?_signed_stops (h : Stops true ts) : found? (signed ts) = found? (operand ts) := by
  unfold signed
  split
  · rename_i c position rest
    have hplus : c ≠ '+' := h.symbol_ne .plus rfl
    have hminus : c ≠ '-' := h.symbol_ne .minus rfl
    rw [if_neg hplus, if_neg hminus]
  · rfl

theorem found?_operand_number {literal : List Char} :
    found? (operand (.number literal position :: ts)) =
      (readNumber? literal).map fun x => (x, ts) := by
  rw [operand]
  cases readNumber? literal with
  | none => rfl
  | some x => rfl

/-- What is left of what has been found when a closing parenthesis comes next. -/
def closed? (a : Found) : Option Found :=
  match a.2 with
  | .mark c _ :: rest => if c = ')' then some (a.1, rest) else none
  | _ => none

theorem found?_operand_group : found? (operand (.mark '(' position :: ts)) =
    (found? (sum ts)).bind closed? := by
  rw [operand, if_pos rfl]
  cases sum ts with
  | error e => rfl
  | ok a =>
    obtain ⟨x, rest, hrest⟩ := a
    cases rest with
    | nil => rfl
    | cons t rest =>
      cases t with
      | number literal position => rfl
      | mark c position =>
        by_cases hc : c = ')'
        · simp [found?, afterClosing, closed?, hc]
        · simp [found?, afterClosing, closed?, hc]

theorem found?_operand_eq_none {c : Char} (hc : c ≠ '(') :
    found? (operand (.mark c position :: ts)) = none := by
  rw [operand, if_neg hc]
  rfl

theorem found?_operand_nil : found? (operand []) = none := by
  rw [operand]
  rfl

/-- What is found when words are read by a rule of the grammar. -/
def read? : Level → List Token → Option Found
  | .sum, ts => found? (sum ts)
  | .product, ts => found? (product ts)
  | .signed, ts => found? (signed ts)
  | .operand, ts => found? (operand ts)

/-- What is found when a value has been read by a rule already, which may be the first part of
    a chain of operators. -/
def continue? : Level → Float → List Token → Option Found
  | .sum, x, ts => found? (moreTerms x ts)
  | .product, x, ts => found? (moreFactors x ts)
  | .signed, x, ts | .operand, x, ts => some (x, ts)

/-- Operators of a kind stand between what is read by another rule, from left to right. -/
structure Chain (additive : Bool) (outer inner : Level) : Prop where
  first : ∀ {words f}, Derives inner words f → Derives outer words f
  next : ∀ {left right f g} {o : Operator}, o.isAdditive = additive → Derives outer left f →
    Derives inner right g → Derives outer (left ++ .mark o.symbol :: right) (.binary o f g)
  read?_eq : ∀ ts, read? outer ts =
    (read? inner ts).bind fun a => continue? outer a.1 a.2
  continue?_operator : ∀ {o : Operator} (x position ts), o.isAdditive = additive →
    continue? outer x (.mark o.symbol position :: ts) =
      (read? inner ts).bind fun a => (o.value? x a.1).bind fun z => continue? outer z a.2
  continue?_stops : ∀ {ts} (x : Float), Stops additive ts → continue? outer x ts = some (x, ts)

theorem chain_sum : Chain true .sum .product :=
  ⟨.term, .sum, fun _ => found?_sum, fun _ _ _ ho => found?_moreTerms_operator ho,
    fun _ h => found?_moreTerms_stops h⟩

theorem chain_product : Chain false .product .signed :=
  ⟨.factor, .product, fun _ => found?_product, fun _ _ _ ho => found?_moreFactors_operator ho,
    fun _ h => found?_moreFactors_stops h⟩

end DeviceFlow.Expression
