import DeviceFlow.Proofs.Expression.Sound

/-!
# What is an expression is read

Words that the grammar derives are read as the value of their formula, wherever they stand, and
the reading stops where they end.
-/

namespace DeviceFlow.Expression

variable {level outer inner : Level} {additive : Bool} {words : List Lexeme} {f : Formula}
  {v w : Option Float} {read left right rest : List Token}

/-- Where a mark is the first of the words, it is the first of the tokens. -/
theorem exists_of_map_eq_cons {c : Char} (h : read.map Token.lexeme = .mark c :: words) :
    ∃ position after, read = .mark c position :: after ∧ after.map Token.lexeme = words := by
  obtain ⟨t, after, rfl, ht, hafter⟩ := List.map_eq_cons_iff.mp h
  cases t with
  | number literal position => cases ht
  | mark d position =>
    cases ht
    exact ⟨position, after, rfl, hafter⟩

/-- Where a mark stands among the words, it stands among the tokens. -/
theorem exists_of_map_eq_append {before after : List Lexeme} {c : Char}
    (h : read.map Token.lexeme = before ++ .mark c :: after) :
    ∃ left position right, read = left ++ .mark c position :: right ∧
      left.map Token.lexeme = before ∧ right.map Token.lexeme = after := by
  obtain ⟨left, tail, rfl, hleft, htail⟩ := List.map_eq_append_iff.mp h
  obtain ⟨position, right, rfl, hright⟩ := exists_of_map_eq_cons htail
  exact ⟨left, position, right, rfl, hleft, hright⟩

/-- Words are read by a rule as a value, as far as they go, or as nothing. A sum does not go on
    before a factor. -/
def Reads (level : Level) (words : List Lexeme) (v : Option Float) : Prop :=
  ∀ read rest, read.map Token.lexeme = words → (level = .sum → Stops false rest) →
    read? level (read ++ rest) = v.bind fun x => continue? level x rest

theorem Reads.product_stops (h : Reads .product words v) (hread : read.map Token.lexeme = words)
    (hstops : Stops false rest) :
    read? .product (read ++ rest) = v.map fun x => (x, rest) := by
  rw [h read rest hread (by simp)]
  cases v with
  | none => rfl
  | some x => exact chain_product.continue?_stops x hstops

theorem Reads.sum_stops (h : Reads .sum words v) (hread : read.map Token.lexeme = words)
    (hfactor : Stops false rest) (hterm : Stops true rest) :
    read? .sum (read ++ rest) = v.map fun x => (x, rest) := by
  rw [h read rest hread fun _ => hfactor]
  cases v with
  | none => rfl
  | some x => exact chain_sum.continue?_stops x hterm

theorem Reads.signed (h : Reads .signed words v) (hread : read.map Token.lexeme = words) :
    read? .signed (read ++ rest) = v.map fun x => (x, rest) := by
  rw [h read rest hread (by simp)]
  cases v with
  | none => rfl
  | some x => rfl

theorem Chain.read_first (chain : Chain additive outer inner)
    (hinner : read? inner (read ++ rest) = v.map fun x => (x, rest)) :
    read? outer (read ++ rest) = v.bind fun x => continue? outer x rest := by
  rw [chain.read?_eq, hinner]
  cases v with
  | none => rfl
  | some x => rfl

theorem Chain.read_next (chain : Chain additive outer inner) {o : Operator} {position : Nat}
    (ho : o.isAdditive = additive)
    (hleft : read? outer (left ++ .mark o.symbol position :: (right ++ rest)) =
      v.bind fun x => continue? outer x (.mark o.symbol position :: (right ++ rest)))
    (hright : read? inner (right ++ rest) = w.map fun y => (y, rest)) :
    read? outer (left ++ .mark o.symbol position :: right ++ rest) =
      (v.bind fun x => w.bind fun y => o.value? x y).bind fun z => continue? outer z rest := by
  rw [List.append_assoc, List.cons_append, hleft]
  cases v with
  | none => rfl
  | some x =>
    dsimp only [Option.bind_some]
    rw [chain.continue?_operator x position _ ho, hright]
    cases w with
    | none => rfl
    | some y => rfl

/-- An operand starts with a number or a parenthesis, and not with a sign. -/
theorem stops_of_operand (h : Derives .operand words f) (hread : read.map Token.lexeme = words) :
    Stops true (read ++ rest) := by
  cases h with
  | number literal =>
    obtain ⟨t, after, rfl, ht, _⟩ := List.map_eq_cons_iff.mp hread
    refine stops_cons ?_
    intro o _
    rw [ht]
    simp
  | group h =>
    obtain ⟨position, after, rfl, _⟩ := exists_of_map_eq_cons hread
    exact stops_parenthesis (.inl rfl)

/-- Whatever the grammar derives is read as its value, or not at all if it has none. -/
theorem reads_of_derives (h : Derives level words f) : Reads level words f.value? := by
  induction h with
  | term h ih =>
    intro read rest hread hstops
    exact chain_sum.read_first (ih.product_stops hread (hstops rfl))
  | sum ho _ _ ihleft ihright =>
    intro read rest hread hstops
    obtain ⟨left, position, right, rfl, hleft, hright⟩ := exists_of_map_eq_append hread
    refine chain_sum.read_next ho ?_ (ihright.product_stops hright (hstops rfl))
    exact ihleft left _ hleft fun _ => stops_operator (by simp [ho])
  | factor h ih =>
    intro read rest hread _
    exact chain_product.read_first (ih.signed hread)
  | product ho _ _ ihleft ihright =>
    intro read rest hread _
    obtain ⟨left, position, right, rfl, hleft, hright⟩ := exists_of_map_eq_append hread
    refine chain_product.read_next ho ?_ (ihright.signed hright)
    exact ihleft left _ hleft (by simp)
  | plain h ih =>
    intro read rest hread _
    change found? (signed (read ++ rest)) = _
    rw [found?_signed_stops (stops_of_operand h hread)]
    exact ih read rest hread (by simp)
  | positive h ih =>
    intro read rest hread _
    obtain ⟨position, after, rfl, hafter⟩ := exists_of_map_eq_cons hread
    change found? (signed (.mark '+' position :: (after ++ rest))) = _
    rw [found?_signed_plus]
    exact ih after rest hafter (by simp)
  | negative h ih =>
    rename_i f
    intro read rest hread _
    obtain ⟨position, after, rfl, hafter⟩ := exists_of_map_eq_cons hread
    have hsigned : found? (signed (after ++ rest)) = f.value?.map fun x => (x, rest) :=
      ih.signed hafter
    change found? (signed (.mark '-' position :: (after ++ rest))) = _
    rw [found?_signed_minus, hsigned, Formula.value?]
    cases f.value? with
    | none => rfl
    | some x => rfl
  | number literal =>
    intro read rest hread _
    obtain ⟨t, after, rfl, ht, hafter⟩ := List.map_eq_cons_iff.mp hread
    obtain rfl := List.map_eq_nil_iff.mp hafter
    cases t with
    | mark c position => cases ht
    | number literal' position =>
      cases ht
      change found? (operand (.number literal position :: rest)) = _
      rw [found?_operand_number, Formula.value?]
      cases readNumber? literal with
      | none => rfl
      | some x => rfl
  | group h ih =>
    rename_i f
    intro read rest hread _
    obtain ⟨position, after, rfl, hafter⟩ := exists_of_map_eq_cons hread
    obtain ⟨inside, closing, after, rfl, hinside, hnone⟩ := exists_of_map_eq_append hafter
    obtain rfl := List.map_eq_nil_iff.mp hnone
    have hsum : found? (sum (inside ++ .mark ')' closing :: rest)) =
        f.value?.map fun x => (x, .mark ')' closing :: rest) :=
      ih.sum_stops hinside (stops_parenthesis (.inr rfl)) (stops_parenthesis (.inr rfl))
    change found? (operand (.mark '(' position :: (inside ++ [.mark ')' closing] ++ rest))) = _
    rw [found?_operand_group, List.append_assoc, List.singleton_append, hsum]
    cases f.value? with
    | none => rfl
    | some x => rfl

end DeviceFlow.Expression
