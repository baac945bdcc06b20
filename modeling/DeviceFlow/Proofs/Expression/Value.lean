import DeviceFlow.Proofs.Expression.Complete

/-!
# The value of a text

The evaluator computes what the grammar says: a text has a value exactly when it is derived by
the grammar, nothing in it is divided by zero, and the value is finite. A step changes only
texts with an operator, and none with a character that no expression has.
-/

namespace DeviceFlow.Expression

variable {level : Level} {text : String} {words : List Lexeme} {f : Formula} {x : Float}

theorem evaluate_eq_ok_iff_found : evaluate text = .ok x ↔
    found? (sum (tokens text.toList)) = some (x, []) ∧ x.isFinite = true := by
  unfold evaluate
  cases sum (tokens text.toList) with
  | error e => simp [found?]
  | ok a =>
    obtain ⟨y, rest, hrest⟩ := a
    cases rest with
    | cons t rest => simp [found?]
    | nil =>
      dsimp only [found?]
      constructor
      · intro h
        split at h
        · rename_i hfinite
          cases h
          exact ⟨rfl, hfinite⟩
        · cases h
      · rintro ⟨heq, hfinite⟩
        cases heq
        rw [if_pos hfinite]

/-- Whichever derivation of a text is taken, the text has the value of its formula. -/
theorem evaluate_eq_ok_iff_of_derives (hspells : Spells text.toList words)
    (hderives : Derives .sum words f) :
    evaluate text = .ok x ↔ f.value? = some x ∧ x.isFinite = true := by
  have hread := (reads_of_derives hderives).sum_stops (spells_iff.mp hspells).symm stops_nil
    stops_nil
  rw [List.append_nil] at hread
  change found? (sum (tokens text.toList)) = _ at hread
  rw [evaluate_eq_ok_iff_found, hread]
  cases f.value? with
  | none => simp
  | some y => simp

/-- A text has a value exactly if it is an expression with this value. -/
theorem evaluate_eq_ok_iff : evaluate text = .ok x ↔ Denotes text x := by
  constructor
  · intro h
    obtain ⟨hfound, hfinite⟩ := evaluate_eq_ok_iff_found.mp h
    obtain ⟨read, f, hread, hderives, hvalue⟩ := sum_sound (tokens text.toList) _ hfound
    rw [List.append_nil] at hread
    rw [← hread] at hderives
    exact ⟨_, f, spells_iff.mpr rfl, hderives, hvalue, hfinite⟩
  · rintro ⟨words, f, hspells, hderives, hvalue, hfinite⟩
    exact (evaluate_eq_ok_iff_of_derives hspells hderives).mpr ⟨hvalue, hfinite⟩

/-- The characters that an expression can have. -/
def Admissible (c : Char) : Prop :=
  isNumeral c = true ∨ c ∈ operators ∨ c = '(' ∨ c = ')' ∨ Text.isBlank c = true

theorem admissible_of_operator {c : Char} (h : c ∈ operators) : Admissible c := .inr (.inl h)

theorem Operator.symbol_mem (o : Operator) : o.symbol ∈ operators := by
  cases o <;> decide

theorem admissible_of_binary (o : Operator) {left right : List Lexeme} {c : Char}
    (hleft : Lexeme.mark c ∈ left → Admissible c) (hright : Lexeme.mark c ∈ right → Admissible c)
    (hc : Lexeme.mark c ∈ left ++ .mark o.symbol :: right) : Admissible c := by
  rcases List.mem_append.mp hc with hc | hc
  · exact hleft hc
  · rcases List.mem_cons.mp hc with heq | hc
    · cases heq
      exact admissible_of_operator o.symbol_mem
    · exact hright hc

/-- The marks among the words of an expression are operators and parentheses. -/
theorem admissible_of_derives (h : Derives level words f) {c : Char}
    (hc : Lexeme.mark c ∈ words) : Admissible c := by
  induction h with
  | term h ih => exact ih hc
  | @sum _ _ _ _ o _ _ _ ihleft ihright => exact admissible_of_binary o ihleft ihright hc
  | factor h ih => exact ih hc
  | @product _ _ _ _ o _ _ _ ihleft ihright => exact admissible_of_binary o ihleft ihright hc
  | plain h ih => exact ih hc
  | positive h ih =>
    rcases List.mem_cons.mp hc with heq | hc
    · cases heq
      exact admissible_of_operator (Operator.symbol_mem .plus)
    · exact ih hc
  | negative h ih =>
    rcases List.mem_cons.mp hc with heq | hc
    · cases heq
      exact admissible_of_operator (Operator.symbol_mem .minus)
    · exact ih hc
  | number literal => simp at hc
  | group h ih =>
    rcases List.mem_cons.mp hc with heq | hc
    · cases heq
      exact .inr (.inr (.inl rfl))
    · rcases List.mem_append.mp hc with hc | hc
      · exact ih hc
      · cases List.mem_singleton.mp hc
        exact .inr (.inr (.inr (.inl rfl)))

/-- A text has no characters but those of its words and blanks. -/
theorem admissible_of_spells {cs : List Char} (h : Spells cs words)
    (hmarks : ∀ c, Lexeme.mark c ∈ words → Admissible c) : ∀ c ∈ cs, Admissible c := by
  induction h with
  | done => simp
  | blank hblank rest ih =>
    intro c hc
    rcases List.mem_cons.mp hc with rfl | hc
    · exact .inr (.inr (.inr (.inr hblank)))
    · exact ih hmarks c hc
  | number hne hall hends rest ih =>
    intro c hc
    rcases List.mem_append.mp hc with hc | hc
    · exact .inl (hall c hc)
    · exact ih (fun d hd => hmarks d (List.mem_cons_of_mem _ hd)) c hc
  | mark hblank hmark rest ih =>
    intro c hc
    rcases List.mem_cons.mp hc with rfl | hc
    · exact hmarks c List.mem_cons_self
    · exact ih (fun d hd => hmarks d (List.mem_cons_of_mem _ hd)) c hc

theorem Denotes.admissible (h : Denotes text x) : ∀ c ∈ text.toList, Admissible c := by
  obtain ⟨words, f, hspells, hderives, _⟩ := h
  exact admissible_of_spells hspells fun c hc => admissible_of_derives hderives hc

theorem hasOperator_iff : hasOperator text = true ↔ ∃ c ∈ text.toList, c ∈ operators := by
  unfold hasOperator
  rw [List.any_eq_true]
  simp

theorem evaluate?_eq_some_iff {result : String} : evaluate? text = some result ↔
    hasOperator text = true ∧ ∃ x, Denotes text x ∧ result = formatNumber x := by
  unfold evaluate?
  simp only [← evaluate_eq_ok_iff]
  cases hasOperator text with
  | false => simp
  | true =>
    cases evaluate text with
    | error e => simp
    | ok y => simp [eq_comm]

theorem evaluate?_eq_none (h : ∀ x, ¬ Denotes text x) : evaluate? text = none := by
  cases hresult : evaluate? text with
  | none => rfl
  | some result =>
    obtain ⟨_, x, hx, _⟩ := evaluate?_eq_some_iff.mp hresult
    exact absurd hx (h x)

/-- The evaluator and the grammar agree on a text. -/
structure FollowsGrammar (text : String) : Prop where
  /-- Exactly the expressions with a finite value have a value, which is that one. -/
  value : ∀ x, evaluate text = .ok x ↔ Denotes text x
  /-- It does not matter how a text is derived, or whether another derivation has a value. -/
  derivation : ∀ words f, Spells text.toList words → Derives .sum words f →
    ∀ x, evaluate text = .ok x ↔ f.value? = some x ∧ x.isFinite = true
  /-- In all other cases there is an error, and a step leaves the text alone. -/
  otherwise : (∀ x, ¬ Denotes text x) → (∃ e, evaluate text = .error e) ∧ evaluate? text = none
  /-- A step that changes the text puts the value in its place, and there was an operator. -/
  operator : ∀ result, evaluate? text = some result →
    (∃ c ∈ text.toList, c ∈ operators) ∧ ∃ x, Denotes text x ∧ result = formatNumber x
  /-- A text with any other character is left alone. -/
  foreign : ∀ c ∈ text.toList, ¬ Admissible c →
    evaluate? text = none ∧ (evaluate? text).getD text = text

/-- On every text the evaluator and the grammar agree. -/
theorem evaluate_followsGrammar (text : String) : FollowsGrammar text := by
  refine ⟨fun x => evaluate_eq_ok_iff, ?_, ?_, ?_, ?_⟩
  · intro words f hspells hderives x
    exact evaluate_eq_ok_iff_of_derives hspells hderives
  · intro hnone
    refine ⟨?_, evaluate?_eq_none hnone⟩
    cases h : evaluate text with
    | error e => exact ⟨e, rfl⟩
    | ok x => exact absurd (evaluate_eq_ok_iff.mp h) (hnone x)
  · intro result hresult
    obtain ⟨hoperator, hvalue⟩ := evaluate?_eq_some_iff.mp hresult
    exact ⟨hasOperator_iff.mp hoperator, hvalue⟩
  · intro c hc hforeign
    have hnone := evaluate?_eq_none fun x hx => hforeign (Denotes.admissible hx c hc)
    refine ⟨hnone, ?_⟩
    rw [hnone]
    rfl

end DeviceFlow.Expression
