import DeviceFlow.Proofs.Expression.Reading

/-!
# What is read is an expression

Whatever the evaluator finds is the value of a formula that the grammar derives from the words
it has passed.
-/

namespace DeviceFlow.Expression

variable {level outer inner : Level} {additive : Bool} {ts : List Token} {a : Found}

/-- What has been found is the value of a formula that is derived from the words before the
    rest. -/
def Explained (level : Level) (ts : List Token) (a : Found) : Prop :=
  ∃ read f, ts = read ++ a.2 ∧ Derives level (read.map Token.lexeme) f ∧ f.value? = some a.1

/-- Whatever is found in these tokens is explained. -/
def Sound (level : Level) (ts : List Token) : Prop :=
  ∀ a, read? level ts = some a → Explained level ts a

theorem Explained.rest_length_le (h : Explained level ts a) : a.2.length ≤ ts.length := by
  obtain ⟨read, f, rfl, _⟩ := h
  rw [List.length_append]
  exact Nat.le_add_left _ _

namespace Chain

variable (chain : Chain additive outer inner)

include chain

/-- A chain that has a value is continued by what is derived from its words and those that are
    passed. -/
theorem continue_sound {x : Float} {left : List Lexeme} {f : Formula}
    (hinner : ∀ ts', ts'.length < ts.length → Sound inner ts') (hleft : Derives outer left f)
    (hx : f.value? = some x) (h : continue? outer x ts = some a) :
    ∃ read g, ts = read ++ a.2 ∧ Derives outer (left ++ read.map Token.lexeme) g ∧
      g.value? = some a.1 := by
  induction hlength : ts.length using Nat.strongRecOn generalizing ts x left f with
  | ind n ih =>
    subst hlength
    rcases exists_operator_or_stops additive ts with ⟨o, position, rest, ho, rfl⟩ | hstops
    · rw [chain.continue?_operator x position rest ho] at h
      obtain ⟨b, hb, h⟩ := Option.bind_eq_some_iff.mp h
      obtain ⟨z, hz, h⟩ := Option.bind_eq_some_iff.mp h
      have hexplained := hinner rest (by simp) b hb
      have hle := hexplained.rest_length_le
      obtain ⟨read, g, hrest, hright, hy⟩ := hexplained
      have hvalue : (Formula.binary o f g).value? = some z := by
        rw [Formula.value?, hx, hy]
        exact hz
      obtain ⟨read', g', hrest', hderives, hvalue'⟩ := ih b.2.length
        (by simp only [List.length_cons]; omega)
        (fun ts' hts' => hinner ts' (by simp only [List.length_cons]; omega))
        (chain.next ho hleft hright) hvalue h rfl
      refine ⟨.mark o.symbol position :: (read ++ read'), g', ?_, ?_, hvalue'⟩
      · rw [hrest, hrest']
        simp
      · simpa [Token.lexeme] using hderives
    · rw [chain.continue?_stops x hstops] at h
      cases h
      exact ⟨[], f, rfl, by simpa using hleft, hx⟩

theorem sound (hinner : ∀ ts', ts'.length ≤ ts.length → Sound inner ts') : Sound outer ts := by
  intro a h
  rw [chain.read?_eq] at h
  obtain ⟨b, hb, h⟩ := Option.bind_eq_some_iff.mp h
  have hexplained := hinner ts (Nat.le_refl _) b hb
  have hle := hexplained.rest_length_le
  obtain ⟨read, f, hts, hderives, hx⟩ := hexplained
  obtain ⟨read', g, hrest, hchain, hvalue⟩ := chain.continue_sound
    (fun ts' hts' => hinner ts' (by omega)) (chain.first hderives) hx h
  refine ⟨read ++ read', g, ?_, ?_, hvalue⟩
  · rw [hts, hrest]
    simp
  · rwa [List.map_append]

end Chain

theorem closed?_eq_some_iff {b : Found} : closed? b = some a ↔
    b.1 = a.1 ∧ ∃ position, b.2 = .mark ')' position :: a.2 := by
  obtain ⟨x, rest⟩ := b
  unfold closed?
  constructor
  · intro h
    split at h
    · rename_i c position after hrest
      split at h
      · rename_i hc
        cases h
        exact ⟨rfl, position, by rw [hrest, hc]⟩
      · cases h
    · cases h
  · rintro ⟨rfl, position, hrest⟩
    rw [hrest]
    rfl

theorem operand_sound (hsum : ∀ ts', ts'.length < ts.length → Sound .sum ts') :
    Sound .operand ts := by
  intro a h
  change found? (operand ts) = some a at h
  cases ts with
  | nil =>
    rw [found?_operand_nil] at h
    cases h
  | cons t rest =>
    cases t with
    | number literal position =>
      rw [found?_operand_number] at h
      obtain ⟨x, hx, rfl⟩ := Option.map_eq_some_iff.mp h
      exact ⟨[.number literal position], _, rfl, .number literal, hx⟩
    | mark c position =>
      by_cases hc : c = '('
      · subst hc
        rw [found?_operand_group] at h
        obtain ⟨b, hb, h⟩ := Option.bind_eq_some_iff.mp h
        obtain ⟨hx, closing, hclosing⟩ := closed?_eq_some_iff.mp h
        obtain ⟨read, f, hrest, hderives, hvalue⟩ := hsum rest (by simp) b hb
        refine ⟨.mark '(' position :: (read ++ [.mark ')' closing]), f, ?_, ?_, ?_⟩
        · rw [hrest, hclosing]
          simp
        · simpa [Token.lexeme] using Derives.group hderives
        · rw [hvalue, hx]
      · rw [found?_operand_eq_none hc] at h
        cases h

theorem signed_sound_of_stops (hsum : ∀ ts', ts'.length < ts.length → Sound .sum ts')
    (hstops : Stops true ts) : Sound .signed ts := by
  intro a h
  change found? (signed ts) = some a at h
  rw [found?_signed_stops hstops] at h
  obtain ⟨read, f, hts, hderives, hvalue⟩ := operand_sound hsum a h
  exact ⟨read, f, hts, .plain hderives, hvalue⟩

theorem signed_sound (hsum : ∀ ts', ts'.length < ts.length → Sound .sum ts') :
    Sound .signed ts := by
  induction ts with
  | nil => exact signed_sound_of_stops hsum stops_nil
  | cons t rest ih =>
    have hrest := ih fun ts' hts' => hsum ts' (by simp only [List.length_cons]; omega)
    rcases exists_operator_or_stops true (t :: rest) with ⟨o, position, _, ho, heq⟩ | hstops
    · cases heq
      intro a h
      change found? (signed (.mark o.symbol position :: rest)) = some a at h
      rcases Operator.isAdditive_iff.mp ho with hplus | hminus
      · rw [hplus, found?_signed_plus] at h
        obtain ⟨read, f, hts, hderives, hvalue⟩ := hrest a h
        refine ⟨.mark o.symbol position :: read, .positive f, by rw [hts]; rfl, ?_, hvalue⟩
        rw [hplus]
        exact .positive hderives
      · rw [hminus, found?_signed_minus] at h
        obtain ⟨b, hb, rfl⟩ := Option.map_eq_some_iff.mp h
        obtain ⟨read, f, hts, hderives, hvalue⟩ := hrest b hb
        refine ⟨.mark o.symbol position :: read, .negative f, by rw [hts]; rfl, ?_, ?_⟩
        · rw [hminus]
          exact .negative hderives
        · rw [Formula.value?, hvalue]
          rfl
    · exact signed_sound_of_stops hsum hstops

/-- Whatever a sum is read as is explained. -/
theorem sum_sound (ts : List Token) : Sound .sum ts := by
  induction hlength : ts.length using Nat.strongRecOn generalizing ts with
  | ind n ih =>
    subst hlength
    refine chain_sum.sound fun ts' hts' => chain_product.sound fun ts'' hts'' => ?_
    exact signed_sound fun ts''' hts''' => ih ts'''.length (by omega) ts''' rfl

end DeviceFlow.Expression
