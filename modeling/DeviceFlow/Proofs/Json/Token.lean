import DeviceFlow.Document.Json.Token
import DeviceFlow.Document.Json.Writer
import DeviceFlow.Proofs.Definition.Digits

/-!
# Written scalars as tokens

What is written for a string or an integer is read as one token: the string has its characters, and
the integer its value as long as 64 bits hold it. A string ends with its quote; an integer ends
where the line or the item ends.
-/

namespace DeviceFlow.Document.Json

open Text (digitsValue_toDigits isDigit_of_mem_toDigits takeWhile_isDigit dropWhile_isDigit)

variable {cs rest : List Char} {c : Char} {n : Nat} {i : Int}

theorem word?_append (word : String) (a : Atom) (rest : List Char) :
    word? word a (word.toList ++ rest) = some (plainScalar a, rest) := by
  simp [word?, ← String.length_toList]

/-- A word is a token of its own where the reader looks for it. -/
theorem token?_word (word : String) (a : Atom) (rest : List Char)
    (h : token? (word.toList ++ rest) =
      (word? word a (word.toList ++ rest)).map fun r => (.scalar r.1, r.2)) :
    token? (word.toList ++ rest) = some (.scalar (plainScalar a), rest) := by
  rw [h, word?_append]
  rfl

/-! ## Strings -/

theorem hexValue?_hexDigit : ∀ n < 16, Text.hexValue? (hexDigit n) = some n := by decide

/-- A control character that is written by its number. -/
theorem units?_control (h : c.toNat < 0x20) (rest : List Char) :
    units? ('\\' :: 'u' :: '0' :: '0' :: hexDigit (c.toNat / 16) :: hexDigit (c.toNat % 16) ::
        rest) =
      (units? rest).map fun (units, rest) => (.code c.toNat :: units, rest) := by
  have hupper := hexValue?_hexDigit (c.toNat / 16) (by omega)
  have hlower := hexValue?_hexDigit (c.toNat % 16) (by omega)
  have hzero : Text.hexValue? '0' = some 0 := rfl
  have hcode : ((0 * 16 + 0) * 16 + c.toNat / 16) * 16 + c.toNat % 16 = c.toNat := by omega
  rw [units?, hzero, hupper, hlower]
  simp only [Option.bind_eq_bind, Option.bind_some, hcode]
  cases units? rest with
  | none => rfl
  | some r => rfl

theorem characters?_code (h : n < 0x20) (units : List StringUnit) :
    characters? (.code n :: units) = (characters? units).map (Char.ofNat n :: ·) := by
  have hlow : ¬(0xD800 ≤ n ∧ n < 0xDC00) := by omega
  have hhigh : ¬(0xDC00 ≤ n ∧ n < 0xE000) := by omega
  have hhalf : ¬(0xD800 ≤ n ∧ n < 0xE000) := by omega
  cases units with
  | nil => simp [characters?, hhalf]
  | cons u units =>
    cases u with
    | char c => simp [characters?, hhalf]
    | code m => rw [characters?, if_neg hlow, if_neg hhigh]

/-- A character as it stands in a string is read as one unit, which makes the character. -/
theorem exists_unit_escaped (c : Char) (rest : List Char) :
    ∃ unit, units? (escaped c ++ rest) =
        (units? rest).map (fun (units, rest) => (unit :: units, rest)) ∧
      ∀ units, characters? (unit :: units) = (characters? units).map (c :: ·) := by
  have hescape : ∀ {e : Char}, e ≠ 'u' → ∀ {c}, escape? e = some c →
      units? ('\\' :: e :: rest) =
        (units? rest).map fun (units, rest) => (.char c :: units, rest) := by
    intro e he c hc
    rw [units?, hc]
    · cases units? rest with
      | none => rfl
      | some r => rfl
    · intro a b c d rest' heq
      exact absurd heq he
  have hchar : ∀ c units, characters? (.char c :: units) = (characters? units).map (c :: ·) :=
    fun _ _ => rfl
  unfold escaped
  split
  · exact ⟨.char '"', hescape (by decide) rfl, hchar _⟩
  · exact ⟨.char '\\', hescape (by decide) rfl, hchar _⟩
  · exact ⟨.char '\x08', hescape (by decide) rfl, hchar _⟩
  · exact ⟨.char '\x0c', hescape (by decide) rfl, hchar _⟩
  · exact ⟨.char '\n', hescape (by decide) rfl, hchar _⟩
  · exact ⟨.char '\r', hescape (by decide) rfl, hchar _⟩
  · exact ⟨.char '\t', hescape (by decide) rfl, hchar _⟩
  · rename_i hquote hbackslash _ _ _ _ _
    by_cases hcontrol : c.toNat < 0x20
    · refine ⟨.code c.toNat, ?_, fun units => ?_⟩
      · rw [if_pos hcontrol]
        exact units?_control hcontrol rest
      · rw [characters?_code hcontrol, Char.ofNat_toNat]
    · refine ⟨.char c, ?_, hchar _⟩
      have hplain : ¬(c = '\\' ∨ c.toNat < 0x20) := not_or.mpr ⟨hbackslash, hcontrol⟩
      rw [if_neg hcontrol, List.singleton_append, units?, if_neg hplain]
      · cases units? rest with
        | none => rfl
        | some r => rfl
      · exact hquote
      · intro _ _ _ _ _ heq
        exact absurd heq hbackslash
      · intro _ _ heq
        exact absurd heq hbackslash

/-- The characters of a string are read up to its closing quote. -/
theorem exists_units_escaped (cs rest : List Char) :
    ∃ units, units? (cs.flatMap escaped ++ '"' :: rest) = some (units, rest) ∧
      characters? units = some cs := by
  induction cs with
  | nil => exact ⟨[], by simp [units?], rfl⟩
  | cons c cs ih =>
    obtain ⟨units, hunits, hcharacters⟩ := ih
    obtain ⟨unit, hunit, hcharacter⟩ := exists_unit_escaped c (cs.flatMap escaped ++ '"' :: rest)
    refine ⟨unit :: units, ?_, ?_⟩
    · rw [List.flatMap_cons, List.append_assoc, hunit, hunits]
      rfl
    · rw [hcharacter, hcharacters]
      rfl

/-- A written string is read as the string. -/
theorem token?_quoted (s : String) (rest : List Char) :
    token? ((quoted s).toList ++ rest) = some (.text (some s), rest) := by
  obtain ⟨units, hunits, hcharacters⟩ := exists_units_escaped s.toList rest
  have htext : (quoted s).toList ++ rest = '"' :: (s.toList.flatMap escaped ++ '"' :: rest) := by
    simp [quoted]
  have hstring : string? (s.toList.flatMap escaped ++ '"' :: rest) = some (some s, rest) := by
    simp [string?, hunits, hcharacters]
  rw [htext]
  simp [token?, hstring]

/-! ## Integers -/

/-- What follows a value over several lines: the comma or the line break after it, or nothing. -/
def Ends (rest : List Char) : Prop :=
  ∀ c ∈ rest.head?, c = ',' ∨ c = '\n'

theorem Ends.isDigit (h : Ends rest) : ∀ c ∈ rest.head?, c.isDigit = false := by
  intro c hc
  rcases h c hc with rfl | rfl
  · rfl
  · rfl

theorem Ends.places? (h : Ends rest) : places? rest = some ([], rest) := by
  cases rest with
  | nil => rfl
  | cons c rest =>
    rcases h c rfl with rfl | rfl
    · rfl
    · rfl

theorem Ends.exponent? (h : Ends rest) : exponent? rest = some (none, rest) := by
  cases rest with
  | nil => rfl
  | cons c rest =>
    rcases h c rfl with rfl | rfl
    · rfl
    · rfl

/-- The digits of a number start with a zero only for zero. -/
theorem exists_toDigits_eq_cons (hn : 0 < n) :
    ∃ c cs, Nat.toDigits 10 n = c :: cs ∧ c.isDigit = true ∧ c ≠ '0' := by
  induction n using Nat.strongRecOn with
  | ind n ih =>
    by_cases hsmall : n < 10
    · refine ⟨n.digitChar, [], Nat.toDigits_of_lt_base hsmall, ?_, ?_⟩
      · exact (by decide : ∀ n < 10, n.digitChar.isDigit = true) n hsmall
      · exact (by decide : ∀ n < 10, 0 < n → n.digitChar ≠ '0') n hsmall hn
    · obtain ⟨c, cs, hcs, hdigit, hzero⟩ := ih (n / 10) (by omega) (by omega)
      refine ⟨c, cs ++ [(n % 10).digitChar], ?_, hdigit, hzero⟩
      rw [Nat.toDigits_of_base_le (by decide) (by omega), hcs, List.cons_append]

theorem wholeDigits?_toDigits (n : Nat) (h : Ends rest) :
    wholeDigits? (Nat.toDigits 10 n ++ rest) = some (Nat.toDigits 10 n, rest) := by
  rcases Nat.eq_zero_or_pos n with rfl | hn
  · cases rest with
    | nil => rfl
    | cons c rest =>
      have hdigit : c.isDigit = false := h.isDigit c rfl
      simp [wholeDigits?, hdigit]
  · have hdigits : ∀ c ∈ Nat.toDigits 10 n, c.isDigit = true :=
      fun c hc => isDigit_of_mem_toDigits hc
    have htake := takeWhile_isDigit hdigits h.isDigit
    have hdrop := dropWhile_isDigit hdigits h.isDigit
    obtain ⟨c, cs, hcs, -, hzero⟩ := exists_toDigits_eq_cons hn
    rw [hcs, List.cons_append] at htake hdrop ⊢
    unfold wholeDigits?
    split
    · rename_i heq
      exact absurd (List.cons.inj heq).1 hzero
    · rw [htake, hdrop]
      rfl

/-- A number that has neither fraction nor exponent is read as the scalar of an integer. -/
theorem numberScalar_toDigits {negative : Bool} (hn : n < Decimal.twoTo 64)
    (hsign : ¬(negative = true ∧ n = 0)) :
    numberScalar negative (Nat.toDigits 10 n) [] none =
      integerScalar (if negative then -n else n) := by
  unfold numberScalar
  simp only [digitsValue_toDigits]
  rw [if_pos ⟨hn, hsign⟩]

theorem number?_nonneg (hn : n < Decimal.twoTo 64) (h : Ends rest) :
    number? (Nat.toDigits 10 n ++ rest) = some (integerScalar n, rest) := by
  have hwhole := wholeDigits?_toDigits n h
  have hscalar : numberScalar false (Nat.toDigits 10 n) [] none = integerScalar n :=
    numberScalar_toDigits hn (by simp)
  have hfirst : ∀ cs, Nat.toDigits 10 n ++ rest ≠ '-' :: cs := by
    intro cs hcs
    obtain ⟨c, ds, hds⟩ := List.exists_cons_of_ne_nil (Nat.toDigits_ne_nil (n := n) (b := 10))
    have hdigit : c.isDigit = true := isDigit_of_mem_toDigits (hds ▸ List.mem_cons_self)
    rw [hds, List.cons_append] at hcs
    rw [(List.cons.inj hcs).1] at hdigit
    exact absurd hdigit (by decide)
  unfold number?
  split
  · rename_i heq
    split at heq
    · rename_i cs hcs
      exact absurd hcs (hfirst cs)
    · cases heq
      simp [hwhole, h.places?, h.exponent?, hscalar]

theorem number?_neg (hn : n < Decimal.twoTo 64) (hpos : 0 < n) (h : Ends rest) :
    number? ('-' :: (Nat.toDigits 10 n ++ rest)) = some (integerScalar (-n), rest) := by
  have hscalar : numberScalar true (Nat.toDigits 10 n) [] none = integerScalar (-n) :=
    numberScalar_toDigits hn (by omega)
  simp [number?, wholeDigits?_toDigits n h, h.places?, h.exponent?, hscalar]

/-- What starts like a number is read as a number. -/
theorem token?_number (hc : c.isDigit = true ∨ c = '-') :
    token? (c :: cs) = (number? (c :: cs)).map fun (s, rest) => (.scalar s, rest) := by
  unfold token?
  dsimp only
  split
  case h_11 => rfl
  -- No mark, quote or word starts with a digit or a sign.
  all_goals simp at hc

/-- The integers that 64 bits hold, with a sign or without. -/
def Holds64 (i : Int) : Prop :=
  -(Decimal.twoTo 63 : Int) ≤ i ∧ i < Decimal.twoTo 64

/-- An integer is written with its digits, after a sign if it is negative. -/
theorem toList_toString_int (i : Int) :
    (toString i).toList =
      if 0 ≤ i then Nat.toDigits 10 i.toNat else '-' :: Nat.toDigits 10 (-i).toNat := by
  show i.repr.toList = _
  rw [Int.repr_eq_if]
  split
  · exact Nat.toList_repr
  · simp

theorem exists_toString_int_eq_cons (i : Int) :
    ∃ c cs, (toString i).toList = c :: cs ∧ (c.isDigit = true ∨ c = '-') := by
  rw [toList_toString_int]
  split
  · obtain ⟨c, cs, hcs⟩ :=
      List.exists_cons_of_ne_nil (Nat.toDigits_ne_nil (n := i.toNat) (b := 10))
    exact ⟨c, cs, hcs, .inl (isDigit_of_mem_toDigits (hcs ▸ List.mem_cons_self))⟩
  · exact ⟨'-', _, rfl, .inr rfl⟩

theorem number?_int (hi : Holds64 i) (h : Ends rest) :
    number? ((toString i).toList ++ rest) = some (integerScalar i, rest) := by
  have hsize : Decimal.twoTo 63 < Decimal.twoTo 64 := by decide
  obtain ⟨hlow, hhigh⟩ := hi
  generalize Decimal.twoTo 63 = low at *
  rw [toList_toString_int]
  split
  · rw [number?_nonneg (by omega) h, Int.toNat_of_nonneg ‹_›]
  · rw [List.cons_append, number?_neg (by omega) (by omega) h, Int.toNat_of_nonneg (by omega),
      Int.neg_neg]

/-- A written integer is read as the integer. -/
theorem token?_int (hi : Holds64 i) (h : Ends rest) :
    token? ((toString i).toList ++ rest) = some (.scalar (integerScalar i), rest) := by
  have hnumber := number?_int hi h
  obtain ⟨c, cs, hcs, hc⟩ := exists_toString_int_eq_cons i
  rw [hcs, List.cons_append] at hnumber ⊢
  rw [token?_number hc, hnumber]
  rfl

end DeviceFlow.Document.Json
