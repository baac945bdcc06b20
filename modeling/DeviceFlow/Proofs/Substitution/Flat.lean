import DeviceFlow.Proofs.Substitution.Reading

/-!
# Values without opening braces

When no value contains an opening brace, substitution opens no placeholder that was not there. So a
second substitution finds nothing to do, and a substitution that does change a text takes opening
braces out of it.

The parts of a text and the values between them never meet in a new placeholder. The placeholders
of the result are those of the text that name no variable, in their order, and what follows an
opening mark that is never closed stays at the end.
-/

namespace DeviceFlow.Variables

open Text

section

/-- No value contains an opening brace. -/
def Flat (vars : Variables) : Prop :=
  ∀ name value, vars.get? name = some value → '\x7b' ∉ value.toList

variable {vars : Variables} {text literal body rest name : List Char} {bodies : List (List Char)}

theorem flat_empty : Flat Dict.empty := nofun

theorem Flat.insert (hflat : vars.Flat) {name value : String} (hvalue : '\x7b' ∉ value.toList) :
    Flat (Dict.insert vars name value) := by
  intro other found h
  rw [Dict.get?_insert] at h
  split at h
  · cases h
    exact hvalue
  · exact hflat other found h

theorem free_openMark_of_notMem (h : '\x7b' ∉ text) : Free openMark text := by
  refine free_doubled_iff.mpr ⟨fun hwithin => h (hwithin.subset (by simp)), fun hlast => ?_⟩
  exact h (List.mem_of_getLast? hlast)

theorem placeholder_of_some {value : String}
    (h : vars.get? (String.ofList (trim body)) = some value) :
    vars.placeholder body = value.toList := by
  rw [placeholder, h]

theorem placeholder_of_none (h : vars.get? (String.ofList (trim body)) = none) :
    vars.placeholder body = openMark ++ body ++ closeMark := by
  rw [placeholder, h]

/-- Whether a placeholder with this body names no variable. -/
def isUndefined (vars : Variables) (body : List Char) : Bool :=
  (vars.get? (String.ofList (trim body))).isNone

theorem isUndefined_of_some {value : String}
    (h : vars.get? (String.ofList (trim body)) = some value) : vars.isUndefined body = false := by
  rw [isUndefined, h, Option.isNone_some]

theorem isUndefined_of_none (h : vars.get? (String.ofList (trim body)) = none) :
    vars.isUndefined body = true := by
  rw [isUndefined, h, Option.isNone_none]

/-- The placeholders of a substituted text are those that name no variable, also behind a text in
    which no placeholder begins. -/
theorem Reads.append_expand (h : Reads text bodies) (hflat : vars.Flat)
    (hliteral : Free openMark literal) :
    Reads (literal ++ vars.expand text) (bodies.filter vars.isUndefined) := by
  induction h generalizing literal with
  | plain htext =>
    rw [expand_of_plain vars htext]
    exact .plain fun hwithin => htext (hliteral.infix_append_iff.mp hwithin)
  | @unclosed front rest hfront hrest =>
    rw [expand_of_unclosed vars hfront.not_within hrest, ← List.append_assoc, ← List.append_assoc]
    exact .unclosed (hliteral.append hfront) hrest
  | @closed front body rest bodies hfront hbody _ ih =>
    rw [expand_of_closed vars hfront hbody]
    cases hvalue : vars.get? (String.ofList (trim body)) with
    | some value =>
      -- The value has no opening brace, so it is part of the literal before the rest.
      have hfree := free_openMark_of_notMem (hflat _ value hvalue)
      rw [placeholder_of_some hvalue, ← List.append_assoc, ← List.append_assoc,
        List.filter_cons_of_neg (by rw [isUndefined_of_some hvalue]; decide)]
      exact ih ((hliteral.append hfront).append hfree)
    | none =>
      have hrest : Reads (vars.expand rest) (bodies.filter vars.isUndefined) :=
        ih (free_openMark_of_notMem List.not_mem_nil)
      have heq : literal ++ (front ++ (openMark ++ body ++ closeMark) ++ vars.expand rest) =
          literal ++ front ++ openMark ++ (body ++ closeMark ++ vars.expand rest) := by
        simp only [List.append_assoc]
      rw [placeholder_of_none hvalue, heq, List.filter_cons_of_pos (isUndefined_of_none hvalue)]
      exact .closed (hliteral.append hfront) hbody hrest

/-- A text in which no placeholder names a variable is left as it is. -/
theorem Reads.expand_eq_self (h : Reads text bodies)
    (hnone : ∀ body ∈ bodies, vars.isUndefined body = true) : vars.expand text = text := by
  induction h with
  | plain htext => exact expand_of_plain vars htext
  | unclosed hfront hrest => exact expand_of_unclosed vars hfront.not_within hrest
  | closed hfront hbody _ ih =>
    obtain ⟨hfirst, hothers⟩ := List.forall_mem_cons.mp hnone
    rw [expand_of_closed vars hfront hbody, ih hothers,
      placeholder_of_none (Option.isNone_iff_eq_none.mp hfirst)]
    simp only [List.append_assoc]

/-- The placeholders of a substituted text are those that name no variable. -/
theorem Reads.substitute {text : String} (h : Reads text.toList bodies) (hflat : vars.Flat) :
    Reads (vars.substitute text).toList (bodies.filter vars.isUndefined) := by
  rw [Variables.substitute, String.toList_ofList]
  exact h.append_expand hflat (free_openMark_of_notMem List.not_mem_nil)

/-- A second substitution finds nothing to do. -/
theorem substitute_substitute (hflat : vars.Flat) (text : String) :
    vars.substitute (vars.substitute text) = vars.substitute text := by
  obtain ⟨bodies, h⟩ := exists_reads text.toList
  have htwice : vars.expand (vars.substitute text).toList = (vars.substitute text).toList :=
    (h.substitute hflat).expand_eq_self fun _ hbody => List.of_mem_filter hbody
  rw [Variables.substitute, htwice, String.ofList_toList]

/-- Substitution leaves a text as it is, or takes opening braces out of it. -/
theorem Reads.expand_eq_or_count_lt (h : Reads text bodies) (hflat : vars.Flat) :
    vars.expand text = text ∨ (vars.expand text).count '\x7b' < text.count '\x7b' := by
  induction h with
  | plain htext => exact .inl (expand_of_plain vars htext)
  | unclosed hfront hrest => exact .inl (expand_of_unclosed vars hfront.not_within hrest)
  | @closed front body rest bodies hfront hbody _ ih =>
    have hopening : openMark.count '\x7b' = 2 := rfl
    rw [expand_of_closed vars hfront hbody]
    cases hvalue : vars.get? (String.ofList (trim body)) with
    | some value =>
      have hnone : value.toList.count '\x7b' = 0 := List.count_eq_zero.mpr (hflat _ value hvalue)
      have hrest : (vars.expand rest).count '\x7b' ≤ rest.count '\x7b' := by
        rcases ih with hsame | hless
        · rw [hsame]
        · exact hless.le
      right
      rw [placeholder_of_some hvalue]
      simp only [List.count_append]
      omega
    | none =>
      rw [placeholder_of_none hvalue]
      rcases ih with hsame | hless
      · left
        rw [hsame]
        simp only [List.append_assoc]
      · right
        simp only [List.count_append]
        omega

theorem substitute_eq_of_count (hflat : vars.Flat) {text : String}
    (h : (vars.substitute text).toList.count '\x7b' = text.toList.count '\x7b') :
    vars.substitute text = text := by
  obtain ⟨bodies, hreads⟩ := exists_reads text.toList
  rw [substitute, String.toList_ofList] at h
  rw [substitute, (hreads.expand_eq_or_count_lt hflat).resolve_right (by omega),
    String.ofList_toList]

end

/-! ## What substitution leaves in a text -/

section

variable {vars : Variables} {text front rest : List Char} {bodies : List (List Char)}

/-- No closing mark begins in front of an opening mark and ends in it. -/
theorem closeMark_not_infix_append (hfront : ¬ closeMark <:+: front)
    (hrest : ¬ closeMark <:+: rest) : ¬ closeMark <:+: front ++ openMark ++ rest := by
  intro hwithin
  rw [List.append_assoc] at hwithin
  rcases List.infix_append_iff.mp hwithin with h | h | ⟨l₁, l₂, heq, hl₁, hl₂⟩
  · exact hfront h
  · rw [show openMark ++ rest = '\x7b' :: '\x7b' :: rest from rfl, List.infix_cons_iff,
      List.infix_cons_iff] at h
    rcases h with h | h | h
    · simp [closeMark] at h
    · simp [closeMark] at h
    · exact hrest h
  · cases l₂ with
    | nil => exact hfront (heq.trans (List.append_nil _) ▸ hl₁.isInfix)
    | cons d tail =>
      have hopening : d = '\x7b' := (List.cons_prefix_cons.mp hl₂).1
      have hclosing : d ∈ closeMark := heq ▸ List.mem_append_right l₁ List.mem_cons_self
      rw [hopening] at hclosing
      exact absurd hclosing (by decide)

/-- What follows an opening mark that is never closed is not changed, and does not matter to what
    stands before it. -/
theorem Reads.expand_append_unclosed (h : Reads front bodies) (hrest : ¬ closeMark <:+: rest) :
    vars.expand (front ++ openMark ++ rest) = vars.expand front ++ openMark ++ rest := by
  induction h with
  | plain htext => rw [expand_of_plain vars htext, expand_of_unclosed vars htext hrest]
  | @unclosed literal inner hliteral hinner =>
    have hlate := closeMark_not_infix_append hinner hrest
    have heq : literal ++ openMark ++ inner ++ openMark ++ rest =
        literal ++ openMark ++ (inner ++ openMark ++ rest) := by
      simp only [List.append_assoc]
    rw [expand_of_unclosed vars hliteral.not_within hinner, heq,
      expand_of_unclosed vars hliteral.not_within hlate]
  | @closed literal body inner bodies hliteral hbody _ ih =>
    have heq : literal ++ openMark ++ (body ++ closeMark ++ inner) ++ openMark ++ rest =
        literal ++ openMark ++ (body ++ closeMark ++ (inner ++ openMark ++ rest)) := by
      simp only [List.append_assoc]
    rw [heq, expand_of_closed vars hliteral hbody, expand_of_closed vars hliteral hbody, ih]
    simp only [List.append_assoc]

/-- If no value contains an opening brace, a second substitution changes nothing: no placeholder is
    new, those that name no variable stay as they are, and so does an opening mark that is never
    closed, with all that follows it. -/
theorem substitute_stable (vars : Variables)
    (hflat : ∀ name value, vars.get? name = some value → '\x7b' ∉ value.toList) (text : String) :
    vars.substitute (vars.substitute text) = vars.substitute text ∧
      (∃ bodies, Reads text.toList bodies) ∧
      (∀ bodies, Reads text.toList bodies →
        Reads (vars.substitute text).toList (bodies.filter vars.isUndefined)) ∧
      ∀ front rest, text.toList = front ++ openMark ++ rest → ¬ closeMark <:+: rest →
        (vars.substitute text).toList = vars.expand front ++ openMark ++ rest := by
  refine ⟨substitute_substitute hflat text, exists_reads text.toList,
    fun bodies h => h.substitute hflat, fun front rest htext hrest => ?_⟩
  obtain ⟨bodies, hfront⟩ := exists_reads front
  rw [substitute, String.toList_ofList, htext]
  exact hfront.expand_append_unclosed hrest

/-- The brace behind an empty value, and the value that is a closing brace, stand next to other
    braces afterwards. The first placeholder stays, and nothing is new. -/
theorem substitute_stable_braces :
    let vars : Variables := (Dict.empty.insert "a" "").insert "b" "\x7d"
    let text := "\x7b\x7bc\x7d\x7d\x7b\x7ba\x7d\x7d\x7b \x7b\x7bb\x7d\x7d\x7d \x7b\x7bb"
    let result := "\x7b\x7bc\x7d\x7d\x7b \x7d\x7d \x7b\x7bb"
    (∀ name value, vars.get? name = some value → '\x7b' ∉ value.toList) ∧
      vars.substitute text = result ∧ vars.substitute result = result ∧
      Reads text.toList [['c'], ['a'], ['b']] ∧ Reads result.toList [['c']] := by
  intro vars text result
  have hflat : vars.Flat := (flat_empty.insert (by decide)).insert (by decide)
  have hresult : vars.substitute text = result := by decide +kernel
  have hend : Reads "\x7d \x7b\x7bb".toList [] :=
    @Reads.unclosed ['\x7d', ' '] ['b'] (by unfold Free; decide) (by decide)
  have hmiddle : Reads "\x7b \x7b\x7bb\x7d\x7d\x7d \x7b\x7bb".toList [['b']] :=
    @Reads.closed ['\x7b', ' '] ['b'] _ _ (by unfold Free; decide) (by unfold Free; decide) hend
  have hreads : Reads text.toList [['c'], ['a'], ['b']] := by
    unfold text
    exact @Reads.closed [] ['c'] _ _ (by unfold Free; decide) (by unfold Free; decide)
      (@Reads.closed [] ['a'] _ _ (by unfold Free; decide) (by unfold Free; decide) hmiddle)
  obtain ⟨htwice, -, hleft, -⟩ := substitute_stable vars hflat text
  rw [hresult] at htwice
  exact ⟨hflat, hresult, htwice, hreads, hresult ▸ hleft _ hreads⟩

end

end DeviceFlow.Variables
