import DeviceFlow.Proofs.Substitution.Reading
import Mathlib.Data.List.Chain

/-!
# Templates

A template is a list of literals and placeholders, possibly with an opening mark at its end that is
never closed. It is legible if the marks in its written form are those of its placeholders, and of
the end. Substitution in the written form of a legible template goes part by part: literals stay,
a placeholder of a variable becomes the value, which is not looked into, and any other placeholder
stays as it is written.
-/

namespace DeviceFlow

open Variables (openMark closeMark)

/-- A part of a template: a text that stands for itself, or a placeholder with what stands between
    its marks. -/
inductive Template.Part where
  | literal (text : List Char)
  | placeholder (body : List Char)
  deriving DecidableEq

/-- Literals and placeholders in any order. -/
structure Template where
  parts : List Template.Part
  /-- What stands behind an opening mark at the end that is never closed. -/
  unclosed : Option (List Char)

namespace Template

/-- A part as it is written. -/
def Part.written : Part → List Char
  | .literal text => text
  | .placeholder body => openMark ++ body ++ closeMark

/-- A part with the value of its variable put in, if there is one. -/
def Part.filled (vars : Variables) : Part → List Char
  | .literal text => text
  | .placeholder body =>
    match vars.get? (String.ofList (Text.trim body)) with
    | some value => value.toList
    | none => openMark ++ body ++ closeMark

/-- The end of a template behind its parts. -/
def ending (t : Template) : List Char :=
  match t.unclosed with
  | none => []
  | some rest => openMark ++ rest

/-- A template as it is written. -/
def written (t : Template) : List Char := t.parts.flatMap Part.written ++ t.ending

/-- A template with the values of variables put in. -/
def filled (vars : Variables) (t : Template) : List Char :=
  t.parts.flatMap (Part.filled vars) ++ t.ending

/-- The parts of a template can be told apart in its written form. Literals that stand side by side
    are one literal to a reader, and what is asked of a literal is asked of such a run. -/
structure Legible (t : Template) : Prop where
  /-- No literal contains an opening mark. -/
  literal : ∀ run : List (List Char), run.map Part.literal <:+: t.parts →
    ¬ openMark <:+: run.flatten
  /-- No literal before a placeholder ends with an opening brace. -/
  seam : ∀ (run : List (List Char)) (body : List Char),
    run.map Part.literal ++ [.placeholder body] <:+: t.parts →
    run.flatten.getLast? ≠ some '\x7b'
  /-- No body contains a closing mark or ends with a closing brace. -/
  body : ∀ body, .placeholder body ∈ t.parts →
    ¬ closeMark <:+: body ∧ body.getLast? ≠ some '\x7d'
  /-- The opening mark at the end is not closed. -/
  unclosed : ∀ rest, t.unclosed = some rest → ¬ closeMark <:+: rest

/-- Two parts are not both literals. -/
def Part.Apart (p q : Part) : Prop := ∀ a b, p = .literal a → q ≠ .literal b

/-- If no two literals stand side by side, each of them is judged by itself. -/
theorem Legible.of_apart {t : Template} (hapart : t.parts.IsChain Part.Apart)
    (hliteral : ∀ text, .literal text ∈ t.parts → ¬ openMark <:+: text)
    (hseam : ∀ text body, [.literal text, .placeholder body] <:+: t.parts →
      text.getLast? ≠ some '\x7b')
    (hbody : ∀ body, .placeholder body ∈ t.parts →
      ¬ closeMark <:+: body ∧ body.getLast? ≠ some '\x7d')
    (hunclosed : ∀ rest, t.unclosed = some rest → ¬ closeMark <:+: rest) : t.Legible where
  literal run hrun := by
    rcases run with _ | ⟨text, _ | ⟨next, run⟩⟩
    · simp [openMark]
    · simpa using hliteral text (hrun.subset (by simp))
    · have hboth := List.IsChain.infix hapart hrun
      simp [Part.Apart] at hboth
  seam run body hrun := by
    rcases run with _ | ⟨text, _ | ⟨next, run⟩⟩
    · simp
    · simpa using hseam text body hrun
    · have hboth := List.IsChain.infix hapart hrun
      simp [Part.Apart] at hboth
  body := hbody
  unclosed := hunclosed

/-- A template is legible when each run of its literals is one of a legible template. -/
theorem Legible.of_runs {t t' : Template} (h : t.Legible)
    (hruns : ∀ (run : List (List Char)) (after : List Part), run ≠ [] →
      run.map Part.literal ++ after <:+: t'.parts →
      ∃ run' : List (List Char), run'.flatten = run.flatten ∧
        run'.map Part.literal ++ after <:+: t.parts)
    (hbodies : ∀ body, .placeholder body ∈ t'.parts → .placeholder body ∈ t.parts)
    (hunclosed : t'.unclosed = t.unclosed) : t'.Legible where
  literal run hrun := by
    by_cases hnil : run = []
    · subst hnil
      simp [openMark]
    · obtain ⟨run', hsame, hrun'⟩ := hruns run [] hnil (by rwa [List.append_nil])
      rw [List.append_nil] at hrun'
      exact hsame ▸ h.literal run' hrun'
  seam run body hrun := by
    by_cases hnil : run = []
    · subst hnil
      simp
    · obtain ⟨run', hsame, hrun'⟩ := hruns run [.placeholder body] hnil hrun
      exact hsame ▸ h.seam run' body hrun'
  body body hmem := h.body body (hbodies body hmem)
  unclosed rest hrest := h.unclosed rest (hunclosed ▸ hrest)

variable {p : Part} {parts : List Part} {u : Option (List Char)}

theorem Legible.tail (h : Legible ⟨p :: parts, u⟩) : Legible ⟨parts, u⟩ :=
  h.of_runs (fun run _ _ hrun => ⟨run, rfl, List.infix_cons hrun⟩)
    (fun _ hmem => List.mem_cons_of_mem _ hmem) rfl

/-- An empty literal in front makes no difference. -/
theorem Legible.cons_nil (h : Legible ⟨parts, u⟩) : Legible ⟨.literal [] :: parts, u⟩ := by
  refine h.of_runs ?_ ?_ rfl
  · intro run after hnil hrun
    obtain ⟨text, run, rfl⟩ := List.exists_cons_of_ne_nil hnil
    rcases List.infix_cons_iff.mp hrun with hpre | hrun
    · obtain ⟨htext, hrest⟩ := List.cons_prefix_cons.mp hpre
      cases htext
      exact ⟨run, rfl, hrest.isInfix⟩
    · exact ⟨text :: run, rfl, hrun⟩
  · intro body hmem
    simpa using hmem

/-- Two literals that stand side by side are as good as one. -/
theorem Legible.join {a b : List Char} (h : Legible ⟨.literal a :: .literal b :: parts, u⟩) :
    Legible ⟨.literal (a ++ b) :: parts, u⟩ := by
  refine h.of_runs ?_ ?_ rfl
  · intro run after hnil hrun
    obtain ⟨text, run, rfl⟩ := List.exists_cons_of_ne_nil hnil
    rcases List.infix_cons_iff.mp hrun with hpre | hrun
    · obtain ⟨htext, hrest⟩ := List.cons_prefix_cons.mp hpre
      cases htext
      refine ⟨a :: b :: run, by simp, List.IsPrefix.isInfix ?_⟩
      simpa using hrest
    · exact ⟨text :: run, rfl, List.infix_cons (List.infix_cons hrun)⟩
  · intro body hmem
    simpa using hmem

theorem Legible.free {literal body : List Char}
    (h : Legible ⟨.literal literal :: .placeholder body :: parts, u⟩) :
    Text.Free openMark literal ∧ Text.Free closeMark body := by
  have hliteral : ¬ openMark <:+: literal := by
    have hrun : [.literal literal] <:+: Part.literal literal :: .placeholder body :: parts :=
      ⟨[], _, rfl⟩
    simpa using h.literal [literal] hrun
  have hseam : literal.getLast? ≠ some '\x7b' := by
    have hrun : [.literal literal, .placeholder body] <:+:
        Part.literal literal :: .placeholder body :: parts := ⟨[], parts, rfl⟩
    simpa using h.seam [literal] body hrun
  exact ⟨Text.free_doubled_iff.mpr ⟨hliteral, hseam⟩,
    Text.free_doubled_iff.mpr (h.body body (by simp))⟩

theorem written_cons : written ⟨p :: parts, u⟩ = p.written ++ written ⟨parts, u⟩ :=
  List.append_assoc ..

theorem filled_cons (vars : Variables) :
    filled vars ⟨p :: parts, u⟩ = p.filled vars ++ filled vars ⟨parts, u⟩ :=
  List.append_assoc ..

/-- Substitution in what is left of a template, with the literal before it. -/
theorem expand_append_written (vars : Variables) (lead : List Char)
    (h : Legible ⟨.literal lead :: parts, u⟩) :
    vars.expand (lead ++ written ⟨parts, u⟩) = lead ++ filled vars ⟨parts, u⟩ := by
  induction parts generalizing lead with
  | nil =>
    have hlead : ¬ openMark <:+: lead := by simpa using h.literal [lead] (List.infix_refl _)
    cases u with
    | none => simpa [written, filled, ending] using Variables.expand_of_plain vars hlead
    | some rest =>
      simpa [written, filled, ending] using
        Variables.expand_of_unclosed vars hlead (h.unclosed rest rfl)
  | cons p parts ih =>
    rw [written_cons, filled_cons]
    cases p with
    | literal text =>
      have hrest := ih (lead ++ text) h.join
      rwa [List.append_assoc, List.append_assoc] at hrest
    | placeholder body =>
      obtain ⟨hlead, hbody⟩ := h.free
      have hrest : vars.expand (written ⟨parts, u⟩) = filled vars ⟨parts, u⟩ :=
        ih [] h.tail.tail.cons_nil
      calc vars.expand (lead ++ (openMark ++ body ++ closeMark ++ written ⟨parts, u⟩))
        _ = vars.expand (lead ++ openMark ++ (body ++ closeMark ++ written ⟨parts, u⟩)) := by
          simp only [List.append_assoc]
        _ = lead ++ vars.placeholder body ++ vars.expand (written ⟨parts, u⟩) :=
          Variables.expand_of_closed vars hlead hbody
        _ = lead ++ (vars.placeholder body ++ filled vars ⟨parts, u⟩) := by
          rw [hrest, List.append_assoc]

/-- Substitution in the written form of a legible template puts in the values of the placeholders
    that name variables, and leaves all else as it is written. -/
theorem substitute_written (vars : Variables) (t : Template) (h : t.Legible) :
    vars.substitute (String.ofList t.written) = String.ofList (t.filled vars) := by
  unfold Variables.substitute
  rw [String.toList_ofList]
  exact congrArg String.ofList (expand_append_written vars [] h.cons_nil)

/-- A template with braces in its literals and at its end. -/
def notice : Template where
  parts := [.placeholder " a ".toList, .placeholder "b".toList, .literal "\x7d \x7bx".toList,
    .placeholder "c".toList]
  unclosed := some "a\x7d".toList

theorem legible_notice : notice.Legible := by
  refine .of_apart ?_ ?_ ?_ ?_ ?_
  · simp [notice, Part.Apart]
  · simp [notice, openMark, List.infix_cons_iff]
  · simp [notice, List.infix_cons_iff, List.cons_prefix_cons]
  · simp [notice, closeMark, List.infix_cons_iff]
  · simp [notice, closeMark, List.infix_cons_iff]

theorem substitute_written_notice :
    let vars : Variables := (Dict.empty.insert "a" "\x7b\x7bb\x7d\x7d").insert "b" "1"
    notice.Legible ∧
      String.ofList notice.written =
        "\x7b\x7b a \x7d\x7d\x7b\x7bb\x7d\x7d\x7d \x7bx\x7b\x7bc\x7d\x7d\x7b\x7ba\x7d" ∧
      vars.substitute (String.ofList notice.written) =
        "\x7b\x7bb\x7d\x7d1\x7d \x7bx\x7b\x7bc\x7d\x7d\x7b\x7ba\x7d" := by
  intro vars
  refine ⟨legible_notice, by decide, ?_⟩
  rw [substitute_written vars notice legible_notice]
  decide

end Template

end DeviceFlow
