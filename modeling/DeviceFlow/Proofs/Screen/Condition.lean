import DeviceFlow.Proofs.Screen.Path
import DeviceFlow.Proofs.Touch.Attempt
import DeviceFlow.Proofs.Trace.Perform

/-!
# What branch conditions mean

A condition on an element asks about the first element of the screen, in document order, that fits
its selector: whether there is one, and what its text is or contains. For that the screen is looked
at once. The comparison of a variable with a text does without the screen. Placeholders in the value
of the selector and in the expected text are replaced before, and blanks around the name of a
condition do not count.
-/

namespace DeviceFlow

/-- In an exchange the screen is shown as it is, if it is looked at. -/
def Exchange.Shows (s : Screen) : Exchange → Prop
  | ⟨.look, (answer : Except DeviceError Screen)⟩ => answer = .ok s
  | _ => True

/-- An element is the first one of a screen that fits a selector with its placeholders replaced. -/
def Screen.FirstFor (s : Screen) (vars : Variables) (selector : Selector) (e : Element) : Prop :=
  FirstIn s.nodes (selector.substitute vars).Fits (some e)

namespace BranchParameters

/-- The condition can be evaluated to true while the screen is shown. -/
def HoldsOn (p : BranchParameters) (rig : Rig) (vars : Variables) (s : Screen) : Prop :=
  ∃ t, (p.evaluate rig vars).run.Ends t (.ok true) ∧ ∀ x ∈ t, x.Shows s

/-- Whenever the screen is shown, the condition is evaluated with just these requests, and its value
    tells whether something is the case. -/
structure Answers (p : BranchParameters) (rig : Rig) (vars : Variables) (s : Screen)
    (requests : List Request) (P : Prop) : Prop where
  /-- There is such an evaluation. -/
  ends : ∃ t r, (p.evaluate rig vars).run.Ends t r ∧ ∀ x ∈ t, x.Shows s
  /-- All of them come to the same. -/
  value : ∀ t r, (p.evaluate rig vars).run.Ends t r → (∀ x ∈ t, x.Shows s) →
    touched t = requests ∧ ∃ value : Bool, r = .ok value ∧ (value = true ↔ P)

end BranchParameters

/-- The parameters of a branch step on an element. -/
def BranchParameters.onElement (condition : String) (selector : Selector)
    (name expected : Option String) : BranchParameters :=
  ⟨some condition, some selector, name, expected⟩

open BranchParameters in
/-- Branch conditions mean on a screen what their names say. -/
structure BranchesAsNamed (rig : Rig) (vars : Variables) (s : Screen) : Prop where
  /-- There is a first element for the selector. -/
  present : ∀ selector name expected,
    (onElement "exists" selector name expected).Answers rig vars s [.look]
      (∃ e, s.FirstFor vars selector e)
  /-- There is none. -/
  absent : ∀ selector name expected,
    (onElement "not_exists" selector name expected).Answers rig vars s [.look]
      (¬ ∃ e, s.FirstFor vars selector e)
  /-- There is one, and its text is the expected one. -/
  equal : ∀ selector name expected,
    (onElement "text_equals" selector name (some expected)).Answers rig vars s [.look]
      (∃ e, s.FirstFor vars selector e ∧ e.text = vars.substitute expected)
  /-- There is one, and its text contains the expected one. -/
  containing : ∀ selector name expected,
    (onElement "text_contains" selector name (some expected)).Answers rig vars s [.look]
      (∃ e, s.FirstFor vars selector e ∧ (vars.substitute expected).toList <:+: e.text.toList)
  /-- A text contains itself. -/
  containing_of_equal : ∀ selector name expected,
    (onElement "text_equals" selector name (some expected)).HoldsOn rig vars s →
      (onElement "text_contains" selector name (some expected)).HoldsOn rig vars s
  /-- An element with a text is there. -/
  present_of_containing : ∀ selector name expected,
    (onElement "text_contains" selector name (some expected)).HoldsOn rig vars s →
      (onElement "exists" selector name (some expected)).HoldsOn rig vars s
  /-- A variable has the expected value, where a value that is missing on either side is empty.
      This needs no screen. -/
  variableEqual : ∀ (rig : Rig) selector name expected,
    (⟨some "variable_equals", selector, some name, expected⟩ : BranchParameters).Answers rig vars s
      [] ((vars.get? name).getD "" = (expected.map vars.substitute).getD "")
  /-- Blanks around the name of a condition make no difference. -/
  padded : ∀ (rig : Rig) (p : BranchParameters) (before name after : List Char),
    (∀ c ∈ before, Text.isBlank c = true) → (∀ c ∈ after, Text.isBlank c = true) →
    { p with condition := some (String.ofList (before ++ name ++ after)) }.evaluate rig vars =
      { p with condition := some (String.ofList name) }.evaluate rig vars

namespace Attempt

variable {β : Type} {t : List Exchange} {r : Except StepError β}

theorem ends_log_bind {record : LogRecord} {f : Unit → Attempt β} :
    (Attempt.log record >>= f).run.Ends t r ↔
      ∃ u, t = ⟨.log record, ()⟩ :: u ∧ (f ()).run.Ends u r := by
  refine Plan.ends_ask.trans ?_
  constructor
  · rintro ⟨answer, u, rfl, h⟩
    exact ⟨u, rfl, h⟩
  · rintro ⟨u, rfl, h⟩
    exact ⟨(), u, rfl, h⟩

end Attempt

namespace BranchParameters

open Attempt

variable {p : BranchParameters} {rig : Rig} {vars : Variables} {s : Screen} {P Q : Prop}
  {requests : List Request}

theorem Answers.congr (h : p.Answers rig vars s requests P) (hPQ : P ↔ Q) :
    p.Answers rig vars s requests Q := by
  refine ⟨h.ends, fun t r hends hshows => ?_⟩
  obtain ⟨htouched, value, hvalue, hP⟩ := h.value t r hends hshows
  exact ⟨htouched, value, hvalue, hP.trans hPQ⟩

theorem Answers.holdsOn_iff (h : p.Answers rig vars s requests P) : p.HoldsOn rig vars s ↔ P := by
  constructor
  · rintro ⟨t, hends, hshows⟩
    obtain ⟨-, value, hvalue, hP⟩ := h.value t _ hends hshows
    cases hvalue
    exact hP.mp rfl
  · intro hP
    obtain ⟨t, r, hends, hshows⟩ := h.ends
    obtain ⟨-, value, rfl, hvalue⟩ := h.value t r hends hshows
    rw [hvalue.mpr hP] at hends
    exact ⟨t, hends, hshows⟩

/-- The request that shows the screen comes first, unless a parameter is missing. -/
theorem askScreen_eq {c : Condition} {condition name : Option String} {selector : Selector}
    {expected : Option String} (hscreen : rig.hasScreen = true)
    (hexpected : c.comparesText = true → expected.isSome = true) :
    (⟨condition, some selector, name, expected⟩ : BranchParameters).askScreen rig c vars = do
      let found := (← Attempt.look).find? (selector.substitute vars)
      Attempt.log (.debug .condition
        s!"{c.label} {(selector.substitute vars).text}: found={found.isSome}")
      return c.holds found ((expected.map vars.substitute).getD "") := by
  unfold askScreen
  rw [hscreen]
  cases expected with
  | some text => cases c <;> rfl
  | none =>
    cases c with
    | textEquals | textContains => cases hexpected rfl
    | _ => rfl

/-- A condition on an element is evaluated by one look at the screen. -/
theorem answers_onElement (c : Condition) {condition : String} {selector : Selector}
    {name expected : Option String} (hcondition : Condition.ofText? condition = some c)
    (hscreen : rig.hasScreen = true) (hkind : c ≠ .variableEquals)
    (hexpected : c.comparesText = true → expected.isSome = true) :
    (onElement condition selector name expected).Answers rig vars s [.look]
      (c.holds (s.find? (selector.substitute vars)) ((expected.map vars.substitute).getD "") =
        true) := by
  have heq : (onElement condition selector name expected).evaluate rig vars =
      (onElement condition selector name expected).askScreen rig c vars := by
    rw [evaluate_eq, onElement]
    dsimp only
    rw [hcondition]
    cases c with
    | variableEquals => exact absurd rfl hkind
    | _ => rfl
  rw [onElement, askScreen_eq hscreen hexpected, ← onElement] at heq
  constructor
  · rw [heq]
    exact ⟨[⟨.look, .ok s⟩, ⟨.log _, ()⟩], _,
      .step (q := .look) (.ok s) <| .step (q := .log _) () <| .here _, by simp [Exchange.Shows]⟩
  · intro t r hends hshows
    rw [heq] at hends
    rcases ends_look_bind.mp hends with ⟨e, rfl, rfl⟩ | ⟨screen, u, rfl, hrest⟩
    · have hshown : (Except.error e : Except DeviceError Screen) = .ok s :=
        hshows _ List.mem_cons_self
      cases hshown
    · have hshown : (Except.ok screen : Except DeviceError Screen) = .ok s :=
        hshows _ List.mem_cons_self
      cases hshown
      obtain ⟨v, rfl, hdone⟩ := ends_log_bind.mp hrest
      obtain ⟨rfl, rfl⟩ := ends_pure.mp hdone
      exact ⟨rfl, _, rfl, Iff.rfl⟩

/-- The comparison of a variable asks for nothing, whatever there is to ask. -/
theorem answers_variableEquals (rig : Rig) (selector : Option Selector) (name : String)
    (expected : Option String) :
    (⟨some "variable_equals", selector, some name, expected⟩ : BranchParameters).Answers rig vars s
      [] ((vars.get? name).getD "" = (expected.map vars.substitute).getD "") := by
  have heq : (⟨some "variable_equals", selector, some name, expected⟩ : BranchParameters).evaluate
      rig vars = do
        let actual := (vars.get? name).getD ""
        let value := (expected.map vars.substitute).getD ""
        Attempt.log (.debug .condition s!"variable_equals: {name}='{actual}' vs '{value}'")
        return actual = value := by
    rw [evaluate_eq]
    rfl
  constructor
  · rw [heq]
    exact ⟨[⟨.log _, ()⟩], _, .step (q := .log _) () <| .here _, by simp [Exchange.Shows]⟩
  · intro t r hends _
    rw [heq] at hends
    obtain ⟨u, rfl, hdone⟩ := ends_log_bind.mp hends
    obtain ⟨rfl, rfl⟩ := ends_pure.mp hdone
    exact ⟨rfl, _, rfl, decide_eq_true_iff⟩

theorem evaluate_padded (rig : Rig) (p : BranchParameters) {before name after : List Char}
    (hbefore : ∀ c ∈ before, Text.isBlank c = true)
    (hafter : ∀ c ∈ after, Text.isBlank c = true) :
    { p with condition := some (String.ofList (before ++ name ++ after)) }.evaluate rig vars =
      { p with condition := some (String.ofList name) }.evaluate rig vars := by
  have htrimmed : Text.trimmed (String.ofList (before ++ name ++ after)) =
      Text.trimmed (String.ofList name) := by
    unfold Text.trimmed
    rw [String.toList_ofList, String.toList_ofList, Text.trim_pad hbefore hafter]
  rw [evaluate_eq, evaluate_eq]
  simp only [Condition.ofText?, htrimmed]
  rfl

end BranchParameters

namespace Screen

open BranchParameters

variable {s : Screen} {vars : Variables} {selector : Selector} {e : Element} {text : String}

/-- The search finds the first element for the selector. -/
theorem firstFor_iff :
    s.FirstFor vars selector e ↔ s.find? (selector.substitute vars) = some e := by
  have hfound := firstIn_find?_selector (s := s) (selector.substitute vars)
  constructor
  · intro h
    cases hfind : s.find? (selector.substitute vars) with
    | some e' =>
      rw [hfind] at hfound
      exact congrArg some (h.unique hfound)
    | none =>
      rw [hfind] at hfound
      obtain ⟨position, hposition, hfits, -⟩ := h
      exact absurd hfits (hfound position e hposition)
  · intro h
    rw [h] at hfound
    exact hfound

theorem holds_exists_iff {expected : String} :
    Condition.exists.holds (s.find? (selector.substitute vars)) expected = true ↔
      ∃ e, s.FirstFor vars selector e := by
  simp only [Condition.holds, Option.isSome_iff_exists, firstFor_iff]

theorem holds_notExists_iff {expected : String} :
    Condition.notExists.holds (s.find? (selector.substitute vars)) expected = true ↔
      ¬ ∃ e, s.FirstFor vars selector e := by
  simp only [firstFor_iff]
  cases hfind : s.find? (selector.substitute vars) with
  | some e => simp [Condition.holds]
  | none => simp [Condition.holds]

theorem holds_textEquals_iff {expected : String} :
    Condition.textEquals.holds (s.find? (selector.substitute vars)) expected = true ↔
      ∃ e, s.FirstFor vars selector e ∧ e.text = expected := by
  simp only [firstFor_iff]
  cases hfind : s.find? (selector.substitute vars) with
  | some e => simp [Condition.holds]
  | none => simp [Condition.holds]

theorem holds_textContains_iff {expected : String} :
    Condition.textContains.holds (s.find? (selector.substitute vars)) expected = true ↔
      ∃ e, s.FirstFor vars selector e ∧ expected.toList <:+: e.text.toList := by
  simp only [firstFor_iff]
  cases hfind : s.find? (selector.substitute vars) with
  | some e => simp [Condition.holds, Text.contains_iff]
  | none => simp [Condition.holds]

/-- On every screen branch conditions mean what their names say. -/
theorem branches_as_named {rig : Rig} (hscreen : rig.hasScreen = true) (vars : Variables)
    (s : Screen) : BranchesAsNamed rig vars s := by
  have hpresent : ∀ selector name expected,
      (onElement "exists" selector name expected).Answers rig vars s [.look]
        (∃ e, s.FirstFor vars selector e) := fun selector name expected =>
    (answers_onElement .exists (by decide) hscreen nofun nofun).congr holds_exists_iff
  have hequal : ∀ selector name expected,
      (onElement "text_equals" selector name (some expected)).Answers rig vars s [.look]
        (∃ e, s.FirstFor vars selector e ∧ e.text = vars.substitute expected) :=
    fun selector name expected =>
      (answers_onElement .textEquals (by decide) hscreen nofun fun _ => rfl).congr
        holds_textEquals_iff
  have hcontaining : ∀ selector name expected,
      (onElement "text_contains" selector name (some expected)).Answers rig vars s [.look]
        (∃ e, s.FirstFor vars selector e ∧
          (vars.substitute expected).toList <:+: e.text.toList) := fun selector name expected =>
    (answers_onElement .textContains (by decide) hscreen nofun fun _ => rfl).congr
      holds_textContains_iff
  refine ⟨hpresent, fun selector name expected => ?_, hequal, hcontaining, ?_, ?_,
    fun rig => answers_variableEquals rig, fun rig p before name after => evaluate_padded rig p⟩
  · exact (answers_onElement .notExists (by decide) hscreen nofun nofun).congr holds_notExists_iff
  · intro selector name expected h
    obtain ⟨e, hfirst, htext⟩ := (hequal selector name expected).holdsOn_iff.mp h
    refine (hcontaining selector name expected).holdsOn_iff.mpr ⟨e, hfirst, ?_⟩
    rw [htext]
  · intro selector name expected h
    obtain ⟨e, hfirst, -⟩ := (hcontaining selector name expected).holdsOn_iff.mp h
    exact (hpresent selector name (some expected)).holdsOn_iff.mpr ⟨e, hfirst⟩

/-- A screen with a title, and the title of a workflow behind it, which a path and an id both ask
    for. The first of them does not contain what the second one says, and there is no button. -/
theorem branches_as_named_titles :
    let rig : Rig := ⟨.default, true, false, false⟩
    let vars : Variables := Dict.empty.insert "which" "title"
    let s : Screen := ⟨[⟨⟨"Order", "app:title", "", "Label", ""⟩, []⟩,
      ⟨⟨"Order confirmed", "app:title", "", "Label", ""⟩, []⟩]⟩
    let byId : Selector := ⟨.resourceId, "app:\x7b\x7bwhich\x7d\x7d"⟩
    let byPath : Selector := ⟨.xpath, " //Label[@resource-id = 'app:\x7b\x7bwhich\x7d\x7d' ] "⟩
    rig.hasScreen = true ∧
      (∀ selector ∈ [byId, byPath],
        (onElement "text_contains" selector none (some "rde")).HoldsOn rig vars s ∧
        (onElement "exists" selector none (some "rde")).HoldsOn rig vars s ∧
        ¬ (onElement "text_contains" selector none (some "confirmed")).HoldsOn rig vars s ∧
        ¬ (onElement "text_equals" selector none (some "Order confirmed")).HoldsOn rig vars s) ∧
      (onElement "not_exists" ⟨.xpath, "//Button"⟩ none none).HoldsOn rig vars s := by
  intro rig vars s byId byPath
  have hscreen : rig.hasScreen = true := rfl
  have hnamed := branches_as_named hscreen vars s
  refine ⟨hscreen, fun selector hselector => ?_, ?_⟩
  · have hfirst : ∀ e, s.FirstFor vars selector e ↔
        e = ⟨"Order", "app:title", "", "Label", ""⟩ := by
      intro e
      have hfound : s.find? (selector.substitute vars) =
          some ⟨"Order", "app:title", "", "Label", ""⟩ := by
        rcases List.mem_pair.mp hselector with rfl | rfl
        · decide +kernel
        · decide +kernel
      rw [firstFor_iff, hfound, Option.some.injEq, eq_comm]
    have hcontains := (hnamed.containing selector none "rde").holdsOn_iff.mpr
      ⟨_, (hfirst _).mpr rfl, by decide +kernel⟩
    refine ⟨hcontains, hnamed.present_of_containing _ _ _ hcontains, ?_, ?_⟩
    · rw [(hnamed.containing selector none "confirmed").holdsOn_iff]
      rintro ⟨e, he, htext⟩
      obtain rfl := (hfirst e).mp he
      revert htext
      decide +kernel
    · rw [(hnamed.equal selector none "Order confirmed").holdsOn_iff]
      rintro ⟨e, he, htext⟩
      obtain rfl := (hfirst e).mp he
      revert htext
      decide +kernel
  · rw [(hnamed.absent ⟨.xpath, "//Button"⟩ none none).holdsOn_iff]
    rintro ⟨e, he⟩
    have hnone : s.find? (Selector.substitute ⟨.xpath, "//Button"⟩ vars) = none := by decide +kernel
    rw [firstFor_iff, hnone] at he
    cases he

end Screen

end DeviceFlow
