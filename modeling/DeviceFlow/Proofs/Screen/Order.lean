import DeviceFlow.Screen.Basic

/-!
# Document order

An element of a screen stands at a position: one of the outermost elements to begin with, then one
of those inside it, and so on. Positions are compared like words in a dictionary. So an element
comes before all that are inside it, and with all of these before the elements that follow it on its
level. A search goes through the elements in this order.
-/

namespace DeviceFlow

/-- The element of a forest that is reached by choosing one of the outermost elements, then one of
    those inside it, and so on. -/
def elementAt? : List ScreenNode → List Nat → Option Element
  | _, [] => none
  | nodes, [i] => nodes[i]?.map ScreenNode.element
  | nodes, i :: j :: position => nodes[i]?.bind fun node => elementAt? node.children (j :: position)

/-- What a search in a forest has to find: the first element that has a property, or none when no
    element has it. -/
def FirstIn (nodes : List ScreenNode) (P : Element → Prop) : Option Element → Prop
  | some e => ∃ position, elementAt? nodes position = some e ∧ P e ∧
      ∀ earlier < position, ∀ other, elementAt? nodes earlier = some other → ¬ P other
  | none => ∀ position e, elementAt? nodes position = some e → ¬ P e

variable {node : ScreenNode} {nodes rest : List ScreenNode} {position : List Nat} {e : Element}

@[simp] theorem elementAt?_nil_left : elementAt? [] position = none := by
  match position with
  | [] | [_] | _ :: _ :: _ => rfl

@[simp] theorem elementAt?_nil_right : elementAt? nodes [] = none := rfl

theorem elementAt?_zero (hposition : position ≠ []) :
    elementAt? (node :: rest) (0 :: position) = elementAt? node.children position := by
  match position with
  | [] => exact absurd rfl hposition
  | _ :: _ => rfl

theorem elementAt?_succ (i : Nat) :
    elementAt? (node :: rest) ((i + 1) :: position) = elementAt? rest (i :: position) := by
  match position with
  | [] | _ :: _ => rfl

/-- An element of a forest is the first one, or is inside it, or belongs to the rest. -/
theorem elementAt?_cons_eq_some_iff :
    elementAt? (node :: rest) position = some e ↔
      (position = [0] ∧ node.element = e) ∨
      (∃ inner, position = 0 :: inner ∧ elementAt? node.children inner = some e) ∨
      ∃ i inner, position = (i + 1) :: inner ∧ elementAt? rest (i :: inner) = some e := by
  match position with
  | [] => simp
  | [0] => simp [elementAt?]
  | 0 :: j :: inner => simp [elementAt?_zero]
  | (i + 1) :: inner =>
    rw [elementAt?_succ]
    constructor
    · intro h
      exact .inr (.inr ⟨i, inner, rfl, h⟩)
    · rintro (⟨hposition, -⟩ | ⟨_, hposition, -⟩ | ⟨_, _, hposition, h⟩)
      · cases hposition
      · cases hposition
      · cases hposition
        exact h

variable {P : Element → Prop} {found : Option Element}

/-- There is only one first element. -/
theorem FirstIn.unique {e' : Element} (h : FirstIn nodes P (some e))
    (h' : FirstIn nodes P (some e')) : e' = e := by
  obtain ⟨position, hposition, he, hbefore⟩ := h
  obtain ⟨position', hposition', he', hbefore'⟩ := h'
  have hle : ¬ position' < position := fun hlt => hbefore _ hlt _ hposition' he'
  have hge : ¬ position < position' := fun hlt => hbefore' _ hlt _ hposition he
  obtain rfl := List.le_antisymm hge hle
  exact Option.some.inj (hposition'.symm.trans hposition)

/-- The outermost element that comes first precedes all others. -/
theorem FirstIn.here (h : P node.element) : FirstIn (node :: rest) P (some node.element) := by
  refine ⟨[0], rfl, h, fun earlier hearlier other hother => ?_⟩
  match earlier with
  | [] => cases hother
  | i :: inner => simp [List.cons_lt_cons_iff] at hearlier

/-- The elements inside another one come before those that follow it. -/
theorem FirstIn.inside (houter : ¬ P node.element) (h : FirstIn node.children P (some e)) :
    FirstIn (node :: rest) P (some e) := by
  obtain ⟨position, hposition, he, hbefore⟩ := h
  refine ⟨0 :: position, elementAt?_cons_eq_some_iff.mpr (.inr (.inl ⟨_, rfl, hposition⟩)), he, ?_⟩
  intro earlier hearlier other hother
  rcases elementAt?_cons_eq_some_iff.mp hother with ⟨-, rfl⟩ | ⟨inner, rfl, hinner⟩ |
    ⟨i, inner, rfl, -⟩
  · exact houter
  · have hless : inner < position := by simpa [List.cons_lt_cons_iff] using hearlier
    exact hbefore inner hless other hinner
  · simp [List.cons_lt_cons_iff] at hearlier

/-- The search goes on behind an element when neither it nor any element inside it will do. -/
theorem FirstIn.beside (houter : ¬ P node.element) (hinside : FirstIn node.children P none)
    (h : FirstIn rest P found) : FirstIn (node :: rest) P found := by
  cases found with
  | some e =>
    obtain ⟨position, hposition, he, hbefore⟩ := h
    obtain ⟨i, position, rfl⟩ : ∃ i rest, position = i :: rest := by
      cases position with
      | nil => cases hposition
      | cons i position => exact ⟨i, position, rfl⟩
    refine ⟨(i + 1) :: position,
      elementAt?_cons_eq_some_iff.mpr (.inr (.inr ⟨_, _, rfl, hposition⟩)), he, ?_⟩
    intro earlier hearlier other hother
    rcases elementAt?_cons_eq_some_iff.mp hother with ⟨-, rfl⟩ | ⟨inner, rfl, hinner⟩ |
      ⟨j, inner, rfl, hnext⟩
    · exact houter
    · exact hinside inner other hinner
    · have hless : j :: inner < i :: position := by
        simpa [List.cons_lt_cons_iff] using hearlier
      exact hbefore _ hless other hnext
  | none =>
    intro position other hother
    rcases elementAt?_cons_eq_some_iff.mp hother with ⟨-, rfl⟩ | ⟨inner, rfl, hinner⟩ |
      ⟨j, inner, rfl, hnext⟩
    · exact houter
    · exact hinside inner other hinner
    · exact h _ other hnext

/-- The search for an element finds the first one in document order. -/
theorem firstIn_find? (p : Element → Bool) :
    ∀ nodes, FirstIn nodes (p · = true) ((elementsOf nodes).find? p)
  | [] => by simp [elementsOf, FirstIn]
  | ⟨element, children⟩ :: rest => by
    have hchildren := firstIn_find? p children
    have hrest := firstIn_find? p rest
    rw [elementsOf, ScreenNode.elements, List.cons_append, List.find?_cons]
    cases hp : p element with
    | true =>
      refine FirstIn.here ?_
      exact hp
    | false =>
      have houter : ¬ p element = true := by simp [hp]
      rw [List.find?_append]
      cases hfound : (elementsOf children).find? p with
      | some e =>
        rw [hfound] at hchildren
        refine FirstIn.inside ?_ hchildren
        exact houter
      | none =>
        rw [hfound] at hchildren
        refine FirstIn.beside ?_ hchildren hrest
        exact houter

end DeviceFlow
