import DeviceFlow.Proofs.Wiring.Edge

/-!
# What a step writes

A step that calls no workflow gives a value to one variable at most, and only when it succeeds:
it sets it, reads the screen into it, or keeps the output of a command in it. The defaults of a
workflow only come to where no variable has the name.
-/

namespace DeviceFlow

namespace Dict

variable {κ α : Type} [DecidableEq κ]

theorem contains_insert (d : Dict κ α) (name key : κ) (value : α) :
    (d.insert name value).contains key = (decide (name = key) || d.contains key) := by
  unfold contains
  rw [get?_insert]
  by_cases h : name = key
  · simp [h]
  · simp [h]

theorem get?_insertNew (d : Dict κ α) (name key : κ) (value : α) :
    (d.insertNew name value).get? key =
      (d.get? key).or (if name = key then some value else none) := by
  unfold insertNew contains
  by_cases hkey : name = key
  · subst hkey
    cases h : d.get? name with
    | none => simp [get?_insert]
    | some old => simp [h]
  · cases h : d.get? name with
    | none => simp [get?_insert, hkey]
    | some old => simp [hkey]

end Dict

namespace Variables

/-- A default is the value of a variable that has none. -/
theorem get?_seed (vars defaults : Variables) (name : String) :
    (vars.seed defaults).get? name = (vars.get? name).or (defaults.get? name) := by
  have hlookup : ∀ (es : List (String × String)) (vs : Variables),
      (es.foldl (fun vs e => vs.insertNew e.1 e.2) vs).get? name =
        (vs.get? name).or (Dict.lookup name es) := by
    intro es
    induction es with
    | nil => simp [Dict.lookup]
    | cons e es ih =>
      intro vs
      rw [List.foldl_cons, ih, Dict.get?_insertNew, Dict.lookup, Option.or_assoc]
      by_cases h : e.1 = name
      · simp [h]
      · simp [h]
  exact hlookup defaults.entries vars

/-- Some variables have become others by a write to one name, or by none at all. -/
def Written (vars : Variables) (name? : Option String) (vars' : Variables) : Prop :=
  match name? with
  | none => vars' = vars
  | some name => ∃ value, vars' = vars.insert name value

variable {vars vars' : Variables} {name? : Option String} {name : String}

theorem Written.get?_eq (h : vars.Written name? vars') (hname : name? ≠ some name) :
    vars'.get? name = vars.get? name := by
  unfold Written at h
  cases name? with
  | none =>
    dsimp only at h
    rw [h]
  | some other =>
    obtain ⟨value, rfl⟩ := h
    rw [Dict.get?_insert, if_neg fun heq => hname (congrArg some heq)]

/-- A write takes no variable away. -/
theorem Written.contains (h : vars.Written name? vars') (hname : vars.contains name = true) :
    vars'.contains name = true := by
  unfold Written at h
  cases name? with
  | none =>
    dsimp only at h
    rwa [h]
  | some other =>
    obtain ⟨value, rfl⟩ := h
    rw [Dict.contains_insert, hname, Bool.or_true]

theorem contains_seed (defaults : Variables) (hname : vars.contains name = true) :
    (vars.seed defaults).contains name = true := by
  unfold Dict.contains at hname ⊢
  rw [get?_seed]
  cases h : vars.get? name with
  | none => simp [h] at hname
  | some value => rfl

end Variables

/-- The name to which a step of some kind writes when it succeeds. -/
def StepKind.written? : StepKind → Option String
  | .setVariable name _ => name
  | .readToVariable name _ _ => name
  | .shell _ saveTo => wired saveTo
  | _ => none

open Attempt

/-- A step that calls no workflow writes to its name and to no other. -/
theorem Step.writes_perform (rig : Rig) (s : Step) (vars : Variables) :
    (s.perform rig vars).Leaves fun effect => vars.Written s.kind.written? effect.2 := by
  unfold Step.perform
  cases s.kind with
  | start => exact keeps_pure.mpr rfl
  | tap x y =>
    dsimp only [performTap]
    split
    · exact .after fun _ => keeps_pure.mpr rfl
    · exact leaves_throw
  | swipe x1 y1 x2 y2 durationMs =>
    dsimp only [performSwipe]
    split
    · exact .after fun _ => keeps_pure.mpr rfl
    · exact leaves_throw
  | element action selector text direction =>
    dsimp only [performElement]
    split
    · exact .after fun _ => .after fun _ => .after fun _ => keeps_pure.mpr rfl
    · exact leaves_throw
  | app action package =>
    dsimp only [performApp]
    split
    · exact .after fun _ => keeps_pure.mpr rfl
    · exact leaves_throw
  | branch condition selector variableName expectedValue =>
    exact .after fun _ => keeps_pure.mpr rfl
  | wait durationMs => exact .after fun _ => .after fun _ => keeps_pure.mpr rfl
  | script name => exact .after fun _ => .after fun _ => .after fun _ => keeps_pure.mpr rfl
  | setVariable name value =>
    dsimp only [performSet]
    cases name with
    | none => exact leaves_throw
    | some name =>
      refine keeps_bind.mpr (keeps_pure.mpr ?_)
      exact Leaves.after fun _ => .after fun _ => keeps_pure.mpr ⟨_, rfl⟩
  | readToVariable name selector what =>
    dsimp only [performRead]
    split
    · refine .after fun _ => .after fun deadline => .after fun element => ?_
      exact .after fun _ => keeps_pure.mpr ⟨_, rfl⟩
    · exact leaves_throw
  | shell command saveTo =>
    refine .after fun _ => .after fun output => keeps_pure.mpr ?_
    show vars.Written (wired saveTo) _
    cases wired saveTo with
    | none => rfl
    | some name => exact ⟨_, rfl⟩
  | keyEvent keyCode => exact .after fun _ => .after fun _ => keeps_pure.mpr rfl
  | subWorkflow id => exact .after fun _ => leaves_throw
  | unsupported => exact .after fun _ => leaves_throw

end DeviceFlow
