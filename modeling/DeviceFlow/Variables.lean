import DeviceFlow.Dict
import DeviceFlow.Text.Blank
import DeviceFlow.Text.Search

/-!
# Variables of a run

Named texts that the steps of a run read and write, and the substitution of placeholders: a
name between double braces stands for the value of that name. Substitution reads the text
once from left to right and does not look into the values it puts in.
-/

namespace DeviceFlow

/-- The named texts of a run. -/
abbrev Variables := Dict String String

namespace Variables

/-- Adds the defaults of a workflow; a name that has a value keeps it. -/
def seed (vars : Variables) (defaults : Variables) : Variables :=
  defaults.entries.foldl (fun vs e => vs.insertNew e.1 e.2) vars

/-- The mark that opens a placeholder. -/
def openMark : List Char := ['\x7b', '\x7b']

/-- The mark that closes a placeholder. -/
def closeMark : List Char := ['\x7d', '\x7d']

/-- What a placeholder stands for: the value of the name between the braces, blanks around it
    ignored, or the placeholder as it is written when no variable has the name. -/
def placeholder (vars : Variables) (body : List Char) : List Char :=
  match vars.get? (String.ofList (Text.trim body)) with
  | some value => value.toList
  | none => openMark ++ body ++ closeMark

/-- Replaces the placeholders of a text. A placeholder reaches from the first opening mark to
    the first closing mark after it; an opening mark that is never closed is plain text. -/
def expand (vars : Variables) (text : List Char) : List Char :=
  match _h : Text.cut? openMark text with
  | none => text
  | some (literal, rest) =>
    match _h' : Text.cut? closeMark rest with
    | none => text
    | some (body, rest') => literal ++ placeholder vars body ++ expand vars rest'
termination_by text.length
decreasing_by
  have h := Text.length_of_cut?_eq_some _h
  have h' := Text.length_of_cut?_eq_some _h'
  simp only [openMark, closeMark, List.length_cons, List.length_nil] at h h'
  omega

/-- A text with its placeholders replaced by the values of the variables. -/
def substitute (vars : Variables) (text : String) : String :=
  String.ofList (expand vars text.toList)

end Variables

end DeviceFlow
