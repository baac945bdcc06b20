/-!
# Searching a text

`cut?` finds the first occurrence of a mark and returns what stands before and after it.
Containment, splitting at a mark and the rest of the searches are read off it.
-/

namespace DeviceFlow.Text

/-- Cuts a text around the first occurrence of `mark`: the part before it and the part
    after it. -/
def cut? (mark : List Char) : List Char → Option (List Char × List Char)
  | [] => if mark.isEmpty then some ([], []) else none
  | c :: cs =>
    if mark.isPrefixOf (c :: cs) then some ([], (c :: cs).drop mark.length)
    else (cut? mark cs).map fun (before, after) => (c :: before, after)

/-- The part after the mark is shorter than the whole by the mark and what stands before. -/
theorem length_of_cut?_eq_some {mark text before after : List Char}
    (h : cut? mark text = some (before, after)) :
    before.length + mark.length + after.length = text.length := by
  induction text generalizing before with
  | nil =>
    cases mark with
    | nil => simp_all [cut?]
    | cons _ _ => simp [cut?] at h
  | cons c cs ih =>
    unfold cut? at h
    split at h
    · next hp =>
      have := (List.isPrefixOf_iff_prefix.1 hp).length_le
      simp only [Option.some.injEq, Prod.mk.injEq] at h
      obtain ⟨rfl, rfl⟩ := h
      simp only [List.length_nil, List.length_drop]
      omega
    · obtain ⟨⟨b, a⟩, hb, heq⟩ := Option.map_eq_some_iff.1 h
      simp only [Prod.mk.injEq] at heq
      obtain ⟨rfl, rfl⟩ := heq
      have := ih hb
      simp only [List.length_cons]
      omega

/-- Whether `part` occurs somewhere in `whole`. -/
def contains (whole part : String) : Bool :=
  (cut? part.toList whole.toList).isSome

/-- Splits a text at the first occurrence of a character. -/
def splitAt? (mark : Char) (s : String) : Option (String × String) :=
  (cut? [mark] s.toList).map fun (before, after) => (String.ofList before, String.ofList after)

/-- What follows the opening `mark`, when the text starts with it. -/
def afterStart? (mark : List Char) (cs : List Char) : Option (List Char) :=
  if mark.isPrefixOf cs then some (cs.drop mark.length) else none

/-- What precedes the closing `mark`, when the text ends with it. -/
def beforeEnd? (mark : List Char) (cs : List Char) : Option (List Char) :=
  if mark.isSuffixOf cs then some (cs.take (cs.length - mark.length)) else none

end DeviceFlow.Text
