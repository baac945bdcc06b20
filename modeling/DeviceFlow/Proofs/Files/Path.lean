import DeviceFlow.Files.Path

/-!
# Paths of names in a directory

The path of a name below a root, when the name has no slash in it: it has the parts of the root
and one more, whether or not the root ends with a slash.
-/

namespace DeviceFlow.Files

theorem not_mem_of_mem_splitOn {c : Char} {cs piece : List Char} (h : piece ∈ cs.splitOn c) :
    c ∉ piece := by
  induction cs generalizing piece with
  | nil =>
    obtain rfl : piece = [] := by simpa using h
    simp
  | cons x xs ih =>
    rw [List.splitOn_cons_eq_if_modifyHead] at h
    obtain ⟨first, others, hsplit⟩ := List.exists_cons_of_ne_nil (List.splitOn_ne_nil c xs)
    rw [hsplit] at h ih
    split at h
    · rcases List.mem_cons.mp h with rfl | h
      · simp
      · exact ih h
    · rename_i hx
      rw [List.modifyHead_cons] at h
      rcases List.mem_cons.mp h with rfl | h
      · have hfirst : c ∉ first := ih List.mem_cons_self
        have hne : c ≠ x := fun heq => hx (by simp [heq])
        simp [hfirst, hne]
      · exact ih (List.mem_cons_of_mem first h)

/-- A text without a slash. -/
def NoSlash (name : String) : Prop := '/' ∉ name.toList

theorem parts_of_noSlash {name : String} (h : NoSlash name) : parts name = [name] := by
  unfold parts
  rw [List.splitOn_eq_singleton h]
  simp

theorem parts_append_slash (a b : String) : parts (a ++ "/" ++ b) = parts a ++ parts b := by
  have hlist : (a ++ "/" ++ b).toList = a.toList ++ '/' :: b.toList := by simp
  unfold parts
  rw [hlist, List.splitOn_append_cons_self, List.map_append]

theorem parts_slash (path : String) : parts (path ++ "/") = parts path ++ [""] := by
  have h := parts_append_slash path ""
  rwa [String.append_empty] at h

theorem noSlash_of_mem_parts {name path : String} (h : name ∈ parts path) : NoSlash name := by
  obtain ⟨cs, hcs, rfl⟩ := List.mem_map.mp h
  unfold NoSlash
  rw [String.toList_ofList]
  exact not_mem_of_mem_splitOn hcs

/-- The slash that stands between a root and a name. -/
def separator (root : String) : String := if root.toList.getLast? = some '/' then "" else "/"

/-- The parts of a root, without the empty one after a slash at the end. -/
def rootParts (root : String) : List String :=
  if root.toList.getLast? = some '/' then (parts root).dropLast else parts root

theorem join_eq {root name : String} (hroot : root ≠ "") (hname : NoSlash name) :
    join root name = root ++ separator root ++ name := by
  have hrelative : isAbsolute name = false := by
    unfold isAbsolute
    rw [decide_eq_false_iff_not]
    intro h
    exact hname (List.mem_of_head? h)
  have hnonempty : root.isEmpty = false := by simpa using hroot
  unfold join separator
  rw [hrelative, hnonempty]
  by_cases hlast : root.toList.getLast? = some '/'
  · simp [hlast]
  · simp [hlast]

/-- A root that ends with a slash is the root before the slash with a slash. -/
theorem exists_eq_append_slash {root : String} (h : root.toList.getLast? = some '/') :
    ∃ r, root = r ++ "/" := by
  obtain ⟨cs, hcs⟩ := List.getLast?_eq_some_iff.mp h
  refine ⟨String.ofList cs, ?_⟩
  rw [← String.toList_inj, hcs]
  simp

theorem parts_join {root name : String} (hroot : root ≠ "") (hname : NoSlash name) :
    parts (join root name) = rootParts root ++ [name] := by
  rw [join_eq hroot hname]
  unfold separator rootParts
  by_cases hlast : root.toList.getLast? = some '/'
  · obtain ⟨r, rfl⟩ := exists_eq_append_slash hlast
    rw [if_pos hlast, if_pos hlast, parts_slash, List.dropLast_concat, String.append_empty,
      parts_append_slash, parts_of_noSlash hname]
  · rw [if_neg hlast, if_neg hlast, parts_append_slash, parts_of_noSlash hname]

/-- The root itself has one part more than its parts before a name only if it ends with a
    slash. -/
theorem parts_eq_rootParts (root : String) :
    parts root = rootParts root ∨ parts root = rootParts root ++ [""] := by
  unfold rootParts
  by_cases hlast : root.toList.getLast? = some '/'
  · obtain ⟨r, rfl⟩ := exists_eq_append_slash hlast
    rw [if_pos hlast, parts_slash, List.dropLast_concat]
    exact .inr rfl
  · rw [if_neg hlast]
    exact .inl rfl

/-- What stands after the last mark of a text, in reverse. -/
theorem exists_dropWhile_eq {c x : Char} {cs before : List Char}
    (h : cs.dropWhile (· ≠ c) = x :: before) :
    cs = cs.takeWhile (· ≠ c) ++ c :: before := by
  have hx : x = c := by
    have hhead := List.head?_dropWhile_not (p := (· ≠ c)) cs
    rw [h] at hhead
    simpa using hhead
  calc cs = cs.takeWhile (· ≠ c) ++ cs.dropWhile (· ≠ c) := List.takeWhile_append_dropWhile.symm
    _ = cs.takeWhile (· ≠ c) ++ c :: before := by rw [h, hx]

/-- A name with an extension is its stem and its extension around a dot. -/
theorem splitName_eq_some_iff {name stem ext : String} :
    splitName name = (stem, some ext) ↔
      name = stem ++ "." ++ ext ∧ stem ≠ "" ∧ '.' ∉ ext.toList := by
  unfold splitName
  dsimp only
  constructor
  · intro h
    split at h
    · simp at h
    · simp at h
    · rename_i x before hnot hdrop
      obtain ⟨rfl, rfl⟩ : String.ofList before.reverse = stem ∧
          String.ofList (name.toList.reverse.takeWhile (· ≠ '.')).reverse = ext := by
        simpa using h
      refine ⟨?_, ?_, ?_⟩
      · rw [← String.toList_inj]
        have hname := congrArg List.reverse (exists_dropWhile_eq hdrop)
        rw [List.reverse_reverse] at hname
        simpa using hname
      · intro hempty
        have hnil : before = [] := by simpa using congrArg String.toList hempty
        exact hnot hnil
      · rw [String.toList_ofList, List.mem_reverse]
        intro hmem
        have hall := List.all_eq_true.mp (List.all_takeWhile (p := (· ≠ '.'))) _ hmem
        simp at hall
  · rintro ⟨rfl, hstem, hext⟩
    have hrev : (stem ++ "." ++ ext).toList.reverse =
        ext.toList.reverse ++ '.' :: stem.toList.reverse := by simp
    have hpos : ∀ c ∈ ext.toList.reverse, decide (c ≠ '.') = true := by
      intro c hc
      rw [decide_eq_true_iff]
      rintro rfl
      exact hext (List.mem_reverse.mp hc)
    rw [hrev, List.dropWhile_append_of_pos hpos, List.takeWhile_append_of_pos hpos]
    cases hs : stem.toList.reverse with
    | nil =>
      have hnil : stem = "" := by simpa using hs
      exact absurd hnil hstem
    | cons c cs =>
      have hback : String.ofList (c :: cs).reverse = stem := by
        rw [← hs, List.reverse_reverse, String.ofList_toList]
      refine Prod.ext hback ?_
      simp

end DeviceFlow.Files
