import DeviceFlow.Proofs.Files.Tree

/-!
# Files that have been written

A path that ends with a name leads to the file that is written there, so the text of the file is
read back. A path that ends by going up, or with a slash, is a way to a directory.
-/

namespace DeviceFlow

namespace Files

/-- The last part of a path is empty only after a slash. -/
theorem eq_empty_or_slash_of_getLast?_parts {path : String}
    (h : (parts path).getLast? = some "") : path = "" ∨ path.toList.getLast? = some '/' := by
  by_cases hslash : '/' ∈ path.toList
  · obtain ⟨after, before, hpath, hafter⟩ :=
      List.eq_append_cons_of_mem (List.mem_reverse.mpr hslash)
    have hlist : path.toList = before.reverse ++ '/' :: after.reverse := by
      rw [← List.reverse_reverse path.toList, hpath]
      simp
    have hsplit : path = String.ofList before.reverse ++ "/" ++ String.ofList after.reverse := by
      rw [← String.toList_inj, hlist]
      simp
    have hname : NoSlash (String.ofList after.reverse) := by
      unfold NoSlash
      simpa using hafter
    rw [hsplit, parts_append_slash, parts_of_noSlash hname, List.getLast?_concat] at h
    have hnil : after = [] := by simpa using h
    right
    rw [hlist, hnil]
    simp
  · rw [parts_of_noSlash hslash] at h
    exact .inl (Option.some.inj h)

/-- What stands before the empty parts at the end of a path. -/
theorem exists_parts_eq (path : String) :
    ∃ empties, (∀ p ∈ empties, p = "") ∧
      parts path = ((parts path).reverse.dropWhile (· = "")).reverse ++ empties := by
  refine ⟨((parts path).reverse.takeWhile (· = "")).reverse, ?_, ?_⟩
  · intro p hp
    simpa using List.all_eq_true.mp List.all_takeWhile p (List.mem_reverse.mp hp)
  · rw [← List.reverse_append, List.takeWhile_append_dropWhile, List.reverse_reverse]

/-- A path that does not end with a slash has no empty parts at its end. -/
theorem eq_nil_of_noSlashAtEnd {path : String} {kept empties : List String}
    (hparts : parts path = kept ++ empties) (hempties : ∀ p ∈ empties, p = "")
    (hpath : path ≠ "") (hslash : path.toList.getLast? ≠ some '/') : empties = [] := by
  cases hlast : empties.getLast? with
  | none => exact List.getLast?_eq_none_iff.mp hlast
  | some last =>
    rw [hempties last (List.mem_of_getLast? hlast)] at hlast
    have hend : (parts path).getLast? = some "" := by
      rw [hparts, List.getLast?_append, hlast]
      rfl
    rcases eq_empty_or_slash_of_getLast?_parts hend with hempty | hends
    · exact absurd hempty hpath
    · exact absurd hends hslash

/-- The last name is that before the empty parts at the end. -/
theorem fileName?_eq {path : String} {kept empties : List String}
    (hparts : parts path = kept ++ empties) (hempties : ∀ p ∈ empties, p = "") :
    fileName? path =
      (kept.filter fun p => p ≠ "" ∧ p ≠ ".").getLast?.filter (· ≠ "..") := by
  have hnone : (empties.filter fun p => p ≠ "" ∧ p ≠ ".") = [] := by
    rw [List.filter_eq_nil_iff]
    intro p hp
    simp [hempties p hp]
  unfold fileName?
  rw [hparts, List.filter_append, hnone, List.append_nil]

end Files

namespace FileSystem

open Files

variable {fs fs' : FileSystem} {path : String} {place : Place}

/-- A file with a name is written at the place where it is read. -/
theorem locate_of_locateNew (h : fs.locateNew path = .ok place)
    (hdir : fs.entry? place ≠ some .directory) (hname : fileName? path ≠ none) :
    fs.locate path = .ok place := by
  obtain ⟨empties, hempties, hparts⟩ := exists_parts_eq path
  unfold locateNew at h
  obtain ⟨start, hstart, h⟩ := bind_eq_ok_iff.mp h
  obtain ⟨hfits, rfl⟩ := start_eq_ok_iff.mp hstart
  cases hreversed : (parts path).reverse.dropWhile (· = "") with
  | nil =>
    rw [hreversed] at hparts
    exact absurd (fileName?_eq hparts hempties) hname
  | cons name before =>
    rw [hreversed] at h hparts
    dsimp only at h
    obtain ⟨q, hq, h⟩ := bind_eq_ok_iff.mp h
    obtain ⟨q, hbefore, hidle⟩ := follow_append_eq_ok_iff.mp hq
    obtain ⟨hq, rfl⟩ := (follow_idle_eq_ok_iff (.inr rfl)).mp hidle
    by_cases hdot : name = "."
    · -- what is reached would be the directory itself
      simp only [hdot, ne_eq, not_true_eq_false, false_and, and_false, if_false] at h
      obtain ⟨hplace, rfl⟩ := (follow_idle_eq_ok_iff (.inr rfl)).mp h
      exact absurd hplace hdir
    · by_cases hdots : name = ".."
      · rw [fileName?_eq hparts hempties, hdots] at hname
        simp at hname
      · by_cases hslash : path.toList.getLast? = some '/'
        · simp [hslash, hdot, hdots] at h
          cases h
        · have hnone := eq_nil_of_noSlashAtEnd hparts hempties hfits.nonempty hslash
          simp only [hslash, false_and, if_false] at h
          rw [hnone, List.append_nil, List.reverse_cons] at hparts
          refine locate_eq_ok_iff.mpr ⟨hfits, ?_⟩
          rw [hparts]
          exact follow_append_eq_ok_iff.mpr ⟨q, hbefore, h⟩

/-- What has been written to a file is read from it. -/
theorem read_write {text : String} (h : fs.write path (.text text) = .ok fs')
    (hname : fileName? path ≠ none) : fs'.read path = .ok text := by
  obtain ⟨place, hnew, hdir, rfl⟩ := write_eq_ok_iff.mp h
  have hlocate := locate_of_locateNew hnew hdir hname
  have hnonempty : place ≠ [] := by
    rintro rfl
    exact hdir rfl
  rw [read_eq_ok_iff, open?_eq_ok_iff]
  refine ⟨place, (KeepsDirectories.put hdir).locate hlocate, ?_⟩
  rw [entry?_put hnonempty, if_pos rfl]

end FileSystem

end DeviceFlow
