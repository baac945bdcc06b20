import DeviceFlow.Proofs.Files.Tree

/-!
# Trees of names

The names in a tree have no slashes, whatever has been written and made in it.
-/

namespace DeviceFlow

namespace Files

/-- A list of names without slashes. -/
def Clean (names : List String) : Prop := ∀ name ∈ names, NoSlash name

variable {name : String} {names : List String}

theorem clean_nil : Clean [] := by simp [Clean]

theorem clean_cons : Clean (name :: names) ↔ NoSlash name ∧ Clean names := by
  simp [Clean]

theorem clean_append {others : List String} :
    Clean (names ++ others) ↔ Clean names ∧ Clean others := by
  simp only [Clean, List.mem_append, or_imp, forall_and]

theorem Clean.concat (h : Clean names) (hname : NoSlash name) : Clean (names ++ [name]) :=
  clean_append.mpr ⟨h, clean_cons.mpr ⟨hname, clean_nil⟩⟩

theorem Clean.dropLast (h : Clean names) : Clean names.dropLast :=
  fun name hname => h name (List.dropLast_subset names hname)

theorem clean_parts (path : String) : Clean (parts path) :=
  fun _ => noSlash_of_mem_parts

end Files

namespace FileSystem

open Files

variable {fs fs' : FileSystem}

/-- A tree whose places are made of names without slashes. -/
structure Proper (fs : FileSystem) : Prop where
  home : Clean fs.workingDirectory
  place : ∀ place, fs.entry? place ≠ none → Clean place

theorem proper_empty : empty.Proper := by
  have hwork : Clean ["work"] := by
    unfold Clean NoSlash
    decide
  refine ⟨hwork, ?_⟩
  intro place hplace
  unfold entry? at hplace
  split at hplace
  · rename_i hempty
    rw [List.isEmpty_iff.mp hempty]
    exact clean_nil
  · unfold empty at hplace
    rw [Dict.get?_insert] at hplace
    split at hplace
    · rename_i heq
      rw [← heq]
      exact hwork
    · exact absurd rfl hplace

theorem Proper.of_within (h : fs.Within fs') (hproper : fs'.Proper) : fs.Proper := by
  constructor
  · rw [← h.home]
    exact hproper.home
  · intro place hplace
    obtain ⟨entry, hentry⟩ := Option.ne_none_iff_exists'.mp hplace
    apply hproper.place
    rw [h.entry place entry hentry]
    exact Option.some_ne_none entry

theorem Proper.put (hproper : fs.Proper) {place : Place} {entry : Entry}
    (hplace : Clean place) : (fs.put place entry).Proper := by
  refine ⟨hproper.home, ?_⟩
  intro q hq
  by_cases hempty : q = []
  · rw [hempty]
    exact clean_nil
  · rw [entry?_put hempty] at hq
    by_cases heq : place = q
    · rw [← heq]
      exact hplace
    · rw [if_neg heq] at hq
      exact hproper.place q hq

theorem Proper.makes {place : Place} {parts : List String} (h : Makes fs place parts fs')
    (hproper : fs.Proper) (hplace : Clean place) (hparts : Clean parts) : fs'.Proper := by
  induction h with
  | done fs place => exact hproper
  | idle _ _ ih => exact ih hproper hplace (clean_cons.mp hparts).2
  | up _ ih => exact ih hproper hplace.dropLast (clean_cons.mp hparts).2
  | enter _ _ _ _ _ ih =>
    obtain ⟨hname, hrest⟩ := clean_cons.mp hparts
    exact ih hproper (hplace.concat hname) hrest
  | make _ _ _ _ _ ih =>
    obtain ⟨hname, hrest⟩ := clean_cons.mp hparts
    exact ih (hproper.put (hplace.concat hname)) (hplace.concat hname) hrest

theorem Proper.base (hproper : fs.Proper) (path : String) : Clean (fs.base path) := by
  unfold FileSystem.base
  split
  · exact clean_nil
  · exact hproper.home

/-- Making directories leaves a tree proper. -/
theorem Proper.makeDirectory (hproper : fs.Proper) {path : String}
    (h : fs.makeDirectory path = .ok fs') : fs'.Proper :=
  .makes (makeDirectory_eq_ok_iff.mp h).2 hproper (hproper.base path) (clean_parts path)

theorem clean_of_follow {place r : Place} {parts : List String} (hplace : Clean place)
    (hparts : Clean parts) (h : fs.follow place parts = .ok r) : Clean r := by
  rw [follow_eq_ok_iff] at h
  induction h with
  | here place => exact hplace
  | idle _ _ _ ih => exact ih hplace (clean_cons.mp hparts).2
  | up _ _ ih => exact ih hplace.dropLast (clean_cons.mp hparts).2
  | down _ _ _ _ _ ih =>
    obtain ⟨hname, hrest⟩ := clean_cons.mp hparts
    exact ih (hplace.concat hname) hrest

/-- A new file stands at a place of names without slashes. -/
theorem Proper.locateNew (hproper : fs.Proper) {path : String} {r : Place}
    (h : fs.locateNew path = .ok r) : Clean r := by
  unfold FileSystem.locateNew at h
  obtain ⟨start, hstart, h⟩ := bind_eq_ok_iff.mp h
  obtain ⟨_, rfl⟩ := start_eq_ok_iff.mp hstart
  split at h
  · cases h
    exact hproper.base path
  · rename_i name before hparts
    have hclean : Clean (name :: before) := by
      intro other hother
      rw [← hparts] at hother
      exact clean_parts path other (List.mem_reverse.mp (List.dropWhile_subset _ hother))
    obtain ⟨hname, hbefore⟩ := clean_cons.mp hclean
    obtain ⟨place, hplace, h⟩ := bind_eq_ok_iff.mp h
    have hdot : NoSlash "." := by
      unfold NoSlash
      decide
    have hreverse : Clean before.reverse :=
      fun other hother => hbefore other (List.mem_reverse.mp hother)
    have hcleanPlace := clean_of_follow (hproper.base path) (hreverse.concat hdot) hplace
    split at h
    · cases h
    · exact clean_of_follow hcleanPlace (clean_cons.mpr ⟨hname, clean_nil⟩) h

/-- Writing a file leaves a tree proper. -/
theorem Proper.write (hproper : fs.Proper) {path : String} {content : Content}
    (h : fs.write path content = .ok fs') : fs'.Proper := by
  obtain ⟨place, hplace, _, rfl⟩ := write_eq_ok_iff.mp h
  exact hproper.put (hproper.locateNew hplace)

theorem Proper.addFile (hproper : fs.Proper) (path : String) (content : Content) :
    (fs.addFile path content).Proper := by
  have hmade : ∀ made, (parent? path).map fs.makeDirectory = some (.ok made) →
      made.Proper := by
    intro made h
    obtain ⟨parent, _, hmake⟩ := Option.map_eq_some_iff.mp h
    exact hproper.makeDirectory hmake
  unfold FileSystem.addFile
  dsimp only
  split
  · rename_i hwrite
    refine Proper.write ?_ hwrite
    split
    · rename_i made hmake
      exact hmade made hmake
    · exact hproper
  · split
    · rename_i made hmake
      exact hmade made hmake
    · exact hproper

/-- Whatever files a tree is made for, it is proper. -/
theorem proper_ofFiles (files : List (String × Content)) : (ofFiles files).Proper := by
  have hall : ∀ fs : FileSystem, fs.Proper →
      (files.foldl (fun fs file => fs.addFile file.1 file.2) fs).Proper := by
    induction files with
    | nil => exact fun fs hfs => hfs
    | cons file rest ih => exact fun fs hfs => ih _ (hfs.addFile file.1 file.2)
  exact hall empty proper_empty

end FileSystem

end DeviceFlow
