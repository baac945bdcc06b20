import DeviceFlow.Proofs.Files.Follow

/-!
# What stands in a tree of files

The entries of a directory, what the operations on files read and change, and the trees that
have the entries or the directories of another.
-/

namespace DeviceFlow

namespace FileSystem

open Files

variable {fs fs' : FileSystem}

theorem nameIn?_eq_some_iff {directory place : Place} {name : String} :
    nameIn? directory place = some name ↔ place = directory ++ [name] := by
  induction directory generalizing place with
  | nil =>
    cases place with
    | nil => simp [nameIn?]
    | cons first rest =>
      cases rest with
      | nil => simp [nameIn?]
      | cons second rest => simp [nameIn?]
  | cons a directory ih =>
    cases place with
    | nil => simp [nameIn?]
    | cons b place =>
      rw [nameIn?]
      by_cases h : a = b
      · rw [if_pos h, ih]
        simp [h]
      · rw [if_neg h]
        simp [Ne.symm h]

theorem entry?_concat {place : Place} {name : String} :
    fs.entry? (place ++ [name]) = fs.entries.get? (place ++ [name]) := by
  unfold entry?
  simp

theorem mem_namesAt_iff {place : Place} {name : String} :
    name ∈ fs.namesAt place ↔ fs.entry? (place ++ [name]) ≠ none := by
  unfold namesAt
  rw [List.mem_filterMap, entry?_concat, ← Dict.mem_keys_iff]
  constructor
  · rintro ⟨q, hq, hname⟩
    rwa [nameIn?_eq_some_iff.mp hname] at hq
  · intro h
    exact ⟨place ++ [name], h, nameIn?_eq_some_iff.mpr rfl⟩

theorem nodup_namesAt (place : Place) : (fs.namesAt place).Nodup := by
  unfold namesAt
  have hkeys : fs.entries.keys.Nodup := fs.entries.nodup
  refine List.Pairwise.filterMap _ ?_ hkeys
  intro p q hne name hp other hq heq
  rw [nameIn?_eq_some_iff.mp hp, nameIn?_eq_some_iff.mp hq, heq] at hne
  exact hne rfl

theorem entry?_put {place q : Place} {entry : Entry} (hq : q ≠ []) :
    entry? (fs.put place entry) q = if place = q then some entry else fs.entry? q := by
  have hempty : q.isEmpty = false := by simpa using hq
  unfold entry? put
  rw [hempty]
  exact Dict.get?_insert _ _ _ _

theorem open?_eq_ok_iff {path : String} {entry : Entry} :
    fs.open? path = .ok entry ↔ ∃ place, fs.locate path = .ok place ∧
      fs.entry? place = some entry := by
  unfold open?
  rw [bind_eq_ok_iff]
  refine exists_congr fun place => and_congr_right fun _ => ?_
  cases fs.entry? place with
  | none =>
    constructor
    · intro h
      cases h
    · intro h
      cases h
  | some found =>
    constructor
    · intro h
      cases h
      rfl
    · intro h
      cases h
      rfl

theorem read_eq_ok_iff {path text : String} :
    fs.read path = .ok text ↔ fs.open? path = .ok (.file (.text text)) := by
  unfold read
  rw [bind_eq_ok_iff]
  constructor
  · rintro ⟨entry, hentry, h⟩
    match entry, h with
    | .file (.text _), h =>
      cases h
      exact hentry
  · intro h
    exact ⟨_, h, rfl⟩

theorem list_eq_ok_iff {path : String} {names : List String} :
    fs.list path = .ok names ↔ ∃ place, (fs.locate path = .ok place ∧
      fs.entry? place = some .directory) ∧ names = fs.namesAt place := by
  unfold list
  rw [bind_eq_ok_iff]
  refine exists_congr fun place => ?_
  rw [and_assoc]
  refine and_congr_right fun _ => ?_
  match fs.entry? place with
  | none =>
    constructor
    · intro h
      cases h
    · intro h
      cases h.1
  | some (.file _) =>
    constructor
    · intro h
      cases h
    · intro h
      cases h.1
  | some .directory =>
    constructor
    · intro h
      cases h
      exact ⟨rfl, rfl⟩
    · rintro ⟨_, rfl⟩
      rfl

theorem write_eq_ok_iff {path : String} {content : Content} :
    fs.write path content = .ok fs' ↔ ∃ place, fs.locateNew path = .ok place ∧
      fs.entry? place ≠ some .directory ∧ fs' = fs.put place (.file content) := by
  unfold write
  rw [bind_eq_ok_iff]
  refine exists_congr fun place => and_congr_right fun _ => ?_
  split
  · rename_i hdir
    constructor
    · intro h
      cases h
    · intro h
      exact absurd hdir h.1
  · rename_i hdir
    constructor
    · intro h
      cases h
      exact ⟨hdir, rfl⟩
    · rintro ⟨_, rfl⟩
      rfl

/-- What stands at a place after it has been vacated. -/
def without (fs : FileSystem) (place : Place) : FileSystem :=
  { fs with entries := fs.entries.erase place }

theorem entry?_without {place q : Place} (hq : q ≠ []) :
    entry? (fs.without place) q = if place = q then none else fs.entry? q := by
  have hempty : q.isEmpty = false := by simpa using hq
  unfold entry? without
  rw [hempty]
  exact Dict.get?_erase _ _ _

theorem remove_eq_ok_iff {path : String} :
    fs.remove path = .ok fs' ↔ ∃ content place, fs.locate path = .ok place ∧
      fs.entry? place = some (.file content) ∧ fs' = fs.without place := by
  unfold remove
  rw [bind_eq_ok_iff]
  constructor
  · rintro ⟨place, hplace, h⟩
    split at h
    · cases h
    · cases h
    · rename_i content hentry
      cases h
      exact ⟨content, place, hplace, hentry, rfl⟩
  · rintro ⟨content, place, hplace, hentry, rfl⟩
    refine ⟨place, hplace, ?_⟩
    rw [hentry]
    rfl

/-- Writing that fails has not been begun, unless it has stopped midway. -/
theorem of_writeAmid_error {troubles : Troubles} {path text : String} {cause : FileError}
    (h : fs.writeAmid troubles path text = (fs', .error cause)) :
    fs' = fs ∨ ∃ size reason, troubles.writing path = some (.midway size reason) ∧
      fs.write path (.start size text) = .ok fs' := by
  unfold writeAmid at h
  dsimp only at h
  split at h
  · split at h
    · cases h
    · cases h
      exact .inl rfl
  · cases h
    exact .inl rfl
  · rename_i size reason hwriting
    split at h
    · rename_i written hwrite
      cases h
      exact .inr ⟨size, reason, hwriting, hwrite⟩
    · cases h
      exact .inl rfl

/-- What is removed amid troubles is removed without them. -/
theorem remove_of_removeAmid {troubles : Troubles} {path : String}
    (h : fs.removeAmid troubles path = .ok fs') : fs.remove path = .ok fs' := by
  unfold removeAmid at h
  split at h
  · exact h
  · cases h

/-- Every entry of one tree is an entry of another, which paths start in alike. -/
structure Within (fs fs' : FileSystem) : Prop where
  home : fs'.workingDirectory = fs.workingDirectory
  entry : ∀ place entry, fs.entry? place = some entry → fs'.entry? place = some entry

theorem Within.refl (fs : FileSystem) : fs.Within fs := ⟨rfl, fun _ _ h => h⟩

theorem Within.keepsDirectories (h : fs.Within fs') : fs.KeepsDirectories fs' :=
  ⟨h.home, fun place => h.entry place .directory⟩

theorem Within.open? (h : fs.Within fs') {path : String} {entry : Entry}
    (hopen : fs.open? path = .ok entry) : fs'.open? path = .ok entry := by
  obtain ⟨place, hplace, hentry⟩ := open?_eq_ok_iff.mp hopen
  exact open?_eq_ok_iff.mpr
    ⟨place, h.keepsDirectories.locate hplace, h.entry place entry hentry⟩

/-- Two trees have the same entries, in whatever order these are listed. -/
structure SameFiles (fs fs' : FileSystem) : Prop where
  left : fs.Within fs'
  right : fs'.Within fs

theorem SameFiles.refl (fs : FileSystem) : fs.SameFiles fs := ⟨.refl fs, .refl fs⟩

/-- A change at a place that is no directory keeps all directories. -/
theorem KeepsDirectories.of_elsewhere {place : Place}
    (hhome : fs'.workingDirectory = fs.workingDirectory)
    (hplace : fs.entry? place ≠ some .directory)
    (helse : ∀ q, q ≠ [] → place ≠ q → fs'.entry? q = fs.entry? q) :
    fs.KeepsDirectories fs' := by
  refine ⟨hhome, ?_⟩
  intro q hq
  by_cases hempty : q = []
  · subst hempty
    rfl
  · have hne : place ≠ q := by
      rintro rfl
      exact hplace hq
    rw [helse q hempty hne]
    exact hq

theorem KeepsDirectories.put {place : Place} {content : Content}
    (hplace : fs.entry? place ≠ some .directory) :
    fs.KeepsDirectories (fs.put place (.file content)) := by
  refine .of_elsewhere rfl hplace ?_
  intro q hempty hne
  rw [entry?_put hempty, if_neg hne]

theorem KeepsDirectories.without {place : Place}
    (hplace : fs.entry? place ≠ some .directory) : fs.KeepsDirectories (fs.without place) := by
  refine .of_elsewhere rfl hplace ?_
  intro q hempty hne
  rw [entry?_without hempty, if_neg hne]

theorem within_without (fs : FileSystem) (place : Place) : (fs.without place).Within fs := by
  refine ⟨rfl, ?_⟩
  intro q entry hq
  by_cases hempty : q = []
  · subst hempty
    exact hq
  · rw [entry?_without hempty] at hq
    split at hq
    · cases hq
    · exact hq

/-- Making the directories that some parts name below a place leaves another tree. -/
inductive Makes : FileSystem → Place → List String → FileSystem → Prop where
  | done (fs : FileSystem) (place : Place) : Makes fs place [] fs
  | idle {fs made : FileSystem} {place : Place} {name : String} {rest : List String}
      (hname : name = "" ∨ name = ".") (h : Makes fs place rest made) :
      Makes fs place (name :: rest) made
  | up {fs made : FileSystem} {place : Place} {rest : List String}
      (h : Makes fs place.dropLast rest made) : Makes fs place (".." :: rest) made
  /-- The directory is there already. -/
  | enter {fs made : FileSystem} {place : Place} {name : String} {rest : List String}
      (hidle : ¬ (name = "" ∨ name = ".")) (hdots : name ≠ "..")
      (hsize : name.utf8ByteSize ≤ maxNameSize)
      (hdir : fs.entry? (place ++ [name]) = some .directory)
      (h : Makes fs (place ++ [name]) rest made) : Makes fs place (name :: rest) made
  | make {fs made : FileSystem} {place : Place} {name : String} {rest : List String}
      (hidle : ¬ (name = "" ∨ name = ".")) (hdots : name ≠ "..")
      (hsize : name.utf8ByteSize ≤ maxNameSize) (hnone : fs.entry? (place ++ [name]) = none)
      (h : Makes (fs.put (place ++ [name]) .directory) (place ++ [name]) rest made) :
      Makes fs place (name :: rest) made

theorem makeDirectories_eq_ok_iff {place : Place} {parts : List String} :
    makeDirectories fs place parts = (fs', .ok ()) ↔ Makes fs place parts fs' := by
  constructor
  · intro h
    induction parts generalizing fs place with
    | nil =>
      cases h
      exact .done _ _
    | cons name rest ih =>
      rw [makeDirectories] at h
      split at h
      · rename_i hidle
        exact .idle hidle (ih h)
      · rename_i hidle
        split at h
        · rename_i hdots
          subst hdots
          exact .up (ih h)
        · rename_i hdots
          split at h
          · cases h
          · rename_i hsize
            have hle := Nat.le_of_not_lt hsize
            dsimp only at h
            split at h
            · rename_i hdir
              exact .enter hidle hdots hle hdir (ih h)
            · cases h
            · rename_i hnone
              exact .make hidle hdots hle hnone (ih h)
  · intro h
    induction h with
    | done fs place => rfl
    | idle hname h ih => simp only [makeDirectories, hname, if_true, ih]
    | up h ih =>
      rw [makeDirectories]
      exact ih
    | enter hidle hdots hsize hdir h ih =>
      simp only [makeDirectories, hidle, hdots, Nat.not_lt.mpr hsize, if_false, hdir, ih]
    | make hidle hdots hsize hnone h ih =>
      simp only [makeDirectories, hidle, hdots, Nat.not_lt.mpr hsize, if_false, hnone, ih]

/-- A directory is made when it can be built without an error. -/
theorem buildDirectory_eq_ok_iff {path : String} :
    fs.buildDirectory path = (fs', .ok ()) ↔ fs.makeDirectory path = .ok fs' := by
  unfold makeDirectory
  obtain ⟨made, result⟩ := fs.buildDirectory path
  cases result with
  | ok done => simp
  | error e => simp

theorem makeDirectory_eq_ok_iff {path : String} : fs.makeDirectory path = .ok fs' ↔
    '\x00' ∉ path.toList ∧ Makes fs (fs.base path) (parts path) fs' := by
  rw [← makeDirectories_eq_ok_iff, ← buildDirectory_eq_ok_iff]
  unfold buildDirectory base
  by_cases hempty : path = ""
  · subst hempty
    have hparts : parts "" = [""] := by decide
    rw [hparts]
    simp [makeDirectories]
  · rw [if_neg (by simpa using hempty)]
    by_cases hzero : '\x00' ∈ path.toList
    · simp [hzero]
    · simp [hzero]

end FileSystem

end DeviceFlow
