import DeviceFlow.Files.FileSystem
import DeviceFlow.Proofs.Files.Path

/-!
# Following paths

What a path leads to is decided by the directories on its way. The path of a plain name below
a root leads to that name in the directory of the root, whether it is followed to read or to
write.
-/

namespace DeviceFlow

/-- A chain has a result if its first part has one, and the rest has one with that. -/
theorem bind_eq_ok_iff {ε α β : Type} {x : Except ε α} {f : α → Except ε β} {b : β} :
    (x >>= f) = .ok b ↔ ∃ a, x = .ok a ∧ f a = .ok b := by
  cases x with
  | error e =>
    constructor
    · intro h
      cases h
    · rintro ⟨_, h, _⟩
      cases h
  | ok a =>
    constructor
    · intro h
      exact ⟨a, rfl, h⟩
    · rintro ⟨_, ha, h⟩
      cases ha
      exact h

namespace Files

/-- A path that can be handed to the system. -/
structure Fits (path : String) : Prop where
  nonempty : path ≠ ""
  noZero : '\x00' ∉ path.toList
  size_lt : path.utf8ByteSize < 4096

/-- A name that stands for an entry of a directory, and not for a way through directories. -/
structure PlainName (name : String) : Prop where
  noSlash : NoSlash name
  nonempty : name ≠ ""
  not_dot : name ≠ "."
  not_dots : name ≠ ".."

theorem PlainName.not_idle {name : String} (h : PlainName name) : ¬ (name = "" ∨ name = ".") := by
  rintro (hname | hname)
  · exact h.nonempty hname
  · exact h.not_dot hname

theorem toList_join {root name : String} (hroot : root ≠ "") (hname : NoSlash name) :
    (join root name).toList = root.toList ++ (separator root).toList ++ name.toList := by
  rw [join_eq hroot hname]
  simp

theorem isAbsolute_join {root name : String} (hroot : root ≠ "") (hname : NoSlash name) :
    isAbsolute (join root name) = isAbsolute root := by
  unfold isAbsolute
  rw [toList_join hroot hname]
  cases h : root.toList with
  | nil => exact absurd (String.toList_eq_nil_iff.mp h) hroot
  | cons c cs => rfl

/-- The root of a path that fits, fits. -/
theorem Fits.of_join {root name : String} (hroot : root ≠ "") (hname : NoSlash name)
    (h : Fits (join root name)) : Fits root := by
  refine ⟨hroot, ?_, ?_⟩
  · intro hmem
    apply h.noZero
    rw [toList_join hroot hname]
    exact List.mem_append_left _ (List.mem_append_left _ hmem)
  · have hsize := h.size_lt
    rw [join_eq hroot hname, String.utf8ByteSize_append, String.utf8ByteSize_append] at hsize
    omega

/-- A path fits if that of a longer name below the same root does. -/
theorem Fits.join {root name other : String} (hroot : root ≠ "") (hname : NoSlash name)
    (hother : NoSlash other) (h : Fits (join root name)) (hzero : '\x00' ∉ other.toList)
    (hsize : other.utf8ByteSize ≤ name.utf8ByteSize) : Fits (Files.join root other) := by
  have hr := h.of_join hroot hname
  refine ⟨?_, ?_, ?_⟩
  · intro hempty
    have hlist := congrArg String.toList hempty
    rw [toList_join hroot hother] at hlist
    simp [hroot] at hlist
  · rw [toList_join hroot hother]
    intro hmem
    rcases List.mem_append.mp hmem with hmem | hmem
    · apply h.noZero
      rw [toList_join hroot hname]
      exact List.mem_append_left _ hmem
    · exact hzero hmem
  · have hlt := h.size_lt
    rw [join_eq hroot hname, String.utf8ByteSize_append] at hlt
    rw [join_eq hroot hother, String.utf8ByteSize_append]
    omega

end Files

namespace FileSystem

open Files

variable {fs fs' : FileSystem}

/-- The place that a path starts from, absolute or not. -/
def base (fs : FileSystem) (path : String) : Place :=
  if isAbsolute path then [] else fs.workingDirectory

theorem start_eq_ok_iff {path : String} {place : Place} :
    fs.start path = .ok place ↔ Fits path ∧ place = fs.base path := by
  unfold start base
  constructor
  · intro h
    split at h
    · cases h
    · rename_i hempty
      split at h
      · cases h
      · rename_i hzero
        split at h
        · cases h
        · rename_i hsize
          cases h
          have hfits : Fits path :=
            ⟨by simpa using hempty, by simpa using hzero, Nat.lt_of_not_le hsize⟩
          exact ⟨hfits, rfl⟩
  · rintro ⟨hfits, rfl⟩
    have hempty : ¬ path.isEmpty = true := by simpa using hfits.nonempty
    have hzero : ¬ path.toList.contains '\x00' = true := by simpa using hfits.noZero
    rw [if_neg hempty, if_neg hzero, if_neg (Nat.not_le.mpr hfits.size_lt)]

/-- A path of some parts leads from one place to another. Whatever has a part after it is a
    directory. -/
inductive Leads (fs : FileSystem) : Place → List String → Place → Prop where
  | here (place : Place) : Leads fs place [] place
  | idle {place r : Place} {name : String} {rest : List String}
      (hdir : fs.entry? place = some .directory) (hname : name = "" ∨ name = ".")
      (h : Leads fs place rest r) : Leads fs place (name :: rest) r
  | up {place r : Place} {rest : List String} (hdir : fs.entry? place = some .directory)
      (h : Leads fs place.dropLast rest r) : Leads fs place (".." :: rest) r
  | down {place r : Place} {name : String} {rest : List String}
      (hdir : fs.entry? place = some .directory) (hidle : ¬ (name = "" ∨ name = "."))
      (hdots : name ≠ "..") (hsize : name.utf8ByteSize ≤ maxNameSize)
      (h : Leads fs (place ++ [name]) rest r) : Leads fs place (name :: rest) r

/-- Paths are followed where they lead. -/
theorem follow_eq_ok_iff {place r : Place} {parts : List String} :
    fs.follow place parts = .ok r ↔ fs.Leads place parts r := by
  constructor
  · intro h
    induction parts generalizing place with
    | nil =>
      cases h
      exact .here _
    | cons name rest ih =>
      rw [follow] at h
      split at h
      · cases h
      · cases h
      · rename_i hdir
        split at h
        · rename_i hidle
          exact .idle hdir hidle (ih h)
        · rename_i hidle
          split at h
          · rename_i hdots
            subst hdots
            exact .up hdir (ih h)
          · rename_i hdots
            split at h
            · cases h
            · rename_i hsize
              exact .down hdir hidle hdots (Nat.le_of_not_lt hsize) (ih h)
  · intro h
    induction h with
    | here place => rfl
    | idle hdir hname h ih => simp only [follow, hdir, hname, if_true, ih]
    | up hdir h ih =>
      rw [follow, hdir]
      exact ih
    | down hdir hidle hdots hsize h ih =>
      simp only [follow, hdir, hidle, hdots, Nat.not_lt.mpr hsize, if_false, ih]

theorem follow_append_eq_ok_iff {place r : Place} {a b : List String} :
    fs.follow place (a ++ b) = .ok r ↔
      ∃ q, fs.follow place a = .ok q ∧ fs.follow q b = .ok r := by
  simp only [follow_eq_ok_iff]
  constructor
  · intro h
    induction a generalizing place with
    | nil => exact ⟨place, .here place, h⟩
    | cons name rest ih =>
      cases h with
      | idle hdir hname h =>
        obtain ⟨q, hq, hr⟩ := ih h
        exact ⟨q, .idle hdir hname hq, hr⟩
      | up hdir h =>
        obtain ⟨q, hq, hr⟩ := ih h
        exact ⟨q, .up hdir hq, hr⟩
      | down hdir hidle hdots hsize h =>
        obtain ⟨q, hq, hr⟩ := ih h
        exact ⟨q, .down hdir hidle hdots hsize hq, hr⟩
  · rintro ⟨q, hq, hr⟩
    induction hq with
    | here place => exact hr
    | idle hdir hname h ih => exact .idle hdir hname (ih hr)
    | up hdir h ih => exact .up hdir (ih hr)
    | down hdir hidle hdots hsize h ih => exact .down hdir hidle hdots hsize (ih hr)

/-- A path is followed on from the place where its first parts lead. -/
theorem follow_append_of_ok {place q : Place} {a : List String}
    (h : fs.follow place a = .ok q) (b : List String) :
    fs.follow place (a ++ b) = fs.follow q b := by
  rw [follow_eq_ok_iff] at h
  induction h with
  | here place => rfl
  | idle hdir hname _ ih =>
    rw [List.cons_append, follow, hdir]
    dsimp only
    rw [if_pos hname, ih]
  | up hdir _ ih =>
    rw [List.cons_append, follow, hdir]
    exact ih
  | down hdir hidle hdots hsize _ ih =>
    rw [List.cons_append, follow, hdir]
    dsimp only
    rw [if_neg hidle, if_neg hdots, if_neg (Nat.not_lt.mpr hsize), ih]

/-- A part that says nothing asks for a directory. -/
theorem follow_idle_eq_ok_iff {place r : Place} {name : String} (h : name = "" ∨ name = ".") :
    fs.follow place [name] = .ok r ↔ fs.entry? place = some .directory ∧ r = place := by
  rw [follow_eq_ok_iff]
  constructor
  · intro hleads
    cases hleads with
    | idle hdir _ hend =>
      cases hend
      exact ⟨hdir, rfl⟩
    | up hdir _ => simp at h
    | down hdir hidle => exact absurd h hidle
  · rintro ⟨hdir, rfl⟩
    exact .idle hdir h (.here r)

theorem follow_plain_eq_ok_iff {place r : Place} {name : String} (h : PlainName name) :
    fs.follow place [name] = .ok r ↔
      fs.entry? place = some .directory ∧ name.utf8ByteSize ≤ maxNameSize ∧
        r = place ++ [name] := by
  rw [follow_eq_ok_iff]
  constructor
  · intro hleads
    cases hleads with
    | idle _ hname => exact absurd hname h.not_idle
    | up => exact absurd rfl h.not_dots
    | down hdir _ _ hsize hend =>
      cases hend
      exact ⟨hdir, hsize, rfl⟩
  · rintro ⟨hdir, hsize, rfl⟩
    exact .down hdir h.not_idle h.not_dots hsize (.here _)

/-- The directories of one tree are directories of another, which paths start in alike. -/
structure KeepsDirectories (fs fs' : FileSystem) : Prop where
  home : fs'.workingDirectory = fs.workingDirectory
  directory : ∀ place, fs.entry? place = some .directory → fs'.entry? place = some .directory

/-- A path leads to the same place where all its directories are directories too. -/
theorem KeepsDirectories.follow (hkeeps : fs.KeepsDirectories fs') {place r : Place}
    {parts : List String} (h : fs.follow place parts = .ok r) :
    fs'.follow place parts = .ok r := by
  rw [follow_eq_ok_iff] at h ⊢
  induction h with
  | here place => exact .here place
  | idle hdir hname h ih => exact .idle (hkeeps.directory _ hdir) hname ih
  | up hdir h ih => exact .up (hkeeps.directory _ hdir) ih
  | down hdir hidle hdots hsize h ih =>
    exact .down (hkeeps.directory _ hdir) hidle hdots hsize ih

theorem locate_eq_ok_iff {path : String} {r : Place} :
    fs.locate path = .ok r ↔ Fits path ∧ fs.follow (fs.base path) (parts path) = .ok r := by
  unfold locate
  rw [bind_eq_ok_iff]
  constructor
  · rintro ⟨place, hstart, h⟩
    obtain ⟨hfits, rfl⟩ := start_eq_ok_iff.mp hstart
    exact ⟨hfits, h⟩
  · rintro ⟨hfits, h⟩
    exact ⟨fs.base path, start_eq_ok_iff.mpr ⟨hfits, rfl⟩, h⟩

/-- A path that fits is followed from where it starts. -/
theorem locate_of_fits {path : String} (hfits : Fits path) :
    fs.locate path = fs.follow (fs.base path) (parts path) := by
  unfold locate
  rw [start_eq_ok_iff.mpr ⟨hfits, rfl⟩]
  rfl

/-- A root leads to a directory. -/
def Roots (fs : FileSystem) (root : String) (place : Place) : Prop :=
  fs.follow (fs.base root) (rootParts root) = .ok place ∧ fs.entry? place = some .directory

/-- The directory of a root, found with the parts that stand before a name. -/
theorem locate_root_iff {root : String} {place : Place} :
    fs.locate root = .ok place ∧ fs.entry? place = some .directory ↔
      Fits root ∧ fs.Roots root place := by
  rw [locate_eq_ok_iff, and_assoc]
  refine and_congr_right fun _ => ?_
  unfold Roots
  rcases parts_eq_rootParts root with h | h
  · rw [h]
  · rw [h, follow_append_eq_ok_iff]
    constructor
    · rintro ⟨⟨q, hq, hidle⟩, _⟩
      obtain ⟨hdir, rfl⟩ := (follow_idle_eq_ok_iff (.inl rfl)).mp hidle
      exact ⟨hq, hdir⟩
    · rintro ⟨hq, hdir⟩
      exact ⟨⟨place, hq, (follow_idle_eq_ok_iff (.inl rfl)).mpr ⟨hdir, rfl⟩⟩, hdir⟩

theorem KeepsDirectories.locate (hkeeps : fs.KeepsDirectories fs') {path : String} {r : Place}
    (h : fs.locate path = .ok r) : fs'.locate path = .ok r := by
  obtain ⟨hfits, hfollow⟩ := locate_eq_ok_iff.mp h
  refine locate_eq_ok_iff.mpr ⟨hfits, ?_⟩
  unfold base at hfollow ⊢
  rw [hkeeps.home]
  exact hkeeps.follow hfollow

theorem KeepsDirectories.trans {fs'' : FileSystem} (h : fs.KeepsDirectories fs')
    (h' : fs'.KeepsDirectories fs'') : fs.KeepsDirectories fs'' :=
  ⟨h'.home.trans h.home, fun place hplace => h'.directory place (h.directory place hplace)⟩

theorem KeepsDirectories.roots (hkeeps : fs.KeepsDirectories fs') {root : String}
    {place : Place} (h : fs.Roots root place) : fs'.Roots root place := by
  refine ⟨?_, hkeeps.directory place h.2⟩
  have hfollow := hkeeps.follow h.1
  unfold base at hfollow ⊢
  rwa [hkeeps.home]

theorem base_join {root name : String} (hroot : root ≠ "") (hname : NoSlash name) :
    fs.base (join root name) = fs.base root := by
  unfold base
  rw [isAbsolute_join hroot hname]

/-- The path of a name below a root leads to the name in the directory of the root. -/
theorem locate_join_iff {root name : String} {r : Place} (hroot : root ≠ "")
    (hname : PlainName name) :
    fs.locate (join root name) = .ok r ↔
      Fits (join root name) ∧ ∃ place, fs.Roots root place ∧
        name.utf8ByteSize ≤ maxNameSize ∧ r = place ++ [name] := by
  rw [locate_eq_ok_iff, base_join hroot hname.noSlash, parts_join hroot hname.noSlash,
    follow_append_eq_ok_iff]
  refine and_congr_right fun _ => ?_
  constructor
  · rintro ⟨place, hplace, hlast⟩
    obtain ⟨hdir, hsize, rfl⟩ := (follow_plain_eq_ok_iff hname).mp hlast
    exact ⟨place, ⟨hplace, hdir⟩, hsize, rfl⟩
  · rintro ⟨place, ⟨hplace, hdir⟩, hsize, rfl⟩
    exact ⟨place, hplace, (follow_plain_eq_ok_iff hname).mpr ⟨hdir, hsize, rfl⟩⟩

theorem getLast?_join_ne {root name : String} (hroot : root ≠ "") (hname : PlainName name) :
    (join root name).toList.getLast? ≠ some '/' := by
  rw [toList_join hroot hname.noSlash, List.getLast?_append]
  cases h : name.toList.getLast? with
  | none =>
    have hempty : name = "" := by simpa using h
    exact absurd hempty hname.nonempty
  | some c =>
    rintro ⟨⟩
    exact hname.noSlash (List.mem_of_getLast? h)

/-- A file is written at the place where it is read. -/
theorem locateNew_join {root name : String} (hroot : root ≠ "") (hname : PlainName name)
    {r : Place} :
    fs.locateNew (join root name) = .ok r ↔ fs.locate (join root name) = .ok r := by
  have hparts : (parts (join root name)).reverse.dropWhile (· = "") =
      name :: (rootParts root).reverse := by
    rw [parts_join hroot hname.noSlash, List.reverse_append]
    simp [hname.nonempty]
  rw [locate_join_iff hroot hname]
  unfold locateNew
  rw [hparts, bind_eq_ok_iff]
  dsimp only
  simp only [getLast?_join_ne hroot hname, false_and, if_false, List.reverse_reverse]
  constructor
  · rintro ⟨start, hstart, h⟩
    obtain ⟨hfits, rfl⟩ := start_eq_ok_iff.mp hstart
    obtain ⟨place, hplace, h⟩ := bind_eq_ok_iff.mp h
    obtain ⟨q, hq, hidle⟩ := follow_append_eq_ok_iff.mp hplace
    obtain ⟨hdir, rfl⟩ := (follow_idle_eq_ok_iff (.inr rfl)).mp hidle
    obtain ⟨_, hsize, rfl⟩ := (follow_plain_eq_ok_iff hname).mp h
    rw [base_join hroot hname.noSlash] at hq
    exact ⟨hfits, place, ⟨hq, hdir⟩, hsize, rfl⟩
  · rintro ⟨hfits, place, ⟨hq, hdir⟩, hsize, rfl⟩
    refine ⟨fs.base (join root name), start_eq_ok_iff.mpr ⟨hfits, rfl⟩, ?_⟩
    rw [base_join hroot hname.noSlash]
    refine bind_eq_ok_iff.mpr ⟨place, ?_, (follow_plain_eq_ok_iff hname).mpr ⟨hdir, hsize, rfl⟩⟩
    exact follow_append_eq_ok_iff.mpr
      ⟨place, hq, (follow_idle_eq_ok_iff (.inr rfl)).mpr ⟨hdir, rfl⟩⟩

end FileSystem

end DeviceFlow
