import DeviceFlow.Proofs.Store.Mirror
import DeviceFlow.Proofs.Store.Removal
import Mathlib.Data.List.Sort

/-!
# What is listed, loaded and deleted

A store in a directory lists, loads and deletes by the names in the directory, so the three agree
whatever stands there: what is listed can be loaded, or fails to be for some reason, and what has
been deleted is gone, while everything else is as before.
-/

namespace DeviceFlow

namespace FileSystem

open Files

variable {fs fs' : FileSystem} {place q : Place} {root name : String}

/-- The path of a name below a root leads to the same place, or to the same error, where all
    directories are kept. -/
theorem KeepsDirectories.locate_join (hkeeps : fs.KeepsDirectories fs')
    (hroots : fs.Roots root place) (hroot : root ≠ "") (hname : PlainName name) :
    fs'.locate (join root name) = fs.locate (join root name) := by
  have hslash := hname.noSlash
  have hroots' := hkeeps.roots hroots
  have hfollow : fs'.follow place [name] = fs.follow place [name] := by
    simp only [FileSystem.follow, hroots.2, hroots'.2]
  have hbase : fs'.base root = fs.base root := by
    unfold base
    rw [hkeeps.home]
  have hstart : fs'.start (join root name) = fs.start (join root name) := by
    unfold start
    rw [hkeeps.home]
  unfold FileSystem.locate
  rw [hstart]
  cases hfrom : fs.start (join root name) with
  | error e => rfl
  | ok start =>
    obtain ⟨_, rfl⟩ := start_eq_ok_iff.mp hfrom
    simp only [bind, Except.bind]
    rw [base_join hroot hslash, parts_join hroot hslash, follow_append_of_ok hroots.1, ← hbase,
      follow_append_of_ok hroots'.1, hfollow]

/-- A file below a root reads the same where all directories are kept, and its entry is. -/
theorem KeepsDirectories.read_join (hkeeps : fs.KeepsDirectories fs')
    (hroots : fs.Roots root place) (hroot : root ≠ "") (hname : PlainName name)
    (hentry : fs'.entry? (place ++ [name]) = fs.entry? (place ++ [name])) :
    fs'.read (join root name) = fs.read (join root name) := by
  unfold read open?
  rw [hkeeps.locate_join hroots hroot hname]
  cases hplace : fs.locate (join root name) with
  | error e => rfl
  | ok found =>
    obtain ⟨_, place', hroots', _, rfl⟩ := (locate_join_iff hroot hname).mp hplace
    obtain rfl : place' = place := Except.ok.inj (hroots'.1.symm.trans hroots.1)
    simp only [bind, Except.bind, hentry]

end FileSystem

namespace DirectoryStore

open Files

variable {store : DirectoryStore} {fs fs' : FileSystem} {id : String} {names ids : List String}

/-- What the operations of a store find in its directory: the names there, and none when the
    directory is missing. -/
inductive Finds (store : DirectoryStore) (fs : FileSystem) : List String → Prop where
  | there {names : List String} (h : fs.list store.root = .ok names) : Finds store fs names
  | missing (h : fs.list store.root = .error .notFound) : Finds store fs []

theorem named_nil (id : String) : named [] id = [] := by simp [named]

theorem named_eq_nil_iff : named names id = [] ↔ ∀ name ∈ names, idOf? name ≠ some id := by
  rw [List.eq_nil_iff_forall_not_mem]
  simp [mem_named]

namespace Finds

variable (h : Finds store fs names)

include h

theorem files_eq : store.files fs =
    .ok ((names.filter fun name => (idOf? name).isSome).mergeSort comesBefore) := by
  cases h with
  | there h => exact files_of_list h
  | missing h =>
    unfold files
    rw [h]
    simp

theorem filesOf_eq (id : String) : store.filesOf fs id = .ok (named names id) := by
  unfold filesOf
  rw [h.files_eq]
  rfl

theorem list_eq : ∃ ids, store.list fs = .ok ids ∧
    ∀ id, id ∈ ids ↔ ∃ name ∈ names, idOf? name = some id := by
  cases h with
  | there h => exact list_of_list h
  | missing h =>
    refine ⟨[], ?_, by simp⟩
    unfold list files
    rw [h]
    rfl

/-- A workflow cannot be loaded just when no file has its id. -/
theorem load_eq_none_iff :
    store.load fs id = .ok none ↔ ∀ name ∈ names, idOf? name ≠ some id := by
  rw [← named_eq_nil_iff]
  have hfiles := h.filesOf_eq id
  cases hnamed : named names id with
  | nil =>
    unfold load
    rw [hfiles, hnamed]
    simp [bind, Except.bind, pure, Except.pure]
  | cons first rest =>
    rw [hnamed] at hfiles
    rw [load_of_filesOf_cons hfiles]
    cases store.readFile fs id (store.path first) with
    | error e => simp [Except.map]
    | ok w => simp [Except.map]

end Finds

/-- Where the files of a workflow can be listed, they are among the names that are found. -/
theorem exists_finds_of_filesOf (h : store.filesOf fs id = .ok names) :
    ∃ all, Finds store fs all ∧ names = named all id := by
  cases hlist : fs.list store.root with
  | ok all =>
    rw [filesOf_of_list hlist] at h
    exact ⟨all, .there hlist, (Except.ok.inj h).symm⟩
  | error cause =>
    cases hfiles : store.files fs with
    | error other =>
      unfold filesOf at h
      rw [hfiles] at h
      cases h
    | ok found =>
      obtain ⟨rfl, rfl⟩ := files_of_list_error hlist hfiles
      have hfinds : Finds store fs [] := .missing hlist
      rw [hfinds.filesOf_eq] at h
      exact ⟨[], hfinds, (Except.ok.inj h).symm⟩

/-- A name is that of a file of a workflow if it is the id, a dot, and one of the extensions. -/
theorem idOf?_eq_some_iff_of_nonempty {name : String} (hid : id ≠ "") :
    idOf? name = some id ↔ ∃ ext, lowered ext ∈ extensions ∧ name = id ++ "." ++ ext := by
  rw [idOf?_eq_some_iff]
  constructor
  · rintro ⟨ext, h⟩
    exact ⟨ext, h.known, h.eq⟩
  · rintro ⟨ext, hknown, rfl⟩
    refine ⟨ext, rfl, hid, ?_, hknown⟩
    intro hdot
    have hnone : ∀ e ∈ extensions, '.' ∉ e.toList := by decide
    exact hnone _ hknown (mem_lowered hdot)

theorem map_some_inj {x y : Except StoreError Workflow} (h : x.map some = y.map some) : x = y := by
  cases x with
  | error e =>
    cases y with
    | error e' =>
      cases h
      rfl
    | ok w' => cases h
  | ok w =>
    cases y with
    | error e' => cases h
    | ok w' =>
      cases h
      rfl

/-! ## Deletions that succeed -/

/-- Removing some files keeps the directories, and all that has another name. -/
theorem keeps_of_removeAll {place : Place} {gone : List String}
    (hplace : fs.locate store.root = .ok place ∧ fs.entry? place = some .directory)
    (hplain : ∀ name ∈ gone, PlainName name) (h : store.removeAll fs gone = (fs', .ok ())) :
    fs.KeepsDirectories fs' ∧
      ∀ name ∉ gone, fs'.entry? (place ++ [name]) = fs.entry? (place ++ [name]) := by
  induction gone generalizing fs with
  | nil =>
    cases h
    exact ⟨.refl _, fun _ _ => rfl⟩
  | cons first gone ih =>
    rw [removeAll_cons] at h
    split at h
    · cases h
    · rename_i next hremove
      obtain ⟨rfl, hkeeps⟩ := of_remove (hplain first List.mem_cons_self) hplace hremove
      have hplace' := And.intro (hkeeps.locate hplace.1) (hkeeps.directory place hplace.2)
      obtain ⟨hrest, hentries⟩ :=
        ih hplace' (fun name hname => hplain name (List.mem_cons_of_mem first hname)) h
      refine ⟨hkeeps.trans hrest, ?_⟩
      intro name hname
      have hne : first ≠ name := (List.ne_of_not_mem_cons hname).symm
      rw [hentries name (List.not_mem_of_not_mem_cons hname), FileSystem.entry?_without (by simp),
        if_neg]
      simpa using hne

/-- What has not been removed reads as before. -/
theorem read_of_removeAll {gone : List String} {name : String}
    (hlist : fs.list store.root = .ok names) (hplain : ∀ name ∈ gone, PlainName name)
    (h : store.removeAll fs gone = (fs', .ok ())) (hname : PlainName name) (hkept : name ∉ gone) :
    fs'.read (store.path name) = fs.read (store.path name) := by
  obtain ⟨place, hplace, _⟩ := FileSystem.list_eq_ok_iff.mp hlist
  obtain ⟨hfits, hroots⟩ := FileSystem.locate_root_iff.mp hplace
  obtain ⟨hkeeps, hentries⟩ := keeps_of_removeAll hplace hplain h
  exact hkeeps.read_join hroots hfits.nonempty hname (hentries name hkept)

/-- A file of one workflow is not among the files of another. -/
theorem not_mem_of_other {gone : List String} {name other : String}
    (hgone : ∀ name ∈ gone, idOf? name = some id) (hother : other ≠ id)
    (hname : name ∈ named names other) : name ∉ gone := by
  intro hmem
  have hid := (mem_named.mp hname).2
  rw [hgone name hmem] at hid
  exact hother (Option.some.inj hid).symm

/-- Where files of one workflow have been removed, those of the others are left. -/
theorem named_of_removed {gone : List String} {other : String}
    (hgone : ∀ name ∈ gone, idOf? name = some id) (hother : other ≠ id) :
    named (names.filter (· ∉ gone)) other = named names other := by
  rw [named_filter, List.filter_eq_self.mpr]
  intro name hname
  simpa using not_mem_of_other hgone hother hname

/-- What is loaded is decided by the files of the workflow, and by what they hold. -/
theorem load_congr {others : List String} (hfiles : store.filesOf fs id = .ok others)
    (hfiles' : store.filesOf fs' id = .ok others)
    (hread : ∀ name ∈ others, fs'.read (store.path name) = fs.read (store.path name)) :
    store.load fs' id = store.load fs id := by
  cases others with
  | nil =>
    unfold load
    rw [hfiles, hfiles']
    rfl
  | cons first rest =>
    rw [load_of_filesOf_cons hfiles, load_of_filesOf_cons hfiles']
    unfold readFile
    rw [hread first List.mem_cons_self]

/-- What a deletion that has succeeded leaves: all names that are not of the workflow, with what
    stands under them. -/
theorem finds_of_delete (hproper : fs.Proper) (h : Finds store fs names) {found : Bool}
    (hdelete : store.delete fs id = (fs', .ok found)) :
    (found = true ↔ named names id ≠ []) ∧ Finds store fs' (names.filter (· ∉ named names id)) ∧
      ∀ other, other ≠ id → store.load fs' other = store.load fs other := by
  unfold delete at hdelete
  rw [h.filesOf_eq] at hdelete
  dsimp only at hdelete
  rcases hremove : store.removeAll fs (named names id) with ⟨after, result⟩
  rw [hremove] at hdelete
  cases result with
  | error e => cases hdelete
  | ok done =>
    cases hdelete
    refine ⟨by simp, ?_⟩
    cases h with
    | missing h =>
      rw [named_nil] at hremove
      cases hremove
      exact ⟨.missing h, fun _ _ => rfl⟩
    | there h =>
      have hplain : ∀ name ∈ named names id, PlainName name :=
        fun name hname => plainName_of_mem_named hproper h hname
      have hleft := list_of_removeAll h hplain hremove
      refine ⟨.there hleft, ?_⟩
      intro other hother
      have hgone : ∀ name ∈ named names id, idOf? name = some id :=
        fun name hname => (mem_named.mp hname).2
      refine load_congr (filesOf_of_list h) ?_ ?_
      · rw [filesOf_of_list hleft, named_of_removed hgone hother]
      · intro name hname
        exact read_of_removeAll h hplain hremove (plainName_of_mem_named hproper h hname)
          (not_mem_of_other hgone hother hname)

/-! ## The agreement -/

/-- Trees with the same files have the same names in the directory. -/
theorem Finds.of_sameFiles (h : Finds store fs names) (hsame : fs.SameFiles fs') :
    ∃ names', Finds store fs' names' ∧ ∀ name, name ∈ names' ↔ name ∈ names := by
  cases h with
  | missing h => exact ⟨[], .missing (hsame.list_eq_error h), fun _ => Iff.rfl⟩
  | there h =>
    obtain ⟨place, ⟨hlocate, hdir⟩, rfl⟩ := FileSystem.list_eq_ok_iff.mp h
    refine ⟨fs'.namesAt place, .there (FileSystem.list_eq_ok_iff.mpr ⟨place, ⟨?_, ?_⟩, rfl⟩), ?_⟩
    · rw [hsame.locate, hlocate]
    · rw [hsame.entry_eq, hdir]
    · intro name
      rw [FileSystem.mem_namesAt_iff, FileSystem.mem_namesAt_iff, hsame.entry_eq]

/-- The order in which the files are listed does not show in the list of ids. -/
theorem Finds.list_of_sameFiles (h : Finds store fs names) (hsame : fs.SameFiles fs') :
    store.list fs' = store.list fs := by
  obtain ⟨names', h', hnames⟩ := h.of_sameFiles hsame
  obtain ⟨ids, hlist, hids⟩ := h.list_eq
  obtain ⟨ids', hlist', hids'⟩ := h'.list_eq
  have heq : ids' = ids := by
    refine (pairwise_of_list hlist').eq_of_mem_iff (pairwise_of_list hlist) fun id => ?_
    rw [hids, hids']
    simp only [hnames]
  rw [hlist, hlist', heq]

/-- What a deletion that has succeeded has done: it says whether the workflow was listed, and the
    workflow is gone, and all else is as before. -/
structure Deleted (store : DirectoryStore) (fs after : FileSystem) (ids : List String) (id : String)
    (found : Bool) : Prop where
  found : found = true ↔ id ∈ ids
  unloaded : store.load after id = .ok none
  listed : store.list after = .ok (ids.filter (· ≠ id))
  kept : ∀ other, other ≠ id → store.load after other = store.load fs other

/-- The ids that are listed agree with what is loaded, with the names in the directory, and with
    what is deleted. -/
structure Agrees (store : DirectoryStore) (fs : FileSystem) (ids : List String) : Prop where
  sorted : ids.Pairwise (· < ·)
  nameless : "" ∉ ids
  loads : ∀ id, id ∈ ids ↔ store.load fs id ≠ .ok none
  stands : ∀ id, id ≠ "" → (id ∈ ids ↔ ∃ names ext, fs.list store.root = .ok names ∧
    id ++ "." ++ ext ∈ names ∧ lowered ext ∈ extensions)
  deletes : ∀ id found after, store.delete fs id = (after, .ok found) →
    Deleted store fs after ids id found

/-- A non-empty id is listed just when a name in the directory is the id, a dot, and one of the
    extensions. -/
theorem mem_list_iff_of_nonempty (hlist : store.list fs = .ok ids) (hid : id ≠ "") :
    id ∈ ids ↔ ∃ names ext, fs.list store.root = .ok names ∧
      id ++ "." ++ ext ∈ names ∧ lowered ext ∈ extensions := by
  constructor
  · intro hmem
    obtain ⟨names, hnames, name, hname, hidOf⟩ := exists_of_mem_list hlist hmem
    obtain ⟨ext, hknown, rfl⟩ := (idOf?_eq_some_iff_of_nonempty hid).mp hidOf
    exact ⟨names, ext, hnames, hname, hknown⟩
  · rintro ⟨names, ext, hnames, hname, hknown⟩
    obtain ⟨_, hlist', hids⟩ := list_of_list hnames
    cases hlist.symm.trans hlist'
    exact (hids id).mpr ⟨_, hname, (idOf?_eq_some_iff_of_nonempty hid).mpr ⟨ext, hknown, rfl⟩⟩

namespace Finds

variable (h : Finds store fs names)

include h

theorem loads_iff (hlist : store.list fs = .ok ids) : id ∈ ids ↔ store.load fs id ≠ .ok none := by
  obtain ⟨_, hlist', hids⟩ := h.list_eq
  cases hlist.symm.trans hlist'
  rw [hids, ne_eq, h.load_eq_none_iff]
  simp

theorem deleted_of_delete (hproper : fs.Proper) (hlist : store.list fs = .ok ids) {found : Bool}
    (hdelete : store.delete fs id = (fs', .ok found)) : Deleted store fs fs' ids id found := by
  obtain ⟨hfound, hleft, hkept⟩ := finds_of_delete hproper h hdelete
  obtain ⟨_, hlist', hids⟩ := h.list_eq
  cases hlist.symm.trans hlist'
  obtain ⟨left, hlistLeft, hidsLeft⟩ := hleft.list_eq
  have hremains : ∀ name, name ∈ names.filter (· ∉ named names id) ↔
      name ∈ names ∧ idOf? name ≠ some id := by
    intro name
    rw [List.mem_filter, decide_eq_true_iff, mem_named]
    exact and_congr_right fun hname => by simp [hname]
  refine ⟨?_, ?_, ?_, hkept⟩
  · rw [hfound, hids, ne_eq, named_eq_nil_iff]
    simp
  · rw [hleft.load_eq_none_iff]
    exact fun name hname => ((hremains name).mp hname).2
  · have heq : left = ids.filter (· ≠ id) := by
      refine (pairwise_of_list hlistLeft).eq_of_mem_iff ((pairwise_of_list hlist).filter _) ?_
      intro other
      rw [hidsLeft, List.mem_filter, decide_eq_true_iff, hids]
      simp only [hremains]
      constructor
      · rintro ⟨name, ⟨hname, hne⟩, hother⟩
        exact ⟨⟨name, hname, hother⟩, fun heq => hne (heq ▸ hother)⟩
      · rintro ⟨⟨name, hname, hother⟩, hne⟩
        refine ⟨name, ⟨hname, ?_⟩, hother⟩
        rw [hother]
        exact fun heq => hne (Option.some.inj heq)
    rw [hlistLeft, heq]

end Finds

/-- Whatever stands in the directory of a store, or if the directory is missing, what the store
    lists agrees with what it loads and deletes, in whatever order the files are listed then. -/
theorem agrees_of_finds (hproper : fs.Proper) (h : Finds store fs names)
    (hsame : fs.SameFiles fs') : ∃ ids, store.list fs = .ok ids ∧ Agrees store fs' ids := by
  obtain ⟨names', h', _⟩ := h.of_sameFiles hsame
  obtain ⟨ids, hlist, _⟩ := h.list_eq
  have hlist' : store.list fs' = .ok ids := (h.list_of_sameFiles hsame).trans hlist
  refine ⟨ids, hlist, ⟨pairwise_of_list hlist, ?_, ?_, ?_, ?_⟩⟩
  · intro hmem
    obtain ⟨_, _, name, _, hid⟩ := exists_of_mem_list hlist hmem
    obtain ⟨_, hnamed⟩ := idOf?_eq_some_iff.mp hid
    exact hnamed.nonempty rfl
  · exact fun id => h'.loads_iff hlist'
  · exact fun id => mem_list_iff_of_nonempty hlist'
  · intro id found after
    exact h'.deleted_of_delete (hproper.of_within hsame.right) hlist'

/-- A directory with two files of one workflow, a file of another one, whose id has a dot, and files
    that are none of a workflow. -/
def motley : FileSystem :=
  .ofFiles [("flows/login.YML", .bytes), ("flows/.yaml", .bytes), ("flows/a.b.json", .bytes),
    ("flows/notes.txt", .bytes), ("flows/login.yaml", .bytes)]

/-- Of all the files in a directory those of the two workflows are listed, and nothing is loaded
    under what only looks like an id. -/
theorem agrees_motley :
    Finds (new "flows") motley ["login.YML", ".yaml", "a.b.json", "notes.txt", "login.yaml"] ∧
    ∃ ids, (new "flows").list motley = .ok ids ∧ Agrees (new "flows") motley ids ∧
      "login" ∈ ids ∧ "a.b" ∈ ids ∧ (new "flows").load motley "a" = .ok none := by
  have hnames : motley.list "flows" =
      .ok ["login.YML", ".yaml", "a.b.json", "notes.txt", "login.yaml"] := by decide +kernel
  have hfinds : Finds (new "flows") motley _ := .there hnames
  obtain ⟨ids, hlist, hagrees⟩ :=
    agrees_of_finds (FileSystem.proper_ofFiles _) hfinds (.refl motley)
  refine ⟨hfinds, ids, hlist, hagrees, ?_, ?_, ?_⟩
  · exact (hagrees.stands "login" (by decide)).mpr ⟨_, "yaml", hnames, by decide, by decide⟩
  · exact (hagrees.stands "a.b" (by decide)).mpr ⟨_, "json", hnames, by decide, by decide⟩
  · exact hfinds.load_eq_none_iff.mpr (by decide +kernel)

end DirectoryStore

end DeviceFlow
