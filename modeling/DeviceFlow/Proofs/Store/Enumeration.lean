import DeviceFlow.Proofs.Store.Agreement

/-!
# The order in which files are listed

The files of a workflow are sorted by their extensions, whose letters may be large or small, so
several files of one workflow can have the best extension. Sorting leaves these as they are listed,
and nothing fixes the order in which files are listed: what is loaded does not depend on it just
when all these files read the same.
-/

namespace DeviceFlow

namespace Dict

variable {κ α : Type} [DecidableEq κ]

/-- The dictionary in which a name with its value stands in the first place. -/
def leading (d : Dict κ α) (name : κ) (value : α) : Dict κ α :=
  ⟨(name, value) :: (d.erase name).entries, by
    refine List.nodup_cons.mpr ⟨fun hmem => ?_, (d.erase name).nodup⟩
    have hkept : name ∈ (d.erase name).keys := hmem
    rw [mem_keys_iff, get?_erase, if_pos rfl] at hkept
    exact hkept rfl⟩

theorem get?_leading (d : Dict κ α) (name key : κ) (value : α) :
    (d.leading name value).get? key = if name = key then some value else d.get? key := by
  have hrest : lookup key (d.erase name).entries = if name = key then none else d.get? key :=
    get?_erase d name key
  unfold get? leading
  rw [lookup, hrest]
  split
  · rfl
  · rfl

end Dict

namespace FileSystem

open Files

variable {fs fs' : FileSystem} {place : Place} {name path : String} {entry : Entry}

theorem SameFiles.read (h : fs.SameFiles fs') (path : String) : fs'.read path = fs.read path := by
  have hentry : fs'.entry? = fs.entry? := funext h.entry_eq
  unfold FileSystem.read open?
  rw [h.locate, hentry]

/-- The tree in which a place is listed before all others. -/
def listedFirst (fs : FileSystem) (place : Place) (entry : Entry) : FileSystem :=
  { fs with entries := fs.entries.leading place entry }

theorem sameFiles_listedFirst (h : fs.entry? (place ++ [name]) = some entry) :
    fs.SameFiles (fs.listedFirst (place ++ [name]) entry) := by
  have hentries : ∀ q, entry? (fs.listedFirst (place ++ [name]) entry) q = fs.entry? q := by
    intro q
    by_cases hq : q = []
    · rw [hq]
      rfl
    · have hempty : q.isEmpty = false := by simpa using hq
      rw [entry?_concat] at h
      simp only [listedFirst, entry?, hempty, Bool.false_eq_true, if_false, Dict.get?_leading]
      split
      · rename_i heq
        rw [← heq, h]
      · rfl
  constructor
  · exact ⟨rfl, fun q found hfound => (hentries q).trans hfound⟩
  · exact ⟨rfl, fun q found hfound => (hentries q).symm.trans hfound⟩

theorem namesAt_listedFirst (fs : FileSystem) (place : Place) (name : String) (entry : Entry) :
    (fs.listedFirst (place ++ [name]) entry).namesAt place =
      name :: (fs.without (place ++ [name])).namesAt place := by
  have hname : nameIn? place (place ++ [name]) = some name := nameIn?_eq_some_iff.mpr rfl
  unfold namesAt listedFirst Dict.leading Dict.keys
  rw [List.map_cons, List.filterMap_cons, hname]
  rfl

end FileSystem

namespace DirectoryStore

open Files

variable {store : DirectoryStore} {fs fs' : FileSystem} {id name : String} {names : List String}

/-- The file is one of a workflow, and no other file of that has a better extension. -/
structure Foremost (names : List String) (id name : String) : Prop where
  mem : name ∈ names
  isOf : idOf? name = some id
  least : ∀ other ∈ names, idOf? other = some id →
    ∀ r s, rank? name = some r → rank? other = some s → r ≤ s

theorem Foremost.comesBefore (h : Foremost names id name) {other : String} (hmem : other ∈ names)
    (hother : idOf? other = some id) : comesBefore name other = true := by
  obtain ⟨r, hr⟩ := exists_rank? h.isOf
  obtain ⟨s, hs⟩ := exists_rank? hother
  exact (comesBefore_of_same_id h.isOf hother hr hs).mpr (h.least other hmem hother r s hr hs)

theorem Foremost.congr {others : List String} (h : Foremost names id name)
    (hsame : ∀ other, other ∈ others ↔ other ∈ names) : Foremost others id name :=
  ⟨(hsame name).mpr h.mem, h.isOf, fun other hother => h.least other ((hsame other).mp hother)⟩

/-- The first file of a workflow is one with the best extension. -/
theorem foremost_of_head? (h : (named names id).head? = some name) : Foremost names id name := by
  obtain ⟨rest, hnamed⟩ := List.head?_eq_some_iff.mp h
  have hsorted := pairwise_named names id
  have hmem : name ∈ named names id := List.mem_of_head? h
  rw [hnamed] at hsorted
  obtain ⟨hname, hid⟩ := mem_named.mp hmem
  refine ⟨hname, hid, ?_⟩
  intro other hother hidOther r s hr hs
  have hlisted : other ∈ name :: rest := hnamed ▸ mem_named.mpr ⟨hother, hidOther⟩
  rcases List.mem_cons.mp hlisted with rfl | hrest
  · rw [Option.some.inj (hr.symm.trans hs)]
  · have hbefore := (List.pairwise_cons.mp hsorted).1 other hrest
    exact (comesBefore_of_same_id hid hidOther hr hs).mp hbefore

/-- A file with the best extension comes first when it is listed first. -/
theorem head?_named_cons (hnodup : (name :: names).Nodup) (h : Foremost (name :: names) id name) :
    (named (name :: names) id).head? = some name := by
  refine head?_named_of_first hnodup h.mem h.isOf ?_
  intro other hother hid hne _
  have hlater : other ∈ names := (List.mem_cons.mp hother).resolve_left hne
  exact ⟨(List.singleton_sublist.mpr hlater).cons_cons name, h.comesBefore hother hid⟩

/-- The same workflow is loaded in whatever order the files are listed. -/
def LoadsAlike (store : DirectoryStore) (fs : FileSystem) (id : String) : Prop :=
  ∀ listed relisted, fs.SameFiles listed → fs.SameFiles relisted →
    store.load listed id = store.load relisted id

theorem readFile_of_sameFiles (hsame : fs.SameFiles fs') (path : String) :
    store.readFile fs' id path = store.readFile fs id path := by
  unfold readFile
  rw [hsame.read]

/-- Each of the files with the best extension is loaded when it is listed first. -/
theorem exists_load_of_foremost (hlist : fs.list store.root = .ok names)
    (h : Foremost names id name) : ∃ listed, fs.SameFiles listed ∧
      store.load listed id = (store.readFile fs id (store.path name)).map some := by
  obtain ⟨place, ⟨hlocate, hdir⟩, rfl⟩ := FileSystem.list_eq_ok_iff.mp hlist
  obtain ⟨entry, hentry⟩ := Option.ne_none_iff_exists'.mp (FileSystem.mem_namesAt_iff.mp h.mem)
  have hsame := FileSystem.sameFiles_listedFirst hentry
  refine ⟨_, hsame, ?_⟩
  have hnames := fs.namesAt_listedFirst place name entry
  have hlisted := FileSystem.list_eq_ok_iff.mpr
    ⟨place, ⟨(hsame.locate store.root).trans hlocate, (hsame.entry_eq place).trans hdir⟩, rfl⟩
  have hfirst : (named ((fs.listedFirst (place ++ [name]) entry).namesAt place) id).head? =
      some name := by
    have hfore : Foremost ((fs.listedFirst (place ++ [name]) entry).namesAt place) id name := by
      refine h.congr fun other => ?_
      rw [FileSystem.mem_namesAt_iff, FileSystem.mem_namesAt_iff, hsame.entry_eq]
    have hnodup := (fs.listedFirst (place ++ [name]) entry).nodup_namesAt place
    rw [hnames] at hfore hnodup ⊢
    exact head?_named_cons hnodup hfore
  obtain ⟨rest, hnamed⟩ := List.head?_eq_some_iff.mp hfirst
  rw [load_of_filesOf_cons ((filesOf_of_list hlisted).trans (congrArg Except.ok hnamed)),
    readFile_of_sameFiles hsame]

/-- What is loaded, if anything, is in one of the files with the best extension. -/
theorem load_of_finds (h : Finds store fs names) (id : String) :
    store.load fs id = .ok none ∨ ∃ name, Foremost names id name ∧
      store.load fs id = (store.readFile fs id (store.path name)).map some := by
  have hfiles := h.filesOf_eq id
  cases hnamed : named names id with
  | nil => exact .inl (h.load_eq_none_iff.mpr (named_eq_nil_iff.mp hnamed))
  | cons first rest =>
    rw [hnamed] at hfiles
    refine .inr ⟨first, foremost_of_head? ?_, load_of_filesOf_cons hfiles⟩
    rw [hnamed]
    rfl

/-- Where all files with the best extension read the same, the order does not show. -/
theorem load_of_sameFiles (hsame : fs.SameFiles fs')
    (hread : ∀ names, fs.list store.root = .ok names →
      ∀ a b, Foremost names id a → Foremost names id b →
        store.readFile fs id (store.path a) = store.readFile fs id (store.path b)) :
    store.load fs' id = store.load fs id := by
  cases hlist : fs.list store.root with
  | error e =>
    have hlist' := hsame.list_eq_error hlist
    have hfiles : store.filesOf fs' id = store.filesOf fs id := by
      unfold filesOf files
      rw [hlist, hlist']
    cases hfound : store.filesOf fs id with
    | error cause =>
      rw [load_of_filesOf_error hfound, load_of_filesOf_error (hfiles.trans hfound)]
    | ok found =>
      obtain ⟨all, hfinds, rfl⟩ := exists_finds_of_filesOf hfound
      cases hfinds with
      | there hthere => cases hlist.symm.trans hthere
      | missing hmissing => exact load_congr hfound (hfiles.trans hfound) (by simp [named_nil])
  | ok names =>
    have h : Finds store fs names := .there hlist
    obtain ⟨names', h', hnames⟩ := h.of_sameFiles hsame
    have hnone : store.load fs' id = .ok none ↔ store.load fs id = .ok none := by
      rw [h.load_eq_none_iff, h'.load_eq_none_iff]
      simp only [hnames]
    rcases load_of_finds h id with hload | ⟨a, ha, hload⟩
    · rw [hload, hnone.mpr hload]
    · rcases load_of_finds h' id with hload' | ⟨b, hb, hload'⟩
      · rw [hload', hnone.mp hload']
      · have hb' : Foremost names id b := hb.congr fun other => (hnames other).symm
        rw [hload, hload', readFile_of_sameFiles hsame, hread names hlist a b ha hb']

/-- What is loaded does not depend on the order in which the files are listed if and only if all
    files of the workflow with the best extension, in large or small letters, read the same. -/
theorem loadsAlike_iff : LoadsAlike store fs id ↔ ∀ names, fs.list store.root = .ok names →
    ∀ a b, Foremost names id a → Foremost names id b →
      store.readFile fs id (store.path a) = store.readFile fs id (store.path b) := by
  constructor
  · intro halike names hlist a b ha hb
    obtain ⟨listed, hlisted, hloadA⟩ := exists_load_of_foremost hlist ha
    obtain ⟨relisted, hrelisted, hloadB⟩ := exists_load_of_foremost hlist hb
    have heq := halike listed relisted hlisted hrelisted
    rw [hloadA, hloadB] at heq
    exact map_some_inj heq
  · intro hread
    have hload : ∀ listed, fs.SameFiles listed → store.load listed id = store.load fs id := by
      intro listed hsame
      exact load_of_sameFiles hsame hread
    exact fun listed relisted hlisted hrelisted =>
      (hload listed hlisted).trans (hload relisted hrelisted).symm

/-- A directory with two versions of a workflow, in files whose names have the extension in large
    and in small letters. -/
def versions : FileSystem :=
  .ofFiles [("flows/a.YAML", .text "{id: a, name: former, steps: []}"),
    ("flows/a.yaml", .text "{id: a, name: current, steps: []}")]

/-- The same directory, with the second file listed first. -/
def relistedVersions : FileSystem :=
  versions.listedFirst (["work", "flows"] ++ ["a.yaml"])
    (.file (.text "{id: a, name: current, steps: []}"))

theorem load_versions :
    (new "flows").load versions "a" = .ok (some (Workflow.new "a" "former")) := by
  have hlist : versions.list "flows" = .ok ["a.YAML", "a.yaml"] := by decide +kernel
  have hsorted : ["a.YAML", "a.yaml"].Pairwise fun a b => comesBefore a b = true := by
    decide +kernel
  refine (load_eq_ok_some_iff hlist).mpr ⟨"a.YAML", ?_, by decide +kernel⟩
  rw [named_of_pairwise hsorted]
  decide +kernel

theorem load_relistedVersions :
    (new "flows").load relistedVersions "a" = .ok (some (Workflow.new "a" "current")) := by
  have hlist : relistedVersions.list "flows" = .ok ["a.yaml", "a.YAML"] := by decide +kernel
  have hsorted : ["a.yaml", "a.YAML"].Pairwise fun a b => comesBefore a b = true := by
    decide +kernel
  refine (load_eq_ok_some_iff hlist).mpr ⟨"a.yaml", ?_, by decide +kernel⟩
  rw [named_of_pairwise hsorted]
  decide +kernel

/-- Of two versions of a workflow in one directory either is loaded, as the files are listed. -/
theorem order_decides_what_is_loaded :
    versions.SameFiles relistedVersions ∧
      (new "flows").load versions "a" = .ok (some (Workflow.new "a" "former")) ∧
      (new "flows").load relistedVersions "a" = .ok (some (Workflow.new "a" "current")) ∧
      ¬ LoadsAlike (new "flows") versions "a" := by
  have hsame : versions.SameFiles relistedVersions :=
    FileSystem.sameFiles_listedFirst (by decide +kernel)
  refine ⟨hsame, load_versions, load_relistedVersions, ?_⟩
  intro halike
  have heq := halike versions relistedVersions (.refl _) hsame
  rw [load_versions, load_relistedVersions] at heq
  have hname := congrArg Workflow.name (Option.some.inj (Except.ok.inj heq))
  exact absurd hname (by decide)

end DirectoryStore

end DeviceFlow
