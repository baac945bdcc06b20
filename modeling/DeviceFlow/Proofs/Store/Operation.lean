import DeviceFlow.Proofs.Store.Listing

/-!
# What the operations of a store in a directory do

Loading, listing and deleting go by the names in the directory; saving goes by the path of the
file alone.
-/

namespace DeviceFlow

namespace DirectoryStore

open Files

variable {store : DirectoryStore} {fs fs' : FileSystem} {id : String} {names : List String}

theorem files_of_list (h : fs.list store.root = .ok names) :
    store.files fs =
      .ok ((names.filter fun name => (idOf? name).isSome).mergeSort comesBefore) := by
  unfold files
  rw [h]

theorem filesOf_of_list (h : fs.list store.root = .ok names) :
    store.filesOf fs id = .ok (named names id) := by
  unfold filesOf
  rw [files_of_list h]
  rfl

theorem mem_dropRepeats {ids : List String} : id ∈ dropRepeats ids ↔ id ∈ ids := by
  induction ids with
  | nil => simp [dropRepeats]
  | cons a rest ih =>
    cases rest with
    | nil => simp [dropRepeats]
    | cons b rest =>
      rw [dropRepeats]
      split
      · rename_i heq
        rw [ih, heq]
        simp
      · rw [List.mem_cons, ih, ← List.mem_cons]

/-- The ids that are listed are those of the names in the directory. -/
theorem list_of_list (h : fs.list store.root = .ok names) :
    ∃ ids, store.list fs = .ok ids ∧ ∀ id, id ∈ ids ↔ ∃ name ∈ names, idOf? name = some id := by
  unfold list
  rw [files_of_list h]
  refine ⟨_, rfl, ?_⟩
  intro id
  rw [mem_dropRepeats, List.mem_filterMap]
  constructor
  · rintro ⟨name, hmem, hid⟩
    rw [List.mem_mergeSort, List.mem_filter] at hmem
    exact ⟨name, hmem.1, hid⟩
  · rintro ⟨name, hmem, hid⟩
    refine ⟨name, ?_, hid⟩
    rw [List.mem_mergeSort, List.mem_filter, hid]
    exact ⟨hmem, rfl⟩

/-- Where an id is listed, there is a directory, and a file with this id in it. -/
theorem exists_of_mem_list {ids : List String} (h : store.list fs = .ok ids) (hid : id ∈ ids) :
    ∃ names, fs.list store.root = .ok names ∧ ∃ name ∈ names, idOf? name = some id := by
  cases hlist : fs.list store.root with
  | ok names =>
    obtain ⟨others, hothers, hmem⟩ := list_of_list hlist
    rw [hothers] at h
    cases h
    exact ⟨names, rfl, (hmem id).mp hid⟩
  | error e =>
    unfold list files at h
    rw [hlist] at h
    cases e <;> cases h
    cases hid

theorem readFile_eq_ok_iff {path : String} {w : Workflow} :
    store.readFile fs id path = .ok w ↔
      ∃ text, fs.read path = .ok text ∧ store.read? (Workflow.formatOf path) text = some w := by
  unfold readFile
  dsimp only
  cases fs.read path with
  | error e =>
    constructor
    · intro h
      cases h
    · rintro ⟨_, h, _⟩
      cases h
  | ok text =>
    constructor
    · intro h
      dsimp only at h
      split at h
      · rename_i hread
        cases h
        exact ⟨text, rfl, hread⟩
      · cases h
    · rintro ⟨_, heq, hread⟩
      cases heq
      dsimp only
      rw [hread]

/-- A workflow is loaded from the first of its files. -/
theorem load_eq_ok_some_iff (hlist : fs.list store.root = .ok names) {w : Workflow} :
    store.load fs id = .ok (some w) ↔ ∃ name, (named names id).head? = some name ∧
      store.readFile fs id (store.path name) = .ok w := by
  unfold load
  rw [filesOf_of_list hlist, bind_eq_ok_iff]
  cases hnamed : named names id with
  | nil =>
    constructor
    · rintro ⟨_, heq, h⟩
      cases heq
      cases h
    · rintro ⟨_, h, _⟩
      cases h
  | cons first rest =>
    constructor
    · rintro ⟨_, heq, h⟩
      cases heq
      obtain ⟨found, hfound, h⟩ := bind_eq_ok_iff.mp h
      cases h
      exact ⟨first, rfl, hfound⟩
    · rintro ⟨_, heq, hfound⟩
      cases heq
      exact ⟨_, rfl, bind_eq_ok_iff.mpr ⟨w, hfound, rfl⟩⟩

theorem removeAll_cons (name : String) : store.removeAll fs (name :: names) =
    match fs.remove (store.path name) with
    | .error e => (fs, failure (store.path name) e)
    | .ok fs => store.removeAll fs names := (rfl)

/-- Whatever has been removed was a file. -/
theorem file_of_removeAll (h : store.removeAll fs names = (fs', .ok ())) :
    ∀ name ∈ names, ∃ content, fs.open? (store.path name) = .ok (.file content) := by
  induction names generalizing fs with
  | nil => simp
  | cons first rest ih =>
    rw [removeAll_cons] at h
    split at h
    · cases h
    · rename_i next hremove
      obtain ⟨content, place, hplace, hentry, rfl⟩ := FileSystem.remove_eq_ok_iff.mp hremove
      intro name hname
      rcases List.mem_cons.mp hname with rfl | hname
      · exact ⟨content, FileSystem.open?_eq_ok_iff.mpr ⟨place, hplace, hentry⟩⟩
      · obtain ⟨content, hopen⟩ := ih h name hname
        exact ⟨content, (FileSystem.within_without fs place).open? hopen⟩

/-- Files that stand under different names in one directory can all be removed. -/
theorem removeAll_eq_ok {place : Place} (hnodup : names.Nodup)
    (hfiles : ∀ name ∈ names, fs.locate (store.path name) = .ok (place ++ [name]) ∧
      ∃ content, fs.entry? (place ++ [name]) = some (.file content)) :
    ∃ fs', store.removeAll fs names = (fs', .ok ()) := by
  induction names generalizing fs with
  | nil => exact ⟨fs, rfl⟩
  | cons first rest ih =>
    obtain ⟨hfirst, hnodup⟩ := List.nodup_cons.mp hnodup
    obtain ⟨hplace, content, hentry⟩ := hfiles first List.mem_cons_self
    have hremove := FileSystem.remove_eq_ok_iff.mpr ⟨content, _, hplace, hentry, rfl⟩
    rw [removeAll_cons, hremove]
    refine ih hnodup ?_
    intro name hname
    obtain ⟨hother, otherContent, hotherEntry⟩ := hfiles name (List.mem_cons_of_mem first hname)
    have hkeeps : fs.KeepsDirectories (fs.without (place ++ [first])) := by
      refine .without ?_
      rw [hentry]
      simp
    refine ⟨hkeeps.locate hother, otherContent, ?_⟩
    rw [FileSystem.entry?_without (by simp), if_neg]
    · exact hotherEntry
    · intro heq
      have hsame : first = name := by simpa using heq
      exact hfirst (hsame ▸ hname)

/-- A deletion that finds something has removed all files of the workflow. -/
theorem delete_eq_ok_true_iff (hlist : fs.list store.root = .ok names) :
    (store.delete fs id).2 = .ok true ↔
      named names id ≠ [] ∧ ∃ fs', store.removeAll fs (named names id) = (fs', .ok ()) := by
  unfold delete
  rw [filesOf_of_list hlist]
  dsimp only
  obtain ⟨after, result⟩ := store.removeAll fs (named names id)
  cases result with
  | error e =>
    constructor
    · intro h
      cases h
    · rintro ⟨_, _, h⟩
      cases h
  | ok _ =>
    constructor
    · intro h
      refine ⟨?_, after, rfl⟩
      intro hempty
      rw [hempty] at h
      cases h
    · rintro ⟨hne, _⟩
      cases hnamed : named names id with
      | nil => exact absurd hnamed hne
      | cons first rest => rfl

/-- What is saved has the id of what was to be saved. -/
theorem id_of_prepare {now : Timestamp} {w s : Workflow}
    (h : store.prepare fs now w = .ok s) : s.id = w.id := by
  unfold prepare at h
  obtain ⟨existing, _, h⟩ := bind_eq_ok_iff.mp h
  unfold Workflow.stamped? at h
  split at h
  · cases h
    rfl
  · cases h

theorem save_of_prepare_error {now : Timestamp} {w : Workflow} {e : StoreError}
    (h : store.prepare fs now w = .error e) : store.save fs now w = (fs, .error e) := by
  unfold save
  rw [h]

theorem exists_save_of_prepare {now : Timestamp} {w s : Workflow}
    (h : store.prepare fs now w = .ok s) (hwritten : (store.writeFile fs s).2 = .ok ()) :
    ∃ fs', store.save fs now w = (fs', .ok s) := by
  refine ⟨(store.save fs now w).1, Prod.ext rfl ?_⟩
  unfold save
  rw [h]
  exact congrArg (Except.map fun _ => s) hwritten

/-- Saving makes the directory, and writes the workflow into its file. -/
theorem exists_of_save {now : Timestamp} {w s : Workflow}
    (h : store.save fs now w = (fs', .ok s)) :
    s.id = w.id ∧ ∃ made, fs.makeDirectory store.root = .ok made ∧
      made.write (store.savePath w.id) (.text (store.write s)) = .ok fs' := by
  unfold save at h
  split at h
  · cases h
  · rename_i saved hprepare
    have hid := id_of_prepare hprepare
    unfold writeFile at h
    rw [hid] at h
    rcases hbuild : fs.buildDirectory store.root with ⟨made, result⟩
    rw [hbuild] at h
    cases result with
    | error e => cases h
    | ok done =>
      have hmake := FileSystem.buildDirectory_eq_ok_iff.mp hbuild
      dsimp only at h
      cases hwrite : made.write (store.savePath w.id) (.text (store.write saved)) with
      | error e =>
        rw [hwrite] at h
        cases h
      | ok written =>
        rw [hwrite] at h
        cases h
        exact ⟨hid, made, hmake, hwrite⟩

end DirectoryStore

end DeviceFlow
