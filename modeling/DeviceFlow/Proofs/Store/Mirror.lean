import DeviceFlow.Proofs.Files.Directory
import DeviceFlow.Proofs.Store.ReadBack
import DeviceFlow.Store.Memory

/-!
# A directory that mirrors a store in memory

The directory of a store mirrors a store in memory when it holds one file for each workflow
there, under the name in which the workflow is saved, and nothing else. Every operation then
has the same result in both stores, and the directory mirrors the store in memory again.
-/

namespace DeviceFlow

open Files

theorem Dict.erase_eq_self {κ α : Type} [DecidableEq κ] {d : Dict κ α} {name : κ}
    (h : d.get? name = none) : d.erase name = d := by
  have hentries : d.entries.filter (·.1 ≠ name) = d.entries := by
    rw [List.filter_eq_self]
    intro entry hentry
    rw [decide_eq_true_iff]
    rintro rfl
    exact mem_keys_iff.mp (List.mem_map_of_mem hentry) h
  unfold erase
  cases d
  congr

namespace MemoryStore

theorem list_empty : empty.list = [] := List.mergeSort_nil

variable (mem : MemoryStore)

theorem mem_list_iff {id : String} : id ∈ mem.list ↔ mem.get? id ≠ none := by
  unfold list
  rw [List.mem_mergeSort, Dict.mem_keys_iff]

theorem nodup_list : mem.list.Nodup := (List.mergeSort_perm _ _).nodup_iff.mpr mem.nodup

theorem pairwise_list : mem.list.Pairwise (· ≤ ·) := by
  unfold list
  refine (List.pairwise_mergeSort ?_ ?_ mem.keys).imp of_decide_eq_true
  · intro a b c hab hbc
    rw [decide_eq_true_iff] at hab hbc ⊢
    exact String.le_trans hab hbc
  · intro a b
    rw [Bool.or_eq_true, decide_eq_true_iff, decide_eq_true_iff]
    exact String.le_total a b

end MemoryStore

namespace DirectoryStore

variable {store : DirectoryStore} {fs fs' : FileSystem} {mem : MemoryStore} {place : Place}
  {id : String} {w : Workflow}

theorem savedName_inj {a b : String} (h : savedName a = savedName b) : a = b :=
  (String.append_left_inj ".yaml").mp h

theorem pairwise_dropRepeats {ids : List String} (h : ids.Pairwise (· ≤ ·)) :
    (dropRepeats ids).Pairwise (· < ·) := by
  induction ids with
  | nil => simp [dropRepeats]
  | cons a rest ih =>
    obtain ⟨ha, hrest⟩ := List.pairwise_cons.mp h
    cases rest with
    | nil => simp [dropRepeats]
    | cons b rest =>
      rw [dropRepeats]
      split
      · exact ih hrest
      · rename_i hne
        refine List.pairwise_cons.mpr ⟨?_, ih hrest⟩
        intro x hx
        -- What is repeated stands in one piece, so nothing after `b` is `a` again.
        have hbx : b ≤ x := by
          rcases List.mem_cons.mp (mem_dropRepeats.mp hx) with rfl | hx
          · exact String.le_refl x
          · exact (List.pairwise_cons.mp hrest).1 x hx
        refine String.not_le.mp fun hxa => hne ?_
        exact String.le_antisymm (ha b List.mem_cons_self) (String.le_trans hbx hxa)

/-- Whatever is in a directory, the ids are listed in order, and each of them once. -/
theorem pairwise_of_list {ids : List String} (h : store.list fs = .ok ids) :
    ids.Pairwise (· < ·) := by
  unfold list files at h
  split at h
  · rename_i names _
    cases h
    refine pairwise_dropRepeats ?_
    rw [List.pairwise_filterMap]
    refine (List.pairwise_mergeSort comesBefore_trans comesBefore_total _).imp ?_
    intro a b hab ida hida idb hidb
    rw [comesBefore_iff, hida, hidb] at hab
    simp only [Option.getD_some] at hab
    split at hab
    · rename_i heq
      subst heq
      exact String.le_refl ida
    · exact hab
  · cases h
    exact List.Pairwise.nil
  · cases h

/-- A directory that mirrors a store in memory. -/
structure Mirrors (store : DirectoryStore) (fs : FileSystem) (mem : MemoryStore)
    (place : Place) : Prop where
  locates : fs.locate store.root = .ok place
  directory : fs.entry? place = some .directory
  /-- Every file in the directory is that of a workflow in the store in memory. -/
  saved : ∀ name, fs.entry? (place ++ [name]) ≠ none →
    ∃ id, name = savedName id ∧ mem.get? id ≠ none
  holds : ∀ id w, mem.get? id = some w → Holds store fs id w place
  /-- What has been written can be read. -/
  reads : ∀ id w, mem.get? id = some w → store.read? .yaml (store.write w) = some w

/-- An empty directory mirrors the empty store. -/
theorem exists_mirrors_of_list (h : fs.list store.root = .ok []) :
    ∃ place, Mirrors store fs .empty place := by
  obtain ⟨place, ⟨hlocate, hdir⟩, hnames⟩ := FileSystem.list_eq_ok_iff.mp h
  refine ⟨place, hlocate, hdir, ?_, ?_, ?_⟩
  · intro name hname
    exact absurd (FileSystem.namesAt_eq_nil_iff.mp hnames.symm name) hname
  · rintro _ _ ⟨⟩
  · rintro _ _ ⟨⟩

namespace Mirrors

variable (h : Mirrors store fs mem place)

include h

theorem root : store.root ≠ "" := (FileSystem.locate_eq_ok_iff.mp h.locates).1.nonempty

theorem roots : fs.Roots store.root place :=
  (FileSystem.locate_root_iff.mp ⟨h.locates, h.directory⟩).2

theorem list_root : fs.list store.root = .ok (fs.namesAt place) :=
  FileSystem.list_eq_ok_iff.mpr ⟨place, ⟨h.locates, h.directory⟩, rfl⟩

/-- The names in the directory are those of the files of the workflows in memory. -/
theorem mem_namesAt_iff {name : String} :
    name ∈ fs.namesAt place ↔ ∃ id w, mem.get? id = some w ∧ name = savedName id := by
  constructor
  · intro hmem
    obtain ⟨id, rfl, hid⟩ := h.saved name (FileSystem.mem_namesAt_iff.mp hmem)
    obtain ⟨w, hw⟩ := Option.ne_none_iff_exists'.mp hid
    exact ⟨id, w, hw, rfl⟩
  · rintro ⟨id, w, hw, rfl⟩
    exact (h.holds id w hw).mem_namesAt

theorem mem_namesAt_and_idOf?_iff {name : String} :
    name ∈ fs.namesAt place ∧ idOf? name = some id ↔
      ∃ w, mem.get? id = some w ∧ name = savedName id := by
  rw [h.mem_namesAt_iff]
  constructor
  · rintro ⟨⟨other, w, hw, rfl⟩, hid⟩
    rw [idOf?_savedName (h.holds other w hw).nonempty] at hid
    cases hid
    exact ⟨w, hw, rfl⟩
  · rintro ⟨w, hw, rfl⟩
    exact ⟨⟨id, w, hw, rfl⟩, idOf?_savedName (h.holds id w hw).nonempty⟩

theorem named_of_some (hw : mem.get? id = some w) :
    named (fs.namesAt place) id = [savedName id] := by
  have hnodup : (named (fs.namesAt place) id).Nodup :=
    nodup_named (FileSystem.nodup_namesAt place)
  refine List.perm_singleton.mp ?_
  rw [List.perm_ext_iff_of_nodup hnodup (by simp)]
  intro name
  rw [mem_named, h.mem_namesAt_and_idOf?_iff, List.mem_singleton]
  simp [hw]

theorem named_of_none (hw : mem.get? id = none) : named (fs.namesAt place) id = [] := by
  rw [List.eq_nil_iff_forall_not_mem]
  intro name hname
  obtain ⟨w, hw', _⟩ := h.mem_namesAt_and_idOf?_iff.mp (mem_named.mp hname)
  rw [hw] at hw'
  cases hw'

/-- The same workflow is loaded. -/
theorem load_eq (id : String) : store.load fs id = .ok (mem.load id) := by
  unfold MemoryStore.load
  cases hw : mem.get? id with
  | none =>
    unfold load
    rw [filesOf_of_list h.list_root, h.named_of_none hw]
    rfl
  | some w =>
    have hholds := h.holds id w hw
    have hid := idOf?_savedName hholds.nonempty
    have hformat := formatOf_path h.root hholds.noSlash hid (rank?_savedName hholds.nonempty)
    refine (load_eq_ok_some_iff h.list_root).mpr ⟨savedName id, ?_, ?_⟩
    · rw [h.named_of_some hw]
      rfl
    · refine readFile_eq_ok_iff.mpr ⟨store.write w, hholds.read_saved, ?_⟩
      rw [hformat]
      exact h.reads id w hw

/-- The same ids are listed in the same order. -/
theorem list_eq : store.list fs = .ok mem.list := by
  obtain ⟨ids, hids, hmem⟩ := list_of_list h.list_root
  have hsorted := pairwise_of_list hids
  have hnodup : ids.Nodup := by
    refine hsorted.imp ?_
    rintro a _ hlt rfl
    exact String.lt_irrefl a hlt
  have hle : ids.Pairwise (· ≤ ·) := by
    refine hsorted.imp ?_
    intro a b hlt
    exact (String.le_total a b).resolve_right (String.not_le.mpr hlt)
  have hperm : ids.Perm mem.list := by
    rw [List.perm_ext_iff_of_nodup hnodup mem.nodup_list]
    intro id
    rw [hmem, mem.mem_list_iff, Option.ne_none_iff_exists']
    simp only [h.mem_namesAt_and_idOf?_iff]
    simp
  have heq := hperm.eq_of_pairwise (fun _ _ _ _ => String.le_antisymm) hle mem.pairwise_list
  rw [hids, heq]

/-- Deleting removes the one file of a workflow that is there. -/
theorem delete_eq (id : String) : store.delete fs id =
    (if mem.contains id then fs.without (place ++ [savedName id]) else fs,
      .ok (mem.contains id)) := by
  unfold delete Dict.contains
  rw [filesOf_of_list h.list_root]
  cases hw : mem.get? id with
  | none =>
    rw [h.named_of_none hw]
    rfl
  | some w =>
    have hholds := h.holds id w hw
    have hremove : fs.remove (store.path (savedName id)) =
        .ok (fs.without (place ++ [savedName id])) :=
      FileSystem.remove_eq_ok_iff.mpr ⟨_, _, hholds.locate_saved, hholds.entry, rfl⟩
    rw [h.named_of_some hw]
    dsimp only
    rw [removeAll_cons, hremove]
    rfl

/-- The order in which the files are listed does not matter. -/
theorem of_sameFiles (hsame : fs.SameFiles fs') : Mirrors store fs' mem place := by
  refine ⟨?_, ?_, ?_, ?_, h.reads⟩
  · rw [hsame.locate, h.locates]
  · rw [hsame.entry_eq, h.directory]
  · intro name hname
    rw [hsame.entry_eq] at hname
    exact h.saved name hname
  · intro id w hw
    exact (h.holds id w hw).of_keeps hsame.left.keepsDirectories (hsame.entry_eq _)

/-- Both stores may change under one id, if they change there alike. -/
theorem of_change (id : String) {mem' : MemoryStore} (hkeeps : fs.KeepsDirectories fs')
    (hentries : ∀ name, name ≠ savedName id →
      fs'.entry? (place ++ [name]) = fs.entry? (place ++ [name]))
    (hothers : ∀ other, other ≠ id → mem'.get? other = mem.get? other)
    (hnone : mem'.get? id = none → fs'.entry? (place ++ [savedName id]) = none)
    (hsome : ∀ w, mem'.get? id = some w →
      Holds store fs' id w place ∧ store.read? .yaml (store.write w) = some w) :
    Mirrors store fs' mem' place := by
  refine ⟨hkeeps.locate h.locates, hkeeps.directory _ h.directory, ?_, ?_, ?_⟩
  · intro name hname
    by_cases heq : name = savedName id
    · subst heq
      exact ⟨id, rfl, fun hmem => hname (hnone hmem)⟩
    · rw [hentries name heq] at hname
      obtain ⟨other, rfl, hmem⟩ := h.saved name hname
      refine ⟨other, rfl, ?_⟩
      rwa [hothers other fun hother => heq (congrArg savedName hother)]
  · intro other w hw
    by_cases heq : other = id
    · subst heq
      exact (hsome w hw).1
    · rw [hothers other heq] at hw
      exact (h.holds other w hw).of_keeps hkeeps (hentries _ fun hname => heq (savedName_inj hname))
  · intro other w hw
    by_cases heq : other = id
    · subst heq
      exact (hsome w hw).2
    · rw [hothers other heq] at hw
      exact h.reads other w hw

/-- After the file of a workflow has been written, the workflow is in memory too. -/
theorem of_write (hwrite : fs.write (store.savePath w.id) (.text (store.write w)) = .ok fs')
    (hid : w.id ≠ "") (hslash : NoSlash w.id)
    (hread : store.read? .yaml (store.write w) = some w) :
    Mirrors store fs' (mem.put w) place := by
  obtain ⟨place', hroots, hfile, rfl, hholds⟩ := exists_holds_of_write hwrite h.root hid hslash
  obtain rfl : place = place' := Except.ok.inj (h.roots.1.symm.trans hroots.1)
  have hget : ∀ other, (mem.put w).get? other = if w.id = other then some w else mem.get? other :=
    fun other => Dict.get?_insert ..
  refine h.of_change w.id (.put hfile) ?_ ?_ ?_ ?_
  · intro name hne
    rw [FileSystem.entry?_put (by simp), if_neg]
    simpa using Ne.symm hne
  · intro other hne
    rw [hget, if_neg (Ne.symm hne)]
  · intro hnone
    rw [hget, if_pos rfl] at hnone
    cases hnone
  · intro found hfound
    rw [hget, if_pos rfl] at hfound
    cases hfound
    exact ⟨hholds, hread⟩

/-- After the file of a workflow has been removed, the workflow is not in memory either. -/
theorem of_without (hw : mem.get? id = some w) :
    Mirrors store (fs.without (place ++ [savedName id])) (mem.erase id) place := by
  have hfile : fs.entry? (place ++ [savedName id]) ≠ some .directory := by
    rw [(h.holds id w hw).entry]
    simp
  refine h.of_change id (.without hfile) ?_ ?_ ?_ ?_
  · intro name hne
    rw [FileSystem.entry?_without (by simp), if_neg]
    simpa using Ne.symm hne
  · intro other hne
    rw [Dict.get?_erase, if_neg (Ne.symm hne)]
  · intro _
    rw [FileSystem.entry?_without (by simp), if_pos rfl]
  · intro found hfound
    rw [Dict.get?_erase, if_pos rfl] at hfound
    cases hfound

/-- Deleting has the same effect on both. -/
theorem of_delete (id : String) : (store.delete fs id).2 = .ok (mem.delete id).2 ∧
    Mirrors store (store.delete fs id).1 (mem.delete id).1 place := by
  unfold MemoryStore.delete
  rw [h.delete_eq]
  refine ⟨rfl, ?_⟩
  dsimp only
  unfold Dict.contains
  cases hw : mem.get? id with
  | none =>
    rw [Dict.erase_eq_self hw]
    exact h
  | some w => exact h.of_without hw

end Mirrors

end DirectoryStore

end DeviceFlow
