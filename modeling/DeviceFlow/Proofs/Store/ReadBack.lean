import DeviceFlow.Proofs.Definition.Whole
import DeviceFlow.Proofs.Files.Proper
import DeviceFlow.Proofs.Store.Operation

/-!
# Reading back what has been saved

A saved workflow can be read back exactly when its id is a name that its file can have in the
directory, and no other file of the same id stands in the way. The saving itself looks neither
at the id nor at the other files, so it also succeeds where nothing can be read back.
-/

namespace DeviceFlow

/-- A workflow that is stamped now can be told if now can be told, and the time of its creation. -/
theorem Workflow.tellable_stamp {w : Workflow} {now : Timestamp}
    (hw : ∀ t, w.createdAt = some t → t.Tellable) (hnow : now.Tellable) :
    (w.stamp now).Tellable := by
  constructor
  · intro t ht
    cases hcreated : w.createdAt with
    | none =>
      rw [stamp, hcreated] at ht
      cases ht
      exact hnow
    | some created =>
      rw [stamp, hcreated] at ht
      cases ht
      exact hw _ hcreated
  · rintro t ⟨⟩
    exact hnow

namespace DirectoryStore

open Files

variable {store : DirectoryStore} {fs : FileSystem} {id : String} {place : Place} {s : Workflow}

/-- A saved workflow can be read back by its id: its file stands in the directory of the store,
    it is loaded, it is listed, and it can be deleted. -/
structure ReadsBack (store : DirectoryStore) (fs : FileSystem) (id : String) (s : Workflow) :
    Prop where
  inRoot : ∃ place name, fs.locate store.root = .ok place ∧
    fs.locate (store.savePath id) = .ok (place ++ [name]) ∧
    fs.entry? (place ++ [name]) = some (.file (.text (store.write s)))
  loads : store.load fs id = .ok (some s)
  lists : ∃ ids, store.list fs = .ok ids ∧ id ∈ ids
  deletes : (store.delete fs id).2 = .ok true

/-- Nothing keeps a saved workflow from being read back. The id is the stem of a name, no
    directory has a name for a file of the workflow, and the first file with the preferred
    extension, in any case, is that which was saved, or reads as the same workflow. -/
structure Undisturbed (store : DirectoryStore) (fs : FileSystem) (id : String) (s : Workflow) :
    Prop where
  root : store.root ≠ ""
  nonempty : id ≠ ""
  noSlash : NoSlash id
  noDirectory : ∀ names, fs.list store.root = .ok names → ∀ name ∈ names,
    idOf? name = some id → fs.open? (store.path name) ≠ .ok .directory
  first : ∀ names name, fs.list store.root = .ok names →
    names.find? (preferred id) = some name →
    name = savedName id ∨
      ∃ text, fs.read (store.path name) = .ok text ∧ store.read? .yaml text = some s

/-- The directory of a store is at a place, and holds the file of a workflow under a name that
    can be found there. -/
structure Holds (store : DirectoryStore) (fs : FileSystem) (id : String) (s : Workflow)
    (place : Place) : Prop where
  root : store.root ≠ ""
  nonempty : id ≠ ""
  noSlash : NoSlash id
  fits : Fits (store.path (savedName id))
  roots : fs.Roots store.root place
  size_le : (savedName id).utf8ByteSize ≤ FileSystem.maxNameSize
  entry : fs.entry? (place ++ [savedName id]) = some (.file (.text (store.write s)))

/-- A change that keeps the directories and the file of a workflow. -/
theorem Holds.of_keeps {fs' : FileSystem} (h : Holds store fs id s place)
    (hkeeps : fs.KeepsDirectories fs')
    (hentry : fs'.entry? (place ++ [savedName id]) = fs.entry? (place ++ [savedName id])) :
    Holds store fs' id s place :=
  { h with
    roots := hkeeps.roots h.roots
    entry := hentry.trans h.entry }

/-- A file that could be written is in the directory if its id can be a part of a name there. -/
theorem exists_holds_of_write {fs' : FileSystem}
    (hwrite : fs.write (store.savePath id) (.text (store.write s)) = .ok fs')
    (hroot : store.root ≠ "") (hid : id ≠ "") (hslash : NoSlash id) :
    ∃ place, fs.Roots store.root place ∧
      fs.entry? (place ++ [savedName id]) ≠ some .directory ∧
      fs' = fs.put (place ++ [savedName id]) (.file (.text (store.write s))) ∧
      Holds store fs' id s place := by
  have hplain := (named_savedName hid).plainName hslash
  obtain ⟨target, hnew, hdir, rfl⟩ := FileSystem.write_eq_ok_iff.mp hwrite
  have hlocate := (FileSystem.locateNew_join hroot hplain).mp hnew
  obtain ⟨hfits, place, hroots, hsize, rfl⟩ :=
    (FileSystem.locate_join_iff hroot hplain).mp hlocate
  refine ⟨place, hroots, hdir, rfl, hroot, hid, hslash, hfits, ?_, hsize, ?_⟩
  · exact (FileSystem.KeepsDirectories.put hdir).roots hroots
  · rw [FileSystem.entry?_put (by simp), if_pos rfl]

/-- The file is in the directory after saving if the id can be a part of a name there. -/
theorem exists_holds_of_save {fs' fs'' : FileSystem} {now : Timestamp} {w : Workflow}
    (hsave : store.save fs now w = (fs', .ok s)) (hsame : fs'.SameFiles fs'')
    (hroot : store.root ≠ "") (hid : w.id ≠ "") (hslash : NoSlash w.id) :
    ∃ place, Holds store fs'' w.id s place := by
  obtain ⟨_, made, _, hwrite⟩ := exists_of_save hsave
  obtain ⟨place, _, _, _, hholds⟩ := exists_holds_of_write hwrite hroot hid hslash
  refine ⟨place, hholds.of_keeps hsame.left.keepsDirectories ?_⟩
  rw [hsame.left.entry _ _ hholds.entry, hholds.entry]

namespace Holds

variable (h : Holds store fs id s place)

include h

theorem locate_root : fs.locate store.root = .ok place ∧ fs.entry? place = some .directory :=
  have hsaved := (named_savedName h.nonempty).noSlash h.noSlash
  FileSystem.locate_root_iff.mpr ⟨h.fits.of_join h.root hsaved, h.roots⟩

theorem list : fs.list store.root = .ok (fs.namesAt place) :=
  FileSystem.list_eq_ok_iff.mpr ⟨place, h.locate_root, rfl⟩

/-- Every file of the workflow is found under its path. -/
theorem locate {name : String} (hname : idOf? name = some id) :
    fs.locate (store.path name) = .ok (place ++ [name]) := by
  obtain ⟨ext, hnamed⟩ := idOf?_eq_some_iff.mp hname
  have hplain := hnamed.plainName h.noSlash
  have hsaved := (named_savedName h.nonempty).noSlash h.noSlash
  have hidZero : '\x00' ∉ id.toList := by
    intro hmem
    apply h.fits.noZero
    unfold path
    rw [toList_join h.root hsaved]
    unfold savedName
    simp [hmem]
  have hzero := hnamed.not_mem (by decide) (by decide) hidZero
  have hfits := h.fits.join h.root hsaved hplain.noSlash hzero hnamed.size_le
  have hsize := Nat.le_trans hnamed.size_le h.size_le
  exact (FileSystem.locate_join_iff h.root hplain).mpr ⟨hfits, place, h.roots, hsize, rfl⟩

theorem locate_saved : fs.locate (store.savePath id) = .ok (place ++ [savedName id]) :=
  h.locate (idOf?_savedName h.nonempty)

theorem read_saved : fs.read (store.path (savedName id)) = .ok (store.write s) :=
  FileSystem.read_eq_ok_iff.mpr
    (FileSystem.open?_eq_ok_iff.mpr ⟨_, h.locate_saved, h.entry⟩)

theorem mem_namesAt : savedName id ∈ fs.namesAt place := by
  rw [FileSystem.mem_namesAt_iff, h.entry]
  simp

/-- The first file of the workflow is the first of those with the preferred extension, of
    which there is at least the saved one. -/
theorem exists_first : ∃ name, (fs.namesAt place).find? (preferred id) = some name ∧
    (named (fs.namesAt place) id).head? = some name := by
  have hpreferred : preferred id (savedName id) = true :=
    preferred_iff.mpr ⟨idOf?_savedName h.nonempty, rank?_savedName h.nonempty⟩
  have hsome : ((fs.namesAt place).find? (preferred id)).isSome :=
    List.find?_isSome.mpr ⟨_, h.mem_namesAt, hpreferred⟩
  obtain ⟨name, hname⟩ := Option.isSome_iff_exists.mp hsome
  exact ⟨name, hname, head?_named (FileSystem.nodup_namesAt place) hname⟩

/-- What is loaded is what the first file with the preferred extension reads as. -/
theorem load_iff : store.load fs id = .ok (some s) ↔ ∃ name text,
    (fs.namesAt place).find? (preferred id) = some name ∧
    fs.read (store.path name) = .ok text ∧ store.read? .yaml text = some s := by
  obtain ⟨first, hfirst, hhead⟩ := h.exists_first
  obtain ⟨hid, hrank⟩ := preferred_iff.mp (List.find?_some hfirst)
  have hformat := formatOf_path h.root h.noSlash hid hrank
  rw [load_eq_ok_some_iff h.list, hfirst, hhead]
  constructor
  · rintro ⟨_, heq, hread⟩
    cases heq
    obtain ⟨text, htext, hread⟩ := readFile_eq_ok_iff.mp hread
    rw [hformat] at hread
    exact ⟨first, text, rfl, htext, hread⟩
  · rintro ⟨_, text, heq, htext, hread⟩
    cases heq
    rw [← hformat] at hread
    exact ⟨first, rfl, readFile_eq_ok_iff.mpr ⟨text, htext, hread⟩⟩

/-- The files of the workflow can be deleted when none of them is a directory. -/
theorem delete_iff : (store.delete fs id).2 = .ok true ↔ ∀ name ∈ fs.namesAt place,
    idOf? name = some id → fs.open? (store.path name) ≠ .ok .directory := by
  rw [delete_eq_ok_true_iff h.list]
  constructor
  · rintro ⟨_, after, hremove⟩ name hmem hid hdir
    obtain ⟨content, hfile⟩ := file_of_removeAll hremove name (mem_named.mpr ⟨hmem, hid⟩)
    rw [hdir] at hfile
    cases hfile
  · intro hdirs
    have hmem := mem_named.mpr ⟨h.mem_namesAt, idOf?_savedName h.nonempty⟩
    refine ⟨List.ne_nil_of_mem hmem, ?_⟩
    have hfiles : ∀ name ∈ named (fs.namesAt place) id,
        fs.locate (store.path name) = .ok (place ++ [name]) ∧
          ∃ content, fs.entry? (place ++ [name]) = some (.file content) := by
      intro name hname
      obtain ⟨hmem, hid⟩ := mem_named.mp hname
      have hlocate := h.locate hid
      refine ⟨hlocate, ?_⟩
      obtain ⟨entry, hentry⟩ :=
        Option.ne_none_iff_exists'.mp (FileSystem.mem_namesAt_iff.mp hmem)
      cases entry with
      | directory =>
        have hdir := FileSystem.open?_eq_ok_iff.mpr ⟨_, hlocate, hentry⟩
        exact absurd hdir (hdirs name hmem hid)
      | file content => exact ⟨content, hentry⟩
    exact removeAll_eq_ok (nodup_named (FileSystem.nodup_namesAt place)) hfiles

end Holds

/-- Saving leaves a tree proper, wherever the file is written. -/
theorem proper_of_save {fs' : FileSystem} {now : Timestamp} {w : Workflow} (hproper : fs.Proper)
    (hsave : store.save fs now w = (fs', .ok s)) : fs'.Proper := by
  obtain ⟨_, made, hmake, hwrite⟩ := exists_of_save hsave
  exact (hproper.makeDirectory hmake).write hwrite

/-- What is listed has an id that the name of a file can start with. -/
theorem id_of_mem_list (hproper : fs.Proper) {ids : List String}
    (hlist : store.list fs = .ok ids) (hid : id ∈ ids) :
    store.root ≠ "" ∧ id ≠ "" ∧ NoSlash id := by
  obtain ⟨names, hnames, name, hmem, hname⟩ := exists_of_mem_list hlist hid
  obtain ⟨ext, hnamed⟩ := idOf?_eq_some_iff.mp hname
  obtain ⟨place, ⟨hlocate, _⟩, rfl⟩ := FileSystem.list_eq_ok_iff.mp hnames
  have hslash : NoSlash name :=
    hproper.place _ (FileSystem.mem_namesAt_iff.mp hmem) name (by simp)
  have hfits := (FileSystem.locate_eq_ok_iff.mp hlocate).1
  exact ⟨hfits.nonempty, hnamed.nonempty, hnamed.noSlash_id hslash⟩

/-- A workflow that has been saved can be read back if and only if nothing in the directory
    disturbs it, in whatever order the files are listed. -/
theorem readsBack_iff_undisturbed {fs' fs'' : FileSystem} {now : Timestamp} {w : Workflow}
    (hproper : fs.Proper) (hsave : store.save fs now w = (fs', .ok s))
    (hread : store.read? .yaml (store.write s) = some s) (hsame : fs'.SameFiles fs'') :
    ReadsBack store fs'' w.id s ↔ Undisturbed store fs'' w.id s := by
  constructor
  · intro hback
    have hproper'' := (proper_of_save hproper hsave).of_within hsame.right
    obtain ⟨ids, hlist, hmem⟩ := hback.lists
    obtain ⟨hroot, hid, hslash⟩ := id_of_mem_list hproper'' hlist hmem
    obtain ⟨place, hholds⟩ := exists_holds_of_save hsave hsame hroot hid hslash
    obtain ⟨first, text, hfirst, htext⟩ := hholds.load_iff.mp hback.loads
    refine ⟨hroot, hid, hslash, ?_, ?_⟩
    · rw [hholds.list]
      rintro _ ⟨⟩
      exact hholds.delete_iff.mp hback.deletes
    · rw [hholds.list]
      rintro _ name ⟨⟩ hname
      rw [hfirst] at hname
      cases hname
      exact .inr ⟨text, htext⟩
  · intro hquiet
    obtain ⟨place, hholds⟩ :=
      exists_holds_of_save hsave hsame hquiet.root hquiet.nonempty hquiet.noSlash
    obtain ⟨ids, hlist, hmem⟩ := list_of_list hholds.list
    refine ⟨?_, ?_, ?_, ?_⟩
    · exact ⟨place, _, hholds.locate_root.1, hholds.locate_saved, hholds.entry⟩
    · obtain ⟨name, hname, _⟩ := hholds.exists_first
      refine hholds.load_iff.mpr ⟨name, ?_⟩
      rcases hquiet.first _ name hholds.list hname with rfl | ⟨text, htext⟩
      · exact ⟨_, hname, hholds.read_saved, hread⟩
      · exact ⟨text, hname, htext⟩
    · refine ⟨ids, hlist, (hmem w.id).mpr ?_⟩
      exact ⟨_, hholds.mem_namesAt, idOf?_savedName hquiet.nonempty⟩
    · exact hholds.delete_iff.mpr (hquiet.noDirectory _ hholds.list)

deriving instance DecidableEq for Except

/-- A workflow that does nothing. -/
def startOnly (id : String) : Workflow := .ofSteps id [Step.new "start" .start]

/-- The moment at which the workflows of the examples are saved. -/
def newYear : Timestamp := ⟨2024, 1, 1, 0, 0, 0, 0⟩

/-- What saving a workflow that does nothing leaves, where nothing has been before. -/
def afterSave (id : String) : FileSystem :=
  ((new "flows").save .empty newYear (startOnly id)).1

theorem save_startOnly (id : String)
    (h : ((new "flows").save .empty newYear (startOnly id)).2 =
      .ok ((startOnly id).stamp newYear)) :
    (new "flows").save .empty newYear (startOnly id) =
      (afterSave id, .ok ((startOnly id).stamp newYear)) :=
  Prod.ext rfl h

/-- A store reads what it has written for a workflow whose tree is read back. -/
theorem read_write_of_readsBack (root : String) {w : Workflow} (hw : w.Tellable)
    (h : Document.ReadsBack .yaml w.encode) :
    (new root).read? .yaml ((new root).write w) = some w := by
  dsimp only [new]
  exact Workflow.ofText?_toText hw h

theorem tellable_startOnly_stamp (id : String) : ((startOnly id).stamp newYear).Tellable :=
  Workflow.tellable_stamp nofun (by decide)

/-- What is written for a workflow that does nothing can be read. -/
theorem read_write_startOnly_login : (new "flows").read? .yaml
    ((new "flows").write ((startOnly "login").stamp newYear)) =
      some ((startOnly "login").stamp newYear) := by
  have hyaml : Document.ReadsBack .yaml ((startOnly "login").stamp newYear).encode :=
    Workflow.readsBack_yaml_of_chars (by decide +kernel)
  exact read_write_of_readsBack "flows" (tellable_startOnly_stamp "login") hyaml

/-- A workflow with an id like most others is read back. -/
theorem readsBack_login :
    (new "flows").save .empty newYear (startOnly "login") =
        (afterSave "login", .ok ((startOnly "login").stamp newYear)) ∧
      ReadsBack (new "flows") (afterSave "login") "login" ((startOnly "login").stamp newYear) := by
  have hsave := save_startOnly "login" (by decide +kernel)
  have hread := read_write_startOnly_login
  have hlist : (afterSave "login").list "flows" = .ok ["login.yaml"] := by decide +kernel
  have hquiet : Undisturbed (new "flows") (afterSave "login") "login"
      ((startOnly "login").stamp newYear) := by
    refine ⟨by decide, by decide, by unfold NoSlash; decide, ?_, ?_⟩
    · intro names hnames name hname _
      have heq := hlist.symm.trans hnames
      cases heq
      rw [List.mem_singleton.mp hname]
      decide +kernel
    · intro names name hnames hname
      have heq := hlist.symm.trans hnames
      cases heq
      exact .inl (List.mem_singleton.mp (List.mem_of_find?_eq_some hname))
  have hiff := readsBack_iff_undisturbed FileSystem.proper_empty hsave hread (.refl _)
  exact ⟨hsave, hiff.mpr hquiet⟩

/-- A workflow with an id that leads out of the directory is saved beside it, and is neither
    loaded, nor listed, nor deleted. -/
theorem saved_outside_is_lost :
    (new "flows").save .empty newYear (startOnly "../x") =
        (afterSave "../x", .ok ((startOnly "../x").stamp newYear)) ∧
      (afterSave "../x").contains "x.yaml" = true ∧
      (new "flows").load (afterSave "../x") "../x" = .ok none ∧
      (new "flows").list (afterSave "../x") = .ok [] ∧
      ((new "flows").delete (afterSave "../x") "../x").2 = .ok false := by
  refine ⟨save_startOnly "../x" (by decide +kernel), ?_, ?_, ?_, ?_⟩
  · decide +kernel
  · decide +kernel
  · decide +kernel
  · decide +kernel

end DirectoryStore

end DeviceFlow
