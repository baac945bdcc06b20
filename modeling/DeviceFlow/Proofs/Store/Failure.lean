import DeviceFlow.Proofs.Store.Agreement
import DeviceFlow.Proofs.Store.History

/-!
# Operations that fail

A store in memory changes nothing when it refuses something. A store in a directory looks up and
checks what it saves before it makes its directory, which is empty at first and then shows the same
as a missing one. After that it opens the file, which empties it, so a save that comes to a stop
later leaves a file that has been cut short. A deletion is done file by file, and a file that cannot
be removed has become the preferred one.

Operations may fail for what is in the tree or for troubles of the system, and so may the looks at
the store that tell whether anything has changed.
-/

namespace DeviceFlow

open Files

theorem StoreAnswer.error?_saved_iff {result : Except StoreError Workflow} {e : StoreError} :
    (StoreAnswer.saved result).error? = some e ↔ result = .error e := by
  cases result with
  | error cause => simp [error?]
  | ok saved => simp [error?]

theorem StoreAnswer.error?_deleted_iff {result : Except StoreError Bool} {e : StoreError} :
    (StoreAnswer.deleted result).error? = some e ↔ result = .error e := by
  cases result with
  | error cause => simp [error?]
  | ok found => simp [error?]

/-- A failed operation leaves a store in memory as it was. -/
theorem MemoryStore.perform_of_error {mem : MemoryStore} {operation : StoreOperation}
    {e : StoreError} (h : (mem.perform operation).2.error? = some e) :
    (mem.perform operation).1 = mem := by
  cases operation with
  | load | list => rfl
  | delete id => cases h
  | save now w =>
    unfold perform save at h ⊢
    dsimp only at h ⊢
    split
    · rfl
    · rename_i saved hsaved
      rw [hsaved] at h
      cases h

namespace DirectoryStore

/-- Performs an operation on a store in a directory amid troubles. -/
def performAmid (store : DirectoryStore) (troubles : Troubles) (fs : FileSystem) :
    StoreOperation → FileSystem × StoreAnswer
  | .save now w =>
    ((store.saveAmid troubles fs now w).1, .saved (store.saveAmid troubles fs now w).2)
  | .load id => (fs, .loaded (store.loadAmid troubles fs id))
  | .list => (fs, .listed (store.listAmid troubles fs))
  | .delete id =>
    ((store.deleteAmid troubles fs id).1, .deleted (store.deleteAmid troubles fs id).2)

/-- A store shows the same in two trees: it loads the same workflows and lists the same ids, or
    fails to for the same reasons. -/
structure ShowsSame (store : DirectoryStore) (troubles : Troubles) (fs fs' : FileSystem) :
    Prop where
  load : ∀ id, store.loadAmid troubles fs' id = store.loadAmid troubles fs id
  list : store.listAmid troubles fs' = store.listAmid troubles fs

variable {store : DirectoryStore} {troubles seen : Troubles} {fs fs' made : FileSystem}
  {id : String} {names : List String} {e : StoreError}

/-! ## Without troubles -/

theorem filesAmid_of_listing (h : troubles.listing store.root = none) :
    store.filesAmid troubles fs = store.files fs := by
  unfold filesAmid
  rw [h]

theorem filesOfAmid_of_listing (h : troubles.listing store.root = none) :
    store.filesOfAmid troubles fs id = store.filesOf fs id := by
  unfold filesOfAmid filesOf
  rw [filesAmid_of_listing h]

/-- Where nothing keeps the files from being looked up, what is to be saved is prepared as usual. -/
theorem prepareAmid_of_calm (hlisting : troubles.listing store.root = none)
    (hreading : ∀ path, troubles.reading path = none) (now : Timestamp) (w : Workflow) :
    store.prepareAmid troubles fs now w = store.prepare fs now w := by
  unfold prepareAmid prepare loadAmid load readFileAmid
  simp only [filesOfAmid_of_listing hlisting, hreading]

theorem writeFileAmid_none (fs : FileSystem) (w : Workflow) :
    store.writeFileAmid .none fs w = store.writeFile fs w := by
  unfold writeFileAmid writeFile
  rw [show fs.buildDirectoryAmid .none store.root = fs.buildDirectory store.root from rfl]
  rcases fs.buildDirectory store.root with ⟨made, result⟩
  cases result with
  | error cause => rfl
  | ok done =>
    dsimp only [FileSystem.writeAmid, Troubles.none]
    cases made.write (store.savePath w.id) (.text (store.write w)) with
    | error cause => rfl
    | ok written => rfl

theorem removeAllAmid_none (fs : FileSystem) (names : List String) :
    store.removeAllAmid .none fs names = store.removeAll fs names := by
  induction names generalizing fs with
  | nil => rfl
  | cons name rest ih =>
    rw [removeAllAmid_cons, removeAll_cons,
      show fs.removeAmid .none (store.path name) = fs.remove (store.path name) from rfl]
    cases fs.remove (store.path name) with
    | error cause => rfl
    | ok next => exact ih next

theorem saveAmid_none (fs : FileSystem) (now : Timestamp) (w : Workflow) :
    store.saveAmid .none fs now w = store.save fs now w := by
  unfold saveAmid save
  rw [prepareAmid_of_calm rfl fun _ => rfl]
  simp only [writeFileAmid_none]

theorem deleteAmid_none (fs : FileSystem) (id : String) :
    store.deleteAmid .none fs id = store.delete fs id := by
  unfold deleteAmid delete
  rw [filesOfAmid_of_listing rfl]
  simp only [removeAllAmid_none]

/-- Without troubles every operation does what the tree of files allows. -/
theorem performAmid_none (store : DirectoryStore) (fs : FileSystem) (operation : StoreOperation) :
    store.performAmid .none fs operation = store.perform fs operation := by
  cases operation with
  | save now w => rw [performAmid, perform, saveAmid_none]
  | load | list => rfl
  | delete id => rw [performAmid, perform, deleteAmid_none]

/-! ## What is shown -/

theorem ShowsSame.refl (store : DirectoryStore) (troubles : Troubles) (fs : FileSystem) :
    ShowsSame store troubles fs fs :=
  ⟨fun _ => rfl, rfl⟩

/-- Nothing is told apart when the directory cannot be listed. -/
theorem ShowsSame.of_unlisted {cause : Trouble} (hseen : seen.listing store.root = some cause)
    (fs fs' : FileSystem) : ShowsSame store seen fs fs' := by
  have hfiles : ∀ fs, store.filesAmid seen fs = failure store.root (.trouble cause) := by
    intro fs
    unfold filesAmid
    rw [hseen]
  constructor
  · intro id
    unfold loadAmid filesOfAmid
    rw [hfiles, hfiles]
    rfl
  · unfold listAmid
    rw [hfiles, hfiles]

/-- What the names in the directory are, if its files could be listed. -/
theorem exists_finds_of_filesOfAmid (h : store.filesOfAmid troubles fs id = .ok names) :
    ∃ all, Finds store fs all ∧ names = named all id := by
  cases hlisting : troubles.listing store.root with
  | some cause =>
    unfold filesOfAmid filesAmid at h
    rw [hlisting] at h
    cases h
  | none =>
    rw [filesOfAmid_of_listing hlisting] at h
    exact exists_finds_of_filesOf h

namespace Finds

variable (h : Finds store fs names) (hseen : seen.listing store.root = none)

include h hseen

theorem loadAmid_eq (id : String) : store.loadAmid seen fs id =
    match named names id with
    | [] => .ok none
    | first :: _ => (store.readFileAmid seen fs id (store.path first)).map some := by
  unfold loadAmid
  rw [filesOfAmid_of_listing hseen, h.filesOf_eq]
  cases named names id with
  | nil => rfl
  | cons first rest =>
    dsimp only [bind, Except.bind]
    cases store.readFileAmid seen fs id (store.path first) with
    | error cause => rfl
    | ok w => rfl

theorem loadAmid_eq_none_iff :
    store.loadAmid seen fs id = .ok none ↔ ∀ name ∈ names, idOf? name ≠ some id := by
  rw [h.loadAmid_eq hseen, ← named_eq_nil_iff]
  cases named names id with
  | nil => simp
  | cons first rest =>
    dsimp only
    cases store.readFileAmid seen fs id (store.path first) with
    | error cause => simp [Except.map]
    | ok w => simp [Except.map]

/-- The list of ids is decided by what is loaded. -/
theorem showsSame {others : List String} (h' : Finds store fs' others)
    (hload : ∀ id, store.loadAmid seen fs' id = store.loadAmid seen fs id) :
    ShowsSame store seen fs fs' := by
  refine ⟨hload, ?_⟩
  obtain ⟨ids, hlist, hids⟩ := h.list_eq
  obtain ⟨ids', hlist', hids'⟩ := h'.list_eq
  have heq : ids' = ids := by
    refine (pairwise_of_list hlist').eq_of_mem_iff (pairwise_of_list hlist) fun id => ?_
    have hnone : store.loadAmid seen fs id = .ok none ↔ _ := h.loadAmid_eq_none_iff hseen
    rw [← hload, h'.loadAmid_eq_none_iff hseen] at hnone
    rw [hids, hids']
    simpa using not_congr hnone
  have hsame : ∀ fs, store.listAmid seen fs = store.list fs := by
    intro fs
    unfold listAmid DirectoryStore.list
    rw [filesAmid_of_listing hseen]
  rw [hsame, hsame, hlist, hlist', heq]

/-- What is loaded is decided by the files of the workflow, and by what they hold. -/
theorem loadAmid_congr {others : List String} (h' : Finds store fs' others)
    (hnamed : named others id = named names id)
    (hread : ∀ name ∈ named names id, fs'.read (store.path name) = fs.read (store.path name)) :
    store.loadAmid seen fs' id = store.loadAmid seen fs id := by
  rw [h.loadAmid_eq hseen, h'.loadAmid_eq hseen, hnamed]
  cases hfiles : named names id with
  | nil => rfl
  | cons first rest =>
    have hfirst : first ∈ named names id := hfiles ▸ List.mem_cons_self
    dsimp only
    unfold readFileAmid readFile
    rw [hread first hfirst]

end Finds

/-! ## Making the directory -/

/-- A path that goes up at most at its beginning, and whose names are not too long. -/
structure Straight (root : String) : Prop where
  descends : FileSystem.Descends root
  size_le : ∀ name ∈ parts root, name.utf8ByteSize ≤ FileSystem.maxNameSize

/-- Nothing is found at an empty path. -/
theorem finds_of_empty (hempty : store.root = "") (fs : FileSystem) : Finds store fs [] := by
  refine .missing ?_
  rw [hempty]
  rfl

/-- Making the directory of a store changes nothing, or makes empty directories where there were
    none. -/
theorem Finds.of_build (h : Finds store fs names) (hgrounded : fs.Grounded)
    (hroot : Straight store.root) (hmade : (fs.buildDirectoryAmid troubles store.root).1 = made) :
    Finds store made names ∧ (made = fs ∨ names = []) := by
  have hsame : made = fs → Finds store made names ∧ (made = fs ∨ names = []) := by
    rintro rfl
    exact ⟨h, .inl rfl⟩
  rcases FileSystem.exists_take_of_build troubles fs store.root with htake | ⟨count, htake⟩
  · exact hsame (hmade.symm.trans htake)
  · rw [htake] at hmade
    cases h with
    | there hlist =>
      obtain ⟨place, ⟨hlocate, hdir⟩, _⟩ := FileSystem.list_eq_ok_iff.mp hlist
      rw [FileSystem.makeDirectories_take_of_locate hlocate hdir] at hmade
      exact hsame hmade.symm
    | missing hlist =>
      by_cases hempty : store.root = ""
      · exact ⟨finds_of_empty hempty made, .inr rfl⟩
      · rcases hgrounded.list_of_first_made hempty hroot.descends hroot.size_le hlist count hmade
          with hlist' | hlist'
        · exact ⟨.there hlist', .inr rfl⟩
        · exact ⟨.missing hlist', .inr rfl⟩

/-- Making the directory of a store shows nothing. -/
theorem Finds.loadAmid_of_build (h : Finds store fs names)
    (hseen : seen.listing store.root = none) (hgrounded : fs.Grounded)
    (hroot : Straight store.root) (hmade : (fs.buildDirectoryAmid troubles store.root).1 = made)
    (id : String) : store.loadAmid seen made id = store.loadAmid seen fs id := by
  obtain ⟨h', hsame⟩ := h.of_build hgrounded hroot hmade
  refine h.loadAmid_congr hseen h' rfl ?_
  rcases hsame with rfl | rfl
  · exact fun _ _ => rfl
  · simp [named_nil]

/-- When the directory of a store has been made, it can be listed, unless its path is empty. -/
theorem Finds.list_of_build (h : Finds store fs names) (hgrounded : fs.Grounded)
    (hroot : Straight store.root)
    (hbuild : fs.buildDirectoryAmid troubles store.root = (made, .ok ())) :
    fs.makeDirectory store.root = .ok made ∧
      (store.root ≠ "" → made.list store.root = .ok names) := by
  unfold FileSystem.buildDirectoryAmid at hbuild
  split at hbuild
  · have hmade := FileSystem.buildDirectory_eq_ok_iff.mp hbuild
    refine ⟨hmade, fun hne => ?_⟩
    cases h with
    | there hlist =>
      obtain ⟨place, ⟨hlocate, hdir⟩, _⟩ := FileSystem.list_eq_ok_iff.mp hlist
      rw [FileSystem.makeDirectory_of_locate hlocate hdir] at hmade
      cases hmade
      exact hlist
    | missing hlist => exact hgrounded.list_makeDirectory hne hroot.descends hlist hmade
  · cases hbuild

/-! ## Writing the file -/

/-- Writing a file that stands in the directory of a store, or elsewhere, leaves the files of all
    workflows but the one whose file it is. -/
theorem of_write (hproper : fs.Proper) {path : String} {content : Content}
    (hlist : fs.list store.root = .ok names) (hwrite : fs.write path content = .ok fs') :
    ∃ others, fs'.list store.root = .ok others ∧
      ∀ id, (∀ name place, fs.locate store.root = .ok place →
          fs.locateNew path = .ok (place ++ [name]) → idOf? name ≠ some id) →
        named others id = named names id ∧
          ∀ name ∈ named names id, fs'.read (store.path name) = fs.read (store.path name) := by
  obtain ⟨place, hplace, rfl⟩ := FileSystem.list_eq_ok_iff.mp hlist
  obtain ⟨hfits, hroots⟩ := FileSystem.locate_root_iff.mp hplace
  obtain ⟨q, hnew, hnot, rfl⟩ := FileSystem.write_eq_ok_iff.mp hwrite
  have hkeeps : fs.KeepsDirectories (fs.put q (.file content)) := .put hnot
  have hlist' := FileSystem.list_eq_ok_iff.mpr
    ⟨place, ⟨hkeeps.locate hplace.1, hkeeps.directory place hplace.2⟩, rfl⟩
  refine ⟨_, hlist', ?_⟩
  intro id hother
  have hapart : ∀ name, idOf? name = some id → place ++ [name] ≠ q := by
    rintro name hid rfl
    exact hother name place hplace.1 hnew hid
  have hfilter : ∀ all, (named all id).filter (fun name => place ++ [name] ≠ q) = named all id := by
    intro all
    refine List.filter_eq_self.mpr fun name hname => ?_
    simpa using hapart name (mem_named.mp hname).2
  constructor
  · rw [← hfilter, ← named_filter, FileSystem.filter_namesAt_put, named_filter, hfilter]
  · intro name hname
    refine hkeeps.read_join hroots hfits.nonempty (plainName_of_mem_named hproper hlist hname) ?_
    rw [FileSystem.entry?_put (by simp), if_neg (hapart name (mem_named.mp hname).2).symm]

/-- When a workflow is saved, the file with a name is cut short in the directory of the store: the
    directory is made and the file is opened, but then the system writes the first bytes only. The
    tree that is left has these in it. -/
inductive CutsShort (store : DirectoryStore) (troubles : Troubles) (fs : FileSystem)
    (now : Timestamp) (w : Workflow) : String → FileSystem → Prop where
  | midway {saved : Workflow} {made : FileSystem} {size : Nat} {cause : Trouble} {place : Place}
      {name : String} (hprepare : store.prepareAmid troubles fs now w = .ok saved)
      (hbuild : fs.buildDirectoryAmid troubles store.root = (made, .ok ()))
      (hwriting : troubles.writing (store.savePath w.id) = some (.midway size cause))
      (hroot : made.locate store.root = .ok place)
      (hnew : made.locateNew (store.savePath w.id) = .ok (place ++ [name]))
      (hfile : made.entry? (place ++ [name]) ≠ some .directory) :
      CutsShort store troubles fs now w name
        (made.put (place ++ [name]) (.file (.start size (store.write saved))))

/-- When a workflow cannot be written, its directory has been made as far as it can be, and its file
    has been opened only if writing it has stopped midway. -/
theorem of_writeFileAmid_error {w : Workflow}
    (h : store.writeFileAmid troubles fs w = (fs', .error e)) :
    fs' = (fs.buildDirectoryAmid troubles store.root).1 ∨
      ∃ made size cause, fs.buildDirectoryAmid troubles store.root = (made, .ok ()) ∧
        troubles.writing (store.savePath w.id) = some (.midway size cause) ∧
        made.write (store.savePath w.id) (.start size (store.write w)) = .ok fs' := by
  unfold writeFileAmid failure at h
  rcases hbuild : fs.buildDirectoryAmid troubles store.root with ⟨made, result⟩
  rw [hbuild] at h
  cases result with
  | error reason =>
    cases h
    exact .inl rfl
  | ok done =>
    dsimp only at h
    rcases hwrite : made.writeAmid troubles (store.savePath w.id) (store.write w) with
      ⟨after, result⟩
    rw [hwrite] at h
    cases result with
    | ok done => cases h
    | error reason =>
      cases h
      rcases FileSystem.of_writeAmid_error hwrite with rfl | ⟨size, cause, hwriting, hwritten⟩
      · exact .inl rfl
      · exact .inr ⟨made, size, cause, rfl, hwriting, hwritten⟩

/-- What is saved has the id of what was to be saved, and has been looked up among the files. -/
theorem of_prepareAmid {now : Timestamp} {w s : Workflow}
    (h : store.prepareAmid troubles fs now w = .ok s) :
    s.id = w.id ∧ ∃ names, Finds store fs names := by
  unfold prepareAmid at h
  obtain ⟨existing, hload, h⟩ := bind_eq_ok_iff.mp h
  constructor
  · unfold Workflow.stamped? at h
    split at h
    · cases h
      rfl
    · cases h
  · unfold loadAmid at hload
    obtain ⟨found, hfiles, _⟩ := bind_eq_ok_iff.mp hload
    obtain ⟨names, hfinds, _⟩ := exists_finds_of_filesOfAmid hfiles
    exact ⟨names, hfinds⟩

/-- A save that fails has changed nothing, or it has looked up the files and then made the
    directory, as far as it can be made, or it has cut the file short. -/
theorem of_saveAmid_error {now : Timestamp} {w : Workflow}
    (h : store.saveAmid troubles fs now w = (fs', .error e)) :
    fs' = fs ∨ ∃ names saved, Finds store fs names ∧
      store.prepareAmid troubles fs now w = .ok saved ∧ saved.id = w.id ∧
      (fs' = (fs.buildDirectoryAmid troubles store.root).1 ∨
        ∃ made size cause, fs.buildDirectoryAmid troubles store.root = (made, .ok ()) ∧
          troubles.writing (store.savePath saved.id) = some (.midway size cause) ∧
          made.write (store.savePath saved.id) (.start size (store.write saved)) = .ok fs') := by
  unfold saveAmid at h
  cases hprepare : store.prepareAmid troubles fs now w with
  | error cause =>
    rw [hprepare] at h
    cases h
    exact .inl rfl
  | ok saved =>
    rw [hprepare] at h
    dsimp only at h
    obtain ⟨hid, names, hfinds⟩ := of_prepareAmid hprepare
    rcases hwrite : store.writeFileAmid troubles fs saved with ⟨after, result⟩
    rw [hwrite] at h
    cases result with
    | ok done => cases h
    | error cause =>
      cases h
      exact .inr ⟨names, saved, hfinds, rfl, hid, of_writeFileAmid_error hwrite⟩

/-- Without troubles nothing is cut short. -/
theorem eq_of_save_error {now : Timestamp} {w : Workflow}
    (h : store.save fs now w = (fs', .error e)) :
    fs' = fs ∨ fs' = (fs.buildDirectory store.root).1 := by
  rw [← saveAmid_none] at h
  rcases of_saveAmid_error h with
    hsame | ⟨_, _, _, _, _, hmade | ⟨_, _, _, _, hwriting, _⟩⟩
  · exact .inl hsame
  · exact .inr hmade
  · cases hwriting

/-- A file that is cut short when a workflow is saved is left so. -/
theorem CutsShort.eq_saveAmid {now : Timestamp} {w : Workflow} {name : String}
    (h : CutsShort store troubles fs now w name fs') :
    (store.saveAmid troubles fs now w).1 = fs' := by
  cases h with
  | @midway saved made size cause place name hprepare hbuild hwriting hroot hnew hfile =>
    have hwrite : made.write (store.savePath w.id) (.start size (store.write saved)) =
        .ok (made.put (place ++ [name]) (.file (.start size (store.write saved)))) :=
      FileSystem.write_eq_ok_iff.mpr ⟨_, hnew, hfile, rfl⟩
    unfold saveAmid writeFileAmid FileSystem.writeAmid
    rw [hprepare, hbuild]
    dsimp only
    rw [(of_prepareAmid hprepare).1, hwriting]
    dsimp only
    rw [hwrite]

/-- A save that fails shows nothing just when the workflow whose file it has cut short, if it has
    done so, is loaded as before. -/
theorem showsSame_iff_of_saveAmid_error {now : Timestamp} {w : Workflow} (hproper : fs.Proper)
    (hgrounded : fs.Grounded) (hroot : Straight store.root)
    (hseen : seen.listing store.root = none)
    (h : store.saveAmid troubles fs now w = (fs', .error e)) :
    ShowsSame store seen fs fs' ↔ ∀ name id after, CutsShort store troubles fs now w name after →
      idOf? name = some id → store.loadAmid seen after id = store.loadAmid seen fs id := by
  constructor
  · intro hsame _ id after hcut _
    obtain rfl : fs' = after := (congrArg Prod.fst h).symm.trans hcut.eq_saveAmid
    exact hsame.load id
  · intro hcut
    rcases of_saveAmid_error h with rfl |
      ⟨names, saved, hfinds, hprepare, hid, rfl | ⟨made, size, cause, hbuild, hwriting, hwrite⟩⟩
    · exact .refl store seen fs'
    · obtain ⟨hfinds', _⟩ := hfinds.of_build hgrounded hroot rfl
      exact hfinds.showsSame hseen hfinds' (hfinds.loadAmid_of_build hseen hgrounded hroot rfl)
    · obtain ⟨hmade, hlist⟩ := hfinds.list_of_build hgrounded hroot hbuild
      have hmadeLoad := hfinds.loadAmid_of_build hseen hgrounded hroot (congrArg Prod.fst hbuild)
      obtain ⟨hfindsMade, _⟩ := hfinds.of_build hgrounded hroot (congrArg Prod.fst hbuild)
      by_cases hempty : store.root = ""
      · have hnone := finds_of_empty hempty
        refine (hnone fs).showsSame hseen (hnone fs') fun id => ?_
        exact (hnone fs).loadAmid_congr hseen (hnone fs') rfl (by simp [named_nil])
      · obtain ⟨others, hlist', hothers⟩ :=
          of_write (hproper.makeDirectory hmade) (hlist hempty) hwrite
        refine hfinds.showsSame hseen (.there hlist') fun id => ?_
        by_cases hcuts : ∃ name, CutsShort store troubles fs now w name fs' ∧ idOf? name = some id
        · obtain ⟨name, hshort, hname⟩ := hcuts
          exact hcut name id fs' hshort hname
        · rw [← hmadeLoad]
          obtain ⟨q, hq, hfile, rfl⟩ := FileSystem.write_eq_ok_iff.mp hwrite
          obtain ⟨hnamed, hread⟩ := hothers id fun name place hplace hnew hname => by
            obtain rfl : q = place ++ [name] := Except.ok.inj (hq.symm.trans hnew)
            rw [hid] at hwriting hnew
            exact hcuts ⟨name, .midway hprepare hbuild hwriting hplace hnew hfile, hname⟩
          exact hfindsMade.loadAmid_congr hseen (.there hlist') hnamed hread

/-! ## Deleting -/

/-- A deletion fails because the files cannot be looked up, or at one of them. -/
theorem of_deleteAmid_error (h : store.deleteAmid troubles fs id = (fs', .error e)) :
    fs' = fs ∧ store.filesOfAmid troubles fs id = .error e ∨
      ∃ names gone name rest cause, fs.list store.root = .ok names ∧
        store.filesOfAmid troubles fs id = .ok (gone ++ name :: rest) ∧
        named names id = gone ++ name :: rest ∧ store.removeAll fs gone = (fs', .ok ()) ∧
        e = .io (store.path name) cause := by
  unfold deleteAmid at h
  cases hfiles : store.filesOfAmid troubles fs id with
  | error cause =>
    rw [hfiles] at h
    cases h
    exact .inl ⟨rfl, rfl⟩
  | ok found =>
    rw [hfiles] at h
    dsimp only at h
    rcases hremove : store.removeAllAmid troubles fs found with ⟨after, result⟩
    rw [hremove] at h
    cases result with
    | ok done => cases h
    | error cause =>
      cases h
      obtain ⟨gone, name, rest, cause, rfl, hgone, rfl⟩ := exists_of_removeAllAmid_error hremove
      obtain ⟨all, hfinds, hnamed⟩ := exists_finds_of_filesOfAmid hfiles
      cases hfinds with
      | there hlist =>
        exact .inr ⟨all, gone, name, rest, cause, hlist, rfl, hnamed.symm, hgone, rfl⟩
      | missing hlist => simp [named_nil] at hnamed

/-- When some of the files of a workflow have been removed, it is loaded from the next one, and all
    other workflows are loaded as before. -/
theorem loadAmid_of_removeAll (hproper : fs.Proper) (hseen : seen.listing store.root = none)
    {gone rest : List String} {name : String} (hlist : fs.list store.root = .ok names)
    (hnamed : named names id = gone ++ name :: rest)
    (hgone : store.removeAll fs gone = (fs', .ok ())) :
    Finds store fs' (names.filter (· ∉ gone)) ∧
      (∀ other, other ≠ id → store.loadAmid seen fs' other = store.loadAmid seen fs other) ∧
      store.loadAmid seen fs' id =
        (store.readFileAmid seen fs id (store.path name)).map some := by
  have hmem : ∀ other ∈ gone ++ name :: rest, other ∈ named names id := fun _ h => hnamed ▸ h
  have hplain : ∀ other ∈ gone, PlainName other := fun other hother =>
    plainName_of_mem_named hproper hlist (hmem other (List.mem_append_left _ hother))
  have hids : ∀ other ∈ gone, idOf? other = some id := fun other hother =>
    (mem_named.mp (hmem other (List.mem_append_left _ hother))).2
  have hfinds : Finds store fs' (names.filter (· ∉ gone)) :=
    .there (list_of_removeAll hlist hplain hgone)
  have hread : ∀ {other : String}, other ∉ gone → ∀ {id : String}, other ∈ named names id →
      fs'.read (store.path other) = fs.read (store.path other) := fun hkept _ hother =>
    read_of_removeAll hlist hplain hgone (plainName_of_mem_named hproper hlist hother) hkept
  refine ⟨hfinds, ?_, ?_⟩
  · intro other hother
    refine Finds.loadAmid_congr (.there hlist) hseen hfinds (named_of_removed hids hother) ?_
    intro file hfile
    exact hread (not_mem_of_other hids hother hfile) hfile
  · have hdistinct : (gone ++ name :: rest).Nodup := by
      rw [← hnamed]
      obtain ⟨place, _, rfl⟩ := FileSystem.list_eq_ok_iff.mp hlist
      exact nodup_named (fs.nodup_namesAt place)
    obtain ⟨_, _, hapart⟩ := List.nodup_append.mp hdistinct
    have hkept : ∀ other ∈ name :: rest, other ∉ gone :=
      fun other hother hmem => hapart other hmem other hother rfl
    have hleft : named (names.filter (· ∉ gone)) id = name :: rest := by
      rw [named_filter, hnamed, List.filter_append, List.filter_eq_nil_iff.mpr (by simp),
        List.nil_append, List.filter_eq_self.mpr]
      intro other hother
      simpa using hkept other hother
    rw [hfinds.loadAmid_eq hseen, hleft]
    dsimp only
    unfold readFileAmid readFile
    rw [hread (hkept name List.mem_cons_self) (hmem name (by simp))]

/-- A deletion that fails shows nothing just when the file that could not be removed reads as the
    one from which the workflow was loaded, whether it is that file or another. -/
theorem showsSame_iff_of_deleteAmid_error (hproper : fs.Proper)
    (hseen : seen.listing store.root = none)
    (h : store.deleteAmid troubles fs id = (fs', .error e)) :
    ShowsSame store seen fs fs' ↔ ∀ first rest path cause,
      store.filesOfAmid troubles fs id = .ok (first :: rest) → e = .io path cause →
        store.readFileAmid seen fs id (store.path first) =
          store.readFileAmid seen fs id path := by
  rcases of_deleteAmid_error h with
    ⟨rfl, hfiles⟩ | ⟨names, gone, name, rest, cause, hlist, hfiles, hnamed, hgone, rfl⟩
  · constructor
    · intro _ first rest path cause hfound
      rw [hfiles] at hfound
      cases hfound
    · intro _
      exact .refl store seen fs'
  · obtain ⟨hfinds', hothers, hid⟩ := loadAmid_of_removeAll hproper hseen hlist hnamed hgone
    have hfinds : Finds store fs names := .there hlist
    obtain ⟨first, more, hfirst⟩ := List.exists_cons_of_ne_nil
      (show gone ++ name :: rest ≠ [] by simp)
    have hbefore : store.loadAmid seen fs id =
        (store.readFileAmid seen fs id (store.path first)).map some := by
      rw [hfinds.loadAmid_eq hseen, hnamed, hfirst]
    rw [hfiles, hfirst]
    constructor
    · rintro hsame _ _ _ _ ⟨⟩ ⟨⟩
      refine map_some_inj ?_
      rw [← hbefore, ← hid, hsame.load]
    · intro hreads
      refine hfinds.showsSame hseen hfinds' fun other => ?_
      by_cases hother : other = id
      · subst hother
        rw [hid, hbefore, hreads first more _ cause rfl rfl]
      · exact hothers other hother

/-- Whether nothing is to be seen of what a failed operation has done. A save has to leave the
    workflow of a file that it has cut short as it was loaded, and the file that a deletion could
    not remove has to read as the one from which the workflow was loaded. -/
def Overlooked (store : DirectoryStore) (seen troubles : Troubles) (fs : FileSystem)
    (e : StoreError) : StoreOperation → Prop
  | .load _ | .list => True
  | .save now w => ∀ name id after, CutsShort store troubles fs now w name after →
      idOf? name = some id → store.loadAmid seen after id = store.loadAmid seen fs id
  | .delete id => ∀ first rest path cause,
      store.filesOfAmid troubles fs id = .ok (first :: rest) → e = .io path cause →
        store.readFileAmid seen fs id (store.path first) = store.readFileAmid seen fs id path

theorem showsSame_iff_overlooked {operation : StoreOperation} (hproper : fs.Proper)
    (hgrounded : fs.Grounded) (hroot : Straight store.root)
    (hseen : seen.listing store.root = none)
    (hfails : (store.performAmid troubles fs operation).2.error? = some e) :
    ShowsSame store seen fs (store.performAmid troubles fs operation).1 ↔
      Overlooked store seen troubles fs e operation := by
  cases operation with
  | load id | list =>
    constructor
    · intro _
      trivial
    · intro _
      exact .refl store seen fs
  | save now w =>
    have hsave : store.saveAmid troubles fs now w =
        ((store.saveAmid troubles fs now w).1, .error e) :=
      Prod.ext rfl (StoreAnswer.error?_saved_iff.mp hfails)
    exact showsSame_iff_of_saveAmid_error hproper hgrounded hroot hseen hsave
  | delete id =>
    have hdelete : store.deleteAmid troubles fs id =
        ((store.deleteAmid troubles fs id).1, .error e) :=
      Prod.ext rfl (StoreAnswer.error?_deleted_iff.mp hfails)
    exact showsSame_iff_of_deleteAmid_error hproper hseen hdelete

/-- An operation that fails, for whatever is in the tree and whatever troubles there are, changes
    nothing that a store shows just when it is overlooked, or when nothing can be seen at all. A
    store in memory is left as it was. -/
theorem showsSame_iff_of_error {operation : StoreOperation} (hproper : fs.Proper)
    (hgrounded : fs.Grounded) (hroot : Straight store.root)
    (hfails : (store.performAmid troubles fs operation).2.error? = some e) :
    (ShowsSame store seen fs (store.performAmid troubles fs operation).1 ↔
      seen.listing store.root = none → Overlooked store seen troubles fs e operation) ∧
    ∀ (mem : MemoryStore) (operation : StoreOperation) (e : StoreError),
      (mem.perform operation).2.error? = some e → (mem.perform operation).1 = mem := by
  refine ⟨?_, fun mem operation e => MemoryStore.perform_of_error⟩
  cases hseen : seen.listing store.root with
  | some cause =>
    constructor
    · intro _ h
      cases h
    · intro _
      exact .of_unlisted hseen fs _
  | none =>
    have hiff := showsSame_iff_overlooked hproper hgrounded hroot hseen hfails
    constructor
    · intro hsame _
      exact hiff.mp hsame
    · intro hlooked
      exact hiff.mpr (hlooked rfl)

/-- Where the path goes up behind a missing directory, a failed save makes that directory, and shows
    what is stored on the other side of it. -/
example :
    let store := new "new/../flows"
    let after := (store.save (afterSave "login") newYear (startOnly "x/y")).1
    (store.save (afterSave "login") newYear (startOnly "x/y")).2 =
        .error (.io "new/../flows/x/y.yaml" .notFound) ∧
      store.list (afterSave "login") = .ok [] ∧ store.list after = .ok ["login"] := by
  decide +kernel

/-- Files are opened for writing, but nothing can be written to them. -/
def fullDisk : Troubles := { Troubles.none with writing := fun _ => some (.midway 0 .noSpace) }

/-- No file is opened for writing. -/
def unwritable : Troubles :=
  { Troubles.none with writing := fun _ => some (.unbegun .permissionDenied) }

/-- A tree with a directory that has the name of the only file of a workflow. -/
def blocked : FileSystem := (FileSystem.empty.buildDirectory "flows/b.yaml").1

/-- A tree with a saved workflow, and beside its file a directory that has the name of another file
    of the workflow. -/
def crowded : FileSystem := ((afterSave "login").buildDirectory "flows/login.yml").1

/-- The same tree when the file of the workflow has been removed. -/
def bereft : FileSystem := ((new "flows").removeAll crowded ["login.yaml"]).1

theorem straight_flows : Straight "flows" where
  descends := ⟨[], ["flows"], by decide, by simp, by simp⟩
  size_le := by decide

theorem proper_blocked : blocked.Proper := by
  have hbuilt : FileSystem.empty.buildDirectory "flows/b.yaml" = (blocked, .ok ()) :=
    Prod.ext rfl (by decide +kernel)
  exact FileSystem.proper_empty.makeDirectory (FileSystem.buildDirectory_eq_ok_iff.mp hbuilt)

theorem proper_crowded : crowded.Proper := by
  have hsaved := proper_of_save FileSystem.proper_empty (save_startOnly "login" (by decide +kernel))
  have hbuilt : (afterSave "login").buildDirectory "flows/login.yml" = (crowded, .ok ()) :=
    Prod.ext rfl (by decide +kernel)
  exact hsaved.makeDirectory (FileSystem.buildDirectory_eq_ok_iff.mp hbuilt)

theorem filesOf_crowded :
    (new "flows").filesOf crowded "login" = .ok ["login.yaml", "login.yml"] := by
  have hlist : crowded.list "flows" = .ok ["login.yaml", "login.yml"] := by decide +kernel
  have hsorted : ["login.yaml", "login.yml"].Pairwise fun a b => comesBefore a b = true := by
    decide +kernel
  rw [filesOf_of_list hlist, named_of_pairwise hsorted]
  decide +kernel

theorem readFile_crowded : (new "flows").readFile crowded "login" "flows/login.yaml" =
    .ok ((startOnly "login").stamp newYear) :=
  readFile_eq_ok_iff.mpr ⟨_, by rfl, read_write_startOnly_login⟩

theorem delete_crowded : (new "flows").delete crowded "login" =
    (bereft, .error (.io "flows/login.yml" .isDirectory)) := by
  unfold delete
  rw [filesOf_crowded]
  refine Prod.ext rfl ?_
  decide +kernel

/-- What fails at the first file, or before a file is opened, shows no change. What fails at a later
    file, or when a file has been opened, does. -/
theorem showsSame_blocked_not_crowded :
    let store := new "flows"
    let save := StoreOperation.save newYear (startOnly "login")
    ShowsSame store .none blocked (store.performAmid .none blocked (.delete "b")).1 ∧
      ¬ ShowsSame store .none crowded (store.performAmid .none crowded (.delete "login")).1 ∧
      ShowsSame store .none .empty (store.performAmid unwritable .empty save).1 ∧
      ¬ ShowsSame store .none .empty (store.performAmid fullDisk .empty save).1 := by
  have hblocked : blocked.Grounded :=
    FileSystem.grounded_of_keys (by decide +kernel) (by decide +kernel)
  have hcrowded : crowded.Grounded :=
    FileSystem.grounded_of_keys (by decide +kernel) (by decide +kernel)
  have hfirst : ((new "flows").performAmid .none blocked (.delete "b")).2.error? =
      some (.io "flows/b.yaml" .isDirectory) := by decide +kernel
  have hlater : ((new "flows").performAmid .none crowded (.delete "login")).2.error? =
      some (.io "flows/login.yml" .isDirectory) := by
    rw [performAmid_none]
    exact StoreAnswer.error?_deleted_iff.mpr (congrArg Prod.snd delete_crowded)
  have hunopened : ((new "flows").performAmid unwritable .empty
      (.save newYear (startOnly "login"))).2.error? =
        some (.io "flows/login.yaml" (.trouble .permissionDenied)) := by decide +kernel
  have hopened : ((new "flows").performAmid fullDisk .empty
      (.save newYear (startOnly "login"))).2.error? =
        some (.io "flows/login.yaml" (.trouble .noSpace)) := by decide +kernel
  refine ⟨?_, ?_, ?_, ?_⟩
  · refine (showsSame_iff_of_error proper_blocked hblocked straight_flows hfirst).1.mpr ?_
    rintro - first rest path cause hfiles ⟨⟩
    have hnames : (new "flows").filesOfAmid .none blocked "b" = .ok ["b.yaml"] := by decide +kernel
    cases hnames.symm.trans hfiles
    decide +kernel
  · intro hsame
    have hreads := (showsSame_iff_of_error proper_crowded hcrowded straight_flows hlater).1.mp
      hsame rfl "login.yaml" ["login.yml"] _ _ filesOf_crowded rfl
    cases readFile_crowded.symm.trans hreads
  · refine (showsSame_iff_of_error FileSystem.proper_empty FileSystem.grounded_empty
      straight_flows hunopened).1.mpr ?_
    rintro - name id after ⟨_, _, hwriting, _⟩
    cases hwriting
  · intro hsame
    let made := (FileSystem.empty.buildDirectory "flows").1
    have hbuild : FileSystem.empty.buildDirectoryAmid fullDisk "flows" = (made, .ok ()) :=
      Prod.ext rfl (by decide +kernel)
    have hroot : made.locate "flows" = .ok ["work", "flows"] := by decide +kernel
    have hcut :
        CutsShort (new "flows") fullDisk .empty newYear (startOnly "login") "login.yaml" _ :=
      .midway rfl hbuild rfl hroot (by decide +kernel) (by decide +kernel)
    have hid : idOf? "login.yaml" = some "login" := by decide +kernel
    have hloads := (showsSame_iff_of_error FileSystem.proper_empty FileSystem.grounded_empty
      straight_flows hopened).1.mp hsame rfl "login.yaml" "login" _ hcut hid
    -- The file is there afterwards, whatever is in it.
    have hfinds : Finds (new "flows")
        ((new "flows").saveAmid fullDisk .empty newYear (startOnly "login")).1 ["login.yaml"] :=
      .there (by decide +kernel)
    rw [hcut.eq_saveAmid] at hfinds
    have hempty : (new "flows").loadAmid .none .empty "login" = .ok none := by decide +kernel
    have hnone := (hfinds.loadAmid_eq_none_iff rfl).mp (hloads.trans hempty)
    exact hnone "login.yaml" List.mem_cons_self hid

/-- A workflow that could be loaded cannot be loaded any more when its deletion has failed. -/
theorem failed_deletion_is_noticed :
    let after := ((new "flows").delete crowded "login").1
    ((new "flows").delete crowded "login").2 = .error (.io "flows/login.yml" .isDirectory) ∧
      (new "flows").load crowded "login" = .ok (some ((startOnly "login").stamp newYear)) ∧
      (new "flows").load after "login" = .error (.io "flows/login.yml" .isDirectory) := by
  have hpath : (new "flows").path "login.yaml" = "flows/login.yaml" := by decide +kernel
  rw [delete_crowded]
  refine ⟨rfl, ?_, by decide +kernel⟩
  rw [load_of_filesOf_cons filesOf_crowded, hpath, readFile_crowded]
  rfl

end DirectoryStore

end DeviceFlow
