import DeviceFlow.Proofs.Store.Mirror

/-!
# Histories of a store

What is answered when a store is used for a while. A store in a directory that has nothing in
it at first answers as the empty store in memory does, operation by operation, as long as the
ids under which something is saved are names of files and no file operation fails.
-/

namespace DeviceFlow

open Files

/-- What is asked of a store. Whatever is saved is saved at some moment. -/
inductive StoreOperation where
  | save (now : Timestamp) (w : Workflow)
  | load (id : String)
  | list
  | delete (id : String)

/-- What a store answers to each of the operations. -/
inductive StoreAnswer where
  | saved (result : Except StoreError Workflow)
  | loaded (result : Except StoreError (Option Workflow))
  | listed (result : Except StoreError (List String))
  | deleted (result : Except StoreError Bool)
  deriving DecidableEq

/-- Why an operation has failed, if it has. -/
def StoreAnswer.error? : StoreAnswer → Option StoreError
  | .saved (.error e) | .loaded (.error e) | .listed (.error e) | .deleted (.error e) => some e
  | _ => none

/-- Whether a file operation has failed. -/
def StoreAnswer.IsIo (answer : StoreAnswer) : Prop :=
  ∃ path cause, answer.error? = some (.io path cause)

namespace MemoryStore

/-- Performs an operation on a store in memory. -/
def perform (mem : MemoryStore) : StoreOperation → MemoryStore × StoreAnswer
  | .save now w => ((mem.save now w).1, .saved (mem.save now w).2)
  | .load id => (mem, .loaded (.ok (mem.load id)))
  | .list => (mem, .listed (.ok mem.list))
  | .delete id => ((mem.delete id).1, .deleted (.ok (mem.delete id).2))

/-- The answers to a series of operations. -/
def answers (mem : MemoryStore) : List StoreOperation → List StoreAnswer
  | [] => []
  | operation :: rest =>
    (mem.perform operation).2 :: answers (mem.perform operation).1 rest

end MemoryStore

namespace DirectoryStore

/-- Performs an operation on a store in a directory. -/
def perform (store : DirectoryStore) (fs : FileSystem) :
    StoreOperation → FileSystem × StoreAnswer
  | .save now w => ((store.save fs now w).1, .saved (store.save fs now w).2)
  | .load id => (fs, .loaded (store.load fs id))
  | .list => (fs, .listed (store.list fs))
  | .delete id => ((store.delete fs id).1, .deleted (store.delete fs id).2)

/-- The answers to a series of operations, when the files are listed as they stand. -/
def answers (store : DirectoryStore) (fs : FileSystem) : List StoreOperation → List StoreAnswer
  | [] => []
  | operation :: rest =>
    (store.perform fs operation).2 :: answers store (store.perform fs operation).1 rest

/-- The answers that a series of operations can have. The files can be listed in another order
    each time. -/
inductive MayAnswer (store : DirectoryStore) :
    FileSystem → List StoreOperation → List StoreAnswer → Prop where
  | done (fs : FileSystem) : MayAnswer store fs [] []
  | next {fs listed : FileSystem} {operation : StoreOperation} {rest : List StoreOperation}
      {answers : List StoreAnswer} (hsame : fs.SameFiles listed)
      (hrest : MayAnswer store (store.perform listed operation).1 rest answers) :
      MayAnswer store fs (operation :: rest) ((store.perform listed operation).2 :: answers)

variable {store : DirectoryStore} {fs fs' : FileSystem} {mem : MemoryStore} {id : String}

theorem mayAnswer_answers (store : DirectoryStore) (fs : FileSystem)
    (operations : List StoreOperation) :
    MayAnswer store fs operations (store.answers fs operations) := by
  induction operations generalizing fs with
  | nil => exact .done fs
  | cons operation rest ih => exact .next (.refl fs) (ih _)

/-- The directory of a store is missing, and has nothing in it when it is made. -/
structure Missing (store : DirectoryStore) (fs : FileSystem) : Prop where
  list : fs.list store.root = .error .notFound
  made : ∀ made, fs.makeDirectory store.root = .ok made → made.list store.root = .ok []

/-- The directory of a store is empty, or it is missing. -/
def Vacant (store : DirectoryStore) (fs : FileSystem) : Prop :=
  fs.list store.root = .ok [] ∨ Missing store fs

/-- A directory that is missing has nothing in it when it is made, if all other entries stand
    in directories and the way to it goes down only. -/
theorem missing_of_grounded (hgrounded : fs.Grounded) (hroot : store.root ≠ "")
    (hdown : ".." ∉ parts store.root) (hlist : fs.list store.root = .error .notFound) :
    Missing store fs :=
  have hdescends : FileSystem.Descends store.root := ⟨[], _, rfl, by simp, hdown⟩
  ⟨hlist, fun _ hmade => hgrounded.list_makeDirectory hroot hdescends hlist hmade⟩

namespace Missing

variable (h : Missing store fs)

include h

theorem files_eq : store.files fs = .ok [] := by
  unfold files
  rw [h.list]

theorem filesOf_eq (id : String) : store.filesOf fs id = .ok [] := by
  unfold filesOf
  rw [h.files_eq]
  rfl

theorem load_eq (id : String) : store.load fs id = .ok none := by
  unfold load
  rw [h.filesOf_eq]
  rfl

theorem list_eq : store.list fs = .ok [] := by
  unfold DirectoryStore.list
  rw [h.files_eq]
  rfl

theorem delete_eq (id : String) : store.delete fs id = (fs, .ok false) := by
  unfold delete
  rw [h.filesOf_eq]
  rfl

theorem of_sameFiles (hsame : fs.SameFiles fs') : Missing store fs' := by
  refine ⟨hsame.list_eq_error h.list, ?_⟩
  intro made' hmade'
  obtain ⟨made, hmade, hmadeSame⟩ := hsame.symm.makeDirectory hmade'
  exact hmadeSame.symm.list_eq_nil (h.made made hmade)

end Missing

/-- A store in a directory and one in memory hold the same workflows. The directory is only
    made when something is saved. -/
inductive Matches (store : DirectoryStore) (fs : FileSystem) : MemoryStore → Prop where
  | missing (h : Missing store fs) : Matches store fs .empty
  | mirrors {mem : MemoryStore} {place : Place} (h : Mirrors store fs mem place) :
      Matches store fs mem

theorem Vacant.matches_empty (h : Vacant store fs) : Matches store fs .empty := by
  rcases h with h | h
  · obtain ⟨place, hmirrors⟩ := exists_mirrors_of_list h
    exact .mirrors hmirrors
  · exact .missing h

namespace Matches

variable (h : Matches store fs mem)

include h

theorem of_sameFiles (hsame : fs.SameFiles fs') : Matches store fs' mem := by
  cases h with
  | missing h => exact .missing (h.of_sameFiles hsame)
  | mirrors h => exact .mirrors (h.of_sameFiles hsame)

theorem load_eq (id : String) : store.load fs id = .ok (mem.load id) := by
  cases h with
  | missing h => exact h.load_eq id
  | mirrors h => exact h.load_eq id

theorem list_eq : store.list fs = .ok mem.list := by
  cases h with
  | missing h =>
    rw [h.list_eq, MemoryStore.list_empty]
  | mirrors h => exact h.list_eq

theorem delete (id : String) : (store.delete fs id).2 = .ok (mem.delete id).2 ∧
    Matches store (store.delete fs id).1 (mem.delete id).1 := by
  cases h with
  | missing h =>
    rw [h.delete_eq]
    exact ⟨rfl, .missing h⟩
  | mirrors h =>
    obtain ⟨hanswer, hmirrors⟩ := h.of_delete id
    exact ⟨hanswer, .mirrors hmirrors⟩

theorem exists_mirrors {made : FileSystem} (hmade : fs.makeDirectory store.root = .ok made) :
    ∃ place, Mirrors store made mem place := by
  cases h with
  | missing h => exact exists_mirrors_of_list (h.made made hmade)
  | mirrors h =>
    rw [FileSystem.makeDirectory_of_locate h.locates h.directory] at hmade
    cases hmade
    exact ⟨_, h⟩

theorem prepare_eq (now : Timestamp) (w : Workflow) :
    store.prepare fs now w = (w.inheritCreation (mem.load w.id)).stamped? now := by
  unfold prepare
  rw [h.load_eq]
  rfl

/-- A workflow is stamped and saved alike, unless its file cannot be written. -/
theorem save {now : Timestamp} {w : Workflow} {result : Except StoreError Workflow}
    (hid : w.id ≠ "") (hslash : NoSlash w.id) (hsave : store.save fs now w = (fs', result))
    (hio : ∀ path cause, result ≠ .error (.io path cause))
    (hread : ∀ s, result = .ok s → store.read? .yaml (store.write s) = some s) :
    ∃ mem', mem.save now w = (mem', result) ∧ Matches store fs' mem' := by
  have hprepare := h.prepare_eq now w
  unfold MemoryStore.save
  rw [← hprepare]
  unfold DirectoryStore.save at hsave
  cases hsaved : store.prepare fs now w with
  | error e =>
    rw [hsaved] at hsave
    cases hsave
    exact ⟨mem, rfl, h⟩
  | ok saved =>
    have hsavedId := id_of_prepare hsaved
    rw [hsaved] at hsave
    unfold writeFile failure at hsave
    rcases hbuild : fs.buildDirectory store.root with ⟨made, built⟩
    rw [hbuild] at hsave
    cases built with
    | error e =>
      cases hsave
      exact absurd rfl (hio _ _)
    | ok done =>
      obtain ⟨place, hmirrors⟩ :=
        h.exists_mirrors (FileSystem.buildDirectory_eq_ok_iff.mp hbuild)
      dsimp only at hsave
      cases hwrite : made.write (store.savePath saved.id) (.text (store.write saved)) with
      | error e =>
        rw [hwrite] at hsave
        cases hsave
        exact absurd rfl (hio _ _)
      | ok written =>
        rw [hwrite] at hsave
        cases hsave
        rw [← hsavedId] at hid hslash
        exact ⟨_, rfl, .mirrors (hmirrors.of_write hwrite hid hslash (hread saved rfl))⟩

end Matches

theorem Matches.perform_of_not_save (h : Matches store fs mem) {operation : StoreOperation}
    (hoperation : ∀ now w, operation ≠ .save now w) :
    (store.perform fs operation).2 = (mem.perform operation).2 ∧
      Matches store (store.perform fs operation).1 (mem.perform operation).1 := by
  cases operation with
  | save now w => exact absurd rfl (hoperation now w)
  | load id =>
    refine ⟨?_, h⟩
    exact congrArg StoreAnswer.loaded (h.load_eq id)
  | list =>
    refine ⟨?_, h⟩
    exact congrArg StoreAnswer.listed h.list_eq
  | delete id =>
    obtain ⟨hanswer, hmatches⟩ := h.delete id
    exact ⟨congrArg StoreAnswer.deleted hanswer, hmatches⟩

/-- What an operation answers, and what it leaves, is the same in both stores. -/
theorem Matches.perform (h : Matches store fs mem) {operation : StoreOperation}
    (hplain : ∀ now w, operation = .save now w → w.id ≠ "" ∧ NoSlash w.id)
    (hio : ¬ (store.perform fs operation).2.IsIo)
    (hread : ∀ s, (store.perform fs operation).2 = .saved (.ok s) →
      store.read? .yaml (store.write s) = some s) :
    (store.perform fs operation).2 = (mem.perform operation).2 ∧
      Matches store (store.perform fs operation).1 (mem.perform operation).1 := by
  cases operation with
  | save now w =>
    obtain ⟨hid, hslash⟩ := hplain now w rfl
    have hresult : ∀ path cause, (store.save fs now w).2 ≠ .error (.io path cause) := by
      intro path cause hfails
      refine hio ⟨path, cause, ?_⟩
      unfold DirectoryStore.perform
      dsimp only
      rw [hfails]
      rfl
    obtain ⟨mem', hmem, hmatches⟩ := h.save hid hslash rfl hresult
      (fun s hs => hread s (congrArg StoreAnswer.saved hs))
    unfold DirectoryStore.perform MemoryStore.perform
    dsimp only
    rw [hmem]
    exact ⟨rfl, hmatches⟩
  | load | list | delete =>
    refine h.perform_of_not_save ?_
    rintro _ _ ⟨⟩

/-- Stores with the same workflows answer alike, however long they are used. -/
theorem Matches.answers_eq (h : Matches store fs mem) {operations : List StoreOperation}
    {answers : List StoreAnswer} (hanswers : MayAnswer store fs operations answers)
    (hplain : ∀ now w, .save now w ∈ operations → w.id ≠ "" ∧ NoSlash w.id)
    (hio : ∀ answer ∈ answers, ¬ answer.IsIo)
    (hread : ∀ s, .saved (.ok s) ∈ answers → store.read? .yaml (store.write s) = some s) :
    answers = mem.answers operations := by
  induction hanswers generalizing mem with
  | done fs => rfl
  | next hsame hrest ih =>
    rename_i operation rest answers
    obtain ⟨hanswer, hmatches⟩ := (h.of_sameFiles hsame).perform
      (fun now w heq => hplain now w (heq ▸ List.mem_cons_self))
      (hio _ List.mem_cons_self)
      (fun s heq => hread s (heq ▸ List.mem_cons_self))
    have htail := ih hmatches
      (fun now w hmem => hplain now w (List.mem_cons_of_mem _ hmem))
      (fun answer hmem => hio answer (List.mem_cons_of_mem _ hmem))
      (fun s hmem => hread s (List.mem_cons_of_mem _ hmem))
    rw [MemoryStore.answers, hanswer, htail]

/-- A store in a directory with nothing in it answers every series of operations as the empty
    store in memory does, in whatever order the files are listed. -/
theorem answers_eq_of_vacant (hvacant : Vacant store fs) {operations : List StoreOperation}
    {answers : List StoreAnswer} (hanswers : MayAnswer store fs operations answers)
    (hplain : ∀ now w, .save now w ∈ operations → w.id ≠ "" ∧ NoSlash w.id)
    (hio : ∀ answer ∈ answers, ¬ answer.IsIo)
    (hread : ∀ s, .saved (.ok s) ∈ answers → store.read? .yaml (store.write s) = some s) :
    answers = MemoryStore.empty.answers operations :=
  hvacant.matches_empty.answers_eq hanswers hplain hio hread

theorem vacant_flows : Vacant (new "flows") .empty :=
  .inr (missing_of_grounded FileSystem.grounded_empty (by decide) (by decide +kernel)
    (by decide +kernel))

/-- A workflow that is saved, listed, loaded and deleted. -/
def lifeOf (id : String) : List StoreOperation :=
  [.save newYear (startOnly id), .list, .load id, .delete id, .list]

/-- A store in a directory that is still missing answers as the empty store in memory. -/
theorem answers_lifeOf_login :
    MayAnswer (new "flows") .empty (lifeOf "login")
        ((new "flows").answers .empty (lifeOf "login")) ∧
      (new "flows").answers .empty (lifeOf "login") =
        MemoryStore.empty.answers (lifeOf "login") := by
  have hmay := mayAnswer_answers (new "flows") .empty (lifeOf "login")
  have hanswers : (new "flows").answers .empty (lifeOf "login") =
      [.saved (.ok ((startOnly "login").stamp newYear)), .listed (.ok ["login"]),
        .loaded (.ok (some ((startOnly "login").stamp newYear))), .deleted (.ok true),
        .listed (.ok [])] := by
    have hsave := save_startOnly "login" (by decide +kernel)
    obtain ⟨mem, hmem, hsaved⟩ := vacant_flows.matches_empty.save (by decide)
      (by unfold NoSlash; decide) hsave (by simp)
      (fun s hs => by cases hs; exact read_write_startOnly_login)
    obtain rfl : MemoryStore.empty.put ((startOnly "login").stamp newYear) = mem :=
      congrArg Prod.fst hmem
    obtain ⟨hdelete, hdeleted⟩ := hsaved.delete "login"
    unfold lifeOf
    simp only [answers, perform, hsave, hsaved.list_eq, hsaved.load_eq, hdelete, hdeleted.list_eq]
    decide +kernel
  refine ⟨hmay, answers_eq_of_vacant vacant_flows hmay ?_ ?_ ?_⟩
  · intro now w hmem
    obtain ⟨rfl, rfl⟩ : now = newYear ∧ w = startOnly "login" := by simpa [lifeOf] using hmem
    refine ⟨by decide, ?_⟩
    unfold NoSlash
    decide
  · rw [hanswers]
    rintro answer hmem ⟨path, cause, herror⟩
    simp only [List.mem_cons, List.not_mem_nil, or_false] at hmem
    rcases hmem with rfl | rfl | rfl | rfl | rfl
    all_goals cases herror
  · rw [hanswers]
    intro s hmem
    obtain rfl : s = (startOnly "login").stamp newYear := by simpa using hmem
    exact read_write_startOnly_login

end DirectoryStore

end DeviceFlow
