import DeviceFlow.Proofs.Store.Failure
import Mathlib.Data.List.Induction

/-!
# Exchanges with a store

What is asked of a store, and what it answers. Both kinds of stores answer as a store in memory,
but for operations that fail: a workflow may be refused or its file not be written, and where the
directory of a store cannot be made nothing is ever saved, and nothing can be looked up.
-/

namespace DeviceFlow

open Files

/-- An operation, and what a store has answered to it. -/
abbrev StoreExchange := StoreOperation × StoreAnswer

/-- What a store that holds the same as one in memory may answer: the same as that, or an error,
    which leaves it as it was. Only saving fails in a store that holds anything. -/
inductive Exchanges (mem : MemoryStore) : StoreExchange → MemoryStore → Prop where
  | answered (operation : StoreOperation) :
      Exchanges mem (operation, (mem.perform operation).2) (mem.perform operation).1
  | failed {operation : StoreOperation} {answer : StoreAnswer} {e : StoreError}
      (herror : answer.error? = some e)
      (hcause : mem = .empty ∨ ∃ now w, operation = .save now w) :
      Exchanges mem (operation, answer) mem

/-- What happens with a store that is empty at first, and what it holds in the end. -/
inductive StoreHistory : List StoreExchange → MemoryStore → Prop where
  | start : StoreHistory [] .empty
  | next {t : List StoreExchange} {mem mem' : MemoryStore} {exchange : StoreExchange}
      (h : StoreHistory t mem) (hnext : Exchanges mem exchange mem') :
      StoreHistory (t ++ [exchange]) mem'

namespace StoreHistory

variable {t past after : List StoreExchange} {mem : MemoryStore} {exchange : StoreExchange}

theorem exists_last (h : StoreHistory (t ++ [exchange]) mem) :
    ∃ before, StoreHistory t before ∧ Exchanges before exchange mem := by
  generalize hall : t ++ [exchange] = all at h
  cases h with
  | start => simp at hall
  | next h hnext =>
    obtain ⟨rfl, hlast⟩ := List.append_inj' hall rfl
    obtain rfl := List.singleton_inj.mp hlast
    exact ⟨_, h, hnext⟩

/-- What has happened up to some moment is a history. -/
theorem exists_of_append (h : StoreHistory (past ++ after) mem) :
    ∃ before, StoreHistory past before := by
  induction after using List.reverseRecOn generalizing mem with
  | nil =>
    rw [List.append_nil] at h
    exact ⟨mem, h⟩
  | append_singleton rest last ih =>
    rw [← List.append_assoc] at h
    obtain ⟨before, hbefore, _⟩ := h.exists_last
    exact ih hbefore

end StoreHistory

/-- The operations and answers of a store in memory are a history. -/
theorem MemoryStore.exists_history (mem : MemoryStore) {t : List StoreExchange}
    (h : StoreHistory t mem) (operations : List StoreOperation) :
    ∃ after, StoreHistory (t ++ operations.zip (mem.answers operations)) after := by
  induction operations generalizing mem t with
  | nil =>
    rw [List.zip_nil_left, List.append_nil]
    exact ⟨mem, h⟩
  | cons operation rest ih =>
    rw [answers, List.zip_cons_cons, List.append_cons]
    exact ih _ (h.next (.answered operation))

namespace DirectoryStore

variable {store : DirectoryStore} {fs fs' : FileSystem} {mem : MemoryStore}
  {operation : StoreOperation} {e : StoreError}

theorem perform_of_files_error (hfiles : store.files fs = .error e)
    (hoperation : ∀ now w, operation ≠ .save now w) :
    (store.perform fs operation).2.error? = some e ∧ (store.perform fs operation).1 = fs := by
  have hfilesOf : ∀ id, store.filesOf fs id = .error e := by
    intro id
    unfold filesOf
    rw [hfiles]
    rfl
  unfold perform
  cases operation with
  | save now w => exact absurd rfl (hoperation now w)
  | load id =>
    dsimp only
    rw [load_of_filesOf_error (hfilesOf id)]
    exact ⟨rfl, rfl⟩
  | list =>
    unfold DirectoryStore.list
    dsimp only
    rw [hfiles]
    exact ⟨rfl, rfl⟩
  | delete id =>
    unfold delete
    dsimp only
    rw [hfilesOf]
    exact ⟨rfl, rfl⟩

/-- The directory of a store cannot be made. -/
def Barred (store : DirectoryStore) (fs : FileSystem) : Prop :=
  ∃ cause, (fs.buildDirectory store.root).2 = .error cause

theorem barred_or_exists_made (store : DirectoryStore) (fs : FileSystem) :
    Barred store fs ∨ ∃ made, fs.buildDirectory store.root = (made, .ok ()) := by
  rcases hbuild : fs.buildDirectory store.root with ⟨made, result⟩
  cases result with
  | error cause => exact .inl ⟨cause, congrArg Prod.snd hbuild⟩
  | ok done => exact .inr ⟨made, rfl⟩

namespace Barred

variable (h : Barred store fs)

include h

theorem makeDirectory_ne {made : FileSystem} : fs.makeDirectory store.root ≠ .ok made := by
  intro hmade
  obtain ⟨cause, hcause⟩ := h
  rw [FileSystem.buildDirectory_eq_ok_iff.mpr hmade] at hcause
  cases hcause

theorem of_sameFiles (hsame : fs.SameFiles fs') : Barred store fs' := by
  rcases barred_or_exists_made store fs' with hbarred | ⟨made, hmade⟩
  · exact hbarred
  · obtain ⟨_, hmade', _⟩ :=
      hsame.symm.makeDirectory (FileSystem.buildDirectory_eq_ok_iff.mp hmade)
    exact absurd hmade' h.makeDirectory_ne

/-- Trying to make it does not help. -/
theorem built : Barred store (fs.buildDirectory store.root).1 := by
  obtain ⟨cause, hcause⟩ := h
  have hagain := FileSystem.buildDirectory_again (Prod.ext rfl hcause)
  exact ⟨cause, congrArg Prod.snd hagain⟩

/-- It is as empty as a missing directory, or it cannot be told what is in it. -/
theorem matches_empty_or_files_error :
    Matches store fs .empty ∨ ∃ e, store.files fs = .error e := by
  cases hlist : fs.list store.root with
  | ok names =>
    obtain ⟨place, ⟨hlocate, hdir⟩, _⟩ := FileSystem.list_eq_ok_iff.mp hlist
    exact absurd (FileSystem.makeDirectory_of_locate hlocate hdir) h.makeDirectory_ne
  | error cause =>
    cases hfiles : store.files fs with
    | error e => exact .inr ⟨e, rfl⟩
    | ok names =>
      obtain ⟨rfl, _⟩ := files_of_list_error hlist hfiles
      exact .inl (.missing ⟨hlist, fun _ hmade => absurd hmade h.makeDirectory_ne⟩)

end Barred

/-- A store in a directory holds the same as one in memory, or it holds nothing because its
    directory cannot be made. -/
inductive HoldsSame (store : DirectoryStore) (fs : FileSystem) : MemoryStore → Prop where
  | same {mem : MemoryStore} (h : Matches store fs mem) : HoldsSame store fs mem
  | barred (h : Barred store fs) : HoldsSame store fs .empty

namespace HoldsSame

variable (h : HoldsSame store fs mem)

include h

theorem of_sameFiles (hsame : fs.SameFiles fs') : HoldsSame store fs' mem := by
  cases h with
  | same h => exact .same (h.of_sameFiles hsame)
  | barred h => exact .barred (h.of_sameFiles hsame)

/-- Making the directory does not change what the store holds. -/
theorem built : HoldsSame store (fs.buildDirectory store.root).1 mem := by
  cases h with
  | barred h => exact .barred h.built
  | same h =>
    rcases barred_or_exists_made store fs with hbarred | ⟨made, hmade⟩
    · cases h with
      | missing => exact .barred hbarred.built
      | mirrors h =>
        exact absurd (FileSystem.makeDirectory_of_locate h.locates h.directory)
          hbarred.makeDirectory_ne
    · obtain ⟨place, hmirrors⟩ :=
        h.exists_mirrors (FileSystem.buildDirectory_eq_ok_iff.mp hmade)
      rw [hmade]
      exact .same (.mirrors hmirrors)

theorem of_save_error {now : Timestamp} {w : Workflow}
    (hsave : store.save fs now w = (fs', .error e)) : HoldsSame store fs' mem := by
  rcases eq_of_save_error hsave with rfl | ⟨rfl, _⟩
  · exact h
  · exact h.built

/-- What is saved is what the store in memory saves. -/
theorem of_save_ok {now : Timestamp} {w s : Workflow} (hid : w.id ≠ "") (hslash : NoSlash w.id)
    (hread : store.read? .yaml (store.write s) = some s)
    (hsave : store.save fs now w = (fs', .ok s)) :
    ∃ mem', mem.save now w = (mem', .ok s) ∧ HoldsSame store fs' mem' := by
  cases h with
  | barred h =>
    obtain ⟨_, made, hmade, _⟩ := exists_of_save hsave
    exact absurd hmade h.makeDirectory_ne
  | same h =>
    obtain ⟨mem', hmem, hmatches⟩ := h.save hid hslash hsave (fun _ _ => by simp)
      (fun _ heq => by cases heq; exact hread)
    exact ⟨mem', hmem, .same hmatches⟩

/-- An operation other than saving is answered as in memory, unless it cannot be told what is in
    the directory. -/
theorem exchanges_of_not_save (hoperation : ∀ now w, operation ≠ .save now w) :
    ∃ mem', Exchanges mem (operation, (store.perform fs operation).2) mem' ∧
      HoldsSame store (store.perform fs operation).1 mem' := by
  have hsame : Matches store fs mem → ∃ mem',
      Exchanges mem (operation, (store.perform fs operation).2) mem' ∧
        HoldsSame store (store.perform fs operation).1 mem' := by
    intro hmatches
    obtain ⟨hanswer, hafter⟩ := hmatches.perform_of_not_save hoperation
    rw [hanswer]
    exact ⟨_, .answered operation, .same hafter⟩
  cases h with
  | same hmatches => exact hsame hmatches
  | barred h =>
    rcases h.matches_empty_or_files_error with hmatches | ⟨e, hfiles⟩
    · exact hsame hmatches
    · obtain ⟨herror, hfs⟩ := perform_of_files_error hfiles hoperation
      rw [hfs]
      exact ⟨.empty, .failed herror (.inl rfl), .barred h⟩

/-- Whatever is asked, it is answered as in memory, or with an error that changes nothing. -/
theorem exchanges (hplain : ∀ now w, operation = .save now w → w.id ≠ "" ∧ NoSlash w.id)
    (hread : ∀ s, (store.perform fs operation).2 = .saved (.ok s) →
      store.read? .yaml (store.write s) = some s) :
    ∃ mem', Exchanges mem (operation, (store.perform fs operation).2) mem' ∧
      HoldsSame store (store.perform fs operation).1 mem' := by
  cases operation with
  | save now w =>
    rcases hsave : store.save fs now w with ⟨after, result⟩
    have hperform : store.perform fs (.save now w) = (after, .saved result) := by
      unfold perform
      dsimp only
      rw [hsave]
    rw [hperform] at hread ⊢
    cases result with
    | error e => exact ⟨mem, .failed rfl (.inr ⟨now, w, rfl⟩), h.of_save_error hsave⟩
    | ok s =>
      obtain ⟨hid, hslash⟩ := hplain now w rfl
      obtain ⟨mem', hmem, hholds⟩ := h.of_save_ok hid hslash (hread s rfl) hsave
      have hanswered : Exchanges mem _ _ := .answered (.save now w)
      unfold MemoryStore.perform at hanswered
      dsimp only at hanswered
      rw [hmem] at hanswered
      exact ⟨mem', hanswered, hholds⟩
  | load | list | delete =>
    refine h.exchanges_of_not_save ?_
    rintro _ _ ⟨⟩

/-- Whatever is asked, and in whatever order the files are listed each time, the answers belong
    to a history. -/
theorem exists_history {t : List StoreExchange} (ht : StoreHistory t mem)
    {operations : List StoreOperation} {answers : List StoreAnswer}
    (hanswers : MayAnswer store fs operations answers)
    (hplain : ∀ now w, .save now w ∈ operations → w.id ≠ "" ∧ NoSlash w.id)
    (hread : ∀ s, .saved (.ok s) ∈ answers → store.read? .yaml (store.write s) = some s) :
    ∃ after, StoreHistory (t ++ operations.zip answers) after := by
  induction hanswers generalizing mem t with
  | done fs =>
    rw [List.zip_nil_left, List.append_nil]
    exact ⟨mem, ht⟩
  | next hsame hrest ih =>
    rename_i operation rest answers
    obtain ⟨mem', hexchanges, hholds⟩ := (h.of_sameFiles hsame).exchanges
      (fun now w heq => hplain now w (heq ▸ List.mem_cons_self))
      (fun s heq => hread s (heq ▸ List.mem_cons_self))
    rw [List.zip_cons_cons, List.append_cons]
    exact ih hholds (ht.next hexchanges)
      (fun now w hmem => hplain now w (List.mem_cons_of_mem _ hmem))
      (fun s hmem => hread s (List.mem_cons_of_mem _ hmem))

end HoldsSame

end DirectoryStore

end DeviceFlow
