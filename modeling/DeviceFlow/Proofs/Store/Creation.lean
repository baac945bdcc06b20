import DeviceFlow.Proofs.Store.Exchange
import Mathlib.Data.List.DropRight

/-!
# Times of creation

A workflow is stamped with the time of its creation when it is saved for the first time, and it
keeps this time however often it is saved again, until it is deleted. Whatever is loaded in the
meantime is what has been saved last. The histories are those of either store, and each workflow
that is saved comes without a time of creation or with that of the one saved last under its id.
-/

namespace DeviceFlow

namespace Timestamp

/-- The fields of a moment, the year first. -/
def fields (t : Timestamp) : List Int :=
  [t.year, t.month, t.day, t.hour, t.minute, t.second, t.nanos]

/-- A moment is not later than another one by the first field in which they differ. -/
instance : LE Timestamp := ⟨fun a b => List.le a.fields b.fields⟩

theorem le_refl (t : Timestamp) : t ≤ t := List.le_refl t.fields

theorem le_trans {a b c : Timestamp} (hab : a ≤ b) (hbc : b ≤ c) : a ≤ c :=
  List.le_trans (α := Int) hab hbc

end Timestamp

/-! ## Saves in a history -/

/-- A save that has succeeded: when it was, the workflow that was given, and the one that was
    saved. -/
structure Saving where
  now : Timestamp
  given : Workflow
  saved : Workflow

/-- The time of creation of a workflow that is saved for the first time. -/
def Saving.creation (s : Saving) : Timestamp := s.given.createdAt.getD s.now

/-- The save of a workflow with an id, if an exchange is one that has succeeded. -/
def saving? (id : String) : StoreExchange → Option Saving
  | (.save now w, .saved (.ok s)) => if w.id = id then some ⟨now, w, s⟩ else none
  | _ => none

/-- Whether an exchange is a deletion of the workflow with an id. -/
def isDeletion (id : String) : StoreExchange → Bool
  | (.delete other, _) => other = id
  | _ => false

/-- The successful saves of workflows with an id, in the order of time. -/
def savings (id : String) (t : List StoreExchange) : List Saving := t.filterMap (saving? id)

/-- Those of them since the last deletion of the id, or from the beginning on. -/
def standing (id : String) (t : List StoreExchange) : List Saving :=
  savings id (t.rtakeWhile fun exchange => !isDeletion id exchange)

variable {t past after : List StoreExchange} {exchange : StoreExchange} {id : String}
  {mem mem' : MemoryStore} {s : Saving}

theorem saving?_eq_some_iff : saving? id exchange = some s ↔
    exchange = (.save s.now s.given, .saved (.ok s.saved)) ∧ s.given.id = id := by
  unfold saving?
  split
  · constructor
    · intro h
      split at h
      · rename_i hid
        cases h
        exact ⟨rfl, hid⟩
      · cases h
    · rintro ⟨h, hid⟩
      cases h
      exact if_pos hid
  · rename_i hother
    constructor
    · intro h
      cases h
    · rintro ⟨rfl, _⟩
      exact absurd rfl (hother _ _ _)

theorem saving?_saved (id : String) (now : Timestamp) (w saved : Workflow) :
    saving? id (.save now w, .saved (.ok saved)) =
      if w.id = id then some ⟨now, w, saved⟩ else none := rfl

theorem saving?_of_error {operation : StoreOperation} {answer : StoreAnswer} {e : StoreError}
    (h : answer.error? = some e) : saving? id (operation, answer) = none := by
  cases hsaving : saving? id (operation, answer) with
  | none => rfl
  | some s =>
    obtain ⟨heq, _⟩ := saving?_eq_some_iff.mp hsaving
    cases heq
    cases h

theorem savings_concat (id : String) (t : List StoreExchange) (exchange : StoreExchange) :
    savings id (t ++ [exchange]) = savings id t ++ (saving? id exchange).toList := by
  unfold savings
  rw [List.filterMap_append]
  cases h : saving? id exchange with
  | none => simp [h]
  | some s => simp [h]

theorem standing_concat (id : String) (t : List StoreExchange) (exchange : StoreExchange) :
    standing id (t ++ [exchange]) =
      if isDeletion id exchange then [] else standing id t ++ (saving? id exchange).toList := by
  unfold standing
  rw [List.rtakeWhile_concat]
  cases isDeletion id exchange with
  | true => rfl
  | false => exact savings_concat ..

theorem standing_suffix (id : String) (t : List StoreExchange) : standing id t <:+ savings id t :=
  (List.rtakeWhile_suffix _ _).filterMap _

/-- What has been saved last since the last deletion has been saved last of all. -/
theorem getLast?_savings (h : (standing id t).getLast? = some s) :
    (savings id t).getLast? = some s := by
  obtain ⟨before, hbefore⟩ := standing_suffix id t
  rw [← hbefore, List.getLast?_append, h]
  rfl

/-! ## What a store keeps -/

theorem MemoryStore.of_save_ok {now : Timestamp} {w saved : Workflow}
    (h : (mem.save now w).2 = .ok saved) :
    saved = (w.inheritCreation (mem.load w.id)).stamp now ∧
      (mem.save now w).1 = mem.put saved := by
  unfold save at h ⊢
  split at h
  · cases h
  · rename_i hstamped
    cases h
    unfold Workflow.stamped? at hstamped
    split at hstamped
    · cases hstamped
      exact ⟨rfl, rfl⟩
    · cases hstamped

/-- What is saved takes over the time of creation of what is kept, and is stamped. -/
theorem Exchanges.stamped (h : Exchanges mem exchange mem') (hs : saving? id exchange = some s) :
    s.saved = (s.given.inheritCreation (mem.load id)).stamp s.now := by
  obtain ⟨heq, rfl⟩ := saving?_eq_some_iff.mp hs
  cases h with
  | answered operation =>
    obtain ⟨rfl, hanswer⟩ := Prod.mk.inj heq
    exact (MemoryStore.of_save_ok (StoreAnswer.saved.inj hanswer)).1
  | failed herror =>
    rw [saving?_of_error herror] at hs
    cases hs

/-- What is saved is kept, until it is saved again or deleted. -/
theorem Exchanges.load_eq (h : Exchanges mem exchange mem') (id : String) :
    mem'.load id = if isDeletion id exchange then none
      else ((saving? id exchange).map (·.saved)).or (mem.load id) := by
  cases h with
  | failed herror hcause =>
    rename_i operation answer e
    rw [saving?_of_error herror]
    cases operation with
    | delete other =>
      obtain rfl : mem = .empty := by simpa using hcause
      split <;> rfl
    | _ => rfl
  | answered operation =>
    cases operation with
    | load | list => rfl
    | delete other =>
      change (mem.erase other).get? id = if decide (other = id) then none else mem.get? id
      rw [Dict.get?_erase]
      simp
    | save now w =>
      cases hresult : (mem.save now w).2 with
      | error e =>
        have herror : (mem.perform (.save now w)).2.error? = some e :=
          StoreAnswer.error?_saved_iff.mpr hresult
        rw [MemoryStore.perform_of_error herror, saving?_of_error herror]
        rfl
      | ok saved =>
        obtain ⟨rfl, hput⟩ := MemoryStore.of_save_ok hresult
        have hperform : mem.perform (.save now w) = (mem.put _, .saved (.ok _)) :=
          Prod.ext hput (congrArg StoreAnswer.saved hresult)
        rw [hperform, saving?_saved]
        unfold MemoryStore.load MemoryStore.put
        rw [Dict.get?_insert]
        -- The id of a workflow is not stamped.
        by_cases hid : w.id = id
        · rw [if_pos hid]
          exact if_pos hid
        · rw [if_neg hid]
          exact if_neg hid

/-- What is kept is loaded. -/
theorem Exchanges.loaded {result : Except StoreError (Option Workflow)} {w : Workflow}
    (h : Exchanges mem (.load id, .loaded result) mem') (hload : mem.load id = some w) :
    result = .ok (some w) := by
  generalize hexchange : (StoreOperation.load id, StoreAnswer.loaded result) = exchange at h
  cases h with
  | answered operation =>
    obtain ⟨rfl, hanswer⟩ := Prod.mk.inj hexchange
    rw [StoreAnswer.loaded.inj hanswer, hload]
  | failed _ hcause =>
    cases hexchange
    obtain rfl : mem = .empty := by simpa using hcause
    cases hload

/-- A workflow that has not been there before is stamped with the time of its creation. -/
theorem Workflow.stamp_inheritCreation_none (w : Workflow) (now : Timestamp) :
    (w.inheritCreation none).stamp now =
      { w with createdAt := some (w.createdAt.getD now), updatedAt := some now } := by
  unfold inheritCreation stamp
  cases w.createdAt with
  | none => rfl
  | some created => rfl

/-- A workflow that replaces another one is stamped with the time of creation of that one, if it
    comes with no other. -/
theorem Workflow.stamp_inheritCreation_some {w existing : Workflow} {created : Timestamp}
    (hexisting : existing.createdAt = some created)
    (hcarried : w.createdAt = none ∨ w.createdAt = some created) (now : Timestamp) :
    (w.inheritCreation (some existing)).stamp now =
      { w with createdAt := some created, updatedAt := some now } := by
  unfold inheritCreation stamp
  rcases hcarried with hnone | hsame
  · rw [hnone]
    simp [hexisting]
  · rw [hsame]
    rfl

/-- A workflow comes without a time of creation, or with that of the one saved last. -/
def Carries (w : Workflow) (earlier : List Saving) : Prop :=
  w.createdAt = none ∨ ∃ last ∈ earlier.getLast?, w.createdAt = last.saved.createdAt

/-- All saves of a workflow that count have stamped it with the time of creation of the first of
    them, each with its own time, and what the last of them has saved is kept. -/
structure Stamped (t : List StoreExchange) (mem : MemoryStore) (id : String) : Prop where
  load : mem.load id = (standing id t).getLast?.map (·.saved)
  stamped : ∀ first ∈ (standing id t).head?, ∀ s ∈ standing id t,
    s.saved = { s.given with createdAt := some first.creation, updatedAt := some s.now }

theorem stamped_nil (id : String) : Stamped [] .empty id := by
  refine ⟨rfl, ?_⟩
  rintro _ ⟨⟩

namespace Stamped

variable (h : Stamped t mem id)

include h

/-- A save is stamped like those before it. -/
theorem of_saving (hnext : Exchanges mem exchange mem') (hs : saving? id exchange = some s)
    (hcarries : Carries s.given (savings id t)) :
    ∀ first ∈ (standing id t ++ [s]).head?,
      s.saved = { s.given with createdAt := some first.creation, updatedAt := some s.now } := by
  have hsaved := hnext.stamped hs
  intro first hfirst
  cases hlast : (standing id t).getLast? with
  | none =>
    rw [List.getLast?_eq_none_iff.mp hlast] at hfirst
    cases hfirst
    rw [hsaved, h.load, hlast]
    exact Workflow.stamp_inheritCreation_none ..
  | some last =>
    have hmem := List.mem_of_getLast? hlast
    have hhead : first ∈ (standing id t).head? := by
      rwa [List.head?_append_of_ne_nil _ (List.ne_nil_of_mem hmem)] at hfirst
    have hcreated : last.saved.createdAt = some first.creation := by
      rw [h.stamped first hhead last hmem]
    rw [hsaved, h.load, hlast]
    refine Workflow.stamp_inheritCreation_some hcreated ?_ _
    rcases hcarries with hnone | ⟨other, hother, hsame⟩
    · exact .inl hnone
    · rw [getLast?_savings hlast] at hother
      cases hother
      exact .inr (hsame.trans hcreated)

/-- Whatever happens next, the saves that count are stamped alike. -/
theorem next (hnext : Exchanges mem exchange mem')
    (hcarries : ∀ s, saving? id exchange = some s → Carries s.given (savings id t)) :
    Stamped (t ++ [exchange]) mem' id := by
  constructor
  · rw [hnext.load_eq, standing_concat]
    split
    · rfl
    · cases hsaving : saving? id exchange with
      | none => simpa using h.load
      | some s => simp
  · rw [standing_concat]
    split
    · rintro _ ⟨⟩
    · cases hsaving : saving? id exchange with
      | none => simpa using h.stamped
      | some s =>
        have hs := h.of_saving hnext hsaving (hcarries s hsaving)
        intro first hfirst other hother
        rcases List.mem_append.mp hother with hmem | hlast
        · rw [List.head?_append_of_ne_nil _ (List.ne_nil_of_mem hmem)] at hfirst
          exact h.stamped first hfirst other hmem
        · obtain rfl := List.mem_singleton.mp hlast
          exact hs first hfirst

end Stamped

/-! ## Histories -/

/-- Each workflow that is saved comes without a time of creation, or with that of the workflow
    saved last under its id, whether or not it has been deleted since. -/
def Honest (t : List StoreExchange) : Prop :=
  ∀ past after now w saved, t = past ++ (.save now w, .saved (.ok saved)) :: after →
    Carries w (savings w.id past)

namespace Honest

theorem of_append (h : Honest (past ++ after)) : Honest past := by
  rintro past' after' now w saved rfl
  exact h past' (after' ++ after) now w saved (by simp)

theorem carries (h : Honest (t ++ [exchange])) (hs : saving? id exchange = some s) :
    Carries s.given (savings id t) := by
  obtain ⟨rfl, rfl⟩ := saving?_eq_some_iff.mp hs
  exact h t [] s.now s.given s.saved rfl

end Honest

namespace StoreHistory

/-- Throughout a history the saves of each workflow are stamped alike. -/
theorem stamped (h : StoreHistory t mem) (hhonest : Honest t) (id : String) :
    Stamped t mem id := by
  induction h with
  | start => exact stamped_nil id
  | next _ hnext ih => exact (ih hhonest.of_append).next hnext fun _ => hhonest.carries

theorem updatedAt_eq (h : StoreHistory t mem) (hs : s ∈ savings id t) :
    s.saved.updatedAt = some s.now := by
  induction h with
  | start => cases hs
  | next _ hnext ih =>
    rw [savings_concat] at hs
    rcases List.mem_append.mp hs with hs | hs
    · exact ih hs
    · rw [hnext.stamped (Option.mem_toList.mp hs)]
      rfl

/-- As long as the clock does not go back, nothing is created after it has been updated. -/
theorem creation_le (h : StoreHistory t mem) (hhonest : Honest t)
    (hclock : (savings id t).Pairwise fun a b => a.now ≤ b.now) :
    ∀ s ∈ savings id t, ∃ created, s.saved.createdAt = some created ∧ created ≤ s.now := by
  induction h with
  | start => simp [savings]
  | @next t mem mem' exchange h hnext ih =>
    rw [savings_concat] at hclock ⊢
    obtain ⟨hbefore, _, hlater⟩ := List.pairwise_append.mp hclock
    have hearlier := ih hhonest.of_append hbefore
    intro s hs
    rcases List.mem_append.mp hs with hs | hs
    · exact hearlier s hs
    · have hsaving : saving? id exchange = some s := Option.mem_toList.mp hs
      have hcarries := hhonest.carries hsaving
      have hstamped := h.stamped hhonest.of_append id
      have hnew := hstamped.of_saving hnext hsaving hcarries
      -- The time is that of the first save that counts, or it came with the workflow.
      cases hstanding : standing id t with
      | nil =>
        rw [hstanding] at hnew
        refine ⟨s.creation, by rw [hnew s rfl], ?_⟩
        unfold Saving.creation
        rcases hcarries with hnone | ⟨last, hlast, hsame⟩
        · rw [hnone]
          exact Timestamp.le_refl s.now
        · obtain ⟨created, hcreated, hle⟩ := hearlier last (List.mem_of_getLast? hlast)
          rw [hsame, hcreated]
          exact Timestamp.le_trans hle (hlater last (List.mem_of_getLast? hlast) s hs)
      | cons first rest =>
        rw [hstanding] at hnew
        refine ⟨first.creation, by rw [hnew first rfl], ?_⟩
        have hmem : first ∈ standing id t := by simp [hstanding]
        have hfirst := (standing_suffix id t).mem hmem
        obtain ⟨created, hcreated, hle⟩ := hearlier first hfirst
        rw [hstamped.stamped first (by simp [hstanding]) first hmem] at hcreated
        cases hcreated
        exact Timestamp.le_trans hle (hlater first hfirst s hs)

end StoreHistory

/-- The operations and answers of a store that is empty at first, of either kind. In a directory
    whatever is saved has the name of a file as its id, and can be read as it has been written. -/
inductive FromEmpty : List StoreExchange → Prop where
  | memory (operations : List StoreOperation) :
      FromEmpty (operations.zip (MemoryStore.empty.answers operations))
  | directory {store : DirectoryStore} {fs : FileSystem} {operations : List StoreOperation}
      {answers : List StoreAnswer} (hvacant : store.Vacant fs)
      (hanswers : store.MayAnswer fs operations answers)
      (hplain : ∀ now w, .save now w ∈ operations → w.id ≠ "" ∧ Files.NoSlash w.id)
      (hread : ∀ s, .saved (.ok s) ∈ answers → store.read? .yaml (store.write s) = some s) :
      FromEmpty (operations.zip answers)

theorem FromEmpty.exists_history (h : FromEmpty t) : ∃ mem, StoreHistory t mem := by
  cases h with
  | memory operations => exact MemoryStore.empty.exists_history .start operations
  | directory hvacant hanswers hplain hread =>
    have hholds := DirectoryStore.HoldsSame.same hvacant.matches_empty
    exact hholds.exists_history .start hanswers hplain hread

/-- What is promised about the times of workflows in a history. -/
structure CreatedOnce (t : List StoreExchange) : Prop where
  /-- Up to every moment, all saves of a workflow since it has been deleted last have stamped it
      with the time of creation of the first of them and with their own time, and have changed
      nothing else. -/
  stamped : ∀ past after id, t = past ++ after → ∀ first ∈ (standing id past).head?,
    ∀ s ∈ standing id past,
      s.saved = { s.given with createdAt := some first.creation, updatedAt := some s.now }
  /-- Whenever it is loaded after that, the answer is what the last of them has saved. -/
  loaded : ∀ past after id result, t = past ++ (.load id, .loaded result) :: after →
    ∀ last ∈ (standing id past).getLast?, result = .ok (some last.saved)
  /-- As long as the clock does not go back, it is not updated before it is created. -/
  ordered : ∀ id, (savings id t).Pairwise (fun a b => a.now ≤ b.now) → ∀ s ∈ savings id t,
    ∃ created updated, s.saved.createdAt = some created ∧ s.saved.updatedAt = some updated ∧
      created ≤ updated

/-- A store that is empty at first stamps every workflow with the time of its creation once, and
    then keeps it as it has been saved last. -/
theorem createdOnce_of_fromEmpty (h : FromEmpty t) (hhonest : Honest t) : CreatedOnce t := by
  obtain ⟨mem, h⟩ := h.exists_history
  refine ⟨?_, ?_, ?_⟩
  · rintro past after id rfl
    obtain ⟨before, hbefore⟩ := h.exists_of_append
    exact (hbefore.stamped hhonest.of_append id).stamped
  · rintro past after id result rfl last hlast
    rw [List.append_cons] at h
    obtain ⟨_, hloaded⟩ := h.exists_of_append
    obtain ⟨before, hbefore, hlast'⟩ := hloaded.exists_last
    have hload := (hbefore.stamped hhonest.of_append id).load
    rw [hlast] at hload
    exact hlast'.loaded hload
  · intro id hclock s hs
    obtain ⟨created, hcreated, hle⟩ := h.creation_le hhonest hclock s hs
    exact ⟨created, s.now, hcreated, h.updatedAt_eq hs, hle⟩

namespace DirectoryStore

open Files

/-- Twelve hours after the workflows of the examples are saved. -/
def noon : Timestamp := { newYear with hour := 12 }

/-- A workflow that has been saved, with another name. -/
def renamed : Workflow := { (startOnly "login").stamp newYear with name := "Log in" }

/-- A workflow is saved, a revision without steps is refused, and another one is saved. -/
def revision : List StoreOperation :=
  [.save newYear (startOnly "login"), .save noon (.new "login" "Log in"), .save noon renamed,
    .load "login"]

theorem read_write_renamed : (new "flows").read? .yaml
    ((new "flows").write (renamed.stamp noon)) = some (renamed.stamp noon) := by
  have htellable : (renamed.stamp noon).Tellable :=
    Workflow.tellable_stamp (tellable_startOnly_stamp "login").1 (by decide)
  have hyaml : Document.ReadsBack .yaml (renamed.stamp noon).encode :=
    Workflow.readsBack_yaml_of_chars (by decide +kernel)
  exact read_write_of_readsBack "flows" htellable hyaml

theorem answers_revision : (new "flows").answers .empty revision =
    [.saved (.ok ((startOnly "login").stamp newYear)), .saved (.error (.invalid .emptyWorkflow)),
      .saved (.ok (renamed.stamp noon)), .loaded (.ok (some (renamed.stamp noon)))] := by
  have hplain : "login" ≠ "" ∧ NoSlash "login" := ⟨by decide, by unfold NoSlash; decide⟩
  have hfirst := save_startOnly "login" (by decide +kernel)
  obtain ⟨first, hmemFirst, hafterFirst⟩ := vacant_flows.matches_empty.save hplain.1 hplain.2 hfirst
    (by simp) (fun s hs => by cases hs; exact read_write_startOnly_login)
  obtain rfl : MemoryStore.empty.put ((startOnly "login").stamp newYear) = first :=
    congrArg Prod.fst hmemFirst
  have hrefused : (new "flows").save (afterSave "login") noon (.new "login" "Log in") =
      (afterSave "login", .error (.invalid .emptyWorkflow)) := by
    refine save_of_prepare_error ?_
    rw [hafterFirst.prepare_eq]
    rfl
  have hprepare : (new "flows").prepare (afterSave "login") noon renamed =
      .ok (renamed.stamp noon) := by
    rw [hafterFirst.prepare_eq]
    rfl
  have hwritten : ((new "flows").writeFile (afterSave "login") (renamed.stamp noon)).2 =
      .ok () := by decide +kernel
  obtain ⟨after, hsecond⟩ := exists_save_of_prepare hprepare hwritten
  obtain ⟨second, hmemSecond, hafterSecond⟩ := hafterFirst.save hplain.1 hplain.2 hsecond
    (by simp) (fun s hs => by cases hs; exact read_write_renamed)
  obtain rfl : _ = second := congrArg Prod.fst hmemSecond
  have hloaded := hafterSecond.load_eq "login"
  unfold revision
  simp only [answers, perform, hfirst, hrefused, hsecond, hloaded]
  rfl

/-- A workflow that is saved again with another name, after a revision of it has been refused,
    keeps the time of its creation. -/
theorem createdOnce_revision :
    let t := revision.zip ((new "flows").answers .empty revision)
    FromEmpty t ∧ Honest t ∧ CreatedOnce t := by
  have hfrom : FromEmpty (revision.zip ((new "flows").answers .empty revision)) := by
    refine .directory vacant_flows (mayAnswer_answers _ _ _) ?_ ?_
    · intro now w hmem
      have hid : w.id = "login" := by
        simp only [revision, List.mem_cons, List.not_mem_nil, or_false, reduceCtorEq,
          StoreOperation.save.injEq] at hmem
        rcases hmem with ⟨_, rfl⟩ | ⟨_, rfl⟩ | ⟨_, rfl⟩ <;> rfl
      rw [hid]
      exact ⟨by decide, by unfold NoSlash; decide⟩
    · rw [answers_revision]
      intro s hmem
      simp only [List.mem_cons, List.not_mem_nil, or_false, reduceCtorEq,
        StoreAnswer.saved.injEq, Except.ok.injEq, false_or] at hmem
      rcases hmem with rfl | rfl
      · exact read_write_startOnly_login
      · exact read_write_renamed
  have hhonest : Honest (revision.zip ((new "flows").answers .empty revision)) := by
    rw [answers_revision]
    -- The first save comes without a time of creation, the third one with that of the first.
    rintro (_ | ⟨_, _ | ⟨_, _ | ⟨_, _ | ⟨_, past⟩⟩⟩⟩) after now w saved heq
    · cases heq
      exact .inl rfl
    · cases heq
    · cases heq
      exact .inr ⟨_, rfl, rfl⟩
    · cases heq
    · simp [revision] at heq
  exact ⟨hfrom, hhonest, createdOnce_of_fromEmpty hfrom hhonest⟩

end DirectoryStore

end DeviceFlow
