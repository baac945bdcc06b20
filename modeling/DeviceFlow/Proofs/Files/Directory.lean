import DeviceFlow.Proofs.Files.Tree

/-!
# Making and listing directories

A directory that is there already is made without a change, and one that is missing is empty
once it has been made, if the path to it goes up at most at its beginning; when only the first
directories on the way are made, it is missing or empty. Trees with the same entries are followed
alike, and the same directories can be made in them, in whatever order the entries are listed.
-/

namespace DeviceFlow

namespace FileSystem

open Files

variable {fs fs' : FileSystem} {place r : Place} {path : String} {parts : List String}

/-- A path that leads to a directory starts in one. -/
theorem Leads.directory (h : fs.Leads place parts r) (hr : fs.entry? r = some .directory) :
    fs.entry? place = some .directory := by
  cases h with
  | here place => exact hr
  | idle hdir => exact hdir
  | up hdir => exact hdir
  | down hdir => exact hdir

/-- Nothing has to be made on a way that leads to a directory. -/
theorem Leads.makes (h : fs.Leads place parts r) (hr : fs.entry? r = some .directory) :
    Makes fs place parts fs := by
  induction h with
  | here place => exact .done fs place
  | idle _ hname _ ih => exact .idle hname (ih hr)
  | up _ _ ih => exact .up (ih hr)
  | down _ hidle hdots hsize h ih => exact .enter hidle hdots hsize (h.directory hr) (ih hr)

/-- A directory that is there already is made without a change. -/
theorem makeDirectory_of_locate (h : fs.locate path = .ok place)
    (hdir : fs.entry? place = some .directory) : fs.makeDirectory path = .ok fs := by
  obtain ⟨hfits, hfollow⟩ := locate_eq_ok_iff.mp h
  exact makeDirectory_eq_ok_iff.mpr ⟨hfits.noZero, (follow_eq_ok_iff.mp hfollow).makes hdir⟩

theorem namesAt_eq_nil_iff :
    fs.namesAt place = [] ↔ ∀ name, fs.entry? (place ++ [name]) = none := by
  rw [List.eq_nil_iff_forall_not_mem]
  refine forall_congr' fun name => ?_
  rw [mem_namesAt_iff, Decidable.not_not]

/-! ## Trees with the same entries -/

namespace SameFiles

variable (h : fs.SameFiles fs')

include h

theorem entry_eq (place : Place) : fs'.entry? place = fs.entry? place := by
  cases hentry : fs.entry? place with
  | some entry => exact h.left.entry place entry hentry
  | none =>
    cases hentry' : fs'.entry? place with
    | none => rfl
    | some entry =>
      rw [h.right.entry place entry hentry'] at hentry
      cases hentry

theorem follow (place : Place) (parts : List String) :
    fs'.follow place parts = fs.follow place parts := by
  induction parts generalizing place with
  | nil => rfl
  | cons name rest ih =>
    rw [FileSystem.follow, FileSystem.follow, h.entry_eq, ih, ih, ih]

theorem locate (path : String) : fs'.locate path = fs.locate path := by
  have hstart : fs'.start path = fs.start path := by
    unfold start
    rw [h.left.home]
  have hfollow : fs'.follow = fs.follow := by
    funext place parts
    exact h.follow place parts
  unfold FileSystem.locate
  rw [hstart, hfollow]

theorem namesAt_eq_nil (hnames : fs.namesAt place = []) : fs'.namesAt place = [] := by
  rw [namesAt_eq_nil_iff] at hnames ⊢
  intro name
  rw [h.entry_eq]
  exact hnames name

theorem list_eq_nil (hlist : fs.list path = .ok []) : fs'.list path = .ok [] := by
  obtain ⟨place, ⟨hplace, hdir⟩, hnames⟩ := list_eq_ok_iff.mp hlist
  refine list_eq_ok_iff.mpr ⟨place, ⟨?_, ?_⟩, (h.namesAt_eq_nil hnames.symm).symm⟩
  · rw [h.locate, hplace]
  · rw [h.entry_eq, hdir]

theorem list_eq_error {e : FileError} (hlist : fs.list path = .error e) :
    fs'.list path = .error e := by
  unfold FileSystem.list at hlist ⊢
  rw [h.locate]
  cases hplace : fs.locate path with
  | error e' =>
    rw [hplace] at hlist
    exact hlist
  | ok place =>
    rw [hplace] at hlist
    dsimp only [Bind.bind, Except.bind] at hlist ⊢
    rw [h.entry_eq]
    split at hlist
    · exact hlist
    · exact hlist
    · cases hlist

theorem symm : fs'.SameFiles fs := ⟨h.right, h.left⟩

theorem put (place : Place) (entry : Entry) :
    (fs.put place entry).SameFiles (fs'.put place entry) := by
  have hentry : ∀ q, FileSystem.entry? (fs'.put place entry) q =
      FileSystem.entry? (fs.put place entry) q := by
    intro q
    by_cases hq : q = []
    · rw [hq]
      rfl
    · rw [entry?_put hq, entry?_put hq, h.entry_eq]
  constructor
  · exact ⟨h.left.home, fun q found hfound => (hentry q).trans hfound⟩
  · exact ⟨h.right.home, fun q found hfound => (hentry q).symm.trans hfound⟩

/-- The same directories can be made in trees with the same entries. -/
theorem makes {made : FileSystem} (hmade : Makes fs place parts made) :
    ∃ made', Makes fs' place parts made' ∧ made.SameFiles made' := by
  induction hmade generalizing fs' with
  | done fs place => exact ⟨fs', .done fs' place, h⟩
  | idle hname _ ih =>
    obtain ⟨made', hmade', hsame⟩ := ih h
    exact ⟨made', .idle hname hmade', hsame⟩
  | up _ ih =>
    obtain ⟨made', hmade', hsame⟩ := ih h
    exact ⟨made', .up hmade', hsame⟩
  | enter hidle hdots hsize hdir _ ih =>
    obtain ⟨made', hmade', hsame⟩ := ih h
    exact ⟨made', .enter hidle hdots hsize ((h.entry_eq _).trans hdir) hmade', hsame⟩
  | make hidle hdots hsize hnone _ ih =>
    obtain ⟨made', hmade', hsame⟩ := ih (h.put _ _)
    exact ⟨made', .make hidle hdots hsize ((h.entry_eq _).trans hnone) hmade', hsame⟩

theorem makeDirectory {made : FileSystem} (hmade : fs.makeDirectory path = .ok made) :
    ∃ made', fs'.makeDirectory path = .ok made' ∧ made.SameFiles made' := by
  obtain ⟨hzero, hmakes⟩ := makeDirectory_eq_ok_iff.mp hmade
  obtain ⟨made', hmakes', hsame⟩ := h.makes hmakes
  refine ⟨made', makeDirectory_eq_ok_iff.mpr ⟨hzero, ?_⟩, hsame⟩
  unfold base at hmakes' ⊢
  rwa [h.left.home]

end SameFiles

/-! ## Directories that are missing -/

/-- A tree in which every entry stands in a directory, as does the working directory. -/
structure Grounded (fs : FileSystem) : Prop where
  home : fs.entry? fs.workingDirectory = some .directory
  parent : ∀ place name, fs.entry? (place ++ [name]) ≠ none →
    fs.entry? place = some .directory

theorem grounded_empty : empty.Grounded := by
  refine ⟨rfl, ?_⟩
  intro place name hentry
  rw [entry?_concat] at hentry
  unfold empty at hentry
  rw [Dict.get?_insert] at hentry
  split at hentry
  · rename_i heq
    have hplace : place = [] := by
      have hlength := congrArg List.length heq
      simpa using hlength
    rw [hplace]
    rfl
  · exact absurd rfl hentry

/-- It is enough to look at the entries. -/
theorem grounded_of_keys (hhome : fs.entry? fs.workingDirectory = some .directory)
    (hkeys : ∀ q ∈ fs.entries.keys, fs.entry? q.dropLast = some .directory) : fs.Grounded := by
  refine ⟨hhome, ?_⟩
  intro place name hentry
  rw [entry?_concat, ← Dict.mem_keys_iff] at hentry
  have hparent := hkeys _ hentry
  rwa [List.dropLast_concat] at hparent

theorem KeepsDirectories.putDirectory (fs : FileSystem) (place : Place) :
    fs.KeepsDirectories (fs.put place .directory) := by
  refine ⟨rfl, ?_⟩
  intro q hq
  by_cases hempty : q = []
  · rw [hempty]
    rfl
  · rw [entry?_put hempty]
    split
    · rfl
    · exact hq

theorem KeepsDirectories.refl (fs : FileSystem) : fs.KeepsDirectories fs :=
  (Within.refl fs).keepsDirectories

/-- Making directories keeps those that are there. -/
theorem Makes.keepsDirectories (h : Makes fs place parts fs') : fs.KeepsDirectories fs' := by
  induction h with
  | done fs place => exact .refl fs
  | idle _ _ ih => exact ih
  | up _ ih => exact ih
  | enter _ _ _ _ _ ih => exact ih
  | make _ _ _ _ _ ih => exact (KeepsDirectories.putDirectory _ _).trans ih

/-- From an empty directory no other directory is reached by going down. -/
theorem Leads.eq_of_empty (h : fs.Leads place parts r) (hdown : ".." ∉ parts)
    (hempty : fs.namesAt place = []) (hr : fs.entry? r = some .directory) : r = place := by
  induction h with
  | here place => rfl
  | idle _ _ _ ih => exact ih (List.not_mem_of_not_mem_cons hdown) hempty hr
  | up => simp at hdown
  | down _ _ _ _ h _ =>
    have hnext := h.directory hr
    rw [namesAt_eq_nil_iff.mp hempty] at hnext
    cases hnext

theorem Grounded.putDirectory (hgrounded : fs.Grounded) {name : String}
    (hplace : fs.entry? place = some .directory) :
    (fs.put (place ++ [name]) .directory).Grounded := by
  have hkeeps := KeepsDirectories.putDirectory fs (place ++ [name])
  refine ⟨hkeeps.directory _ hgrounded.home, ?_⟩
  intro q other hentry
  apply hkeeps.directory
  rw [entry?_put (by simp)] at hentry
  split at hentry
  · rename_i heq
    obtain ⟨rfl, _⟩ := List.append_inj' heq rfl
    exact hplace
  · exact hgrounded.parent q other hentry

/-- Nothing stands below a place at which nothing stands. -/
theorem Grounded.namesAt_putDirectory (hgrounded : fs.Grounded) {name : String}
    (hnone : fs.entry? (place ++ [name]) = none) :
    (fs.put (place ++ [name]) .directory).namesAt (place ++ [name]) = [] := by
  rw [namesAt_eq_nil_iff]
  intro other
  rw [entry?_put (by simp), if_neg (by simp)]
  refine Decidable.byContradiction fun hother => ?_
  rw [hgrounded.parent _ other hother] at hnone
  cases hnone

/-- Where going down does not lead to a directory with something in it, making the directories
    on the way leads to an empty one. -/
theorem Makes.leads_to_empty {made : FileSystem} (hmade : Makes fs place parts made)
    (hgrounded : fs.Grounded) (hdown : ".." ∉ parts)
    (hplace : fs.entry? place = some .directory)
    (hvacant : ∀ r, fs.Leads place parts r → fs.entry? r = some .directory →
      fs.namesAt r = []) :
    ∃ r, made.Leads place parts r ∧ made.entry? r = some .directory ∧ made.namesAt r = [] := by
  induction hmade with
  | done fs place => exact ⟨place, .here place, hplace, hvacant place (.here place) hplace⟩
  | idle hname h ih =>
    obtain ⟨r, hr, hempty⟩ := ih hgrounded (List.not_mem_of_not_mem_cons hdown) hplace
      fun r hr => hvacant r (.idle hplace hname hr)
    exact ⟨r, .idle (h.keepsDirectories.directory _ hplace) hname hr, hempty⟩
  | up => simp at hdown
  | enter hidle hdots hsize hdir h ih =>
    obtain ⟨r, hr, hempty⟩ := ih hgrounded (List.not_mem_of_not_mem_cons hdown) hdir
      fun r hr => hvacant r (.down hplace hidle hdots hsize hr)
    exact ⟨r, .down (h.keepsDirectories.directory _ hplace) hidle hdots hsize hr, hempty⟩
  | @make fs made place name rest hidle hdots hsize hnone h ih =>
    have hkeeps := KeepsDirectories.putDirectory fs (place ++ [name])
    have hrest : ".." ∉ rest := List.not_mem_of_not_mem_cons hdown
    have hnew := hgrounded.namesAt_putDirectory hnone
    obtain ⟨r, hr, hempty⟩ := ih (hgrounded.putDirectory hplace) hrest
      (by rw [entry?_put (by simp), if_pos rfl])
      (fun r hr hdir => by rw [hr.eq_of_empty hrest hnew hdir, hnew])
    have hkept := h.keepsDirectories.directory _ (hkeeps.directory _ hplace)
    exact ⟨r, .down hkept hidle hdots hsize hr, hempty⟩

theorem fits_of_list (hpath : path ≠ "") (hlist : fs.list path = .error .notFound) :
    Fits path := by
  have hempty : ¬ path.isEmpty = true := by simpa using hpath
  unfold FileSystem.list FileSystem.locate start at hlist
  rw [if_neg hempty] at hlist
  by_cases hzero : path.toList.contains '\x00' = true
  · rw [if_pos hzero] at hlist
    cases hlist
  · by_cases hsize : 4096 ≤ path.utf8ByteSize
    · rw [if_neg hzero, if_pos hsize] at hlist
      cases hlist
    · exact ⟨hpath, by simpa using hzero, Nat.lt_of_not_le hsize⟩

theorem Grounded.base_directory (hgrounded : fs.Grounded) (path : String) :
    fs.entry? (fs.base path) = some .directory := by
  unfold base
  split
  · rfl
  · exact hgrounded.home

/-- Going up from a directory leads to a directory. -/
theorem Grounded.exists_climb (hgrounded : fs.Grounded) {ups : List String}
    (hplace : fs.entry? place = some .directory)
    (hups : ∀ name ∈ ups, name = "" ∨ name = "." ∨ name = "..") :
    ∃ q, fs.Leads place ups q ∧ fs.entry? q = some .directory ∧
      ∀ downs, makeDirectories fs place (ups ++ downs) = makeDirectories fs q downs := by
  induction ups generalizing place with
  | nil => exact ⟨place, .here place, hplace, fun _ => rfl⟩
  | cons name ups ih =>
    have hrest : ∀ name ∈ ups, name = "" ∨ name = "." ∨ name = ".." :=
      fun other hother => hups other (List.mem_cons_of_mem name hother)
    by_cases hname : name = "" ∨ name = "."
    · obtain ⟨q, hq, hdir, hmake⟩ := ih hplace hrest
      refine ⟨q, .idle hplace hname hq, hdir, ?_⟩
      intro downs
      rw [List.cons_append, makeDirectories, if_pos hname]
      exact hmake downs
    · obtain rfl : name = ".." := by
        rcases hups name List.mem_cons_self with h | h | h
        · exact absurd (.inl h) hname
        · exact absurd (.inr h) hname
        · exact h
      have hup : fs.entry? place.dropLast = some .directory := by
        rcases List.eq_nil_or_concat place with rfl | ⟨q, last, rfl⟩
        · exact hplace
        · rw [List.concat_eq_append] at hplace ⊢
          rw [List.dropLast_concat]
          exact hgrounded.parent q last (by simp [hplace])
      obtain ⟨q, hq, hdir, hmake⟩ := ih hup hrest
      refine ⟨q, .up hplace hq, hdir, ?_⟩
      intro downs
      rw [List.cons_append, makeDirectories, if_neg hname, if_pos rfl]
      exact hmake downs

/-- The path goes up at most at its beginning. -/
def Descends (path : String) : Prop :=
  ∃ ups downs, Files.parts path = ups ++ downs ∧
    (∀ name ∈ ups, name = "" ∨ name = "." ∨ name = "..") ∧ ".." ∉ downs

/-- A directory that is missing is empty once it has been made. -/
theorem Grounded.list_makeDirectory (hgrounded : fs.Grounded) {made : FileSystem}
    (hpath : path ≠ "") (hdescends : Descends path) (hlist : fs.list path = .error .notFound)
    (hmade : fs.makeDirectory path = .ok made) : made.list path = .ok [] := by
  have hfits := fits_of_list hpath hlist
  obtain ⟨ups, downs, hparts, hups, hdown⟩ := hdescends
  obtain ⟨q, hq, hdir, hmake⟩ := hgrounded.exists_climb (hgrounded.base_directory path) hups
  have hvacant : ∀ r, fs.Leads q downs r → fs.entry? r = some .directory →
      fs.namesAt r = [] := by
    intro r hr hdir
    have hfollow := follow_append_eq_ok_iff.mpr
      ⟨q, follow_eq_ok_iff.mpr hq, follow_eq_ok_iff.mpr hr⟩
    rw [← hparts] at hfollow
    have hlocate := locate_eq_ok_iff.mpr ⟨hfits, hfollow⟩
    have hfound := list_eq_ok_iff.mpr ⟨r, ⟨hlocate, hdir⟩, rfl⟩
    rw [hlist] at hfound
    cases hfound
  have hmakes : Makes fs q downs made := by
    have hbuilt := makeDirectories_eq_ok_iff.mpr (makeDirectory_eq_ok_iff.mp hmade).2
    rw [hparts, hmake] at hbuilt
    exact makeDirectories_eq_ok_iff.mp hbuilt
  obtain ⟨r, hr, hdir, hnames⟩ := hmakes.leads_to_empty hgrounded hdown hdir hvacant
  refine list_eq_ok_iff.mpr ⟨r, ⟨locate_eq_ok_iff.mpr ⟨hfits, ?_⟩, hdir⟩, hnames.symm⟩
  rw [hparts, follow_append_eq_ok_iff]
  refine ⟨q, ?_, follow_eq_ok_iff.mpr hr⟩
  have hkept := hmakes.keepsDirectories.follow (follow_eq_ok_iff.mpr hq)
  unfold base at hkept ⊢
  rwa [hmakes.keepsDirectories.home]

/-! ## Directories that cannot be made -/

/-- In an empty directory all directories can be made that can have their names. -/
theorem Grounded.exists_makes (hgrounded : fs.Grounded) {downs : List String}
    (hplace : fs.entry? place = some .directory) (hempty : fs.namesAt place = [])
    (hdown : ".." ∉ downs) (hsize : ∀ name ∈ downs, name.utf8ByteSize ≤ maxNameSize) :
    ∃ made, Makes fs place downs made := by
  induction downs generalizing fs place with
  | nil => exact ⟨fs, .done fs place⟩
  | cons name downs ih =>
    have hdown' : ".." ∉ downs := List.not_mem_of_not_mem_cons hdown
    have hsize' : ∀ name ∈ downs, name.utf8ByteSize ≤ maxNameSize :=
      fun other hother => hsize other (List.mem_cons_of_mem name hother)
    by_cases hidle : name = "" ∨ name = "."
    · obtain ⟨made, hmakes⟩ := ih hgrounded hplace hempty hdown' hsize'
      exact ⟨made, .idle hidle hmakes⟩
    · have hnone := namesAt_eq_nil_iff.mp hempty name
      have hdots : name ≠ ".." := fun h => hdown (h ▸ List.mem_cons_self)
      obtain ⟨made, hmakes⟩ := ih (hgrounded.putDirectory hplace)
        (by rw [entry?_put (by simp), if_pos rfl]) (hgrounded.namesAt_putDirectory hnone)
        hdown' hsize'
      exact ⟨made, .make hidle hdots (hsize name List.mem_cons_self) hnone hmakes⟩

/-- Directories that cannot all be made on a way down are in the way of something that is there
    already, so none of them is made. -/
theorem Grounded.eq_of_makeDirectories_error (hgrounded : fs.Grounded) {made : FileSystem}
    {downs : List String} {e : FileError} (hplace : fs.entry? place = some .directory)
    (hdown : ".." ∉ downs) (hsize : ∀ name ∈ downs, name.utf8ByteSize ≤ maxNameSize)
    (h : makeDirectories fs place downs = (made, .error e)) : made = fs := by
  induction downs generalizing place with
  | nil => cases h
  | cons name downs ih =>
    have hdown' : ".." ∉ downs := List.not_mem_of_not_mem_cons hdown
    have hsize' : ∀ name ∈ downs, name.utf8ByteSize ≤ maxNameSize :=
      fun other hother => hsize other (List.mem_cons_of_mem name hother)
    rw [makeDirectories] at h
    split at h
    · exact ih hplace hdown' hsize' h
    · rw [if_neg (fun hdots : name = ".." => hdown (hdots ▸ List.mem_cons_self)),
        if_neg (Nat.not_lt.mpr (hsize name List.mem_cons_self))] at h
      dsimp only at h
      split at h
      · rename_i hdir
        exact ih hdir hdown' hsize' h
      · cases h
        rfl
      · rename_i hnone
        obtain ⟨all, hmakes⟩ := (hgrounded.putDirectory hplace).exists_makes
          (by rw [entry?_put (by simp), if_pos rfl]) (hgrounded.namesAt_putDirectory hnone)
          hdown' hsize'
        rw [makeDirectories_eq_ok_iff.mpr hmakes] at h
        cases h

/-- Nothing but the directory itself is reached from an empty directory. -/
theorem follow_of_empty (hplace : fs.entry? place = some .directory)
    (hempty : fs.namesAt place = []) (hdown : ".." ∉ parts)
    (hsize : ∀ name ∈ parts, name.utf8ByteSize ≤ maxNameSize) :
    fs.follow place parts = .ok place ∨ fs.follow place parts = .error .notFound ∨
      ∃ q, fs.follow place parts = .ok q ∧ fs.entry? q = none := by
  induction parts with
  | nil => exact .inl rfl
  | cons name rest ih =>
    have hdots : name ≠ ".." := fun h => hdown (h ▸ List.mem_cons_self)
    rw [FileSystem.follow, hplace]
    dsimp only
    by_cases hidle : name = "" ∨ name = "."
    · rw [if_pos hidle]
      exact ih (List.not_mem_of_not_mem_cons hdown)
        fun other hother => hsize other (List.mem_cons_of_mem name hother)
    · have hnone := namesAt_eq_nil_iff.mp hempty name
      rw [if_neg hidle, if_neg hdots, if_neg (Nat.not_lt.mpr (hsize name List.mem_cons_self))]
      right
      cases rest with
      | nil => exact .inr ⟨place ++ [name], rfl, hnone⟩
      | cons next rest =>
        left
        rw [FileSystem.follow, hnone]

/-- Making directories on a way down changes nothing, or leads to an empty directory. -/
theorem Grounded.eq_or_leads_to_empty (hgrounded : fs.Grounded) {made : FileSystem}
    {downs : List String} (hplace : fs.entry? place = some .directory) (hdown : ".." ∉ downs)
    (hsize : ∀ name ∈ downs, name.utf8ByteSize ≤ maxNameSize)
    (hmade : (makeDirectories fs place downs).1 = made) :
    made = fs ∨ fs.KeepsDirectories made ∧
      ∃ r, made.Leads place downs r ∧ made.entry? r = some .directory ∧ made.namesAt r = [] := by
  rcases hbuilt : makeDirectories fs place downs with ⟨built, result⟩
  rw [hbuilt] at hmade
  cases hmade
  cases result with
  | error e => exact .inl (hgrounded.eq_of_makeDirectories_error hplace hdown hsize hbuilt)
  | ok done =>
    by_cases hthere : ∃ r, fs.Leads place downs r ∧ fs.entry? r = some .directory
    · obtain ⟨r, hr, hdir⟩ := hthere
      have hsame := makeDirectories_eq_ok_iff.mpr (hr.makes hdir)
      rw [hbuilt] at hsame
      cases hsame
      exact .inl rfl
    · have hmakes := makeDirectories_eq_ok_iff.mp hbuilt
      exact .inr ⟨hmakes.keepsDirectories, hmakes.leads_to_empty hgrounded hdown hplace
        fun r hr hdir => absurd ⟨r, hr, hdir⟩ hthere⟩

/-- A directory that is missing is missing or empty after the first directories on the way to it
    have been made, however many these are. -/
theorem Grounded.list_of_first_made (hgrounded : fs.Grounded) (hpath : path ≠ "")
    (hdescends : Descends path)
    (hsize : ∀ name ∈ Files.parts path, name.utf8ByteSize ≤ maxNameSize)
    (hlist : fs.list path = .error .notFound) (count : Nat) {made : FileSystem}
    (hmade : (makeDirectories fs (fs.base path) ((Files.parts path).take count)).1 = made) :
    made.list path = .ok [] ∨ made.list path = .error .notFound := by
  have hfits := fits_of_list hpath hlist
  obtain ⟨ups, downs, hparts, hups, hdown⟩ := hdescends
  have hbase := hgrounded.base_directory path
  rw [hparts, List.take_append] at hmade
  rcases Nat.le_total count ups.length with hcount | hcount
  · -- Nothing is made on the way up.
    obtain ⟨q, _, _, hmake⟩ := hgrounded.exists_climb hbase
      fun name hname => hups name (List.mem_of_mem_take hname)
    rw [hmake, Nat.sub_eq_zero_of_le hcount, List.take_zero] at hmade
    rw [← hmade]
    exact .inr hlist
  · obtain ⟨q, hq, hdir, hmake⟩ := hgrounded.exists_climb hbase hups
    rw [List.take_of_length_le hcount, hmake] at hmade
    generalize count - ups.length = more at hmade
    have hsizes : ∀ name ∈ downs, name.utf8ByteSize ≤ maxNameSize :=
      fun name hname => hsize name (hparts ▸ List.mem_append_right ups hname)
    have hfirst : ".." ∉ downs.take more := fun h => hdown (List.mem_of_mem_take h)
    have hlast : ".." ∉ downs.drop more := fun h => hdown (List.mem_of_mem_drop h)
    rcases hgrounded.eq_or_leads_to_empty hdir hfirst
      (fun name hname => hsizes name (List.mem_of_mem_take hname)) hmade
      with rfl | ⟨hkeeps, r, hr, hrdir, hnames⟩
    · exact .inr hlist
    · have hstart : made.follow (made.base path) ups = .ok q := by
        have hkept := hkeeps.follow (follow_eq_ok_iff.mpr hq)
        unfold base at hkept ⊢
        rwa [hkeeps.home]
      have hlocate : made.locate path = made.follow r (downs.drop more) := by
        rw [locate_of_fits hfits, hparts, follow_append_of_ok hstart,
          ← List.take_append_drop more downs, follow_append_of_ok (follow_eq_ok_iff.mpr hr),
          List.take_append_drop]
      have hend := follow_of_empty hrdir hnames hlast
        fun name hname => hsizes name (List.mem_of_mem_drop hname)
      unfold FileSystem.list
      rw [hlocate]
      rcases hend with hend | hend | ⟨place, hend, hnone⟩
      · rw [hend]
        simp [bind, Except.bind, hrdir, hnames, pure, Except.pure]
      · rw [hend]
        exact .inr rfl
      · rw [hend]
        simp [bind, Except.bind, hnone, throw, throwThe, MonadExceptOf.throw]

/-- Directories stay when others are made, also when not all of these can be made. -/
theorem keepsDirectories_makeDirectories (fs : FileSystem) (place : Place)
    (parts : List String) : fs.KeepsDirectories (makeDirectories fs place parts).1 := by
  induction parts generalizing fs place with
  | nil => exact .refl fs
  | cons name rest ih =>
    rw [makeDirectories]
    split
    · exact ih fs place
    · split
      · exact ih fs place.dropLast
      · split
        · exact .refl fs
        · dsimp only
          split
          · exact ih fs _
          · exact .refl fs
          · exact (KeepsDirectories.putDirectory fs _).trans (ih _ _)

/-- What has been in the way of a directory is in the way again. -/
theorem makeDirectories_again {made : FileSystem} {e : FileError}
    (h : makeDirectories fs place parts = (made, .error e)) :
    makeDirectories made place parts = (made, .error e) := by
  induction parts generalizing fs place with
  | nil => cases h
  | cons name rest ih =>
    rw [makeDirectories] at h ⊢
    by_cases hidle : name = "" ∨ name = "."
    · rw [if_pos hidle] at h ⊢
      exact ih h
    · rw [if_neg hidle] at h ⊢
      by_cases hdots : name = ".."
      · rw [if_pos hdots] at h ⊢
        exact ih h
      · rw [if_neg hdots] at h ⊢
        by_cases hlong : maxNameSize < name.utf8ByteSize
        · rw [if_pos hlong] at h ⊢
          cases h
          rfl
        · rw [if_neg hlong] at h ⊢
          dsimp only at h ⊢
          split at h
          · rename_i hdir
            have hkept := keepsDirectories_makeDirectories fs (place ++ [name]) rest
            rw [h] at hkept
            rw [hkept.directory _ hdir]
            exact ih h
          · rename_i hfile
            cases h
            rw [hfile]
          · -- The directory has been made before it came to a stop.
            have hkept := keepsDirectories_makeDirectories (fs.put (place ++ [name]) .directory)
              (place ++ [name]) rest
            rw [h] at hkept
            rw [hkept.directory _ (by rw [entry?_put (by simp), if_pos rfl])]
            exact ih h

/-- A directory that cannot be made cannot be made afterwards either. -/
theorem buildDirectory_again {made : FileSystem} {e : FileError}
    (h : fs.buildDirectory path = (made, .error e)) :
    made.buildDirectory path = (made, .error e) := by
  unfold buildDirectory at h ⊢
  split
  · rename_i hempty
    rw [if_pos hempty] at h
    cases h
  · rename_i hempty
    rw [if_neg hempty] at h
    split
    · rename_i hzero
      rw [if_pos hzero] at h
      cases h
      rfl
    · rename_i hzero
      rw [if_neg hzero] at h
      have hkept := keepsDirectories_makeDirectories fs (fs.base path) (Files.parts path)
      have hbuilt : makeDirectories fs (fs.base path) (Files.parts path) = (made, .error e) := h
      rw [hbuilt] at hkept
      rw [hkept.home]
      exact makeDirectories_again hbuilt

/-! ## Directories that are made in part -/

/-- Making the first directories on the way to one that is there changes nothing. -/
theorem makeDirectories_take_of_locate (hlocate : fs.locate path = .ok place)
    (hdir : fs.entry? place = some .directory) (count : Nat) :
    (makeDirectories fs (fs.base path) ((Files.parts path).take count)).1 = fs := by
  have hfollow := (locate_eq_ok_iff.mp hlocate).2
  rw [← List.take_append_drop count (Files.parts path)] at hfollow
  obtain ⟨q, hfirst, hrest⟩ := follow_append_eq_ok_iff.mp hfollow
  have hq := (follow_eq_ok_iff.mp hrest).directory hdir
  rw [makeDirectories_eq_ok_iff.mpr ((follow_eq_ok_iff.mp hfirst).makes hq)]

/-- A directory is made by making the first directories on the way to it, if anything is made. -/
theorem exists_take_of_build (troubles : Troubles) (fs : FileSystem) (path : String) :
    (fs.buildDirectoryAmid troubles path).1 = fs ∨ ∃ count,
      (fs.buildDirectoryAmid troubles path).1 =
        (makeDirectories fs (fs.base path) ((Files.parts path).take count)).1 := by
  unfold buildDirectoryAmid
  split
  · unfold buildDirectory
    split
    · exact .inl rfl
    · split
      · exact .inl rfl
      · exact .inr ⟨(Files.parts path).length, by rw [List.take_length]; rfl⟩
  · rename_i count cause _
    exact .inr ⟨count, rfl⟩

end FileSystem

end DeviceFlow
