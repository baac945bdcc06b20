import DeviceFlow.Proofs.Files.Proper
import DeviceFlow.Proofs.Store.Operation

/-!
# Removing the files of a workflow

A deletion removes the files of a workflow in the order in which they are preferred, up to the first
that cannot be removed. What has been removed before is gone, and all other names stand as before.
-/

namespace DeviceFlow

/-- A list can be cut in one way only between the items with a property and those without it. -/
theorem append_inj_of_split {α : Type} {p : α → Bool} {a b a' b' : List α}
    (h : a ++ b = a' ++ b') (ha : ∀ x ∈ a, p x = true) (hb : ∀ x ∈ b, p x = false)
    (ha' : ∀ x ∈ a', p x = true) (hb' : ∀ x ∈ b', p x = false) : a = a' ∧ b = b' := by
  have hfirst := congrArg (List.filter p) h
  rw [List.filter_append, List.filter_append, List.filter_eq_self.mpr ha,
    List.filter_eq_self.mpr ha', List.filter_eq_nil_iff.mpr fun x hx => by simp [hb x hx],
    List.filter_eq_nil_iff.mpr fun x hx => by simp [hb' x hx], List.append_nil,
    List.append_nil] at hfirst
  subst hfirst
  exact ⟨rfl, List.append_cancel_left h⟩

/-- Sorting keeps the order of what remains after some items have been dropped. -/
theorem filter_mergeSort {α : Type} {le : α → α → Bool}
    (htrans : ∀ a b c, le a b = true → le b c = true → le a c = true)
    (htotal : ∀ a b, (le a b || le b a) = true) (p : α → Bool) (l : List α) :
    (l.filter p).mergeSort le = (l.mergeSort le).filter p := by
  have hafter : ∀ {a : α} {l before after : List α},
      (a :: l).mergeSort le = before ++ a :: after → ∀ b ∈ after, (!le a b) = false := by
    intro a l before after hsort b hb
    have hsorted := List.pairwise_mergeSort htrans htotal (a :: l)
    rw [hsort] at hsorted
    have hab := (List.pairwise_cons.mp (List.pairwise_append.mp hsorted).2.1).1 b hb
    rw [hab]
    rfl
  induction l with
  | nil => simp
  | cons a l ih =>
    obtain ⟨before, after, hsort, hrest, hbefore⟩ := List.mergeSort_cons htrans htotal a l
    rw [hrest, List.filter_append] at ih
    rw [hsort, List.filter_append]
    by_cases hp : p a = true
    · obtain ⟨before', after', hsort', hrest', hbefore'⟩ :=
        List.mergeSort_cons htrans htotal a (l.filter p)
      rw [List.filter_cons_of_pos hp, List.filter_cons_of_pos hp, hsort']
      -- Before the item stand just those that it does not come before.
      obtain ⟨rfl, rfl⟩ := append_inj_of_split (hrest'.symm.trans ih) hbefore' (hafter hsort')
        (fun b hb => hbefore b (List.mem_filter.mp hb).1)
        (fun b hb => hafter hsort b (List.mem_filter.mp hb).1)
      rfl
    · rw [List.filter_cons_of_neg hp, List.filter_cons_of_neg hp, ih]

/-- The other names keep their order when one is inserted. -/
theorem Dict.filter_keys_insert {κ α : Type} [DecidableEq κ] (d : Dict κ α) (key : κ) (value : α) :
    (d.insert key value).keys.filter (· ≠ key) = d.keys.filter (· ≠ key) := by
  unfold keys insert
  dsimp only
  induction d.entries with
  | nil => simp [put]
  | cons entry rest ih =>
    obtain ⟨other, old⟩ := entry
    rw [put]
    split
    · rename_i heq
      simp [heq]
    · rw [List.map_cons, List.map_cons, List.filter_cons, List.filter_cons, ih]

namespace FileSystem

open Files

/-- Where an entry has been put, the other names stand as before. -/
theorem filter_namesAt_put (fs : FileSystem) (q place : Place) (entry : Entry) :
    ((fs.put q entry).namesAt place).filter (fun name => place ++ [name] ≠ q) =
      (fs.namesAt place).filter fun name => place ++ [name] ≠ q := by
  have hfilter : ∀ fs : FileSystem, (fs.namesAt place).filter (fun name => place ++ [name] ≠ q) =
      (fs.entries.keys.filter (· ≠ q)).filterMap (nameIn? place) := by
    intro fs
    unfold namesAt
    rw [List.filterMap_filter, List.filter_filterMap]
    congr 1
    funext p
    cases hname : nameIn? place p with
    | none => simp
    | some found =>
      rw [nameIn?_eq_some_iff.mp hname]
      by_cases hfound : place ++ [found] = q
      · simp [hfound, Option.filter]
      · simp [hfound, Option.filter]
  rw [hfilter, hfilter]
  exact congrArg (List.filterMap (nameIn? place)) (Dict.filter_keys_insert _ _ _)

/-- Where a file has been removed, the other names stand as before. -/
theorem namesAt_without (fs : FileSystem) (place : Place) (name : String) :
    (fs.without (place ++ [name])).namesAt place = (fs.namesAt place).filter (· ≠ name) := by
  have hkeys : (fs.without (place ++ [name])).entries.keys =
      fs.entries.keys.filter (· ≠ place ++ [name]) := by
    unfold without Dict.erase Dict.keys
    rw [List.filter_map]
    rfl
  unfold namesAt
  rw [hkeys, List.filterMap_filter, List.filter_filterMap]
  congr 1
  funext q
  cases hname : nameIn? place q with
  | none => simp
  | some found =>
    rw [nameIn?_eq_some_iff.mp hname]
    by_cases hfound : found = name
    · simp [hfound, Option.filter]
    · simp [hfound, Option.filter]

end FileSystem

namespace DirectoryStore

open Files

variable {store : DirectoryStore} {fs fs' : FileSystem} {id : String} {e : StoreError}
  {names : List String} {troubles : Troubles}

theorem named_filter (names : List String) (id : String) (p : String → Bool) :
    named (names.filter p) id = (named names id).filter p := by
  unfold named
  have hcomm : ∀ (q : String → Bool) (l : List String),
      (l.filter p).filter q = (l.filter q).filter p := by
    intro q l
    rw [List.filter_filter, List.filter_filter]
    exact List.filter_congr fun _ _ => Bool.and_comm _ _
  rw [hcomm, filter_mergeSort comesBefore_trans comesBefore_total, hcomm]

/-- Names that are in order already are not sorted. -/
theorem named_of_pairwise {names : List String}
    (h : names.Pairwise fun a b => comesBefore a b = true) (id : String) :
    named names id = names.filter fun name => idOf? name = some id := by
  unfold named
  rw [List.mergeSort_of_pairwise (h.filter _), List.filter_filter]
  refine List.filter_congr fun name _ => ?_
  cases idOf? name with
  | none => simp
  | some found => simp

theorem load_of_filesOf_error (h : store.filesOf fs id = .error e) :
    store.load fs id = .error e := by
  unfold load
  rw [h]
  rfl

/-- What is loaded is in the first file of the workflow. -/
theorem load_of_filesOf_cons {first : String} {rest : List String}
    (h : store.filesOf fs id = .ok (first :: rest)) :
    store.load fs id = (store.readFile fs id (store.path first)).map some := by
  unfold load
  rw [h]
  cases hread : store.readFile fs id (store.path first) with
  | error cause => simp [bind, Except.bind, hread, Except.map]
  | ok w => simp [bind, Except.bind, hread, Except.map, pure, Except.pure]

theorem removeAllAmid_cons (name : String) : store.removeAllAmid troubles fs (name :: names) =
    match fs.removeAmid troubles (store.path name) with
    | .error e => (fs, failure (store.path name) e)
    | .ok fs => store.removeAllAmid troubles fs names := (rfl)

/-- Removing files amid troubles stops at the first that cannot be removed. -/
theorem exists_of_removeAllAmid_error
    (h : store.removeAllAmid troubles fs names = (fs', .error e)) :
    ∃ gone name rest cause, names = gone ++ name :: rest ∧
      store.removeAll fs gone = (fs', .ok ()) ∧ e = .io (store.path name) cause := by
  induction names generalizing fs with
  | nil => cases h
  | cons first rest ih =>
    rw [removeAllAmid_cons] at h
    cases hremove : fs.removeAmid troubles (store.path first) with
    | error cause =>
      rw [hremove] at h
      cases h
      exact ⟨[], first, rest, cause, rfl, rfl, rfl⟩
    | ok next =>
      rw [hremove] at h
      obtain ⟨gone, name, later, cause, rfl, hgone, rfl⟩ := ih h
      refine ⟨first :: gone, name, later, cause, rfl, ?_, rfl⟩
      rw [removeAll_cons, FileSystem.remove_of_removeAmid hremove]
      exact hgone

/-- A file that can be removed by its name stands in the directory. -/
theorem of_remove {place : Place} {name : String} (hplain : PlainName name)
    (hplace : fs.locate store.root = .ok place ∧ fs.entry? place = some .directory)
    (h : fs.remove (store.path name) = .ok fs') :
    fs' = fs.without (place ++ [name]) ∧ fs.KeepsDirectories fs' := by
  obtain ⟨content, q, hq, hentry, rfl⟩ := FileSystem.remove_eq_ok_iff.mp h
  obtain ⟨hfits, hroots⟩ := FileSystem.locate_root_iff.mp hplace
  obtain ⟨_, place', hroots', _, rfl⟩ :=
    (FileSystem.locate_join_iff hfits.nonempty hplain).mp hq
  obtain rfl : place' = place := Except.ok.inj (hroots'.1.symm.trans hroots.1)
  refine ⟨rfl, .without ?_⟩
  rw [hentry]
  simp

/-- What is left in the directory after some files have been removed. -/
theorem list_of_removeAll {names gone : List String} (hlist : fs.list store.root = .ok names)
    (hplain : ∀ name ∈ gone, PlainName name) (h : store.removeAll fs gone = (fs', .ok ())) :
    fs'.list store.root = .ok (names.filter (· ∉ gone)) := by
  induction gone generalizing fs names with
  | nil =>
    cases h
    rw [hlist, List.filter_eq_self.mpr (by simp)]
  | cons first gone ih =>
    rw [removeAll_cons] at h
    split at h
    · cases h
    · rename_i next hremove
      obtain ⟨place, hplace, rfl⟩ := FileSystem.list_eq_ok_iff.mp hlist
      obtain ⟨rfl, hkeeps⟩ := of_remove (hplain first List.mem_cons_self) hplace hremove
      have hleft : (fs.without (place ++ [first])).list store.root =
          .ok ((fs.namesAt place).filter (· ≠ first)) := by
        refine FileSystem.list_eq_ok_iff.mpr ⟨place, ?_, (fs.namesAt_without place first).symm⟩
        exact ⟨hkeeps.locate hplace.1, hkeeps.directory place hplace.2⟩
      rw [ih hleft (fun name hname => hplain name (List.mem_cons_of_mem first hname)) h,
        List.filter_filter]
      congr 1
      exact List.filter_congr fun name _ => by simp [Bool.and_comm]

/-- The files of a workflow are plain names in the directory. -/
theorem plainName_of_mem_named (hproper : fs.Proper) {names : List String} {name : String}
    (hlist : fs.list store.root = .ok names) (hname : name ∈ named names id) :
    PlainName name := by
  obtain ⟨place, _, rfl⟩ := FileSystem.list_eq_ok_iff.mp hlist
  obtain ⟨hmem, hid⟩ := mem_named.mp hname
  obtain ⟨ext, hnamed⟩ := idOf?_eq_some_iff.mp hid
  have hslash : NoSlash name :=
    hproper.place _ (FileSystem.mem_namesAt_iff.mp hmem) name (by simp)
  exact hnamed.plainName (hnamed.noSlash_id hslash)

/-- Where the directory cannot be listed there are files only if it is missing, and then none. -/
theorem files_of_list_error {cause : FileError} {names : List String}
    (hlist : fs.list store.root = .error cause) (hfiles : store.files fs = .ok names) :
    cause = .notFound ∧ names = [] := by
  unfold files at hfiles
  rw [hlist] at hfiles
  cases cause with
  | notFound =>
    cases hfiles
    exact ⟨rfl, rfl⟩
  | _ => cases hfiles

end DirectoryStore

end DeviceFlow
