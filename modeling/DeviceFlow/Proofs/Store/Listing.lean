import DeviceFlow.Proofs.Files.Tree
import DeviceFlow.Proofs.Store.Name

/-!
# The files of one workflow

The files of a directory are sorted by their ids and then by their extensions. The first file
of an id is the one that was listed first among those with its best extension.
-/

namespace DeviceFlow

namespace DirectoryStore

open Files

variable {a b id : String}

theorem comesBefore_iff : comesBefore a b = true ↔
    if (idOf? a).getD "" = (idOf? b).getD "" then (rank? a).getD 0 ≤ (rank? b).getD 0
    else (idOf? a).getD "" ≤ (idOf? b).getD "" := by
  unfold comesBefore
  dsimp only
  split
  · exact decide_eq_true_iff
  · exact decide_eq_true_iff

theorem comesBefore_trans (a b c : String) (hab : comesBefore a b = true)
    (hbc : comesBefore b c = true) : comesBefore a c = true := by
  rw [comesBefore_iff] at hab hbc ⊢
  generalize (idOf? a).getD "" = ida at hab ⊢
  generalize (idOf? b).getD "" = idb at hab hbc
  generalize (idOf? c).getD "" = idc at hbc ⊢
  by_cases hidab : ida = idb
  · subst hidab
    rw [if_pos rfl] at hab
    by_cases hidbc : ida = idc
    · rw [if_pos hidbc] at hbc ⊢
      exact Nat.le_trans hab hbc
    · rw [if_neg hidbc] at hbc ⊢
      exact hbc
  · rw [if_neg hidab] at hab
    by_cases hidbc : idb = idc
    · subst hidbc
      rw [if_neg hidab]
      exact hab
    · rw [if_neg hidbc] at hbc
      have hne : ida ≠ idc := by
        rintro rfl
        exact hidab (String.le_antisymm hab hbc)
      rw [if_neg hne]
      exact String.le_trans hab hbc

theorem comesBefore_total (a b : String) : (comesBefore a b || comesBefore b a) = true := by
  rw [Bool.or_eq_true, comesBefore_iff, comesBefore_iff]
  by_cases hid : (idOf? a).getD "" = (idOf? b).getD ""
  · rw [if_pos hid, if_pos hid.symm]
    exact Nat.le_total _ _
  · rw [if_neg hid, if_neg (Ne.symm hid)]
    exact String.le_total _ _

theorem comesBefore_of_same_id (ha : idOf? a = some id) (hb : idOf? b = some id)
    {ranka rankb : Nat} (hranka : rank? a = some ranka) (hrankb : rank? b = some rankb) :
    comesBefore a b = true ↔ ranka ≤ rankb := by
  rw [comesBefore_iff, ha, hb, if_pos rfl, hranka, hrankb]
  rfl

/-- The files of one workflow among the names in a directory. -/
def named (names : List String) (id : String) : List String :=
  ((names.filter fun name => (idOf? name).isSome).mergeSort comesBefore).filter fun name =>
    idOf? name = some id

/-- Whether a name is that of a file with the preferred extension. -/
def preferred (id name : String) : Bool := idOf? name = some id ∧ rank? name = some 0

theorem preferred_iff {name : String} :
    preferred id name = true ↔ idOf? name = some id ∧ rank? name = some 0 := by
  unfold preferred
  exact decide_eq_true_iff

theorem mem_named {names : List String} {name : String} :
    name ∈ named names id ↔ name ∈ names ∧ idOf? name = some id := by
  unfold named
  rw [List.mem_filter, List.mem_mergeSort, List.mem_filter]
  constructor
  · rintro ⟨⟨hmem, _⟩, hid⟩
    exact ⟨hmem, of_decide_eq_true hid⟩
  · rintro ⟨hmem, hid⟩
    exact ⟨⟨hmem, by rw [hid]; rfl⟩, decide_eq_true hid⟩

theorem nodup_named {names : List String} (h : names.Nodup) : (named names id).Nodup := by
  unfold named
  refine List.Pairwise.filter _ ?_
  exact (List.mergeSort_perm _ _).nodup_iff.mpr (List.Pairwise.filter _ h)

/-- The order of the files of a workflow is the order in which they are listed, as far as the
    extensions leave it open. -/
theorem pair_sublist_named {names : List String} (h : [a, b].Sublist names)
    (ha : idOf? a = some id) (hb : idOf? b = some id) (hab : comesBefore a b = true) :
    [a, b].Sublist (named names id) := by
  have hfilter : [a, b].Sublist (names.filter fun name => (idOf? name).isSome) := by
    have hsub := h.filter fun name => (idOf? name).isSome
    simpa [ha, hb] using hsub
  have hsort := List.pair_sublist_mergeSort comesBefore_trans comesBefore_total
    hab hfilter
  have hsub := hsort.filter fun name => decide (idOf? name = some id)
  simpa [named, ha, hb] using hsub

theorem pairwise_named (names : List String) (id : String) :
    (named names id).Pairwise fun a b => comesBefore a b = true := by
  unfold named
  exact (List.pairwise_mergeSort comesBefore_trans comesBefore_total _).filter _

/-- A file that comes before a preferred one of the same workflow is preferred. -/
theorem preferred_of_comesBefore (ha : idOf? a = some id) (hb : preferred id b = true)
    (hab : comesBefore a b = true) : preferred id a = true := by
  obtain ⟨hidb, hrankb⟩ := preferred_iff.mp hb
  obtain ⟨rank, hrank⟩ := exists_rank? ha
  have hle := (comesBefore_of_same_id ha hidb hrank hrankb).mp hab
  exact preferred_iff.mpr ⟨ha, by rw [hrank, Nat.le_zero.mp hle]⟩

theorem comesBefore_of_preferred (ha : preferred id a = true) (hb : idOf? b = some id) :
    comesBefore a b = true := by
  obtain ⟨hida, hranka⟩ := preferred_iff.mp ha
  obtain ⟨rank, hrank⟩ := exists_rank? hb
  exact (comesBefore_of_same_id hida hb hranka hrank).mpr (Nat.zero_le rank)

/-- What is found first in a list stands before all else that could have been found. -/
theorem pair_sublist_of_find? {p : String → Bool} {names : List String}
    (h : names.find? p = some a) (hmem : b ∈ names) (hb : p b = true) (hne : b ≠ a) :
    [a, b].Sublist names := by
  obtain ⟨_, before, after, rfl, hbefore⟩ := List.find?_eq_some_iff_append.mp h
  have hafter : b ∈ after := by
    rcases List.mem_append.mp hmem with hmem | hmem
    · have hno := hbefore b hmem
      rw [hb] at hno
      cases hno
    · rcases List.mem_cons.mp hmem with heq | hmem
      · exact absurd heq hne
      · exact hmem
  exact ((List.singleton_sublist.mpr hafter).cons_cons a).trans (List.sublist_append_right _ _)

/-- A file of a workflow comes first if it is listed before every other one that it is not sorted
    behind. -/
theorem head?_named_of_first {names : List String} (hnodup : names.Nodup) {name : String}
    (hmem : name ∈ names) (hid : idOf? name = some id)
    (hfirst : ∀ other ∈ names, idOf? other = some id → other ≠ name →
      comesBefore other name = true →
        [name, other].Sublist names ∧ comesBefore name other = true) :
    (named names id).head? = some name := by
  have hnamed : name ∈ named names id := mem_named.mpr ⟨hmem, hid⟩
  obtain ⟨first, rest, heq⟩ := List.exists_cons_of_ne_nil (List.ne_nil_of_mem hnamed)
  have hdistinct : (named names id).Nodup := nodup_named hnodup
  have hsorted := pairwise_named names id
  rw [heq] at hnamed hdistinct hsorted
  rw [heq, List.head?_cons, Option.some.injEq]
  refine Classical.byContradiction fun hne => ?_
  have hrest : name ∈ rest := (List.mem_cons.mp hnamed).resolve_left (Ne.symm hne)
  obtain ⟨hlisted, hidFirst⟩ : first ∈ names ∧ idOf? first = some id := by
    rw [← mem_named, heq]
    exact List.mem_cons_self
  obtain ⟨hsub, hbefore⟩ := hfirst first hlisted hidFirst hne
    ((List.pairwise_cons.mp hsorted).1 name hrest)
  -- It is listed later, and sorting keeps it there.
  have hkept := pair_sublist_named hsub hid hidFirst hbefore
  rw [heq] at hkept
  cases hkept with
  | cons _ htail => exact (List.nodup_cons.mp hdistinct).1 (htail.subset (by simp))
  | cons_cons _ _ => exact hne rfl

/-- The first file of a workflow is the first preferred one that is listed. -/
theorem head?_named {names : List String} (hnodup : names.Nodup) {name : String}
    (h : names.find? (preferred id) = some name) : (named names id).head? = some name := by
  have hname : preferred id name = true := List.find?_some h
  have hid := (preferred_iff.mp hname).1
  refine head?_named_of_first hnodup (List.mem_of_find?_eq_some h) hid ?_
  intro other hother hidOther hne hbefore
  have hpreferred := preferred_of_comesBefore hidOther hname hbefore
  exact ⟨pair_sublist_of_find? h hother hpreferred hne, comesBefore_of_preferred hname hidOther⟩

end DirectoryStore

end DeviceFlow
