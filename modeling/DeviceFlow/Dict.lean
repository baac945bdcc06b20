/-!
# Dictionaries in order of insertion

A finite map from names to values, where a name is mostly a text. Names are distinct; a name
keeps the place where it was first inserted, and a later value replaces the earlier one there.
Everything that is said about a dictionary is said through `get?`.
-/

namespace DeviceFlow

/-- A finite map from names to values, listed in the order in which the names first came. -/
structure Dict (κ α : Type) where
  /-- The names with their values. -/
  entries : List (κ × α)
  /-- No name occurs twice. -/
  nodup : (entries.map Prod.fst).Nodup
  deriving DecidableEq

namespace Dict

variable {κ α β : Type}

/-- The dictionary without names. -/
def empty : Dict κ α := ⟨[], by simp⟩

instance : Inhabited (Dict κ α) := ⟨empty⟩

/-- The names with their values, in order of insertion. -/
def toList (d : Dict κ α) : List (κ × α) := d.entries

/-- The names in order of insertion. -/
def keys (d : Dict κ α) : List κ := d.entries.map Prod.fst

/-- The number of names. -/
def size (d : Dict κ α) : Nat := d.entries.length

/-- Whether there are no names. -/
def isEmpty (d : Dict κ α) : Bool := d.entries.isEmpty

/-- Applies a function to every value. -/
def map (f : α → β) (d : Dict κ α) : Dict κ β :=
  ⟨d.entries.map fun e => (e.1, f e.2), by
    have := d.nodup
    simpa [List.map_map, Function.comp_def] using this⟩

variable [DecidableEq κ]

/-- The value found first under a name in a list of entries. -/
def lookup (name : κ) : List (κ × α) → Option α
  | [] => none
  | (key, value) :: rest => if key = name then some value else lookup name rest

/-- The value under a name. -/
def get? (d : Dict κ α) (name : κ) : Option α :=
  lookup name d.entries

/-- The value under a name, or the given one. -/
def getD (d : Dict κ α) (name : κ) (default : α) : α :=
  (d.get? name).getD default

/-- Whether a name has a value. -/
def contains (d : Dict κ α) (name : κ) : Bool :=
  (d.get? name).isSome

/-- Replaces the value under a name in place, or appends the name. -/
def put (name : κ) (value : α) : List (κ × α) → List (κ × α)
  | [] => [(name, value)]
  | (key, old) :: rest =>
    if key = name then (name, value) :: rest else (key, old) :: put name value rest

theorem mem_keys_put {name key : κ} {value : α} {es : List (κ × α)} :
    key ∈ (put name value es).map Prod.fst ↔ key = name ∨ key ∈ es.map Prod.fst := by
  induction es with
  | nil => simp [put]
  | cons e es ih =>
    obtain ⟨k, v⟩ := e
    by_cases h : k = name
    · subst h; simp [put]
    · simp only [put, h, if_false, List.map_cons, List.mem_cons, ih]
      exact or_left_comm

theorem nodup_keys_put {name : κ} {value : α} {es : List (κ × α)}
    (h : (es.map Prod.fst).Nodup) : ((put name value es).map Prod.fst).Nodup := by
  induction es with
  | nil => simp [put]
  | cons e es ih =>
    obtain ⟨k, v⟩ := e
    simp only [List.map_cons, List.nodup_cons] at h
    by_cases hk : k = name
    · subst hk; simpa [put] using h
    · simp only [put, hk, if_false, List.map_cons, List.nodup_cons, mem_keys_put]
      exact ⟨by simp [h.1], ih h.2⟩

/-- Gives a name a value, replacing the one it had. -/
def insert (d : Dict κ α) (name : κ) (value : α) : Dict κ α :=
  ⟨put name value d.entries, nodup_keys_put d.nodup⟩

/-- Gives a name a value unless it has one. -/
def insertNew (d : Dict κ α) (name : κ) (value : α) : Dict κ α :=
  if d.contains name then d else d.insert name value

/-- Takes a name out. -/
def erase (d : Dict κ α) (name : κ) : Dict κ α :=
  ⟨d.entries.filter (·.1 ≠ name),
    d.nodup.sublist (List.Sublist.map _ List.filter_sublist)⟩

/-- The dictionary of a list of entries; of two entries with one name the later wins. -/
def ofList (es : List (κ × α)) : Dict κ α :=
  es.foldl (fun d e => d.insert e.1 e.2) empty

theorem lookup_put {name key : κ} {value : α} {es : List (κ × α)} :
    lookup key (put name value es) = if name = key then some value else lookup key es := by
  induction es with
  | nil => simp [put, lookup]
  | cons e es ih =>
    obtain ⟨k, v⟩ := e
    by_cases h : k = name
    · subst h; by_cases hk : k = key <;> simp [put, lookup, hk]
    · by_cases hk : k = key
      · subst hk; simp [put, lookup, h, Ne.symm h]
      · simp [put, lookup, h, hk, ih]

/-- Inserting changes the inserted name and no other. -/
theorem get?_insert (d : Dict κ α) (name key : κ) (value : α) :
    (d.insert name value).get? key = if name = key then some value else d.get? key :=
  lookup_put

@[simp] theorem get?_empty (key : κ) : (empty : Dict κ α).get? key = none := rfl

theorem lookup_filter_ne {name key : κ} {es : List (κ × α)} :
    lookup key (es.filter (·.1 ≠ name)) = if name = key then none else lookup key es := by
  induction es with
  | nil => simp [lookup]
  | cons e es ih =>
    obtain ⟨k, v⟩ := e
    by_cases h : k = name
    · subst h
      by_cases hk : k = key <;> simp_all [lookup]
    · by_cases hk : k = key
      · subst hk; simp [lookup, h, Ne.symm h]
      · simp_all [lookup]

/-- Erasing takes out the name and no other. -/
theorem get?_erase (d : Dict κ α) (name key : κ) :
    (d.erase name).get? key = if name = key then none else d.get? key :=
  lookup_filter_ne

theorem mem_keys_iff {d : Dict κ α} {name : κ} : name ∈ d.keys ↔ d.get? name ≠ none := by
  unfold keys get?
  induction d.entries with
  | nil => simp [lookup]
  | cons e es ih =>
    obtain ⟨key, value⟩ := e
    rw [List.map_cons, List.mem_cons, lookup]
    by_cases h : key = name
    · simp [h]
    · rw [if_neg h, ← ih]
      simp [Ne.symm h]

/-- The entries of a dictionary are its names with their values. -/
theorem mem_toList_iff (d : Dict κ α) (name : κ) (value : α) :
    (name, value) ∈ d.toList ↔ d.get? name = some value := by
  obtain ⟨entries, hnodup⟩ := d
  unfold toList get?
  dsimp only
  induction entries with
  | nil => simp [lookup]
  | cons e rest ih =>
    obtain ⟨key, old⟩ := e
    rw [List.map_cons, List.nodup_cons] at hnodup
    rw [List.mem_cons, ih hnodup.2, lookup]
    by_cases hkey : key = name
    · subst hkey
      have hnone : lookup key rest ≠ some value := by
        intro h
        exact hnodup.1 (List.mem_map.mpr ⟨(key, value), (ih hnodup.2).mpr h, rfl⟩)
      simp [hnone, eq_comm]
    · simp [hkey, Ne.symm hkey]

end Dict

end DeviceFlow
