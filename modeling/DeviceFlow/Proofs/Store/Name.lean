import DeviceFlow.Proofs.Files.Follow
import DeviceFlow.Store.Directory

/-!
# Names of files with workflows

The name of a file with a workflow is the id, a dot and one of the known extensions in any case.
A file in which a workflow is saved has the preferred extension.
-/

namespace DeviceFlow

namespace Files

theorem utf8Size_toLower (c : Char) : c.toLower.utf8Size = c.utf8Size := by
  unfold Char.toLower
  split
  · rename_i h
    have hle : c.val ≤ 0x7f := UInt32.le_trans h.2 (by decide)
    have hlow : c.val + ('a'.val - 'A'.val) ≤ 0x7f := by
      have h2 := UInt32.le_iff_toNat_le.mp h.2
      rw [UInt32.le_iff_toNat_le, UInt32.toNat_add]
      have : 'Z'.val.toNat = 90 := rfl
      have : ('a'.val - 'A'.val).toNat = 32 := rfl
      have : (0x7f : UInt32).toNat = 127 := rfl
      omega
    rw [Char.utf8Size_eq_one_iff.mpr hlow, Char.utf8Size_eq_one_iff.mpr hle]
  · rfl

theorem utf8ByteSize_lowered (s : String) : (lowered s).utf8ByteSize = s.utf8ByteSize := by
  have hlist : ∀ cs : List Char, (String.ofList (cs.map Char.toLower)).utf8ByteSize =
      (String.ofList cs).utf8ByteSize := by
    intro cs
    induction cs with
    | nil => rfl
    | cons c cs ih =>
      rw [List.map_cons, String.ofList_cons, String.ofList_cons, String.utf8ByteSize_append,
        String.utf8ByteSize_append, String.utf8ByteSize_singleton, String.utf8ByteSize_singleton,
        utf8Size_toLower, ih]
  unfold lowered
  rw [hlist, String.ofList_toList]

theorem mem_lowered {c : Char} {s : String} (h : c ∈ s.toList) :
    c.toLower ∈ (lowered s).toList := by
  unfold lowered
  rw [String.toList_ofList]
  exact List.mem_map_of_mem h

theorem fileName?_join {root name : String} (hroot : root ≠ "") (hname : PlainName name) :
    fileName? (join root name) = some name := by
  unfold fileName?
  rw [parts_join hroot hname.noSlash, List.filter_append]
  simp [hname.nonempty, hname.not_dot, hname.not_dots]

end Files

namespace DirectoryStore

open Files

/-- The name of the file in which a workflow is saved. -/
def savedName (id : String) : String := id ++ ".yaml"

/-- A name that is made of an id and an extension for workflows. -/
structure Named (name id ext : String) : Prop where
  eq : name = id ++ "." ++ ext
  nonempty : id ≠ ""
  noDot : '.' ∉ ext.toList
  known : lowered ext ∈ extensions

variable {name id ext : String}

theorem Named.splitName (h : Named name id ext) : Files.splitName name = (id, some ext) :=
  splitName_eq_some_iff.mpr ⟨h.eq, h.nonempty, h.noDot⟩

theorem Named.rank? (h : Named name id ext) :
    rank? name = extensions.idxOf? (lowered ext) := by
  unfold DirectoryStore.rank?
  rw [h.splitName]
  rfl

/-- The id of a file is what its name starts with, up to the last dot. -/
theorem idOf?_eq_some_iff : idOf? name = some id ↔ ∃ ext, Named name id ext := by
  unfold idOf?
  constructor
  · intro h
    obtain ⟨rank, hrank, rfl⟩ := Option.map_eq_some_iff.mp h
    unfold DirectoryStore.rank? at hrank
    obtain ⟨ext, hext, hrank⟩ := Option.bind_eq_some_iff.mp hrank
    have hsplit : Files.splitName name = ((Files.splitName name).1, some ext) :=
      Prod.ext rfl hext
    obtain ⟨hname, hid, hdot⟩ := splitName_eq_some_iff.mp hsplit
    refine ⟨ext, hname, hid, hdot, ?_⟩
    rw [← List.isSome_idxOf?, hrank]
    rfl
  · rintro ⟨ext, h⟩
    obtain ⟨rank, hrank⟩ := Option.isSome_iff_exists.mp (List.isSome_idxOf?.mpr h.known)
    rw [h.rank?, hrank, h.splitName]
    rfl

theorem exists_rank? (h : idOf? name = some id) : ∃ rank, rank? name = some rank := by
  obtain ⟨rank, hrank, _⟩ := Option.map_eq_some_iff.mp h
  exact ⟨rank, hrank⟩

theorem named_savedName (hid : id ≠ "") : Named (savedName id) id "yaml" := by
  refine ⟨?_, hid, by decide, by decide⟩
  unfold savedName
  rw [String.append_assoc]
  rfl

theorem idOf?_savedName (hid : id ≠ "") : idOf? (savedName id) = some id :=
  idOf?_eq_some_iff.mpr ⟨"yaml", named_savedName hid⟩

theorem rank?_savedName (hid : id ≠ "") : rank? (savedName id) = some 0 := by
  rw [(named_savedName hid).rank?]
  decide

/-- No character that is in none of the extensions is in that of a file with a workflow. -/
theorem Named.not_mem_ext (h : Named name id ext) {c : Char}
    (hc : ∀ e ∈ extensions, c.toLower ∉ e.toList) : c ∉ ext.toList :=
  fun hmem => hc _ h.known (mem_lowered hmem)

theorem Named.not_mem (h : Named name id ext) {c : Char} (hdot : c ≠ '.')
    (hc : ∀ e ∈ extensions, c.toLower ∉ e.toList) (hid : c ∉ id.toList) :
    c ∉ name.toList := by
  rw [h.eq]
  simp [hid, hdot, h.not_mem_ext hc]

/-- No extension for workflows is longer than the preferred one. -/
theorem Named.size_le (h : Named name id ext) :
    name.utf8ByteSize ≤ (savedName id).utf8ByteSize := by
  have hext : ext.utf8ByteSize ≤ 4 := by
    have hall : ∀ e ∈ extensions, e.utf8ByteSize ≤ 4 := by decide
    have hle := hall _ h.known
    rwa [utf8ByteSize_lowered] at hle
  have hdot : ".".utf8ByteSize = 1 := rfl
  have hyaml : ".yaml".utf8ByteSize = 5 := rfl
  unfold savedName
  rw [h.eq, String.utf8ByteSize_append, String.utf8ByteSize_append, String.utf8ByteSize_append]
  omega

theorem Named.noSlash_id (h : Named name id ext) (hname : NoSlash name) : NoSlash id := by
  intro hmem
  apply hname
  rw [h.eq]
  simp [hmem]

theorem Named.noSlash (h : Named name id ext) (hid : NoSlash id) : NoSlash name :=
  h.not_mem (by decide) (by decide) hid

/-- The name of a file with a workflow is no way through directories. -/
theorem Named.plainName (h : Named name id ext) (hid : NoSlash id) : PlainName name := by
  have hname := h.eq
  have hne : ∀ c : Char, c ∈ name.toList → c ≠ '.' → name ≠ "." ∧ name ≠ ".." := by
    intro c hc hdot
    constructor
    · rintro rfl
      simp [hdot] at hc
    · rintro rfl
      simp [hdot] at hc
  have hext : ext ≠ "" := by
    rintro rfl
    exact absurd h.known (by decide)
  obtain ⟨c, hc⟩ := List.exists_mem_of_ne_nil ext.toList (by simpa using hext)
  have hcdot : c ≠ '.' := by
    rintro rfl
    exact h.noDot hc
  have hmem : c ∈ name.toList := by
    rw [hname]
    simp [hc]
  refine ⟨h.noSlash hid, ?_, (hne c hmem hcdot).1, (hne c hmem hcdot).2⟩
  rintro rfl
  simp at hmem

/-- A file with the preferred extension is read in the format for it. -/
theorem formatOf_path {store : DirectoryStore} (hroot : store.root ≠ "") (hid : NoSlash id)
    (hname : idOf? name = some id) (hrank : rank? name = some 0) :
    Workflow.formatOf (store.path name) = .yaml := by
  obtain ⟨ext, h⟩ := idOf?_eq_some_iff.mp hname
  have hne : lowered ext ≠ "json" := by
    intro heq
    rw [h.rank?, heq] at hrank
    exact absurd hrank (by decide)
  unfold Workflow.formatOf extension? path
  rw [fileName?_join hroot (h.plainName hid), Option.bind_some, h.splitName]
  simp [hne]

end DirectoryStore

end DeviceFlow
