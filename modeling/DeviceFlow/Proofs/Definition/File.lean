import DeviceFlow.Proofs.Definition.Whole
import DeviceFlow.Proofs.Files.Written
import DeviceFlow.Proofs.Json.Reading
import DeviceFlow.Workflow.File

/-!
# Workflows, saved and parsed

A workflow that is saved in a file is read from the text of the file as it was, in either format.
For one of them this takes that the tree of the workflow is read back from its text; for the other
it holds of every workflow, whose integers are never wider than 64 bits.
-/

namespace DeviceFlow

open Document
open Document.Json (EntriesFit Holds64 ItemsFit)

/-! ## The integers of a workflow -/

theorem holds64_toInt (i : Int32) : Holds64 i.toInt := by
  have hlow : -(2 ^ 31 : Int) ≤ i.toInt := i.le_toInt
  have hhigh := toInt_lt_twoTo i
  have hleast : (Decimal.twoTo 63 : Int) = 2 ^ 63 := rfl
  have hgreatest : (Decimal.twoTo 64 : Int) = 2 ^ 64 := rfl
  unfold Holds64
  omega

theorem holds64_toNat (n : UInt64) : Holds64 n.toNat := by
  have hhigh : n.toNat < 2 ^ 64 := n.toNat_lt
  have hleast : (Decimal.twoTo 63 : Int) = 2 ^ 63 := rfl
  have hgreatest : (Decimal.twoTo 64 : Int) = 2 ^ 64 := rfl
  unfold Holds64
  omega

theorem fits_ofText? (t : Option String) : Json.Fits (.ofText? t) := by
  cases t with
  | none => trivial
  | some t => trivial

theorem fits_int32Value (i : Option Int32) : Json.Fits (int32Value i) := by
  cases i with
  | none => trivial
  | some i => exact holds64_toInt i

theorem fits_uint64Value (n : Option UInt64) : Json.Fits (uint64Value n) := by
  cases n with
  | none => trivial
  | some n => exact holds64_toNat n

theorem fits_selectorValue (s : Option Selector) : Json.Fits (selectorValue s) := by
  cases s with
  | none => trivial
  | some s => exact ⟨trivial, trivial, trivial⟩

theorem entriesFit_append {fields others : List (String × Value)} (h : EntriesFit fields)
    (h' : EntriesFit others) : EntriesFit (fields ++ others) := by
  induction fields with
  | nil => exact h'
  | cons f fields ih => exact ⟨h.1, ih h.2⟩

theorem entriesFit_setField {α : Type} (name : String) (x : Option α) (f : α → Value)
    (h : ∀ a, Json.Fits (f a)) : EntriesFit (setField name (x.map f)) := by
  cases x with
  | none => trivial
  | some a => exact ⟨h a, trivial⟩

theorem StepKind.entriesFit_parameters (kind : StepKind) : EntriesFit kind.parameters := by
  cases kind
  all_goals
    simp [parameters, EntriesFit, fits_ofText?, fits_int32Value, fits_uint64Value,
      fits_selectorValue, Json.Fits]

theorem Connections.fits_encode (c : Connections) : Json.Fits c.encode := by
  have hfield : ∀ name (id : Option String), EntriesFit (setField name (id.map .text)) :=
    fun name id => entriesFit_setField name id _ fun _ => trivial
  exact entriesFit_append (entriesFit_append (entriesFit_append (hfield _ _) (hfield _ _))
    (hfield _ _)) (hfield _ _)

theorem Step.fits_encode (s : Step) : Json.Fits s.encode := by
  have htimeout : EntriesFit (setField "timeout_ms" (s.timeoutMs.map fun n => .int n.toNat)) :=
    entriesFit_setField _ _ _ fun n => holds64_toNat n
  have hnumbers : EntriesFit [("loop_count", .int s.loopCount.toInt),
      ("pre_wait_ms", .int s.preWaitMs.toNat), ("post_delay_ms", .int s.postDelayMs.toNat)] :=
    ⟨holds64_toInt _, holds64_toNat _, holds64_toNat _, trivial⟩
  have hlast : EntriesFit
      [("on_error", .text s.onError.name), ("connections", s.connections.encode)] :=
    ⟨trivial, s.connections.fits_encode, trivial⟩
  have hfirst : EntriesFit [("id", .text s.id), ("type", .text s.typeName)] :=
    ⟨trivial, trivial, trivial⟩
  exact entriesFit_append (entriesFit_append (entriesFit_append
    (entriesFit_append hfirst s.kind.entriesFit_parameters) hnumbers) htimeout) hlast

theorem Variables.fits_encode (vars : Variables) : Json.Fits (encode vars) := by
  have hentries : ∀ es : List (String × String),
      EntriesFit (es.map fun e => (e.1, Value.text e.2)) := by
    intro es
    induction es with
    | nil => trivial
    | cons e es ih => exact ⟨trivial, ih⟩
  exact hentries vars.entries

namespace Workflow

variable {w : Workflow}

theorem fits_encode (w : Workflow) : Json.Fits w.encode := by
  have hsteps : ∀ steps : List Step, ItemsFit (steps.map Step.encode) := by
    intro steps
    induction steps with
    | nil => trivial
    | cons s steps ih => exact ⟨s.fits_encode, ih⟩
  have hstamp : ∀ name (stamp : Option Timestamp),
      EntriesFit (setField name (stamp.map fun t => .text t.text)) :=
    fun name stamp => entriesFit_setField name stamp _ fun _ => trivial
  have hfields : EntriesFit [("id", .text w.id), ("name", .text w.name),
      ("variables", Variables.encode w.vars), ("steps", .list (w.steps.map Step.encode))] :=
    ⟨trivial, trivial, Variables.fits_encode w.vars, hsteps w.steps, trivial⟩
  exact entriesFit_append (entriesFit_append hfields (hstamp _ _)) (hstamp _ _)

/-- Nothing of a workflow is lost in its JSON text. -/
theorem ofText?_toText_json (hw : w.Tellable) : ofText? .json (w.toText .json) = some w :=
  ofText?_toText hw (Json.readsBack w.fits_encode)

/-- A workflow keeps everything when it is written: its text in either format, and every file that
    it is saved in under a name, is parsed as the workflow itself. -/
structure Kept (w : Workflow) : Prop where
  text : ∀ format, ofText? format (w.toText format) = some w
  file : ∀ fs fs' path, Files.fileName? path ≠ none → saveFile fs path w = .ok fs' →
    ∃ text, fs'.read path = .ok text ∧ ofText? (formatOf path) text = some w

/-- A workflow loses nothing in a file, of whatever kinds its steps are and whichever of their
    fields are set. The stamps have to be of years with four digits, and the tree that is written as
    YAML has to be read back as it was. -/
theorem kept_of_readsBack (hw : w.Tellable) (hyaml : ReadsBack .yaml w.encode) : Kept w := by
  have htext : ∀ format, ofText? format (w.toText format) = some w := by
    intro format
    cases format with
    | json => exact ofText?_toText_json hw
    | yaml => exact ofText?_toText hw hyaml
  refine ⟨htext, ?_⟩
  intro fs fs' path hname hsave
  exact ⟨_, FileSystem.read_write hsave hname, htext _⟩

/-- A workflow with an empty name, an empty id in a connection, a leap second, and the largest of
    all timeouts. -/
def tour : Workflow where
  id := "tour"
  name := ""
  vars := Dict.empty.insert "n" "1"
  steps := [
    { Step.new "go" .start with connections := ⟨some "look", some "", none, none⟩ },
    { Step.new "look" (.element none (some ⟨.text, "OK"⟩) none none) with
      loopCount := -1
      timeoutMs := some 18446744073709551615 },
    Step.new "rest" .unsupported]
  createdAt := some ⟨2024, 2, 29, 23, 59, 60, 120⟩
  updatedAt := none

/-- Such a workflow is kept, in a file that it can be saved in. -/
theorem kept_tour :
    tour.Tellable ∧ ReadsBack .yaml tour.encode ∧ Kept tour ∧
      ∃ fs text, saveFile .empty "tour.yml" tour = .ok fs ∧ fs.read "tour.yml" = .ok text ∧
        ofText? .yaml text = some tour := by
  have htellable : tour.Tellable := by
    refine ⟨?_, by nofun⟩
    intro t ht
    cases ht
    decide
  have hyaml : ReadsBack .yaml tour.encode := readsBack_yaml_of_chars (by decide +kernel)
  have hkept := kept_of_readsBack htellable hyaml
  have hsave : ∃ fs, saveFile .empty "tour.yml" tour = .ok fs :=
    ⟨_, FileSystem.write_eq_ok_iff.mpr
      ⟨["work", "tour.yml"], by decide +kernel, by decide +kernel, rfl⟩⟩
  obtain ⟨fs, hfs⟩ := hsave
  obtain ⟨text, hread, htext⟩ := hkept.file _ _ _ (by decide +kernel) hfs
  exact ⟨htellable, hyaml, hkept, fs, text, hfs, hread, htext⟩

end Workflow

end DeviceFlow
