import DeviceFlow.Proofs.Budget.Limit
import DeviceFlow.Proofs.Wiring.WellFormed

/-!
# Runs of validated workflows

Validation is enough for the structure of a run: when the workflow of a run and all that the
store gives out have been validated, every id that a walk goes on with is found, on every level,
and no walk fails because of its graph. The errors about the graph have texts of their own, so that
the record of the run shows it as well.
-/

namespace DeviceFlow

namespace RunError

/-- An error about the graph of a workflow: its start steps, or a connection that leads to no
    step. -/
def BlamesGraph : RunError → Prop
  | .noStartStep _ | .multipleStartSteps .. | .corruptGraph .. => True
  | _ => False

/-- The first two characters of the text of an error. -/
def opening : RunError → List Char
  | .alreadyRunning _ => ['a', ' ']
  | .noStartStep _ | .multipleStartSteps .. => ['w', 'o']
  | .corruptGraph .. => ['c', 'o']
  | .stepBudgetExceeded _ | .stepFailed .. => ['s', 't']
  | .cancelled => ['c', 'a']

theorem take_message (e : RunError) : e.message.toList.take 2 = e.opening := by
  have hopening : ∀ a b : String, 2 ≤ a.toList.length →
      (a ++ b).toList.take 2 = a.toList.take 2 := by
    intro a b hlength
    rw [String.toList_append, List.take_append_of_le_length hlength]
  cases e with
  | cancelled => rfl
  | alreadyRunning | noStartStep | multipleStartSteps | corruptGraph | stepBudgetExceeded
  | stepFailed =>
    unfold message opening
    simp only [toString, String.append_assoc]
    exact hopening _ _ (by decide)

theorem blamesGraph_iff {e : RunError} :
    e.BlamesGraph ↔ e.opening = ['w', 'o'] ∨ e.opening = ['c', 'o'] := by
  cases e with
  | _ => simp [BlamesGraph, opening]

/-- Errors with one text both blame the graph or both do not. -/
theorem BlamesGraph.of_message_eq {e e' : RunError} (h : e.BlamesGraph)
    (htext : e.message = e'.message) : e'.BlamesGraph := by
  rw [blamesGraph_iff, ← take_message] at h ⊢
  rwa [← htext]

end RunError

/-- What a piece comes to is no failure that blames the graph of a workflow. -/
def Piece.Absolves : (x : Piece) → x.Result → Prop
  | .run .., r => ∀ e : RunError, e.BlamesGraph → RunRecord.error r ≠ some e.message
  | .walk .., r | .onward .., r => ∀ e, Prod.snd r = .error e → ¬ e.BlamesGraph
  | .repetition .., r | .iteration .., r => ∀ e, Prod.snd r = .error e → ¬ e.BlamesGraph
  | .attempt .., r => ∀ e, StepOutcome.error (Prod.snd r) = some (.aborted e) → ¬ e.BlamesGraph
  | .call .., r => ∀ e, Prod.snd r = .error (.aborted e) → ¬ e.BlamesGraph

namespace Session

/-- The record of a run blames the graph only if its walk does. -/
theorem not_blamesGraph_of_conclusion {result : Except RunError Unit}
    (h : ∀ e, result = .error e → ¬ e.BlamesGraph) {e : RunError} (he : e.BlamesGraph) :
    (conclusion result).2 ≠ some e.message := by
  intro htext
  unfold conclusion at htext
  split at htext
  · cases htext
  · cases htext
  · exact h _ rfl (he.of_message_eq (Option.some.inj htext).symm)

/-- A step ends the run with an error about a graph only if it hands on one. -/
theorem not_blamesGraph_of_fatalError? {s : Step} {outcome : StepOutcome} {e : RunError}
    (h : ∀ e, outcome.error = some (.aborted e) → ¬ e.BlamesGraph)
    (hfatal : fatalError? s outcome = some e) : ¬ e.BlamesGraph := by
  unfold fatalError? at hfatal
  split at hfatal
  · cases hfatal
  · cases hfatal
    exact id
  · rename_i cause hcause
    rw [← Option.some.inj hfatal]
    exact h cause hcause
  · split at hfatal
    · cases hfatal
      exact id
    · cases hfatal

theorem not_blamesGraph_of_endError? {s : Step} {outcome : StepOutcome} {e : RunError}
    (hend : endError? s outcome = some e) : ¬ e.BlamesGraph := by
  unfold endError? at hend
  split at hend
  · obtain ⟨cause, _, rfl⟩ := Option.map_eq_some_iff.mp hend
    exact id
  · cases hend

theorem not_blamesGraph_of_asStepError {id : String} {e cause : RunError}
    (h : ¬ e.BlamesGraph) (hcause : asStepError id e = .aborted cause) : ¬ cause.BlamesGraph := by
  unfold asStepError at hcause
  split at hcause
  · cases hcause
  · split at hcause
    · cases hcause
      exact h
    · cases hcause

end Session

variable {run : Session}

/-- Within well-formed workflows no piece fails because of a graph. -/
theorem Course.absolves {x : Piece} {t : List Exchange} {r : x.Result} (h : Course run x t r)
    (hx : x.BelongsTo Workflow.WellFormed)
    (hloaded : ∀ child, Loaded t child → child.WellFormed) : x.Absolves r := by
  induction h with
  | run hwalk hannounce ih =>
    intro e he
    refine Session.not_blamesGraph_of_conclusion
      (ih hx (Loaded.forall_of_subset hloaded ?_)) he
    intro y hy
    simp [hy]
  | walk hstart h ih =>
    exact ih ⟨hx, fun target hid => Workflow.leads_of_starts hstart hid⟩ hloaded
  | startless hstart =>
    have hone := hx.oneStart
    simp [hstart] at hone
  | forked hstart =>
    have hone := hx.oneStart
    omega
  | arrived =>
    intro e he
    cases he
  | halted | exhausted =>
    intro e he
    cases he
    exact id
  | @lost levels room w id p hroom htarget =>
    obtain ⟨s, hs⟩ := hx.1.exists_target? (hx.2 id rfl)
    rw [hs] at htarget
    cases htarget
  | broken hroom htarget h ih =>
    intro e he
    cases he
    exact ih ⟨hx.1, (Workflow.mem_of_target? htarget).1⟩
      (Loaded.forall_of_subset hloaded (List.subset_cons_self ..)) _ rfl
  | stopped hroom htarget h hend ih =>
    intro e he
    cases he
    exact Session.not_blamesGraph_of_endError? hend
  | onward hroom htarget h hend hrest ih ihrest =>
    refine ihrest ⟨hx.1, fun target hid => Workflow.leads_of_next htarget hid⟩
      (Loaded.forall_of_subset hloaded ?_)
    intro y hy
    simp [hy]
  | idle =>
    intro e he
    cases he
  | failed h ih => exact ih hx hloaded
  | last h hlast ih =>
    intro e he
    cases he
  | again h hleft hbreak hrest ih ihrest =>
    exact ihrest hx (Loaded.forall_of_subset hloaded (List.subset_append_right ..))
  | refused =>
    intro e he
    cases he
    exact id
  | fatal h hfatal ih =>
    intro e he
    cases he
    refine Session.not_blamesGraph_of_fatalError?
      (ih ⟨_, hx⟩ (Loaded.forall_of_subset hloaded ?_)) hfatal
    intro y hy
    simp [Session.bracket, hy]
  | @bearable levels w s number startedAt endedAt p q t v outcome whole h hfatal hreport ih =>
    intro e he
    cases whole with
    | false =>
      cases he
      exact id
    | true => cases he
  | nameless =>
    intro e he
    cases he
  | returned hkind hid h ih =>
    intro e he
    cases he
  | thrown hkind hid h ih =>
    intro e he
    cases he
    exact ih trivial hloaded e rfl
  | @performed levels s p t outcome vars hkind h =>
    intro e he
    obtain ⟨_, hsuccess⟩ := Plan.Keeps.follows (Step.modest_perform run.rig s p.vars) h
    have hnone : outcome.error = none := hsuccess
    rw [hnone] at he
    cases he
  | @unperformed levels s p t e hkind h =>
    intro cause hcause
    obtain ⟨_, hown⟩ := Plan.Keeps.follows (Step.modest_perform run.rig s p.vars) h
    cases hcause
    exact hown.elim
  | tooDeep | storeless | unloaded | missing =>
    intro e he
    cases he
  | finished =>
    intro e he
    cases he
  | @unfinished levels depth id child p q t e hstore hdepth h ih =>
    intro cause hcause
    have hwalk : ¬ e.BlamesGraph := by
      refine ih (hloaded child ⟨id, by simp⟩) (Loaded.forall_of_subset hloaded ?_) e rfl
      intro y hy
      simp [hy]
    exact Session.not_blamesGraph_of_asStepError hwalk (Except.error.inj hcause)

namespace Session

/-- Where the workflow of a run and all that the store gives out have been validated, every id
    that a walk comes to is found in its workflow, no walk fails because of its graph, and the run
    does not end with such an error either. -/
theorem sound_of_validate (run : Session) {w : Workflow} (vars : Variables)
    (hw : w.validate = .ok ()) {t : List Exchange} {rest : Plan RunRecord}
    (h : (run.execute w vars).Follows t rest)
    (hloaded : ∀ child, Loaded t child → child.validate = .ok ()) :
    (∀ {b u levels child room id p}, t = b ++ u →
      Reaches run (.run w vars) b (.onward levels child room (some id) p) →
        ∃ s, child.target? id = some s) ∧
    (∀ {b u v levels child p q e}, t = b ++ (u ++ v) →
      Reaches run (.run w vars) b (.walk levels child p) →
      (run.walk (run.call levels) child p).Ends u (q, .error e) → ¬ e.BlamesGraph) ∧
    ∀ r, rest = .done r → ∀ e : RunError, e.BlamesGraph → r.error ≠ some e.message := by
  have hsound : ∀ child, Loaded t child → child.WellFormed := fun child hchild =>
    Workflow.validate_eq_ok_iff.mp (hloaded child hchild)
  have hrun : (Piece.run w vars).BelongsTo Workflow.WellFormed :=
    Workflow.validate_eq_ok_iff.mp hw
  refine ⟨?_, ?_, ?_⟩
  · intro b u levels child room id p hsplit hreaches
    obtain ⟨hchild, hleads⟩ := hreaches.belongsTo hrun
      (Loaded.forall_of_subset hsound fun x hx => by simp [hsplit, hx])
    exact hchild.exists_target? (hleads id rfl)
  · intro b u v levels child p q e hsplit hreaches hends
    have hchild := hreaches.belongsTo hrun
      (Loaded.forall_of_subset hsound fun x hx => by simp [hsplit, hx])
    have hwalk := (course_walk (callCourse levels) hends).absolves hchild
      (Loaded.forall_of_subset hsound fun x hx => by simp [hsplit, hx])
    exact hwalk e rfl
  · rintro r rfl
    exact (course_execute h).absolves hrun hsound

/-- A run that calls a workflow, and fails because of a step in it. -/
theorem sound_persistent :
    persistent.validate = .ok () ∧ ∃ b u r levels room p,
      (storeOnly.execute persistent Dict.empty).Ends (b ++ u) r ∧
      Reaches storeOnly (.run persistent Dict.empty) b
        (.onward levels misconfigured room (some "tap") p) ∧
      (∃ s, misconfigured.target? "tap" = some s) ∧
      r.error = some "step 'tap' failed: tap step is missing parameters: y" ∧
      r.error ≠ some (RunError.corruptGraph "misconfigured" "tap").message := by
  have hw : persistent.validate = .ok () := Workflow.validate_eq_ok_iff.mpr (by decide +kernel)
  have hchild : misconfigured.validate = .ok () :=
    Workflow.validate_eq_ok_iff.mpr (by decide +kernel)
  have hreaches : Reaches storeOnly (.run persistent Dict.empty) _
      (.onward _ misconfigured _ (some "tap") _) :=
    .head (.run _ _ ⟨2024, 1, 1, 0, 0, 0, 0⟩ 0) <|
    .head (.walk rfl) <|
    .head (.onward (s := insistentCall) (by decide) rfl) <|
    .head .repetition <|
    .head (.iteration _ _ _ _ _ 0) <|
    .head (.attempt rfl rfl) <|
    .head (.call misconfigured rfl rfl) <|
    .head (.walk rfl) <| .refl _
  have hends : (storeOnly.execute persistent Dict.empty).Ends _ _ :=
    .step (q := .date) (⟨2024, 1, 1, 0, 0, 0, 0⟩ : Timestamp) <|
    .step (q := .clock) (0 : Nat) <|
    .step (q := .log _) () <|
    .step (q := .emit _) () <|
    .step (q := .isCancelled) false <|
    .step (q := .sleep _) true <|
    .step (q := .emit _) () <|
    .step (q := .log _) () <|
    .step (q := .clock) (0 : Nat) <|
    .step (q := .load _) (.ok (some misconfigured)) <|
    .step (q := .log _) () <|
    .step (q := .isCancelled) false <|
    .step (q := .sleep _) true <|
    .step (q := .emit _) () <|
    .step (q := .log _) () <|
    .step (q := .clock) (0 : Nat) <|
    .step (q := .clock) (0 : Nat) <|
    .step (q := .emit _) () <|
    .step (q := .clock) (0 : Nat) <|
    .step (q := .emit _) () <|
    .step (q := .clock) (0 : Nat) <|
    .step (q := .log _) () <|
    .step (q := .emit _) () <|
    .step (q := .date) (⟨2024, 1, 1, 0, 0, 0, 0⟩ : Timestamp) <| .here _
  obtain ⟨hfound, _, herror⟩ := sound_of_validate storeOnly Dict.empty hw hends (by
    intro child hloaded
    have hlisted : child ∈ [misconfigured] := hloaded.mem_filterMap
    rw [List.mem_singleton.mp hlisted]
    exact hchild)
  exact ⟨hw, _, _, _, _, _, _, hends, hreaches, hfound rfl hreaches, rfl, herror _ rfl _ trivial⟩

end Session

end DeviceFlow
