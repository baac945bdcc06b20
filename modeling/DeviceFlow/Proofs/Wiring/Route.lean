import DeviceFlow.Proofs.Failure.Run
import DeviceFlow.Proofs.Nesting.Adequate
import DeviceFlow.Proofs.Nesting.Complete
import DeviceFlow.Proofs.Wiring.Visit

/-!
# Walks follow the wiring

The main statement about the order of the steps: where the ids of the steps of all workflows
differ, every walk of a run goes from its start step along the wiring, as its visits come out, and
ends where the wiring leads nowhere, or where it is kept from the next step; and every iteration
that is ever begun belongs to a step to which a walk has come in this way.
-/

namespace DeviceFlow

variable {run : Session} {levels : Nat} {w : Workflow} {s : Step} {p : Progress}
  {t : List Exchange} {outcome : StepOutcome} {e : RunError}

/-! ## The last iteration -/

namespace Session

/-- What does not end the run at once can be handled by the wiring. -/
theorem bearable_of_fatalError? (h : fatalError? s outcome = none) {e : StepError}
    (he : outcome.error = some e) : e ≠ .cancelled ∧ e.isFatal = false := by
  unfold fatalError? at h
  rw [he] at h
  cases e with
  | cancelled | aborted => simp at h
  | _ =>
    refine ⟨nofun, ?_⟩
    simpa using h

/-- What ends the run at once is a cancellation or a fatal error. -/
theorem isFatal_of_fatalError? (h : fatalError? s outcome = some e)
    (haborted : ∀ cause, outcome.error = some (.aborted cause) → cause.isFatal = true) :
    e = .cancelled ∨ e.isFatal = true := by
  unfold fatalError? at h
  split at h
  · cases h
  · left
    exact (Option.some.inj h).symm
  · rename_i cause hcause
    right
    rw [← Option.some.inj h]
    exact haborted cause hcause
  · split at h
    · rename_i hfatal
      right
      rw [← Option.some.inj h]
      exact hfatal
    · cases h

theorem isFatal_of_asStepError {id : String} {cause : RunError}
    (h : asStepError id e = .aborted cause) : cause.isFatal = true := by
  unfold asStepError at h
  split at h
  · cases h
  · split at h
    · rename_i hfatal
      cases h
      exact hfatal
    · cases h

end Session

/-- A call hands on fatal errors only. -/
theorem Course.isFatal_of_call {id : String} {r : Progress × Except StepError Unit}
    {cause : RunError} (h : Course run (.call levels id p) t r)
    (hr : r.2 = .error (.aborted cause)) : cause.isFatal = true := by
  cases h with
  | unfinished hstore hdepth h => exact Session.isFatal_of_asStepError (Except.error.inj hr)
  | _ => cases hr

theorem Course.isFatal_of_aborted {r : Progress × StepOutcome} {cause : RunError}
    (h : Course run (.attempt levels s p) t r) (herror : r.2.error = some (.aborted cause)) :
    cause.isFatal = true := by
  cases h with
  | nameless | returned => cases herror
  | thrown hkind hid h =>
    exact h.isFatal_of_call (congrArg Except.error (Option.some.inj herror))
  | performed hkind h =>
    have hnone := (Plan.Keeps.follows (Step.leaves_perform ..) h).2.1
    rw [hnone] at herror
    cases herror
  | unperformed hkind h =>
    have hown := (Plan.Keeps.follows (Step.modest_perform ..) h).2
    cases herror
    exact hown.elim

/-- An iteration breaks off the run only because of a cancellation or a fatal error. -/
theorem Course.iteration_breaks {number : Nat} {r : Progress × Except RunError StepOutcome}
    (h : Course run (.iteration levels w s number p) t r) (hr : r.2 = .error e) :
    e = .cancelled ∨ e.isFatal = true := by
  cases h with
  | refused =>
    cases hr
    exact .inl rfl
  | fatal h hfatal =>
    cases hr
    exact Session.isFatal_of_fatalError? hfatal fun _ => h.isFatal_of_aborted
  | @bearable _ _ _ _ _ _ _ _ _ _ _ whole h hfatal hreport =>
    cases whole with
    | true => cases hr
    | false =>
      cases hr
      exact .inl rfl

theorem Course.repetition_breaks {left number : Nat}
    {r : Progress × Except RunError StepOutcome}
    (h : Course run (.repetition levels w s left number p) t r) (hr : r.2 = .error e) :
    e = .cancelled ∨ e.isFatal = true := by
  induction left generalizing number p t with
  | zero =>
    cases h with
    | idle => cases hr
  | succ left ih =>
    cases h with
    | failed h => exact h.iteration_breaks hr
    | last h => cases hr
    | again h hleft hbreak hrest => exact ih hrest

/-- The outcome of the iterations of a step is that of the last one. -/
theorem Course.exists_last {left number : Nat} {r : Progress × Except RunError StepOutcome}
    (h : Course run (.repetition levels w s (left + 1) number p) t r)
    (hr : r.2 = .ok outcome) :
    ∃ number p b u, t = b ++ u ∧ Course run (.iteration levels w s number p) u r := by
  induction left generalizing number p t with
  | zero =>
    cases h with
    | failed h => cases hr
    | last h => exact ⟨number, p, [], t, rfl, h⟩
    | again h hleft => exact absurd rfl hleft
  | succ left ih =>
    cases h with
    | failed h => cases hr
    | last h => exact ⟨number, p, [], t, rfl, h⟩
    | @again _ _ _ _ _ _ _ t u _ _ h hleft hbreak hrest =>
      obtain ⟨number, p, b, v, rfl, hlast⟩ := ih hrest
      exact ⟨number, p, t ++ b, v, (List.append_assoc ..).symm, hlast⟩

/-- The iterations of a step that a walk can go on after are a visit of it. -/
theorem Course.ran {q : Progress}
    (h : Course run (.repetition levels w s s.iterations 1 p) t (q, .ok outcome)) :
    Visit.Ran run levels w ⟨s, t, outcome⟩ := by
  have hends := h.ends
  obtain ⟨left, hleft⟩ : ∃ left, s.iterations = left + 1 :=
    Nat.exists_eq_succ_of_ne_zero (by unfold Step.iterations; omega)
  rw [hleft] at h
  obtain ⟨number, p', b, u, rfl, hlast⟩ := h.exists_last rfl
  generalize hr : (q, Except.ok outcome) = r at hlast
  cases hlast with
  | refused => cases hr
  | fatal => cases hr
  | @bearable _ _ _ _ startedAt endedAt _ q' t' v outcome' whole h hfatal hreport =>
    cases whole with
    | false => cases hr
    | true =>
      cases hr
      refine ⟨⟨p, q, hends⟩, ?_, fun e he => Session.bearable_of_fatalError? hfatal he⟩
      refine ⟨number, p', q, startedAt, endedAt, b ++ [⟨.sleep s.preWaitMs.toNat, true⟩], t',
        v ++ [⟨.sleep s.postDelayMs.toNat, true⟩], ?_, h.ends, ?_, fun value =>
          h.verdict_eq_held_iff⟩
      · simp only [List.append_assoc, List.cons_append, List.nil_append]
      · have hquiet := (Plan.Keeps.follows (Session.keeps_reportFailure
          (G := fun q => q.acts = false) (fun _ => rfl) s number outcome) hreport).1
        intro x hx
        rcases List.mem_append.mp hx with hv | hsleep
        · exact hquiet x hv
        · rw [List.mem_singleton.mp hsleep]
          rfl

/-! ## From visit to visit -/

namespace Visit

variable {v : Visit}

/-- The wiring and the run agree on where a visit leads. -/
theorem Ran.next_eq (h : v.Ran run levels w) : v.step.next v.outcome = v.target? := by
  obtain ⟨number, p, q, startedAt, endedAt, b, t, u, hsplit, hends, hrest⟩ := h.last
  exact Step.next_eq_edge (Session.course_executeStep (Session.callCourse levels) hends).suits

/-- A walk ends with an error after a visit just when the wiring leads nowhere. -/
theorem Ran.endError?_eq (h : v.Ran run levels w) :
    Session.endError? v.step v.outcome = if v.target? = none then v.failure? else none := by
  unfold Session.endError? failure?
  rw [h.next_eq]
  cases v.step.onError with
  | stop => simp
  | proceed => simp

end Visit

namespace Workflow.Along

variable {v : Visit} {visits : List Visit} {id last : Option String}

theorem eq_of_nil (h : w.Along id [] last) : last = id := by
  cases h with
  | here => rfl

/-- A walk goes on along the wiring with one more visit. -/
theorem snoc {reached : String} (h : w.Along id visits (some reached))
    (hstep : w.step? reached = some v.step) : w.Along id (visits ++ [v]) v.target? := by
  generalize hlast : some reached = last at h
  induction h with
  | here id =>
    subst hlast
    exact .visit hstep (.here _)
  | visit hfirst hrest ih => exact .visit hfirst (ih hlast)

end Workflow.Along

/-- How a walk ends does not depend on its first visit, unless this is also the last one. -/
theorem Ending.cons {v : Visit} {visits : List Visit} {last : Option String}
    {r : Progress × Except RunError Unit} (h : Ending run levels w visits last t r)
    (hv : visits = [] → last = none → v.failure? = none) :
    Ending run levels w (v :: visits) last t r := by
  cases h with
  | well h =>
    refine .well ?_
    cases visits with
    | nil => exact hv rfl rfl
    | cons v' visits => rwa [List.getLast?_cons_cons]
  | failed h =>
    refine .failed ?_
    cases visits with
    | nil => cases h
    | cons v' visits => rwa [List.getLast?_cons_cons]
  | cancelled => exact .cancelled
  | exhausted hlimit => exact .exhausted hlimit
  | lost hstep => exact .lost hstep
  | broken hstep hends he => exact .broken hstep hends he

/-- From an id on, a walk visits steps along the wiring, and ends as the wiring says. -/
def Session.Routes (run : Session) (levels : Nat) (w : Workflow) (id : Option String)
    (t : List Exchange) (r : Progress × Except RunError Unit) : Prop :=
  ∃ visits last rest, w.Along id visits last ∧ (∀ v ∈ visits, v.Ran run levels w) ∧
    t = visits.flatMap Visit.trace ++ rest ∧ Ending run levels w visits last rest r

theorem Ending.routes {id : Option String} {r : Progress × Except RunError Unit}
    (h : Ending run levels w [] id t r) : run.Routes levels w id t r :=
  ⟨[], id, t, .here id, by simp, by simp, h⟩

theorem Course.routes {room : Nat} {id : Option String} {r : Progress × Except RunError Unit}
    (h : Course run (.onward levels w room id p) t r) (hw : w.stepIds.Nodup) :
    run.Routes levels w id t r := by
  induction room generalizing id p t with
  | zero =>
    cases h with
    | arrived => exact (Ending.well rfl).routes
    | halted => exact Ending.cancelled.routes
    | exhausted hlimit => exact (Ending.exhausted hlimit).routes
  | succ room ih =>
    cases h with
    | arrived => exact (Ending.well rfl).routes
    | halted => exact Ending.cancelled.routes
    | exhausted hlimit => exact (Ending.exhausted hlimit).routes
    | lost hroom htarget =>
      rw [Workflow.target?_eq_step? hw] at htarget
      exact (Ending.lost htarget).routes
    | broken hroom htarget h =>
      rw [Workflow.target?_eq_step? hw] at htarget
      exact (Ending.broken htarget h.ends (h.repetition_breaks rfl)).routes
    | @stopped _ _ _ _ s _ q t outcome e hroom htarget h hend =>
      rw [Workflow.target?_eq_step? hw] at htarget
      have hran := h.ran
      rw [hran.endError?_eq] at hend
      split at hend
      · rename_i hnone
        refine ⟨[⟨s, t, outcome⟩], none, [], .visit htarget (hnone ▸ .here _), ?_, ?_,
          .failed hend⟩
        · intro v hv
          rwa [List.mem_singleton.mp hv]
        · simp [Visit.trace]
      · cases hend
    | @onward _ _ _ _ s _ q t u outcome _ hroom htarget h hend hrest =>
      rw [Workflow.target?_eq_step? hw] at htarget
      have hran := h.ran
      rw [hran.endError?_eq] at hend
      obtain ⟨visits, last, rest, halong, hvisits, rfl, hending⟩ := ih (hran.next_eq ▸ hrest)
      refine ⟨⟨s, t, outcome⟩ :: visits, last, rest, .visit htarget halong, ?_, ?_,
        hending.cons ?_⟩
      · intro v hv
        rcases List.mem_cons.mp hv with rfl | hv
        · exact hran
        · exact hvisits v hv
      · simp [Visit.trace]
      · intro hnil hlast
        subst hnil hlast
        rwa [if_pos halong.eq_of_nil.symm] at hend

/-! ## From the run to a step -/

/-- A walk in a run has come along the wiring to an id. -/
def Session.ComesTo (run : Session) (x : Piece) (levels : Nat) (w : Workflow)
    (id : Option String) (t : List Exchange) : Prop :=
  ∃ b p start visits, Reaches run x b (.walk levels w p) ∧ w.starts = [start] ∧
    w.Along (wired start.connections.onSuccess) visits id ∧
    (∀ v ∈ visits, v.Ran run levels w) ∧ t = b ++ visits.flatMap Visit.trace

/-- A walk in a run has dispatched a step to which it has come along the wiring. -/
def Session.Dispatches (run : Session) (x : Piece) (levels : Nat) (w : Workflow) (s : Step)
    (t : List Exchange) : Prop :=
  ∃ b u, t = b ++ (⟨.isCancelled, false⟩ :: u) ∧ w.step? s.id = some s ∧
    run.ComesTo x levels w (some s.id) b

namespace Piece

/-- A piece in a run belongs to a step to which a walk has come along the wiring. -/
def OnRoute (run : Session) : (y x : Piece) → List Exchange → Prop
  | .onward levels w _ id _, x, t => run.ComesTo x levels w id t
  | .repetition levels w s _ _ _, x, t | .iteration levels w s _ _, x, t =>
    run.Dispatches x levels w s t
  | .run .., _, _ | .walk .., _, _ | .attempt .., _, _ | .call .., _, _ => True

end Piece

theorem Reaches.trans {x y z : Piece} {t u : List Exchange} (h : Reaches run x t y)
    (hrest : Reaches run y u z) : Reaches run x (t ++ u) z := by
  induction h with
  | refl x => exact hrest
  | head h _ ih =>
    rw [List.append_assoc]
    exact .head h (ih hrest)

/-- A piece of a step that is repeated is still on the route. -/
theorem Session.Dispatches.append {x : Piece} (h : run.Dispatches x levels w s t)
    (u : List Exchange) : run.Dispatches x levels w s (t ++ u) := by
  obtain ⟨b, v, rfl, hstep, hcomes⟩ := h
  exact ⟨b, v ++ u, by simp, hstep, hcomes⟩

/-- What begins on the route is on the route. -/
theorem Begins.onRoute {x y z : Piece} {b : List Exchange} (h : Begins run y t z)
    (hreaches : Reaches run x b y) (hy : y.OnRoute run x b)
    (hids : y.BelongsTo fun w => w.stepIds.Nodup) : z.OnRoute run x (b ++ t) := by
  cases h with
  | run | iteration | attempt | call => trivial
  | walk hstart => exact ⟨b, _, _, [], hreaches, hstart, .here _, by simp, by simp⟩
  | onward hroom htarget =>
    rw [Workflow.target?_eq_step? hids.1] at htarget
    have hid := (Workflow.mem_of_target? ((Workflow.target?_eq_step? hids.1 _).trans htarget)).2
    subst hid
    exact ⟨b, [], rfl, htarget, hy⟩
  | @next levels room w id s p q t outcome hroom htarget hends hend =>
    rw [Workflow.target?_eq_step? hids.1] at htarget
    have hran : Visit.Ran run levels w ⟨s, t, outcome⟩ :=
      (Session.course_iterate (Session.callCourse levels) hends).ran
    obtain ⟨c, p, start, visits, hwalk, hstart, halong, hvisits, rfl⟩ := hy
    refine ⟨c, p, start, visits ++ [⟨s, t, outcome⟩], hwalk, hstart, ?_, ?_, ?_⟩
    · rw [hran.next_eq]
      exact halong.snoc htarget
    · intro v hv
      rcases List.mem_append.mp hv with hv | hv
      · exact hvisits v hv
      · rwa [List.mem_singleton.mp hv]
    · simp [Visit.trace]
  | repetition => exact hy.append _
  | again => exact hy.append _

theorem Reaches.onRoute {x y z : Piece} {b : List Exchange} (h : Reaches run y t z)
    (hreaches : Reaches run x b y) (hy : y.OnRoute run x b)
    (hids : y.BelongsTo fun w => w.stepIds.Nodup)
    (hloaded : ∀ child, Loaded t child → child.stepIds.Nodup) : z.OnRoute run x (b ++ t) := by
  induction h generalizing b with
  | refl y => rwa [List.append_nil]
  | @head y z _ t u h _ ih =>
    have hz := h.belongsTo hids
      (Loaded.forall_of_subset hloaded (List.subset_append_left t u))
    rw [← List.append_assoc]
    refine ih (hreaches.trans ?_) (h.onRoute hreaches hy hids) hz
      (Loaded.forall_of_subset hloaded (List.subset_append_right t u))
    simpa using Reaches.head h (.refl z)

namespace Session

/-- Where the ids of the steps of all workflows differ, every walk of a run visits steps along the
    wiring and ends as the wiring says; and every iteration that begins in a run is one of a step
    to which a walk has come along the wiring. -/
theorem walks_follow_wiring (run : Session) {w : Workflow} (vars : Variables)
    (hw : w.stepIds.Nodup) :
    (∀ {b levels child p t r}, Reaches run (.run w vars) b (.walk levels child p) →
      (∀ loaded, Loaded b loaded → loaded.stepIds.Nodup) →
      (run.walk (run.call levels) child p).Ends t r →
        (∃ start, child.starts = [start] ∧
          run.Routes levels child (wired start.connections.onSuccess) t r) ∨
        (child.starts.length ≠ 1 ∧ t = [] ∧ ∃ e, r.2 = .error e)) ∧
    ∀ {t i}, (run.execute w vars).Starts t i →
      (∀ loaded, Loaded t loaded → loaded.stepIds.Nodup) →
        ∃ levels child s number,
          i = run.iteration child s number ∧ run.Dispatches (.run w vars) levels child s t := by
  have hrun : (Piece.run w vars).BelongsTo fun w => w.stepIds.Nodup := hw
  constructor
  · intro b levels child p t r hreaches hloaded hends
    have hchild : child.stepIds.Nodup := hreaches.belongsTo hrun hloaded
    cases course_walk (callCourse levels) hends with
    | walk hstart h => exact .inl ⟨_, hstart, h.routes hchild⟩
    | startless hstart => exact .inr ⟨by simp [hstart], rfl, _, rfl⟩
    | forked hstart => exact .inr ⟨by omega, rfl, _, rfl⟩
  · intro t i hstarts hloaded
    obtain ⟨b, levels, child, s, number, p, hreaches, rfl, rfl⟩ :=
      contains_every_iteration hstarts
    have hroute := hreaches.onRoute (.refl _) trivial hrun
      (Loaded.forall_of_subset hloaded (List.subset_append_left ..))
    exact ⟨levels, child, s, number, rfl, Dispatches.append hroute _⟩

/-- A tap that asks whether to try again when it fails. The answer is no, as the variable that is
    asked for has no value, and leads to an empty id. -/
def hesitant : Workflow :=
  .ofSteps "hesitant" [(Step.new "start" .start).andThen "tap",
    (Step.new "tap" (.tap (some 1) (some 2))).onFailure "done",
    (Step.new "done" (.branch (some "variable_equals") none (some "more") none)).branches "" "tap"]

/-- A walk follows the connection for a failure, and ends with a condition that holds; the second
    step is begun where the first one leads. -/
theorem walks_follow_wiring_hesitant :
    hesitant.stepIds.Nodup ∧
    (∃ b levels p t q, Reaches storeOnly (.run hesitant Dict.empty) b (.walk levels hesitant p) ∧
      (storeOnly.walk (storeOnly.call levels) hesitant p).Ends t (q, .ok ()) ∧
      storeOnly.Routes levels hesitant (some "tap") t (q, .ok ())) ∧
    ∃ t levels child s number, (storeOnly.execute hesitant Dict.empty).Starts t
        ⟨"d", "hesitant", "done", "branch", 1⟩ ∧
      ⟨"d", "hesitant", "done", "branch", 1⟩ = storeOnly.iteration child s number ∧
      storeOnly.Dispatches (.run hesitant Dict.empty) levels child s t := by
  have hids : hesitant.stepIds.Nodup := by decide
  have htheorem := walks_follow_wiring storeOnly Dict.empty hids
  refine ⟨hids, ?_, ?_⟩
  · have hreaches : Reaches storeOnly (.run hesitant Dict.empty) _ (.walk _ hesitant _) :=
      .head (.run _ _ ⟨2024, 1, 1, 0, 0, 0, 0⟩ 0) <| .refl _
    have hends : (storeOnly.walk (storeOnly.call 10) hesitant ⟨Dict.empty, 0⟩).Ends _
        (_, .ok ()) :=
      .step (q := .isCancelled) false <|
      .step (q := .sleep _) true <|
      .step (q := .emit _) () <|
      .step (q := .log _) () <|
      .step (q := .clock) (0 : Nat) <|
      .step (q := .perform _) (.error (.other "no screen")) <|
      .step (q := .clock) (0 : Nat) <|
      .step (q := .emit _) () <|
      .step (q := .log _) () <|
      .step (q := .sleep _) true <|
      .step (q := .isCancelled) false <|
      .step (q := .sleep _) true <|
      .step (q := .emit _) () <|
      .step (q := .log _) () <|
      .step (q := .clock) (0 : Nat) <|
      .step (q := .log _) () <|
      .step (q := .clock) (0 : Nat) <|
      .step (q := .emit _) () <|
      .step (q := .sleep _) true <|
      .step (q := .log _) () <| .here _
    have hwalk := htheorem.1 hreaches (by
      intro loaded hloaded
      have hlisted : loaded ∈ [] := hloaded.mem_filterMap
      cases hlisted) hends
    rcases hwalk with ⟨start, hstart, hroutes⟩ | ⟨hstarts, _⟩
    · cases hstart
      exact ⟨_, _, _, _, _, hreaches, hends, hroutes⟩
    · exact absurd rfl hstarts
  · have hstarts : (storeOnly.execute hesitant Dict.empty).Starts _
        ⟨"d", "hesitant", "done", "branch", 1⟩ :=
      ⟨_, .step (q := .date) (⟨2024, 1, 1, 0, 0, 0, 0⟩ : Timestamp) <|
      .step (q := .clock) (0 : Nat) <|
      .step (q := .log _) () <|
      .step (q := .emit _) () <|
      .step (q := .isCancelled) false <|
      .step (q := .sleep _) true <|
      .step (q := .emit _) () <|
      .step (q := .log _) () <|
      .step (q := .clock) (0 : Nat) <|
      .step (q := .perform _) (.error (.other "no screen")) <|
      .step (q := .clock) (0 : Nat) <|
      .step (q := .emit _) () <|
      .step (q := .log _) () <|
      .step (q := .sleep _) true <|
      .step (q := .isCancelled) false <|
      .step (q := .sleep _) true <| .here _⟩
    obtain ⟨levels, child, s, number, hiteration, hdispatches⟩ := htheorem.2 hstarts (by
      intro loaded hloaded
      have hlisted : loaded ∈ [] := hloaded.mem_filterMap
      cases hlisted)
    exact ⟨_, levels, child, s, number, hstarts, hiteration, hdispatches⟩

end Session

end DeviceFlow
