import DeviceFlow.Proofs.Nesting.Adequate
import DeviceFlow.Proofs.Trace.Events

/-!
# The count of the steps

A dispatched step is counted before its first iteration begins, so the count is one ahead of the
first iterations while a run pauses before one of them. It stays ahead only when the run is
cancelled in this pause, and then the run ends. What is counted along a trace therefore is the
first iterations that are told and the refusals of such pauses.
-/

namespace DeviceFlow

/-- Whether an event tells the beginning of the first iteration of a dispatched step. -/
def Event.isFirst : Event → Bool
  | .stepStarted i => i.number = 1
  | _ => false

@[simp] theorem Event.isFirst_runStarted (device workflowId workflowName : String)
    (time : Timestamp) : (Event.runStarted device workflowId workflowName time).isFirst = false :=
  rfl

@[simp] theorem Session.isFirst_closing (run : Session) (w : Workflow) (p : Progress)
    (status : RunStatus) (error : Option String) (durationMs : Nat) :
    (run.closing w p status error durationMs).isFirst = false := by
  unfold closing
  split
  · rfl
  · rfl

/-- The number of first iterations that are told along a trace. -/
def firsts (t : List Exchange) : Nat := (eventsOf t).countP Event.isFirst

/-- Whether a walk has just found that nothing keeps it from dispatching a step but the limit. -/
def Exchange.goesOn : Exchange → Bool
  | ⟨.isCancelled, (cancelled : Bool)⟩ => !cancelled
  | _ => false

/-- Whether a pause has been cut short. -/
def Exchange.isCut : Exchange → Bool
  | ⟨.sleep _, (whole : Bool)⟩ => !whole
  | _ => false

/-- The number of pauses that are cut short right after a walk has gone on. The flag tells
    whether a walk has gone on right before the trace. -/
def cuts : Bool → List Exchange → Nat
  | _, [] => 0
  | fresh, x :: t => (fresh && x.isCut).toNat + cuts x.goesOn t

/-- Whether a walk has gone on with the last exchange. -/
def freshAfter : Bool → List Exchange → Bool
  | fresh, [] => fresh
  | _, x :: t => freshAfter x.goesOn t

theorem firsts_append (t u : List Exchange) : firsts (t ++ u) = firsts t + firsts u := by
  unfold firsts
  rw [eventsOf_append, List.countP_append]

theorem cuts_append (fresh : Bool) (t u : List Exchange) :
    cuts fresh (t ++ u) = cuts fresh t + cuts (freshAfter fresh t) u := by
  induction t generalizing fresh with
  | nil => simp [cuts, freshAfter]
  | cons x t ih => simp only [List.cons_append, cuts, freshAfter, ih, Nat.add_assoc]

theorem freshAfter_append (fresh : Bool) (t u : List Exchange) :
    freshAfter fresh (t ++ u) = freshAfter (freshAfter fresh t) u := by
  induction t generalizing fresh with
  | nil => rfl
  | cons x t ih => exact ih _

theorem freshAfter_mono {t : List Exchange} {fresh : Bool} (h : freshAfter false t = true) :
    freshAfter fresh t = true := by
  cases t with
  | nil => cases h
  | cons x t => exact h

theorem cuts_eq_zero {t : List Exchange} (h : ∀ x ∈ t, x.goesOn = false) : cuts false t = 0 := by
  induction t with
  | nil => rfl
  | cons x t ih =>
    rw [cuts, h x List.mem_cons_self, ih fun y hy => h y (List.mem_cons_of_mem x hy)]
    rfl

theorem Request.OfStep.goesOn_eq_false {x : Exchange} (h : x.request.OfStep) :
    x.goesOn = false := by
  obtain ⟨q, answer⟩ := x
  cases q with
  | isCancelled => exact h.elim
  | _ => rfl

/-- Within a step that calls no workflow nothing is counted. -/
theorem counts_perform {rig : Rig} {s : Step} {vars : Variables} {t : List Exchange}
    {r : Except StepError Effect} (h : (s.perform rig vars).run.Ends t r) :
    firsts t = 0 ∧ cuts false t = 0 := by
  obtain ⟨hrequests, _⟩ := Plan.Keeps.follows (Step.modest_perform rig s vars) h
  constructor
  · rw [firsts, eventsOf_perform h]
    rfl
  · exact cuts_eq_zero fun x hx => (hrequests x hx).goesOn_eq_false

variable {run : Session}

theorem firsts_emit (e : Event) (answer : Unit) (t : List Exchange) :
    firsts (⟨.emit e, answer⟩ :: t) = e.isFirst.toNat + firsts t := by
  rw [firsts, eventsOf_emit, List.countP_cons, firsts, Nat.add_comm]
  cases e.isFirst with
  | false => rfl
  | true => rfl

/-- The first iteration of a step is counted where it is told. -/
theorem Session.firsts_bracket (w : Workflow) (s : Step) (number startedAt endedAt : Nat)
    (outcome : StepOutcome) (t : List Exchange) :
    firsts (run.bracket w s number startedAt endedAt outcome t) =
      (decide (number = 1)).toNat + firsts t := by
  rw [bracket, firsts_append, firsts_append]
  have hopening : firsts [⟨.emit (.stepStarted (run.iteration w s number)), ()⟩,
      ⟨.log (.debug .run s!"Running step '{s.id}' ({s.typeName}) iteration {number}"), ()⟩,
      ⟨.clock, startedAt⟩] = (decide (number = 1)).toNat := firsts_emit ..
  rw [hopening]
  rfl

theorem Session.cuts_bracket (fresh : Bool) (w : Workflow) (s : Step)
    (number startedAt endedAt : Nat) (outcome : StepOutcome) (t : List Exchange) :
    cuts fresh (run.bracket w s number startedAt endedAt outcome t) = cuts false t := by
  simp [bracket, cuts, cuts_append, Exchange.isCut, Exchange.goesOn]

theorem Session.freshAfter_bracket (fresh : Bool) (w : Workflow) (s : Step)
    (number startedAt endedAt : Nat) (outcome : StepOutcome) (t : List Exchange) :
    freshAfter fresh (run.bracket w s number startedAt endedAt outcome t) = false := by
  rw [bracket, freshAfter_append]
  rfl

namespace Piece

/-- Whether the piece begins with the pause before the first iteration of a step. -/
def isFresh : Piece → Bool
  | .repetition _ _ _ left number _ => left ≠ 0 && number = 1
  | .iteration _ _ _ number _ => number = 1
  | _ => false

/-- Iterations are counted from one. -/
def Numbered : Piece → Prop
  | .repetition _ _ _ _ number _ | .iteration _ _ _ number _ => number ≠ 0
  | _ => True

/-- A piece ends because the run has been cancelled. -/
def IsCancelled : (x : Piece) → x.Result → Prop
  | .run .., r => RunRecord.status r = .cancelled
  | .walk .., r | .onward .., r => Prod.snd r = .error .cancelled
  | .repetition .., r | .iteration .., r => Prod.snd r = .error .cancelled
  | .attempt .., r => StepOutcome.error (Prod.snd r) = some .cancelled
  | .call .., r => Prod.snd r = .error .cancelled

end Piece

/-- The pause before the first iteration of a step is cut short by a cancellation. -/
inductive Refusal : Piece → List Exchange → Prop where
  | intro (levels : Nat) (w : Workflow) (s : Step) (p : Progress) (t : List Exchange) :
      Refusal (.iteration levels w s 1 p) (⟨.sleep s.preWaitMs.toNat, false⟩ :: t)

theorem Refusal.append {x : Piece} {t u : List Exchange} (h : Refusal x t) :
    Refusal x (t ++ u) := by
  cases h with
  | intro levels w s p t => exact .intro levels w s p (t ++ u)

/-- The count of the steps of a piece: it goes up by the first iterations that are told, and by
    one more at most, when the run is cancelled right before one. -/
structure Piece.Counts (run : Session) (x : Piece) (t : List Exchange) (r : x.Result) : Prop where
  steps : x.stepsAfter r + x.isFresh.toNat = x.stepsBefore + firsts t + cuts x.isFresh t
  once : cuts x.isFresh t ≤ 1
  cancelled : cuts x.isFresh t ≠ 0 → x.IsCancelled r
  refused : cuts x.isFresh t ≠ 0 → x.Meets run Refusal t

/-- An iteration that does not end the run ends with its second pause. -/
theorem Course.freshAfter_iteration {levels number : Nat} {w : Workflow} {s : Step}
    {p : Progress} {t : List Exchange} {r : Progress × Except RunError StepOutcome}
    {outcome : StepOutcome} (h : Course run (.iteration levels w s number p) t r)
    (hr : r.2 = .ok outcome) (fresh : Bool) : freshAfter fresh t = false := by
  cases h with
  | refused | fatal => cases hr
  | bearable =>
    rw [freshAfter_append, freshAfter_append]
    rfl

/-- A walk does not pause before it has looked for its next step. -/
theorem Course.cuts_onward {levels room : Nat} {w : Workflow} {id : Option String}
    {p : Progress} {t : List Exchange} {r : Progress × Except RunError Unit}
    (h : Course run (.onward levels w room id p) t r) (fresh : Bool) :
    cuts fresh t = cuts false t := by
  cases h with
  | _ => simp [cuts, Exchange.isCut]

theorem Piece.Counts.uncut {x : Piece} {t : List Exchange} {r : x.Result}
    (hsteps : x.stepsAfter r + x.isFresh.toNat = x.stepsBefore + firsts t)
    (hcuts : cuts x.isFresh t = 0) : x.Counts run t r :=
  ⟨by rw [hcuts, hsteps, Nat.add_zero], by simp [hcuts], fun h => absurd hcuts h,
    fun h => absurd hcuts h⟩

/-- A piece counts as a part of it does, up to the first iteration that it tells itself. -/
theorem Piece.Counts.around {x y : Piece} {t u : List Exchange} {r : x.Result} {r' : y.Result}
    (h : y.Counts run u r') (told : Nat)
    (hbefore : x.stepsBefore + told + y.isFresh.toNat = y.stepsBefore + x.isFresh.toNat)
    (hafter : x.stepsAfter r = y.stepsAfter r') (hfirsts : firsts t = told + firsts u)
    (hcuts : cuts x.isFresh t = cuts y.isFresh u)
    (hcancelled : y.IsCancelled r' → x.IsCancelled r)
    (hrefused : y.Meets run Refusal u → x.Meets run Refusal t) : x.Counts run t r := by
  refine ⟨?_, ?_, ?_, ?_⟩
  · have hsteps := h.steps
    rw [hafter, hfirsts, hcuts]
    omega
  · rw [hcuts]
    exact h.once
  · rw [hcuts]
    exact fun hne => hcancelled (h.cancelled hne)
  · rw [hcuts]
    exact fun hne => hrefused (h.refused hne)

theorem Piece.Counts.within {x y : Piece} {t u : List Exchange} {r : x.Result} {r' : y.Result}
    (h : y.Counts run u r')
    (hbefore : x.stepsBefore + y.isFresh.toNat = y.stepsBefore + x.isFresh.toNat)
    (hafter : x.stepsAfter r = y.stepsAfter r') (hfirsts : firsts t = firsts u)
    (hcuts : cuts x.isFresh t = cuts y.isFresh u)
    (hcancelled : y.IsCancelled r' → x.IsCancelled r)
    (hrefused : y.Meets run Refusal u → x.Meets run Refusal t) : x.Counts run t r :=
  h.around 0 hbefore hafter (by rw [hfirsts, Nat.zero_add]) hcuts hcancelled hrefused

/-- The counts of two pieces that follow each other add up. -/
theorem Piece.Counts.followedBy {x y z : Piece} {t u v : List Exchange} {r : x.Result}
    {r' : y.Result} {r'' : z.Result} (hy : y.Counts run u r') (hz : z.Counts run v r'')
    (hgoes : ¬ y.IsCancelled r')
    (hbefore : x.stepsBefore + y.isFresh.toNat = y.stepsBefore + x.isFresh.toNat)
    (hmiddle : y.stepsAfter r' = z.stepsBefore) (hfresh : z.isFresh = false)
    (hafter : x.stepsAfter r = z.stepsAfter r'') (hfirsts : firsts t = firsts u + firsts v)
    (hcuts : cuts x.isFresh t = cuts y.isFresh u + cuts false v)
    (hcancelled : z.IsCancelled r'' → x.IsCancelled r)
    (hrefused : z.Meets run Refusal v → x.Meets run Refusal t) : x.Counts run t r := by
  have hnone : cuts y.isFresh u = 0 :=
    Decidable.byContradiction fun hne => hgoes (hy.cancelled hne)
  have hy := hy.steps
  obtain ⟨hz, honce, hend, hmet⟩ := hz
  rw [hfresh] at hz honce hend hmet
  rw [hnone, Nat.zero_add] at hcuts
  refine ⟨?_, ?_, ?_, ?_⟩
  · rw [hafter, hfirsts, hcuts]
    simp only [Bool.toNat_false] at hz
    omega
  · rw [hcuts]
    exact honce
  · rw [hcuts]
    exact fun hne => hcancelled (hend hne)
  · rw [hcuts]
    exact fun hne => hrefused (hmet hne)

theorem Step.iterations_ne_zero (s : Step) : s.iterations ≠ 0 := by
  unfold Step.iterations
  omega

theorem Piece.isFresh_dispatch (levels : Nat) (w : Workflow) (s : Step) (p : Progress) :
    (Piece.repetition levels w s s.iterations 1 p).isFresh = true := by
  simp [Piece.isFresh, s.iterations_ne_zero]

theorem Piece.isFresh_repetition (levels : Nat) (w : Workflow) (s : Step) (left number : Nat)
    (p : Progress) : (Piece.repetition levels w s (left + 1) number p).isFresh =
      (Piece.iteration levels w s number p).isFresh := by
  simp [Piece.isFresh]

/-- The count of the steps of every piece. -/
theorem Course.counts {x : Piece} {t : List Exchange} {r : x.Result} (h : Course run x t r)
    (hnumbered : x.Numbered) : x.Counts run t r := by
  induction h with
  | @run w vars startedAt finishedAt startedMs endedMs t v q result hwalk hannounce ih =>
    obtain ⟨record, rfl⟩ := Session.ends_announceEnd hannounce
    refine (ih trivial).within rfl rfl ?_ ?_ ?_ fun hmet => ?_
    · simp [firsts]
    · simp [cuts_append, cuts, Exchange.isCut, Exchange.goesOn, Piece.isFresh]
    · intro hcancelled
      cases hcancelled
      rfl
    · have hmet := (Begins.run w vars startedAt startedMs).meets hmet
      exact (hmet.append Refusal.append).append Refusal.append
  | walk hstart h ih =>
    exact (ih trivial).within rfl rfl rfl rfl (fun h => h) (Begins.walk hstart).meets
  | startless | forked => exact .uncut rfl rfl
  | arrived | halted | exhausted | lost => exact .uncut rfl rfl
  | broken hroom htarget h ih | stopped hroom htarget h hend ih =>
    refine (ih Nat.one_ne_zero).within ?_ rfl rfl ?_ ?_ (Begins.onward hroom htarget).meets
    · rw [Piece.isFresh_dispatch]
      rfl
    · rw [Piece.isFresh_dispatch]
      exact Nat.zero_add _
    · intro hcancelled
      cases hcancelled <;> rfl
  | @onward levels room w id s p q t u outcome r hroom htarget h hend hrest ih ihrest =>
    refine (ih Nat.one_ne_zero).followedBy (ihrest trivial) ?_ ?_ rfl rfl rfl ?_ ?_
      (fun h => h) (Begins.next hroom htarget h.ends hend).meets
    · intro hcancelled
      cases hcancelled
    · rw [Piece.isFresh_dispatch]
      rfl
    · exact firsts_append t u
    · rw [Piece.isFresh_dispatch]
      show 0 + cuts true (t ++ u) = _
      rw [Nat.zero_add, cuts_append, hrest.cuts_onward]
  | idle => exact .uncut (by simp [Piece.isFresh]; rfl) rfl
  | failed h ih | last h hlast ih =>
    refine (ih hnumbered).within ?_ rfl rfl ?_ (fun h => h) Begins.repetition.meets
    · rw [Piece.isFresh_repetition]
      rfl
    · rw [Piece.isFresh_repetition]
  | @again levels w s left number p q t u outcome r h hleft hbreak hrest ih ihrest =>
    refine (ih hnumbered).followedBy (ihrest (Nat.succ_ne_zero _)) ?_ ?_ rfl ?_ rfl ?_ ?_
      (fun h => h) (Begins.again h.ends hleft hbreak).meets
    · intro hcancelled
      cases hcancelled
    · rw [Piece.isFresh_repetition]
      rfl
    · have hnumber : number ≠ 0 := hnumbered
      simp [Piece.isFresh, hnumber]
    · exact firsts_append t u
    · rw [Piece.isFresh_repetition, cuts_append, h.freshAfter_iteration rfl]
  | @refused levels w s number p =>
    have hcuts : cuts (decide (number = 1)) [⟨.sleep s.preWaitMs.toNat, false⟩] =
        (decide (number = 1)).toNat := by simp [cuts, Exchange.isCut]
    refine ⟨?_, ?_, fun _ => rfl, ?_⟩
    · show p.steps + (decide (number = 1)).toNat = p.steps + 0 + cuts (decide (number = 1)) _
      rw [hcuts]
      rfl
    · show cuts (decide (number = 1)) _ ≤ 1
      rw [hcuts]
      exact Bool.toNat_le _
    · show cuts (decide (number = 1)) _ ≠ 0 → _
      rw [hcuts]
      intro hne
      obtain rfl : number = 1 := by simpa using hne
      exact .here (.intro ..)
  | @fatal levels w s number startedAt endedAt p q t outcome e h hfatal ih =>
    refine (ih trivial).around (decide (number = 1)).toNat rfl rfl ?_ ?_ ?_ fun hmet => ?_
    · exact run.firsts_bracket ..
    · have hcuts := run.cuts_bracket false w s number startedAt endedAt outcome t
      simp [cuts, Exchange.isCut, Exchange.goesOn, hcuts, Piece.isFresh]
    · intro hcancelled
      have herror : outcome.error = some .cancelled := hcancelled
      simp only [Session.fatalError?, herror, Option.some.injEq] at hfatal
      rw [← hfatal]
      rfl
    · have hmet := (Begins.iteration levels w s number p startedAt).meets hmet
      exact hmet.append Refusal.append
  | @bearable levels w s number startedAt endedAt p q t v outcome whole h hfatal hreport ih =>
    have hreported : cuts false v = 0 ∧ freshAfter false v = false := by
      rcases Session.ends_reportFailure hreport with rfl | ⟨record, rfl⟩
      · exact ⟨rfl, rfl⟩
      · exact ⟨rfl, rfl⟩
    refine (ih trivial).around (decide (number = 1)).toNat rfl rfl ?_ ?_ ?_ fun hmet => ?_
    · have hfirsts := run.firsts_bracket w s number startedAt endedAt outcome t
      simpa [firsts, Session.eventsOf_reportFailure hreport] using hfirsts
    · have hcuts := run.cuts_bracket false w s number startedAt endedAt outcome t
      simp [cuts, cuts_append, Exchange.isCut, Exchange.goesOn, hcuts, Piece.isFresh,
        Session.freshAfter_bracket, hreported]
    · intro hcancelled
      have herror : outcome.error = some .cancelled := hcancelled
      simp [Session.fatalError?, herror] at hfatal
    · have hmet := (Begins.iteration levels w s number p startedAt).meets hmet
      exact (hmet.append Refusal.append).append Refusal.append
  | nameless => exact .uncut rfl rfl
  | returned hkind hid h ih | thrown hkind hid h ih =>
    refine (ih trivial).within rfl rfl rfl rfl ?_ (Begins.attempt hkind hid).meets
    intro hcancelled
    cases hcancelled <;> rfl
  | performed hkind h | unperformed hkind h =>
    obtain ⟨hfirsts, hcuts⟩ := counts_perform h
    exact .uncut (by rw [hfirsts]; rfl) hcuts
  | tooDeep | storeless | unloaded | missing => exact .uncut rfl rfl
  | @finished levels depth id child p q t hstore hdepth h ih =>
    refine (ih trivial).within rfl (Session.Progress.steps_afterCall ..) ?_ ?_ ?_ fun hmet => ?_
    · simp [firsts]
    · simp [cuts_append, cuts, Exchange.isCut, Exchange.goesOn, Piece.isFresh]
    · intro hcancelled
      cases hcancelled
    · exact ((Begins.call child hstore hdepth).meets hmet).append Refusal.append
  | @unfinished levels depth id child p q t e hstore hdepth h ih =>
    refine (ih trivial).within rfl (Session.Progress.steps_afterCall ..) ?_ ?_ ?_
      (Begins.call child hstore hdepth).meets
    · simp [firsts]
    · simp [cuts, Exchange.isCut, Exchange.goesOn, Piece.isFresh]
    · intro hcancelled
      cases hcancelled
      rfl

theorem Begins.numbered {x y : Piece} {t : List Exchange} (h : Begins run x t y)
    (hx : x.Numbered) : y.Numbered := by
  cases h with
  | onward => exact Nat.one_ne_zero
  | again => exact Nat.succ_ne_zero _
  | repetition => exact hx
  | run | walk | next | iteration | attempt | call => trivial

/-- A walk goes on right before the pause before the first iteration of a step. -/
theorem Begins.freshAfter {x y : Piece} {t : List Exchange} (h : Begins run x t y)
    (hx : x.Numbered) (hy : y.isFresh = true) : freshAfter x.isFresh t = true := by
  cases h with
  | onward => rfl
  | repetition =>
    rw [Piece.isFresh_repetition]
    exact hy
  | again =>
    simp only [Piece.isFresh, Nat.add_eq_right, Bool.and_eq_true, decide_eq_true_eq] at hy
    exact absurd hy.2 hx
  | run | walk | next | iteration | attempt | call => cases hy

theorem Reaches.freshAfter {x y : Piece} {t : List Exchange} (h : Reaches run x t y)
    (hx : x.Numbered) (hy : y.isFresh = true) : freshAfter x.isFresh t = true := by
  induction h with
  | refl => exact hy
  | @head x y z t u h hrest ih =>
    rw [freshAfter_append]
    have hinner := ih (h.numbered hx) hy
    cases hfresh : y.isFresh with
    | false =>
      rw [hfresh] at hinner
      exact freshAfter_mono hinner
    | true =>
      rw [hfresh] at hinner
      rwa [h.freshAfter hx hfresh]

/-- A refusal is always counted. -/
theorem Piece.Meets.cuts_ne_zero {x : Piece} {t : List Exchange} (h : x.Meets run Refusal t)
    (hx : x.Numbered) : cuts x.isFresh t ≠ 0 := by
  obtain ⟨b, y, u, hreaches, rfl, hrefusal⟩ := h
  cases hrefusal with
  | intro levels w s p t =>
    rw [cuts_append, hreaches.freshAfter hx rfl]
    simp [cuts, Exchange.isCut]

/-- The number of steps of a run is that of the first iterations that are told, and one more
    just when the run is cancelled right before one. -/
theorem Course.steps_run {w : Workflow} {vars : Variables} {t : List Exchange} {r : RunRecord}
    (h : Course run (.run w vars) t r) :
    ((Piece.run w vars).Meets run Refusal t → r.steps = firsts t + 1) ∧
      (¬ (Piece.run w vars).Meets run Refusal t → r.steps = firsts t) := by
  obtain ⟨hsteps, honce, _, hrefused⟩ := h.counts trivial
  have hcount : r.steps = 0 + firsts t + cuts false t := hsteps
  constructor
  · intro hmet
    have hcut : cuts false t ≠ 0 := hmet.cuts_ne_zero trivial
    have hone : cuts false t ≤ 1 := honce
    omega
  · intro hnot
    have hnone : cuts false t = 0 := Decidable.byContradiction fun hne => hnot (hrefused hne)
    omega

end DeviceFlow
