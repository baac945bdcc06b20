import DeviceFlow.Proofs.Cancellation.History
import DeviceFlow.Proofs.Isolation.View
import DeviceFlow.Proofs.Manager.Schedule

/-!
# A run alone

A run that is carried out alone waits in place for every answer. Beside others it goes on only
until it has to wait, and comes back to it later. From scenes that are alike for its device, both
make the same requests and come to the same result, unless the run alone is cancelled.
-/

namespace DeviceFlow.Rehearsal

theorem Scene.pause_of_not_cancelled {scene : Scene} {ms : Nat}
    (h : (scene.pause ms).1.cancelled = false) :
    (scene.pause ms).2 = true ∧
      ∀ device, (scene.pass ms).Alike device (scene.pause ms).1 := by
  have hpassed : ∀ device, (scene.pass ms).Alike device (scene.pass ms) := fun _ => .refl _ _
  unfold pause at h ⊢
  cases hcancelled : scene.cancelled with
  | true => simp [hcancelled] at h
  | false =>
    by_cases hms : ms = 0
    · subst hms
      have hnow : ∀ device, (scene.pass 0).Alike device scene :=
        fun _ => ⟨rfl, rfl, rfl, rfl, rfl, rfl⟩
      simpa using hnow
    · simp only [hcancelled, hms, Bool.false_eq_true, if_false] at h ⊢
      cases htime : scene.cancelAtMs with
      | none => exact ⟨rfl, hpassed⟩
      | some time =>
        rw [htime] at h
        dsimp only at h ⊢
        split at h
        · cases h
        · rename_i hlate
          rw [if_neg hlate]
          exact ⟨rfl, hpassed⟩

namespace Cast

variable {α : Type} (cast : Cast) (device : String)

/-- The requests that a plan makes until it has to wait; the one that it waits for is the last. -/
def asked (isCancelled : Bool) : Plan α → Scene → List Request
  | .done _, _ => []
  | .ask q next, scene =>
    let (scene, turn) := cast.begin device (fun _ => isCancelled) q scene
    q :: if cast.breaksAt q then []
    else
      match turn with
      | .now a => asked isCancelled (next a) scene
      | .later .. => []
      | .pause ms finish =>
        if isCancelled then asked isCancelled (next (finish false)) scene
        else if ms = 0 then asked isCancelled (next (finish true)) scene
        else []

/-- The requests that a plan makes when it is carried out alone. -/
def requests (p : Plan α) (scene : Scene) : List Request :=
  (cast.history device p scene).map (·.request)

/-- Alone, a plan makes some requests and comes to a result and a final scene. It is not cancelled
    meanwhile, and no listener breaks down. -/
structure Goes (p : Plan α) (scene : Scene) (todo : List Request) (final : Scene) (result : α) :
    Prop where
  requests : cast.requests device p scene = todo
  carryOut : cast.carryOut device p scene = (final, result)
  cancelled : final.cancelled = false
  breaksAt : ∀ q ∈ todo, cast.breaksAt q = false

/-- A plan goes like this from some scene that is alike for its device. -/
def Destined (p : Plan α) (scene : Scene) (todo : List Request) (final : Scene) (result : α) :
    Prop :=
  ∃ scene', scene.Alike device scene' ∧ cast.Goes device p scene' todo final result

variable {cast device} {s s' final : Scene} {todo : List Request} {result : α}

theorem Destined.alike {p : Plan α} (h : cast.Destined device p s todo final result)
    (halike : s.Alike device s') : cast.Destined device p s' todo final result := by
  obtain ⟨scene, hscene, hgoes⟩ := h
  exact ⟨scene, halike.symm.trans hscene, hgoes⟩

variable (cast device) in
theorem cancelled_carryOut (p : Plan α) (s : Scene) :
    s.cancelled ≤ (cast.carryOut device p s).1.cancelled := by
  induction p generalizing s with
  | done a => exact fun h => h
  | ask q next ih => exact fun h => ih _ _ ((cast.answered_answer device q s).le h)

/-- As long as a run is not cancelled, it goes on as if there was no token. -/
theorem begin_of_not_cancelled (device : String) (q : Request) (h : s.cancelled = false) :
    cast.begin device (·.cancelled) q s = cast.begin device (fun _ => false) q s := by
  cases q with
  | isCancelled => exact congrArg (fun cancelled : Bool => (s, Turn.now cancelled)) h
  | log | emit | clock | date | sleep | perform | play | look | load => rfl

/-- The first request of a plan, and what is left of it alone. -/
theorem Goes.step {q : Request} {next : q.Answer → Plan α}
    (h : cast.Goes device (.ask q next) s todo final result) :
    s.cancelled = false ∧ (cast.answer device q s).1.cancelled = false ∧
      cast.breaksAt q = false ∧
      ∃ todo', todo = q :: todo' ∧
        cast.Goes device (next (cast.answer device q s).2) (cast.answer device q s).1 todo' final
          result := by
  obtain ⟨rfl, hcarried, hcancelled, hbreaks⟩ := h
  have hafter : (cast.answer device q s).1.cancelled = false := by
    refine Bool.eq_false_iff.mpr fun hanswer => ?_
    have hlast := cast.cancelled_carryOut device (next (cast.answer device q s).2) _ hanswer
    have hfinal : (cast.carryOut device (.ask q next) s).1.cancelled = true := hlast
    rw [hcarried, hcancelled] at hfinal
    cases hfinal
  have hbefore : s.cancelled = false := by
    refine Bool.eq_false_iff.mpr fun hcancelled => ?_
    exact Bool.eq_false_iff.mp hafter ((cast.answered_answer device q s).le hcancelled)
  exact ⟨hbefore, hafter, hbreaks q (List.mem_cons_self ..), _, rfl, rfl, hcarried, hcancelled,
    fun r hr => hbreaks r (List.mem_cons_of_mem _ hr)⟩

/-- What is done with the result of a plan does not count. -/
theorem Goes.bind_done {β : Type} {p : Plan α} (h : cast.Goes device p s todo final result)
    (f : α → β) : cast.Goes device (p >>= fun a => .done (f a)) s todo final (f result) := by
  induction p generalizing s todo with
  | done a =>
    obtain ⟨rfl, hcarried, hcancelled, hbreaks⟩ := h
    obtain ⟨rfl, rfl⟩ := Prod.mk.inj hcarried
    exact ⟨rfl, rfl, hcancelled, hbreaks⟩
  | ask q next ih =>
    obtain ⟨_, _, hbreaks, todo, rfl, hrest⟩ := h.step
    obtain ⟨hrequests, hcarried, hcancelled, hothers⟩ := ih _ hrest
    exact ⟨congrArg (q :: ·) hrequests, hcarried, hcancelled,
      List.forall_mem_cons.mpr ⟨hbreaks, hothers⟩⟩

variable (cast device) in
/-- What is left of a plan after a request, once its answer is there. -/
def Awaits {β : Type} (next : β → Plan α) (begun : Scene × Turn β) (todo : List Request)
    (final : Scene) (result : α) : Prop :=
  match begun with
  | (scene, .now a) => cast.Destined device (next a) scene todo final result
  | (scene, .later ms finish) =>
    cast.Destined device (next (finish (scene.pass ms)).2) (finish (scene.pass ms)).1 todo final
      result
  | (scene, .pause ms finish) =>
    cast.Destined device (next (finish true)) (scene.pass ms) todo final result

/-- From scenes that are alike for the device, a plan begins with the same request, and the same
    is left of it. -/
theorem Destined.step (hserial : cast.AnswersPerSerial) {q : Request} {next : q.Answer → Plan α}
    (h : cast.Destined device (.ask q next) s todo final result) :
    cast.breaksAt q = false ∧ ∃ todo', todo = q :: todo' ∧
      cast.Awaits device next (cast.begin device (fun _ => false) q s) todo' final result := by
  obtain ⟨s', halike, hgoes⟩ := h
  obtain ⟨hbefore, hafter, hbreaks, todo', rfl, hrest⟩ := hgoes.step
  refine ⟨hbreaks, todo', rfl, ?_⟩
  have hturn := hserial.localTurn_begin device false q
  obtain ⟨hbegun, hsame⟩ := hturn.own halike
  -- Both get the same turn for the request; alone, the answer is waited for in place.
  unfold answer at hafter hrest
  rw [begin_of_not_cancelled device q hbefore] at hafter hrest
  generalize hb : cast.begin device (fun _ => false) q s = begun at hbegun hsame ⊢
  generalize cast.begin device (fun _ => false) q s' = begun' at hbegun hsame hafter hrest
  obtain ⟨scene, turn⟩ := begun
  obtain ⟨scene', turn'⟩ := begun'
  dsimp only at hbegun hsame
  subst hsame
  cases turn' with
  | now a => exact ⟨scene', hbegun, hrest⟩
  | later ms finish =>
    have hfinish : Local device finish := hturn.later (s := s) (by rw [hb])
    obtain ⟨hscene, hanswer⟩ := hfinish.own (hbegun.pass ms)
    refine ⟨_, hscene, ?_⟩
    rw [← hanswer]
    exact hrest
  | pause ms finish =>
    -- A pause that was cut short would have left the run alone cancelled.
    obtain ⟨hwhole, hpassed⟩ := Scene.pause_of_not_cancelled hafter
    dsimp only at hrest
    rw [hwhole] at hrest
    exact ⟨_, (hbegun.pass ms).trans (hpassed device), hrest⟩

variable (cast device) in
/-- What a task is left with in a state, when nothing disturbs it. -/
def Pending (state : TaskState) (scene : Scene) (todo : List Request) (final : Scene)
    (result : Ending) : Prop :=
  match state with
  | .applying _ => False
  | .ready plan => cast.Destined device plan scene todo final result
  | .busy untilMs resume =>
    scene.nowMs ≤ untilMs ∧ Local device resume ∧
      cast.Destined device (resume (scene.pass (untilMs - scene.nowMs))).2
        (resume (scene.pass (untilMs - scene.nowMs))).1 todo final result
  | .pausing untilMs resume =>
    scene.nowMs ≤ untilMs ∧
      cast.Destined device (resume true) (scene.pass (untilMs - scene.nowMs)) todo final result
  | .over c => todo = [] ∧ c = .ended result

/-- What a plan waits for leaves it with the same in scenes that are alike for the device. -/
theorem Destined.resume {resume : Scene → Scene × Plan α} (hlocal : Local device resume)
    (h : cast.Destined device (resume s).2 (resume s).1 todo final result)
    (halike : s.Alike device s') :
    cast.Destined device (resume s').2 (resume s').1 todo final result := by
  obtain ⟨hscene, hplan⟩ := hlocal.own halike
  rw [hplan]
  exact h.alike hscene

/-- Nothing changes for a task in what other devices do. -/
theorem Pending.alike {state : TaskState} {result : Ending}
    (h : cast.Pending device state s todo final result) (halike : s.Alike device s') :
    cast.Pending device state s' todo final result := by
  cases state with
  | applying plan => exact h
  | ready plan => exact Destined.alike h halike
  | busy untilMs resume =>
    obtain ⟨hdue, hlocal, hdestined⟩ := h
    unfold Pending
    rw [halike.nowMs]
    exact ⟨hdue, hlocal, hdestined.resume hlocal (halike.pass _)⟩
  | pausing untilMs resume =>
    obtain ⟨hdue, hdestined⟩ := h
    unfold Pending
    rw [halike.nowMs]
    exact ⟨hdue, hdestined.alike (halike.pass _)⟩
  | «over» c => exact h

theorem Pending.nowMs_le {state : TaskState} {result : Ending}
    (h : cast.Pending device state s todo final result) {untilMs : Nat}
    (hdue : state.dueMs? = some untilMs) : s.nowMs ≤ untilMs := by
  cases state with
  | applying | ready | «over» => cases hdue
  | busy | pausing =>
    cases hdue
    exact h.1

/-- Nor does anything change while it waits. -/
theorem Pending.pass {state : TaskState} {result : Ending}
    (h : cast.Pending device state s todo final result) {untilMs ms : Nat}
    (hdue : state.dueMs? = some untilMs) (hms : s.nowMs + ms ≤ untilMs) :
    cast.Pending device state (s.pass ms) todo final result := by
  have hpassed : (s.pass (untilMs - s.nowMs)).Alike device
      ((s.pass ms).pass (untilMs - (s.pass ms).nowMs)) := by
    have hsplit := Scene.Alike.pass_add device s ms (untilMs - (s.pass ms).nowMs)
    have hnow : (s.pass ms).nowMs = s.nowMs + ms := rfl
    have htotal : ms + (untilMs - (s.pass ms).nowMs) = untilMs - s.nowMs := by omega
    rwa [htotal] at hsplit
  cases state with
  | applying | ready | «over» => cases hdue
  | busy untilMs resume =>
    cases hdue
    obtain ⟨_, hlocal, hdestined⟩ := h
    exact ⟨hms, hlocal, hdestined.resume hlocal hpassed⟩
  | pausing untilMs resume =>
    cases hdue
    exact ⟨hms, h.2.alike hpassed⟩

/-- A plan that goes on as far as it can makes the first requests that it would make alone, and is
    left with the others. When it has come to its end, the scene is like the final one. -/
theorem Destined.advance (hserial : cast.AnswersPerSerial) {p : Plan Ending} {result : Ending}
    (h : cast.Destined device p s todo final result) :
    ∃ todo', todo = cast.asked device false p s ++ todo' ∧
      cast.Pending device (Task.stateAfter (cast.advance device false p s).2)
        (cast.advance device false p s).1 todo' final result ∧
      ((Task.stateAfter (cast.advance device false p s).2).isOver = true →
        (cast.advance device false p s).1.Alike device final) := by
  induction p generalizing s todo with
  | done e =>
    obtain ⟨s', halike, rfl, hcarried, _, _⟩ := h
    obtain ⟨rfl, rfl⟩ := Prod.mk.inj hcarried
    exact ⟨[], rfl, ⟨rfl, rfl⟩, fun _ => halike⟩
  | ask q next ih =>
    obtain ⟨hbreaks, todo, rfl, hawaits⟩ := h.step hserial
    have hlater : ∀ ms finish, (cast.begin device (fun _ => false) q s).2 = .later ms finish →
        Local device finish :=
      fun ms finish => (hserial.localTurn_begin device false q).later
    unfold Cast.advance asked
    generalize cast.begin device (fun _ => false) q s = begun at hawaits hlater ⊢
    obtain ⟨scene, turn⟩ := begun
    simp only [hbreaks, Bool.false_eq_true, if_false, List.cons_append, List.cons_inj_right]
    cases turn with
    | now a => exact ih a hawaits
    | later ms finish =>
      have hfinish := hlater ms finish rfl
      refine ⟨todo, rfl, ⟨Nat.le_add_right .., ⟨fun halike => ?_, hfinish.others⟩, ?_⟩,
        fun hover => by cases hover⟩
      · obtain ⟨hscene, hanswer⟩ := hfinish.own halike
        exact ⟨hscene, congrArg next hanswer⟩
      · rw [Nat.add_sub_cancel_left]
        exact hawaits
    | pause ms finish =>
      dsimp only
      by_cases hms : ms = 0
      · subst hms
        rw [if_pos rfl, if_pos rfl]
        exact ih _ (Destined.alike hawaits ⟨rfl, rfl, rfl, rfl, rfl, rfl⟩)
      · rw [if_neg hms, if_neg hms]
        refine ⟨todo, rfl, ⟨Nat.le_add_right .., ?_⟩, fun hover => by cases hover⟩
        rw [Nat.add_sub_cancel_left]
        exact hawaits

end Cast

end DeviceFlow.Rehearsal
