import DeviceFlow.Proofs.Cancellation.Token
import DeviceFlow.Rehearsal.Scene

/-!
# Histories of runs

Whoever carries a plan out in a state that knows the token of the run makes a coherent history,
if only each answer is one that the token allows. A rehearsal is carried out on a scene in this
way: nothing in a scene takes a cancellation back, and the pauses of a scene are cut short as the
token demands.
-/

namespace DeviceFlow

namespace Plan

variable {σ α : Type} (cancelled : σ → Bool) (reply : (q : Request) → σ → σ × q.Answer)

/-- What is recorded of a plan whose requests are answered in one state after the other. -/
def history : Plan α → σ → List Moment
  | done _, _ => []
  | ask q next, s =>
    ⟨⟨q, (reply q s).2⟩, cancelled s, cancelled (reply q s).1⟩ ::
      history (next (reply q s).2) (reply q s).1

/-- What comes of a plan whose requests are answered in one state after the other. -/
def carryOut : Plan α → σ → σ × α
  | done a, s => (s, a)
  | ask q next, s => carryOut (next (reply q s).2) (reply q s).1

/-- What is recorded leads to the result of the plan. -/
theorem ends_history (p : Plan α) (s : σ) :
    p.Ends (traceOf (p.history cancelled reply s)) (p.carryOut reply s).2 := by
  induction p generalizing s with
  | done a => exact ends_done.mpr ⟨rfl, rfl⟩
  | ask q next ih => exact ends_ask.mpr ⟨_, _, rfl, ih _ _⟩

variable {cancelled reply} (hreply : ∀ (q : Request) (s : σ),
  Answered (cancelled s) q (reply q s).2 (cancelled (reply q s).1))

include hreply

theorem cancelledBefore_history (p : Plan α) {s : σ} (hc : cancelled s = true) :
    ∀ m ∈ p.history cancelled reply s, m.cancelledBefore = true := by
  induction p generalizing s with
  | done a => exact List.forall_mem_nil _
  | ask q next ih => exact List.forall_mem_cons.mpr ⟨hc, ih _ ((hreply q s).le hc)⟩

/-- What is recorded is a coherent history when the token allows all answers. -/
theorem coherent_history (p : Plan α) (s : σ) : Coherent (p.history cancelled reply s) := by
  induction p generalizing s with
  | done a => exact coherent_nil
  | ask q next ih =>
    refine ⟨List.forall_mem_cons.mpr ⟨hreply q s, (ih _ _).answered⟩,
      List.pairwise_cons.mpr ⟨?_, (ih _ _).lasting⟩⟩
    intro m hm hc
    exact (next _).cancelledBefore_history hreply hc m hm

end Plan

end DeviceFlow

namespace DeviceFlow.Rehearsal

open Plan

namespace Scene

variable (scene : Scene)

theorem cancelled_pass (ms : Nat) : scene.cancelled ≤ (scene.pass ms).cancelled := by
  intro h
  simp [pass, h]

/-- A pause ends as the token demands, and no later cancellation is foreseen in it. -/
theorem answered_pause (ms : Nat) :
    Answered scene.cancelled (.sleep ms) (scene.pause (min ms longestWaitMs)).2
      (scene.pause (min ms longestWaitMs)).1.cancelled := by
  have hpos : 0 < longestWaitMs := by decide
  unfold pause
  cases hc : scene.cancelled with
  | true => simpa [hc] using Answered.refused ms
  | false =>
    by_cases hms : ms = 0
    · subst hms
      simpa [hc] using Answered.instant
    · have hmin : min ms longestWaitMs ≠ 0 := by omega
      simp only [Bool.false_eq_true, if_false, hmin]
      split
      · split
        · exact .cutShort (by omega)
        · rename_i time htime hle
          have hpass : (scene.pass (min ms longestWaitMs)).cancelled = false := by
            simp [pass, hc, htime]
            omega
          rw [hpass]
          exact .whole (by omega)
      · rename_i hnone
        have hpass : (scene.pass (min ms longestWaitMs)).cancelled = false := by
          simp [pass, hc, hnone]
        rw [hpass]
        exact .whole (by omega)

end Scene

namespace Cast

variable (cast : Cast)

/-- A turn that does not pause, in a scene that keeps a cancellation. -/
def Keeps {α : Type} (before : Bool) (r : Scene × Turn α) : Prop :=
  before ≤ r.1.cancelled ∧
    match r.2 with
    | .now _ => True
    | .later _ finish => ∀ scene : Scene, scene.cancelled ≤ (finish scene).1.cancelled
    | .pause .. => False

theorem keeps_timed {α : Type} {before : Bool} (ms : Nat) (scene : Scene)
    (finish : Scene → Scene × α) (h : before ≤ scene.cancelled)
    (hf : ∀ scene : Scene, scene.cancelled ≤ (finish scene).1.cancelled) :
    Keeps before (timed ms scene finish) := by
  unfold timed
  split
  · exact ⟨fun hb => hf scene (h hb), trivial⟩
  · exact ⟨h, hf⟩

theorem keeps_beginHabit {α : Type} (habit : Habit α) (serial : String) (scene : Scene) :
    Keeps scene.cancelled (beginHabit habit serial scene) :=
  keeps_timed _ _ _ (fun h => h) fun _ h => h

theorem cancelled_finishCall (part : DevicePart) (serial : String) (number : Nat)
    (call : DeviceCall) (scene : Scene) :
    (finishCall part serial number call scene).1.cancelled = scene.cancelled := by
  unfold finishCall
  split
  · rfl
  · split <;> rfl

theorem cancelled_runStandIn (serial command : String)
    (standIn : Except Adb.LaunchError Script) (scene : Scene) :
    scene.cancelled ≤ (runStandIn serial command standIn scene).1.cancelled := by
  intro h
  unfold runStandIn
  split
  · exact h
  · dsimp only
    split
    · rfl
    · exact h

theorem cancelled_callProgram (serial program : String)
    (standIn : Except Adb.LaunchError Script) (call : DeviceCall) (scene : Scene) :
    scene.cancelled ≤ (callProgram serial program standIn call scene).1.cancelled := by
  intro h
  unfold callProgram
  split
  · exact h
  · exact h
  · exact cancelled_runStandIn serial _ standIn _ h

theorem keeps_beginCall (serial : String) (call : DeviceCall) (scene : Scene) :
    Keeps scene.cancelled (cast.beginCall serial call scene) := by
  unfold beginCall
  split
  · exact ⟨fun h => h, trivial⟩
  · exact ⟨cancelled_callProgram serial _ _ call scene, trivial⟩
  · exact keeps_beginHabit ..
  · refine keeps_timed _ _ _ (fun h => ?_) fun scene h => ?_
    · simp [h]
    · rw [cancelled_finishCall]
      exact h

theorem keeps_beginPlay (serial name : String) (scene : Scene) :
    Keeps scene.cancelled (cast.beginPlay serial name scene) := by
  unfold beginPlay
  split
  · exact ⟨fun h => h, trivial⟩
  · exact ⟨fun h => h, trivial⟩
  · exact keeps_beginHabit ..
  · refine keeps_timed _ _ _ (fun h => h) fun scene h => ?_
    split <;> exact h

theorem keeps_beginLook (serial : String) (scene : Scene) :
    Keeps scene.cancelled (cast.beginLook serial scene) := by
  unfold beginLook
  split
  · exact ⟨fun h => h, trivial⟩
  · exact ⟨fun h => h, trivial⟩
  · exact ⟨fun h => h, trivial⟩
  · exact keeps_beginHabit ..

theorem keeps_beginLoad (id : String) (scene : Scene) :
    Keeps scene.cancelled (cast.beginLoad id scene) := by
  unfold beginLoad
  split
  · exact ⟨fun h => h, trivial⟩
  · exact ⟨fun h => h, trivial⟩
  · exact ⟨fun h => h, trivial⟩
  · exact keeps_timed _ _ _ (fun h => h) fun _ h => h

theorem cancelled_tell (e : Event) (scene : Scene) :
    (cast.tell e scene).cancelled = scene.cancelled := by
  unfold tell
  dsimp only
  split <;> rfl

/-- Waiting for a turn to be over keeps a cancellation. -/
theorem cancelled_answer {serial : String} {q : Request} {scene : Scene}
    (h : Keeps scene.cancelled (cast.begin serial (·.cancelled) q scene)) :
    scene.cancelled ≤ (cast.answer serial q scene).1.cancelled := by
  intro hc
  have hk := h.2
  have hb := h.1 hc
  unfold answer
  split
  · rename_i begun a heq
    simpa only [heq] using hb
  · rename_i begun ms finish heq
    simp only [heq] at hk hb
    exact hk _ (begun.cancelled_pass ms hb)
  · rename_i begun ms finish heq
    simp only [heq] at hk

/-- Answering a request in a scene is an exchange that the token allows. -/
theorem answered_answer (serial : String) (q : Request) (scene : Scene) :
    Answered scene.cancelled q (cast.answer serial q scene).2
      (cast.answer serial q scene).1.cancelled := by
  cases q with
  | sleep ms => exact scene.answered_pause ms
  | isCancelled => exact .read _ (fun h => h) fun h => h
  | log record => exact .other _ (by simp) (by simp) fun h => h
  | clock => exact .other _ (by simp) (by simp) fun h => h
  | date => exact .other _ (by simp) (by simp) fun h => h
  | emit e => exact .other _ (by simp) (by simp) fun h => (cast.cancelled_tell e scene).trans h
  | perform call =>
    have hbegun := cast.keeps_beginCall serial call (scene.hear serial (.perform call))
    exact .other _ (by simp) (by simp) (cast.cancelled_answer hbegun)
  | play name =>
    have hbegun := cast.keeps_beginPlay serial name (scene.hear serial (.play name))
    exact .other _ (by simp) (by simp) (cast.cancelled_answer hbegun)
  | look =>
    have hbegun := cast.keeps_beginLook serial (scene.hear serial .look)
    exact .other _ (by simp) (by simp) (cast.cancelled_answer hbegun)
  | load id =>
    exact .other _ (by simp) (by simp) (cast.cancelled_answer (cast.keeps_beginLoad id scene))

/-- What is recorded of a plan that is carried out on a device. -/
def history (serial : String) {α : Type} (p : Plan α) (scene : Scene) : List Moment :=
  p.history (·.cancelled) (cast.answer serial) scene

theorem carryOut_eq (serial : String) {α : Type} (p : Plan α) (scene : Scene) :
    cast.carryOut serial p scene = p.carryOut (cast.answer serial) scene := by
  induction p generalizing scene with
  | done a => rfl
  | ask q next ih => exact ih _ _

/-- What is recorded of a rehearsal leads to the result of the plan. -/
theorem ends_history (serial : String) {α : Type} (p : Plan α) (scene : Scene) :
    p.Ends (traceOf (cast.history serial p scene)) (cast.carryOut serial p scene).2 := by
  rw [carryOut_eq]
  exact p.ends_history _ _ scene

/-- What is recorded of a rehearsal is a coherent history. -/
theorem coherent_history (serial : String) {α : Type} (p : Plan α) (scene : Scene) :
    Coherent (cast.history serial p scene) :=
  p.coherent_history (cast.answered_answer serial) scene

end Cast

end DeviceFlow.Rehearsal
