import DeviceFlow.Proofs.Trace.Basic

/-!
# The token of a run

A run can be cancelled from outside at any time, once and for all. The token of the run tells
it so: when the run asks, and by cutting its pauses short. A pause waits for two things, the
cancellation and the end of its time; when the run finds that both have come, it may be told of
either. A history is a trace together with the state of the token before and after each exchange;
it says nothing about what devices, players, screens and stores answer.
-/

namespace DeviceFlow

/-- How the token bears on an exchange, from whether the run has been cancelled when the
    request is made to whether it has been when the answer comes. -/
inductive Answered : Bool → (q : Request) → q.Answer → Bool → Prop where
  /-- The run reads the token. -/
  | read {before after : Bool} (answer : Bool) (hb : before ≤ answer) (ha : answer ≤ after) :
      Answered before .isCancelled answer after
  /-- A pause after the cancellation fails at once. -/
  | refused (ms : Nat) : Answered true (.sleep ms) false true
  /-- A pause of no time is over at once. -/
  | instant : Answered false (.sleep 0) true false
  /-- The cancellation comes while the run pauses. -/
  | cutShort {ms : Nat} (h : 0 < ms) : Answered false (.sleep ms) false true
  /-- The time of the pause is over before a cancellation comes. -/
  | whole {ms : Nat} (h : 0 < ms) : Answered false (.sleep ms) true false
  /-- The cancellation comes while the run pauses, but the time of the pause is over when the run
      looks at both, and it is the time that it looks at first. -/
  | overlooked {ms : Nat} (h : 0 < ms) : Answered false (.sleep ms) true true
  /-- The token has no part in other requests, which the cancellation may come in between. -/
  | other {before after : Bool} {q : Request} (answer : q.Answer) (hc : q ≠ .isCancelled)
      (hs : ∀ ms, q ≠ .sleep ms) (h : before ≤ after) : Answered before q answer after

/-- An exchange with the state of the token before and after it. -/
structure Moment extends Exchange where
  cancelledBefore : Bool
  cancelledAfter : Bool

/-- The trace of a history. -/
abbrev traceOf (t : List Moment) : List Exchange := t.map Moment.toExchange

/-- What a history has to be like: every exchange is one that the token allows, and a
    cancellation is never taken back. -/
structure Coherent (t : List Moment) : Prop where
  answered : ∀ m ∈ t, Answered m.cancelledBefore m.request m.answer m.cancelledAfter
  lasting : t.Pairwise fun m n => m.cancelledAfter = true → n.cancelledBefore = true

/-- The requests that take their time while the run waits for the device, the player or the
    screen, or pauses of its own accord. -/
def Request.takesTime : Request → Bool
  | .perform _ | .play _ | .look | .sleep _ => true
  | _ => false

/-- The run is cancelled while it waits for an answer, or pauses. -/
def Moment.Interrupts (m : Moment) : Prop :=
  m.request.takesTime = true ∧ m.cancelledBefore = false ∧ m.cancelledAfter = true

instance (m : Moment) : Decidable m.Interrupts :=
  inferInstanceAs (Decidable (_ ∧ _ ∧ _))

/-- The run is told that a pause was whole. -/
def Moment.IsWholePause (m : Moment) : Prop :=
  ∃ ms, m.toExchange = ⟨.sleep ms, (true : Bool)⟩

/-- The requests that are answered by the token of the run. -/
def Request.asksToken : Request → Bool
  | .isCancelled | .sleep _ => true
  | _ => false

/-- The exchanges that a cancelled run does not act after: it comes back from a call, or is told of
    its cancellation. -/
def Exchange.halts : Exchange → Bool
  | ⟨.perform _, _⟩ | ⟨.play _, _⟩ | ⟨.look, _⟩ => true
  | ⟨.sleep _, (whole : Bool)⟩ => !whole
  | ⟨.isCancelled, (cancelled : Bool)⟩ => cancelled
  | _ => false

/-- The run has been cancelled when it comes back from a call, or is told of its cancellation. -/
structure Moment.Halts (m : Moment) : Prop where
  halts : m.toExchange.halts = true
  cancelledAfter : m.cancelledAfter = true

theorem coherent_nil : Coherent [] := ⟨by simp, .nil⟩

theorem Coherent.left {t u : List Moment} (h : Coherent (t ++ u)) : Coherent t :=
  ⟨fun m hm => h.answered m (List.mem_append_left u hm), (List.pairwise_append.mp h.lasting).1⟩

theorem Coherent.right {t u : List Moment} (h : Coherent (t ++ u)) : Coherent u :=
  ⟨fun m hm => h.answered m (List.mem_append_right t hm), (List.pairwise_append.mp h.lasting).2.1⟩

/-- After a cancellation, every request is made by a run that has been cancelled. -/
theorem Coherent.cancelledBefore {t u : List Moment} {m n : Moment} (h : Coherent (t ++ u))
    (hm : m ∈ t) (hc : m.cancelledAfter = true) (hn : n ∈ u) : n.cancelledBefore = true :=
  (List.pairwise_append.mp h.lasting).2.2 m hm n hn hc

/-- No exchange takes a cancellation back. -/
theorem Answered.le {before after : Bool} {q : Request} {answer : q.Answer}
    (h : Answered before q answer after) : before ≤ after := by
  cases h with
  | read answer hb ha => exact fun h => ha (hb h)
  | refused => exact fun h => h
  | instant | cutShort | whole | overlooked => exact fun h => absurd h Bool.false_ne_true
  | other _ _ _ h => exact h

/-- A pause that begins after the cancellation is never whole. -/
theorem Answered.sleep_eq_false {ms : Nat} {after answer : Bool}
    (h : Answered true (.sleep ms) answer after) : answer = false := by
  cases h with
  | refused => rfl
  | other _ _ hs _ => exact absurd rfl (hs ms)

/-- A pause is cut short only by a cancellation. -/
theorem Answered.sleep_eq_true {ms : Nat} {before answer : Bool}
    (h : Answered before (.sleep ms) answer false) : answer = true := by
  cases h with
  | instant | whole => rfl
  | other _ _ hs _ => exact absurd rfl (hs ms)

/-- The run is told of a cancellation only when there has been one. -/
theorem Answered.isCancelled_eq_false {before answer : Bool}
    (h : Answered before .isCancelled answer false) : answer = false := by
  cases h with
  | read _ _ ha => exact Bool.eq_false_iff.mpr fun h => absurd (ha h) Bool.false_ne_true
  | other _ hc => exact absurd rfl hc

/-- A cancellation is told to who asks for it. -/
theorem Answered.isCancelled_eq_true {after answer : Bool}
    (h : Answered true .isCancelled answer after) : answer = true := by
  cases h with
  | read _ hb => exact hb rfl
  | other _ hc => exact absurd rfl hc

/-- A cancellation in a call or a pause halts the run, unless it is told that the pause was
    whole. -/
theorem Moment.Interrupts.halts {m : Moment} (h : m.Interrupts) (hm : ¬ m.IsWholePause) :
    m.Halts := by
  obtain ⟨htime, -, hafter⟩ := h
  obtain ⟨⟨q, answer⟩, before, after⟩ := m
  refine ⟨?_, hafter⟩
  cases q with
  | perform | play | look => rfl
  | sleep ms =>
    cases answer with
    | true => exact absurd ⟨ms, rfl⟩ hm
    | false => rfl
  | log | emit | clock | date | isCancelled | load => cases htime

/-- A cancelled run that asks its token is halted by the answer. -/
theorem Moment.halts_of_asksToken {m : Moment}
    (h : Answered m.cancelledBefore m.request m.answer m.cancelledAfter)
    (hbefore : m.cancelledBefore = true) (hasks : m.request.asksToken = true) : m.Halts := by
  refine ⟨?_, h.le hbefore⟩
  obtain ⟨⟨q, answer⟩, before, after⟩ := m
  obtain rfl : before = true := hbefore
  cases q with
  | isCancelled => exact h.isCancelled_eq_true
  | sleep ms =>
    obtain rfl : answer = false := h.sleep_eq_false
    rfl
  | log | emit | clock | date | perform | play | look | load => cases hasks

/-- The cut of a history in two leaves each of its moments on one side. -/
theorem append_cons_eq_append {t u v w : List Moment} {m : Moment}
    (h : t ++ m :: u = v ++ w) :
    (∃ u', v = t ++ m :: u' ∧ u = u' ++ w) ∨ (∃ t', t = v ++ t' ∧ w = t' ++ m :: u) := by
  rcases List.append_eq_append_iff.mp h with ⟨s, rfl, hs⟩ | ⟨s, rfl, rfl⟩
  · cases s with
    | nil =>
      obtain rfl : m :: u = w := by simpa using hs
      exact .inr ⟨[], by simp, rfl⟩
    | cons x s =>
      obtain ⟨rfl, rfl⟩ : m = x ∧ u = s ++ w := by simpa using hs
      exact .inl ⟨s, rfl, rfl⟩
  · exact .inr ⟨s, rfl, rfl⟩

end DeviceFlow
