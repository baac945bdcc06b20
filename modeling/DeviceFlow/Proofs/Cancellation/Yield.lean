import DeviceFlow.Proofs.Cancellation.Token
import DeviceFlow.Run.Rig

/-!
# Plans that yield to a cancellation

A plan is subdued when a cancelled run that follows it does not act, and it yields when it is
subdued from the moment on at which a cancellation halts it. Both say of the result what the plans
after it can rely on, so that either property of a sequence of plans comes from its parts: what
comes after a plan that was halted has to be subdued only for the results that such a plan can
have.
-/

namespace DeviceFlow

namespace Plan

variable {α β : Type}

/-- A cancelled run does not act while it follows the plan, and the result is as expected. -/
structure Subdued (p : Plan α) (Q : α → Prop) : Prop where
  idle : ∀ (t : List Moment) (a : α), p.Ends (traceOf t) a → Coherent t →
    (∀ m ∈ t, m.cancelledBefore = true) → (∀ m ∈ t, m.request.acts = false) ∧ Q a

/-- Once a cancellation halts the plan, the run does not act any more while it follows the plan,
    and the result is as expected. -/
structure Yields (p : Plan α) (Q : α → Prop) : Prop where
  idle_after : ∀ (t u : List Moment) (m : Moment) (a : α), p.Ends (traceOf (t ++ m :: u)) a →
    Coherent (t ++ m :: u) → m.Halts → (∀ n ∈ u, n.request.acts = false) ∧ Q a

theorem Subdued.mono {p : Plan α} {P Q : α → Prop} (h : p.Subdued P) (hPQ : ∀ a, P a → Q a) :
    p.Subdued Q := by
  constructor
  intro t a ht hc hm
  obtain ⟨hq, ha⟩ := h.idle t a ht hc hm
  exact ⟨hq, hPQ a ha⟩

theorem Yields.mono {p : Plan α} {P Q : α → Prop} (h : p.Yields P) (hPQ : ∀ a, P a → Q a) :
    p.Yields Q := by
  constructor
  intro t u m a ht hc hm
  obtain ⟨hq, ha⟩ := h.idle_after t u m a ht hc hm
  exact ⟨hq, hPQ a ha⟩

theorem subdued_done {a : α} {Q : α → Prop} (h : Q a) : (done a).Subdued Q := by
  constructor
  intro t b ht _ _
  obtain ⟨hnil, rfl⟩ := ends_done.mp ht
  obtain rfl : t = [] := List.map_eq_nil_iff.mp hnil
  exact ⟨by simp, h⟩

/-- Nothing halts a plan without requests. -/
theorem yields_done {a : α} {Q : α → Prop} : (done a).Yields Q := by
  constructor
  intro t u m b ht _ _
  have hnil := (ends_done.mp ht).1
  simp at hnil

/-- The histories of a sequence of plans are cut where the first of them ends. -/
theorem ends_bind_traceOf {p : Plan α} {f : α → Plan β} {t : List Moment} {b : β} :
    (p >>= f).Ends (traceOf t) b ↔
      ∃ u a v, t = u ++ v ∧ p.Ends (traceOf u) a ∧ (f a).Ends (traceOf v) b := by
  rw [ends_bind]
  constructor
  · rintro ⟨u, a, v, h, hu, hv⟩
    obtain ⟨u', v', rfl, rfl, rfl⟩ := List.map_eq_append_iff.mp h
    exact ⟨u', a, v', rfl, hu, hv⟩
  · rintro ⟨u, a, v, rfl, hu, hv⟩
    exact ⟨traceOf u, a, traceOf v, List.map_append, hu, hv⟩

theorem Subdued.bind {p : Plan α} {f : α → Plan β} {P : α → Prop} {Q : β → Prop}
    (hp : p.Subdued P) (hf : ∀ a, P a → (f a).Subdued Q) : (p >>= f).Subdued Q := by
  constructor
  intro t b ht hc hm
  obtain ⟨u, a, v, rfl, hu, hv⟩ := ends_bind_traceOf.mp ht
  obtain ⟨hqu, ha⟩ := hp.idle u a hu hc.left fun n hn => hm n (List.mem_append_left v hn)
  obtain ⟨hqv, hb⟩ := (hf a ha).idle v b hv hc.right fun n hn => hm n (List.mem_append_right u hn)
  refine ⟨?_, hb⟩
  intro n hn
  rcases List.mem_append.mp hn with hn | hn
  · exact hqu n hn
  · exact hqv n hn

/-- A sequence of plans yields if both parts do, and the second part is subdued for what the
    first one comes to when it is halted. -/
theorem Yields.bind {p : Plan α} {f : α → Plan β} {P : α → Prop} {Q : β → Prop}
    (hp : p.Yields P) (hs : ∀ a, P a → (f a).Subdued Q) (hf : ∀ a, (f a).Yields Q) :
    (p >>= f).Yields Q := by
  constructor
  intro t u m b ht hc hm
  obtain ⟨v, a, w, hvw, hv, hw⟩ := ends_bind_traceOf.mp ht
  rcases append_cons_eq_append hvw with ⟨u', rfl, rfl⟩ | ⟨t', rfl, rfl⟩
  · -- The first plan is halted, so all that follows is done by a cancelled run.
    rw [← List.cons_append, ← List.append_assoc] at hc
    obtain ⟨hqu, ha⟩ := hp.idle_after t u' m a hv hc.left hm
    have hbefore : ∀ n ∈ w, n.cancelledBefore = true := fun n hn =>
      hc.cancelledBefore (List.mem_append_right t List.mem_cons_self) hm.cancelledAfter hn
    obtain ⟨hqw, hb⟩ := (hs a ha).idle w b hw hc.right hbefore
    refine ⟨?_, hb⟩
    intro n hn
    rcases List.mem_append.mp hn with hn | hn
    · exact hqu n hn
    · exact hqw n hn
  · rw [List.append_assoc] at hc
    exact (hf a).idle_after t' u m b hw hc.right hm

/-- What comes after a plan that cannot be halted need not be subdued. -/
theorem Yields.bind_of_prompt {p : Plan α} {f : α → Plan β} {Q : β → Prop}
    (hp : p.Yields fun _ => False) (hf : ∀ a, (f a).Yields Q) : (p >>= f).Yields Q :=
  hp.bind (fun _ h => h.elim) hf

/-- The only moment in the history of a single request. -/
theorem eq_of_ends_request {q : Request} {t : List Moment} {a : q.Answer}
    (h : (request q).Ends (traceOf t) a) : ∃ m, t = [m] ∧ m.toExchange = ⟨q, a⟩ := by
  have ht := ends_request.mp h
  cases t with
  | nil => simp at ht
  | cons m t =>
    obtain ⟨hm, hnil⟩ : m.toExchange = ⟨q, a⟩ ∧ t = [] := by simpa using ht
    exact ⟨m, by rw [hnil], hm⟩

/-- A request with which a run does not act is subdued, and answered as the token says. -/
theorem subdued_request {q : Request} (hq : q.acts = false) :
    (request q).Subdued fun a => ∃ after, Answered true q a after := by
  constructor
  intro t a ht hc hm
  obtain ⟨m, rfl, hx⟩ := eq_of_ends_request ht
  obtain ⟨⟨q', a'⟩, before, after⟩ := m
  cases hx
  have hbefore : before = true := hm _ List.mem_cons_self
  subst hbefore
  refine ⟨?_, after, hc.answered _ List.mem_cons_self⟩
  intro n hn
  rw [List.mem_singleton.mp hn]
  exact hq

/-- A single request yields, as nothing comes after it. -/
theorem yields_request {q : Request} :
    (request q).Yields fun a => Exchange.halts ⟨q, a⟩ = true := by
  constructor
  intro t u m a ht hc hm
  obtain ⟨n, hn, hx⟩ := eq_of_ends_request ht
  obtain ⟨rfl, rfl, rfl⟩ : t = [] ∧ m = n ∧ u = [] := by
    cases t with
    | nil => simpa using hn
    | cons _ _ => simp at hn
  exact ⟨by simp, hx ▸ hm.halts⟩

/-- A request that never halts a run can be followed by anything. -/
theorem yields_request_of_prompt {q : Request} {Q : q.Answer → Prop}
    (hq : ∀ a, Exchange.halts ⟨q, a⟩ = false) : (request q).Yields Q :=
  yields_request.mono fun a h => by simp [hq a] at h

@[simp] theorem subdued_log (record : LogRecord) : (log record).Subdued fun _ => True :=
  (subdued_request rfl).mono fun _ _ => trivial

@[simp] theorem subdued_clock : clock.Subdued fun _ => True :=
  (subdued_request rfl).mono fun _ _ => trivial

@[simp] theorem subdued_date : date.Subdued fun _ => True :=
  (subdued_request rfl).mono fun _ _ => trivial

theorem subdued_emit {e : Event} (h : (Request.emit e).acts = false) :
    (emit e).Subdued fun _ => True :=
  (subdued_request h).mono fun _ _ => trivial

/-- A cancelled run does not pause. -/
theorem subdued_sleep (ms : Nat) : (sleep ms).Subdued fun whole => whole = false :=
  (subdued_request rfl).mono fun _ ⟨_, h⟩ => h.sleep_eq_false

@[simp] theorem yields_log (record : LogRecord) {Q : Unit → Prop} : (log record).Yields Q :=
  yields_request_of_prompt fun _ => rfl

@[simp] theorem yields_emit (e : Event) {Q : Unit → Prop} : (emit e).Yields Q :=
  yields_request_of_prompt fun _ => rfl

@[simp] theorem yields_clock {Q : Nat → Prop} : clock.Yields Q :=
  yields_request_of_prompt fun _ => rfl

@[simp] theorem yields_date {Q : Timestamp → Prop} : date.Yields Q :=
  yields_request_of_prompt fun _ => rfl

/-- The token halts a run that asks for it only by telling of a cancellation. -/
theorem yields_isCancelled : isCancelled.Yields fun cancelled => cancelled = true :=
  yields_request

/-- A pause that halts a run is one that was cut short. -/
theorem yields_sleep (ms : Nat) : (sleep ms).Yields fun whole => whole = false :=
  yields_request.mono fun (whole : Bool) (h : (!whole) = true) => by simpa using h

end Plan

end DeviceFlow
