import DeviceFlow.Proofs.Trace.Basic
import Mathlib.Algebra.GroupWithZero.Nat

/-!
# Traces that take their time

Each exchange of a run takes some time. Of a run that nothing cancels, every pause lasts as long as
it should, the clock tells the time, and only the device, its helpers and the store take a time of
their own; all else is done at once. A plan that is carried out in this way takes the time of its
parts, one after the other.
-/

namespace DeviceFlow

/-- An exchange with the time that it takes. -/
structure TimedExchange extends Exchange where
  tookMs : Nat

/-- The trace of exchanges that take their time. -/
abbrev exchangesOf (t : List TimedExchange) : List Exchange := t.map TimedExchange.toExchange

/-- The time that a trace takes. -/
def duration (t : List TimedExchange) : Nat := (t.map TimedExchange.tookMs).sum

/-- An exchange that begins at a time when nothing cancels the run: it tells that the run is not
    cancelled, pauses are whole, and the clock is right. -/
def TimedExchange.Punctual (now : Nat) : TimedExchange → Prop
  | ⟨⟨.log _, _⟩, tookMs⟩ | ⟨⟨.emit _, _⟩, tookMs⟩ | ⟨⟨.date, _⟩, tookMs⟩ => tookMs = 0
  | ⟨⟨.clock, (time : Nat)⟩, tookMs⟩ => time = now ∧ tookMs = 0
  | ⟨⟨.isCancelled, (cancelled : Bool)⟩, tookMs⟩ => cancelled = false ∧ tookMs = 0
  | ⟨⟨.sleep ms, (whole : Bool)⟩, tookMs⟩ => whole = true ∧ tookMs = ms
  | ⟨⟨.perform _, _⟩, _⟩ | ⟨⟨.play _, _⟩, _⟩ | ⟨⟨.look, _⟩, _⟩ | ⟨⟨.load _, _⟩, _⟩ => True

/-- A trace that begins at a time, of a run that nothing cancels. -/
def Punctual : Nat → List TimedExchange → Prop
  | _, [] => True
  | now, x :: t => x.Punctual now ∧ Punctual (now + x.tookMs) t

/-- An exchange that is done at once. -/
def Exchange.atOnce (x : Exchange) : TimedExchange := ⟨x, 0⟩

/-- A pause that is not cut short. -/
def pause (ms : Nat) : TimedExchange := ⟨⟨.sleep ms, true⟩, ms⟩

/-- A plan that begins at a time, and that nothing cancels, is carried out along a trace and comes
    to a result. -/
def Plan.Passes {α : Type} (p : Plan α) (now : Nat) (t : List TimedExchange) (a : α) : Prop :=
  p.Ends (exchangesOf t) a ∧ Punctual now t

variable {now ms : Nat} {t u : List TimedExchange} {x : TimedExchange}

@[simp] theorem duration_nil : duration [] = 0 := rfl

@[simp] theorem duration_cons : duration (x :: t) = x.tookMs + duration t := List.sum_cons

@[simp] theorem duration_append : duration (t ++ u) = duration t + duration u := by
  simp [duration]

@[simp] theorem tookMs_atOnce (x : Exchange) : x.atOnce.tookMs = 0 := rfl

@[simp] theorem tookMs_pause : (pause ms).tookMs = ms := rfl

/-- Two stretches of a trace pass one after the other. -/
theorem punctual_append :
    Punctual now (t ++ u) ↔ Punctual now t ∧ Punctual (now + duration t) u := by
  induction t generalizing now with
  | nil => simp [Punctual]
  | cons x t ih => simp [Punctual, ih, and_assoc, Nat.add_assoc]

namespace Plan

variable {α β : Type}

theorem passes_done {a b : α} : (done a).Passes now t b ↔ t = [] ∧ b = a := by
  unfold Passes
  rw [ends_done, List.map_eq_nil_iff]
  constructor
  · rintro ⟨⟨rfl, rfl⟩, -⟩
    exact ⟨rfl, rfl⟩
  · rintro ⟨rfl, rfl⟩
    exact ⟨⟨rfl, rfl⟩, trivial⟩

/-- A sequence of plans passes like the first of them, and then like the other. -/
theorem passes_bind {p : Plan α} {f : α → Plan β} {b : β} :
    (p >>= f).Passes now t b ↔
      ∃ u a v, t = u ++ v ∧ p.Passes now u a ∧ (f a).Passes (now + duration u) v b := by
  unfold Passes
  rw [ends_bind]
  constructor
  · rintro ⟨⟨u, a, v, h, hu, hv⟩, hpunctual⟩
    obtain ⟨u, v, rfl, rfl, rfl⟩ := List.map_eq_append_iff.mp h
    obtain ⟨hfirst, hlater⟩ := punctual_append.mp hpunctual
    exact ⟨u, a, v, rfl, ⟨hu, hfirst⟩, hv, hlater⟩
  · rintro ⟨u, a, v, rfl, ⟨hu, hfirst⟩, hv, hlater⟩
    exact ⟨⟨_, a, _, List.map_append, hu, hv⟩, punctual_append.mpr ⟨hfirst, hlater⟩⟩

/-- A single request passes in one exchange. -/
theorem passes_request {q : Request} {a : q.Answer} :
    (request q).Passes now t a ↔ ∃ tookMs, t = [⟨⟨q, a⟩, tookMs⟩] ∧
      TimedExchange.Punctual now ⟨⟨q, a⟩, tookMs⟩ := by
  unfold Passes
  rw [ends_request]
  constructor
  · rintro ⟨h, hpunctual⟩
    obtain ⟨⟨x, tookMs⟩, rfl, rfl⟩ := List.map_eq_singleton_iff.mp h
    exact ⟨tookMs, rfl, hpunctual.1⟩
  · rintro ⟨tookMs, rfl, hpunctual⟩
    exact ⟨rfl, hpunctual, trivial⟩

/-- A request in front of a plan passes first. -/
theorem passes_request_bind {q : Request} {f : q.Answer → Plan β} {b : β} :
    (request q >>= f).Passes now t b ↔ ∃ answer tookMs u, t = ⟨⟨q, answer⟩, tookMs⟩ :: u ∧
      TimedExchange.Punctual now ⟨⟨q, answer⟩, tookMs⟩ ∧
        (f answer).Passes (now + tookMs) u b := by
  rw [passes_bind]
  constructor
  · rintro ⟨u, answer, v, rfl, hu, hv⟩
    obtain ⟨tookMs, rfl, hpunctual⟩ := passes_request.mp hu
    rw [duration_cons, duration_nil, Nat.add_zero] at hv
    exact ⟨answer, tookMs, v, rfl, hpunctual, hv⟩
  · rintro ⟨answer, tookMs, v, rfl, hpunctual, hv⟩
    have hfirst := passes_request.mpr ⟨tookMs, rfl, hpunctual⟩
    refine ⟨_, answer, v, List.singleton_append.symm, hfirst, ?_⟩
    rwa [duration_cons, duration_nil, Nat.add_zero]

/-- A request passes first, in the one way in which it can. -/
theorem passes_only_bind {q : Request} {answer : q.Answer} {tookMs : Nat} {f : q.Answer → Plan β}
    {b : β} (h : ∀ a k, TimedExchange.Punctual now ⟨⟨q, a⟩, k⟩ ↔ a = answer ∧ k = tookMs) :
    (request q >>= f).Passes now t b ↔
      ∃ u, t = ⟨⟨q, answer⟩, tookMs⟩ :: u ∧ (f answer).Passes (now + tookMs) u b := by
  rw [passes_request_bind]
  constructor
  · rintro ⟨a, k, u, rfl, hpunctual, hrest⟩
    obtain ⟨rfl, rfl⟩ := (h a k).mp hpunctual
    exact ⟨u, rfl, hrest⟩
  · rintro ⟨u, rfl, hrest⟩
    exact ⟨answer, tookMs, u, rfl, (h _ _).mpr ⟨rfl, rfl⟩, hrest⟩

variable {b : β}

theorem passes_log_bind {record : LogRecord} {f : Unit → Plan β} :
    (log record >>= f).Passes now t b ↔
      ∃ u, t = Exchange.atOnce ⟨.log record, ()⟩ :: u ∧ (f ()).Passes now u b :=
  passes_only_bind (q := .log record) fun _ _ => ⟨fun h => ⟨rfl, h⟩, And.right⟩

theorem passes_emit_bind {e : Event} {f : Unit → Plan β} :
    (emit e >>= f).Passes now t b ↔
      ∃ u, t = Exchange.atOnce ⟨.emit e, ()⟩ :: u ∧ (f ()).Passes now u b :=
  passes_only_bind (q := .emit e) fun _ _ => ⟨fun h => ⟨rfl, h⟩, And.right⟩

theorem passes_clock_bind {f : Nat → Plan β} :
    (clock >>= f).Passes now t b ↔
      ∃ u, t = Exchange.atOnce ⟨.clock, now⟩ :: u ∧ (f now).Passes now u b :=
  passes_only_bind (q := .clock) fun _ _ => Iff.rfl

theorem passes_sleep_bind {f : Bool → Plan β} :
    (sleep ms >>= f).Passes now t b ↔
      ∃ u, t = pause ms :: u ∧ (f true).Passes (now + ms) u b :=
  passes_only_bind (q := .sleep ms) fun _ _ => Iff.rfl

end Plan

end DeviceFlow
