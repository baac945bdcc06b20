import DeviceFlow.Proofs.Trace.Basic
import DeviceFlow.Run.Rig

/-!
# What a plan keeps to

A plan keeps to some requests if it makes no others, whatever the answers are; and it ends as
expected if each of its results is as expected. Both are read off the tree of the plan, one
request after the other, so that the rule for a sequence of plans is an equivalence.
-/

namespace DeviceFlow

namespace Plan

variable {α β : Type} {G : Request → Prop} {Q : α → Prop}

/-- The plan makes only requests of one kind and ends only as expected. -/
def Keeps (G : Request → Prop) (Q : α → Prop) : Plan α → Prop
  | done a => Q a
  | ask q next => G q ∧ ∀ answer, (next answer).Keeps G Q

@[simp] theorem keeps_done {a : α} : (done a).Keeps G Q ↔ Q a := Iff.rfl

@[simp] theorem keeps_ask {q : Request} {next : q.Answer → Plan α} :
    (ask q next).Keeps G Q ↔ G q ∧ ∀ answer, (next answer).Keeps G Q := Iff.rfl

theorem keeps_request {q : Request} {R : q.Answer → Prop} :
    (request q).Keeps G R ↔ G q ∧ ∀ answer, R answer := Iff.rfl

@[simp] theorem keeps_log {record : LogRecord} {R : Unit → Prop} :
    (log record).Keeps G R ↔ G (.log record) ∧ R () :=
  ⟨fun h => ⟨h.1, h.2 ()⟩, fun h => ⟨h.1, fun _ => h.2⟩⟩

@[simp] theorem keeps_emit {e : Event} {R : Unit → Prop} :
    (emit e).Keeps G R ↔ G (.emit e) ∧ R () :=
  ⟨fun h => ⟨h.1, h.2 ()⟩, fun h => ⟨h.1, fun _ => h.2⟩⟩

@[simp] theorem keeps_clock {R : Nat → Prop} :
    clock.Keeps G R ↔ G .clock ∧ ∀ ms, R ms := Iff.rfl

@[simp] theorem keeps_date {R : Timestamp → Prop} :
    date.Keeps G R ↔ G .date ∧ ∀ time, R time := Iff.rfl

@[simp] theorem keeps_isCancelled {R : Bool → Prop} :
    isCancelled.Keeps G R ↔ G .isCancelled ∧ ∀ cancelled, R cancelled := Iff.rfl

@[simp] theorem keeps_sleep {ms : Nat} {R : Bool → Prop} :
    (sleep ms).Keeps G R ↔ G (.sleep ms) ∧ ∀ whole, R whole := Iff.rfl

/-- A sequence of plans keeps to what both parts keep to. -/
@[simp] theorem keeps_bind {p : Plan α} {f : α → Plan β} {R : β → Prop} :
    (p >>= f).Keeps G R ↔ p.Keeps G fun a => (f a).Keeps G R := by
  induction p with
  | done a => exact Iff.rfl
  | ask q next ih =>
    rw [ask_bind, keeps_ask, keeps_ask]
    exact and_congr_right fun _ => forall_congr' ih

theorem Keeps.mono {p : Plan α} {H : Request → Prop} {R : α → Prop} (h : p.Keeps G Q)
    (hGH : ∀ q, G q → H q) (hQR : ∀ a, Q a → R a) : p.Keeps H R := by
  induction p with
  | done a => exact hQR a h
  | ask q next ih => exact ⟨hGH q h.1, fun answer => ih answer (h.2 answer)⟩

theorem Keeps.imp {p : Plan α} {R : α → Prop} (h : p.Keeps G Q) (hQR : ∀ a, Q a → R a) :
    p.Keeps G R :=
  h.mono (fun _ hq => hq) hQR

theorem Keeps.bind {p : Plan α} {f : α → Plan β} {R : β → Prop} (hp : p.Keeps G Q)
    (hf : ∀ a, Q a → (f a).Keeps G R) : (p >>= f).Keeps G R :=
  keeps_bind.mpr (hp.imp hf)

/-- A plan that keeps to some requests has made no others so far, and keeps to them in what is
    left of it. -/
theorem Keeps.follows {p rest : Plan α} {t : List Exchange} (h : p.Keeps G Q)
    (ht : p.Follows t rest) : (∀ x ∈ t, G x.request) ∧ rest.Keeps G Q := by
  induction ht with
  | here p => exact ⟨by simp, h⟩
  | step answer _ ih =>
    obtain ⟨hrequests, hrest⟩ := ih (h.2 answer)
    exact ⟨List.forall_mem_cons.mpr ⟨h.1, hrequests⟩, hrest⟩

/-- The plan ends only as expected. -/
abbrev Gives (Q : α → Prop) (p : Plan α) : Prop := p.Keeps (fun _ => True) Q

theorem gives_true (p : Plan α) : p.Gives fun _ => True := by
  induction p with
  | done a => trivial
  | ask q next ih => exact ⟨trivial, ih⟩

theorem Gives.ends {p : Plan α} {t : List Exchange} {a : α} (h : p.Gives Q)
    (ht : p.Ends t a) : Q a := (Keeps.follows h ht).2

end Plan

namespace Attempt

open Plan

variable {α β : Type} {G : Request → Prop} {P : α → Prop} {E : StepError → Prop}

/-- What an attempt comes to when it succeeds and fails only as expected. -/
def Comes (P : α → Prop) (E : StepError → Prop) : Except StepError α → Prop
  | .ok a => P a
  | .error e => E e

/-- The attempt makes only requests of one kind, and succeeds and fails only as expected. -/
def Keeps (G : Request → Prop) (P : α → Prop) (E : StepError → Prop) (x : Attempt α) : Prop :=
  x.run.Keeps G (Comes P E)

@[simp] theorem keeps_pure {a : α} : Keeps G P E (pure a) ↔ P a := Iff.rfl

@[simp] theorem keeps_throw {e : StepError} : Keeps G P E (throw e : Attempt α) ↔ E e := Iff.rfl

theorem Keeps.mono {x : Attempt α} {R : α → Prop} (h : Keeps G P E x)
    (hPR : ∀ a, P a → R a) : Keeps G R E x := by
  refine Plan.Keeps.imp h ?_
  intro r hr
  cases r with
  | ok a => exact hPR a hr
  | error e => exact hr

/-- A sequence of attempts goes on only after a success. -/
@[simp] theorem keeps_bind {x : Attempt α} {f : α → Attempt β} {R : β → Prop} :
    Keeps G R E (x >>= f) ↔ Keeps G (fun a => Keeps G R E (f a)) E x := by
  unfold Keeps
  rw [ExceptT.run_bind, Plan.keeps_bind]
  refine iff_of_eq (congrArg (fun Q => x.run.Keeps G Q) ?_)
  funext r
  cases r with
  | ok a => rfl
  | error e => rfl

@[simp] theorem keeps_lift {p : Plan α} :
    Keeps G P E (ExceptT.lift p : Attempt α) ↔ p.Keeps G P := by
  unfold Keeps
  rw [ExceptT.run_lift]
  exact Plan.keeps_bind

@[simp] theorem keeps_log {record : LogRecord} {R : Unit → Prop} :
    Keeps G R E (Attempt.log record) ↔ G (.log record) ∧ R () := by
  unfold Attempt.log
  rw [keeps_lift, Plan.keeps_log]

theorem keeps_logAll {records : List LogRecord} {R : Unit → Prop}
    (hlog : ∀ record, G (.log record)) (h : R ()) :
    Keeps G R E (Attempt.logAll records) := by
  induction records with
  | nil => exact h
  | cons record rest ih => exact keeps_bind.mpr (keeps_log.mpr ⟨hlog record, ih⟩)

theorem keeps_require {present : Bool} {what : String} {R : Unit → Prop}
    (hE : E (.unavailable what)) (h : R ()) : Keeps G R E (Attempt.require present what) := by
  unfold Attempt.require
  split
  · exact h
  · exact hE

theorem keeps_parameter {stepType name : String} {value : Option α}
    (hE : E (.missingParameters stepType [name])) (h : ∀ a, P a) :
    Keeps G P E (Attempt.parameter stepType name value) := by
  unfold Attempt.parameter
  split
  · exact h _
  · exact hE

/-- The answer of a device, or of one of its helpers, or the failure with its error. -/
theorem keeps_device {p : Plan (Except DeviceError α)} (hp : p.Keeps G fun _ => True)
    (hE : ∀ e, E (.device e)) (h : ∀ a, P a) : Keeps G P E (Attempt.device p) := by
  unfold Attempt.device
  rw [keeps_bind, keeps_lift]
  refine hp.imp ?_
  intro answer _
  cases answer with
  | ok a => exact h a
  | error e => exact hE e

end Attempt

end DeviceFlow
