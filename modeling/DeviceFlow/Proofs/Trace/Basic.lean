import DeviceFlow.Run.Plan

/-!
# Traces of plans

A plan is followed by answering its requests one after the other. The trace of a plan is the
list of its requests with their answers; a plan and a trace determine what is left of the plan,
and a plan that is followed to its end has a result. The trace of a sequence of plans is cut
where the first of them ends, which is how everything about runs is put together.
-/

namespace DeviceFlow

/-- A request with the answer to it. -/
structure Exchange where
  request : Request
  answer : request.Answer

/-- The requests by which a run acts on its surroundings: it calls the device, the player, the
    screen or the store, or tells that an iteration begins. -/
def Request.acts : Request → Bool
  | .perform _ | .play _ | .look | .load _ | .emit (.stepStarted _) => true
  | _ => false

/-- A refusal of each request, as a run may get it that has been cancelled. -/
def Request.refusal : (q : Request) → q.Answer
  | .log _ | .emit _ => ()
  | .clock => (0 : Nat)
  | .date => (⟨1970, 1, 1, 0, 0, 0, 0⟩ : Timestamp)
  | .isCancelled => true
  | .sleep _ => false
  | .perform _ => (.error (.other "") : Except DeviceError String)
  | .play _ => (.error (.other "") : Except DeviceError Unit)
  | .look => (.error (.other "") : Except DeviceError Screen)
  | .load _ => (.error "" : Except String (Option Workflow))

namespace Plan

variable {α β γ : Type}

/-- Following a plan along a trace leads to what is left of it. -/
inductive Follows : Plan α → List Exchange → Plan α → Prop where
  | here (p : Plan α) : Follows p [] p
  | step {q : Request} {next : q.Answer → Plan α} {t : List Exchange} {rest : Plan α}
      (answer : q.Answer) (h : Follows (next answer) t rest) :
      Follows (ask q next) (⟨q, answer⟩ :: t) rest

/-- Following a plan along a trace leads to its end, with a result. -/
def Ends (p : Plan α) (t : List Exchange) (a : α) : Prop := p.Follows t (done a)

@[simp] theorem pure_eq_done (a : α) : (pure a : Plan α) = done a := rfl

@[simp] theorem done_bind (a : α) (f : α → Plan β) : (done a >>= f) = f a := rfl

@[simp] theorem ask_bind (q : Request) (next : q.Answer → Plan α) (f : α → Plan β) :
    (ask q next >>= f) = ask q fun answer => next answer >>= f := rfl

theorem bind_done (p : Plan α) : (p >>= done) = p := by
  induction p with
  | done a => rfl
  | ask q next ih => rw [ask_bind, funext ih]

theorem bind_assoc (p : Plan α) (f : α → Plan β) (g : β → Plan γ) :
    (p >>= f) >>= g = p >>= fun a => f a >>= g := by
  induction p with
  | done a => rfl
  | ask q next ih =>
    simp only [ask_bind]
    rw [funext ih]

@[simp] theorem follows_nil {p rest : Plan α} : p.Follows [] rest ↔ rest = p := by
  constructor
  · intro h
    cases h
    rfl
  · rintro rfl
    exact .here _

@[simp] theorem not_follows_done {a : α} {x : Exchange} {t : List Exchange} {rest : Plan α} :
    ¬ (done a).Follows (x :: t) rest := by
  intro h
  cases h

/-- Two stretches of a trace are followed one after the other. -/
theorem Follows.append {p q rest : Plan α} {t u : List Exchange} (hp : p.Follows t q)
    (hq : q.Follows u rest) : p.Follows (t ++ u) rest := by
  induction hp with
  | here p => exact hq
  | step answer _ ih => exact .step answer (ih hq)

/-- What is left after a stretch of a trace goes on along the rest of the trace. -/
theorem Follows.of_append {p q rest : Plan α} {t u : List Exchange} (hp : p.Follows t q)
    (h : p.Follows (t ++ u) rest) : q.Follows u rest := by
  induction hp with
  | here p => exact h
  | step answer _ ih =>
    rw [List.cons_append] at h
    cases h with
    | step _ h => exact ih h

theorem Follows.unique {p q q' : Plan α} {t : List Exchange} (h : p.Follows t q)
    (h' : p.Follows t q') : q' = q := by
  have hq : q.Follows [] q' := h.of_append (by rwa [List.append_nil])
  exact follows_nil.mp hq

/-- What a plan is followed by stays behind what is left of it. -/
theorem Follows.bind {p q : Plan α} {t : List Exchange} (h : p.Follows t q) (f : α → Plan β) :
    (p >>= f).Follows t (q >>= f) := by
  induction h with
  | here p => exact .here _
  | step answer _ ih => exact .step answer ih

@[simp] theorem ends_done {a b : α} {t : List Exchange} :
    (done a).Ends t b ↔ t = [] ∧ b = a := by
  constructor
  · intro h
    cases h
    exact ⟨rfl, rfl⟩
  · rintro ⟨rfl, rfl⟩
    exact .here _

theorem ends_ask {q : Request} {next : q.Answer → Plan α} {t : List Exchange} {a : α} :
    (ask q next).Ends t a ↔ ∃ answer u, t = ⟨q, answer⟩ :: u ∧ (next answer).Ends u a := by
  constructor
  · intro h
    cases h with
    | step answer h => exact ⟨answer, _, rfl, h⟩
  · rintro ⟨answer, u, rfl, h⟩
    exact .step answer h

/-- A single request is answered once. -/
theorem ends_request {q : Request} {t : List Exchange} {a : q.Answer} :
    (request q).Ends t a ↔ t = [⟨q, a⟩] := by
  constructor
  · intro h
    obtain ⟨answer, u, rfl, hu⟩ := ends_ask.mp h
    obtain ⟨rfl, rfl⟩ := ends_done.mp hu
    rfl
  · rintro rfl
    exact ends_ask.mpr ⟨a, [], rfl, ends_done.mpr ⟨rfl, rfl⟩⟩

/-- A request in front of a plan is answered first. -/
theorem ends_request_bind {q : Request} {f : q.Answer → Plan α} {t : List Exchange} {a : α} :
    (request q >>= f).Ends t a ↔ ∃ answer u, t = ⟨q, answer⟩ :: u ∧ (f answer).Ends u a :=
  ends_ask

/-- The trace of a sequence of plans is cut where the first of them ends. -/
theorem ends_bind {p : Plan α} {f : α → Plan β} {t : List Exchange} {b : β} :
    (p >>= f).Ends t b ↔ ∃ u a v, t = u ++ v ∧ p.Ends u a ∧ (f a).Ends v b := by
  constructor
  · intro h
    induction p generalizing t with
    | done a => exact ⟨[], a, t, rfl, .here _, h⟩
    | ask q next ih =>
      obtain ⟨answer, rest, rfl, hrest⟩ := ends_ask.mp h
      obtain ⟨u, a, v, rfl, hu, hv⟩ := ih answer hrest
      exact ⟨⟨q, answer⟩ :: u, a, v, rfl, .step answer hu, hv⟩
  · rintro ⟨u, a, v, rfl, hu, hv⟩
    exact (Follows.bind hu f).append hv

/-- Whatever the answers are, a plan ends, and along one trace with one result. -/
theorem Ends.unique {p : Plan α} {t : List Exchange} {a b : α} (h : p.Ends t a)
    (h' : p.Ends t b) : b = a := by
  have heq : done b = done a := Follows.unique h h'
  cases heq
  rfl

/-- Every plan can be followed to its end. -/
theorem exists_ends (p : Plan α) : ∃ t a, p.Ends t a := by
  induction p with
  | done a => exact ⟨[], a, .here _⟩
  | ask q next ih =>
    obtain ⟨t, a, h⟩ := ih q.refusal
    exact ⟨⟨q, q.refusal⟩ :: t, a, .step q.refusal h⟩

/-- Each request of a trace is answered by a rule that may look back on all that has been
    exchanged before it. -/
def AnsweredBy (reply : List Exchange → (q : Request) → q.Answer) (t : List Exchange) : Prop :=
  ∀ b x u, t = b ++ x :: u → x.answer = reply b x.request

/-- Whatever the rule for the answers is, a plan comes to its end. -/
theorem exists_ends_answeredBy (p : Plan α)
    (reply : List Exchange → (q : Request) → q.Answer) :
    ∃ t a, p.Ends t a ∧ AnsweredBy reply t := by
  induction p generalizing reply with
  | done a => exact ⟨[], a, .here _, by simp [AnsweredBy]⟩
  | ask q next ih =>
    -- What is left of the plan is answered as if its first exchange stood before it.
    obtain ⟨t, a, hends, hanswered⟩ := ih (reply [] q) fun b => reply (⟨q, reply [] q⟩ :: b)
    refine ⟨⟨q, reply [] q⟩ :: t, a, .step _ hends, ?_⟩
    intro b x u hsplit
    cases b with
    | nil =>
      obtain ⟨rfl, rfl⟩ := List.cons.inj hsplit
      rfl
    | cons y b =>
      obtain ⟨rfl, hrest⟩ := List.cons.inj hsplit
      exact hanswered b x u hrest

end Plan

end DeviceFlow
