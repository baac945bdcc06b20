import DeviceFlow.Proofs.Events.Run
import Mathlib.Data.List.Forall2

/-!
# Plans that run alike

Two plans run alike when they make the same requests and come to the same result as long as they
get the same answers, whatever these are; only the workflows that a store gives out may differ,
each of them from its counterpart. Carried out in surroundings that differ in nothing else, such
plans exchange the same and come to the same.
-/

namespace DeviceFlow

/-- What two stores give out that hold counterparts. -/
inductive LoadedAlike (R : Workflow → Workflow → Prop) :
    Except String (Option Workflow) → Except String (Option Workflow) → Prop where
  | failed (text : String) : LoadedAlike R (.error text) (.error text)
  | missing : LoadedAlike R (.ok none) (.ok none)
  | found {w w' : Workflow} (h : R w w') : LoadedAlike R (.ok (some w)) (.ok (some w'))

/-- Two answers to a request are the same, but for the workflows that a store gives out. -/
def Request.AnswersAlike (R : Workflow → Workflow → Prop) :
    (q : Request) → q.Answer → q.Answer → Prop
  | .load _, a, a' => LoadedAlike R a a'
  | .log _, a, a' | .emit _, a, a' | .clock, a, a' | .date, a, a' | .isCancelled, a, a'
  | .sleep _, a, a' | .perform _, a, a' | .play _, a, a' | .look, a, a' => a' = a

/-- The request does not ask a store. -/
def Request.SparesStore : Request → Prop
  | .load _ => False
  | _ => True

/-- Two exchanges are of the same request and have the same answer, but for the workflows that a
    store gives out. -/
inductive Exchange.Alike (R : Workflow → Workflow → Prop) : Exchange → Exchange → Prop where
  | same {q : Request} {a a' : q.Answer} (h : q.AnswersAlike R a a') : Alike R ⟨q, a⟩ ⟨q, a'⟩

/-- Whatever answers the requests of a run. It may look back on all that has been exchanged. -/
abbrev Surroundings := List Exchange → (q : Request) → q.Answer

/-- After the same exchanges both surroundings answer the same, but for the workflows that their
    stores give out. -/
def Surroundings.Alike (R : Workflow → Workflow → Prop) (reply reply' : Surroundings) : Prop :=
  ∀ past past', List.Forall₂ (Exchange.Alike R) past past' →
    ∀ q : Request, q.AnswersAlike R (reply past q) (reply' past' q)

/-- Two runs, each with what it has exchanged and what it has come to, that no one can tell apart:
    they have made the same requests, told the same events and come to the same. -/
structure SameRun {α : Type} (x x' : List Exchange × α) : Prop where
  requests : x'.1.map Exchange.request = x.1.map Exchange.request
  events : eventsOf x'.1 = eventsOf x.1
  result : x'.2 = x.2

/-- Surroundings in which all is done at once and without failure, but there is nothing to see, and
    one workflow is stored under every id. -/
def Surroundings.holding (w : Workflow) : Surroundings
  | _, .isCancelled => false
  | _, .sleep _ => true
  | _, .perform _ => (.ok "" : Except DeviceError String)
  | _, .play _ => (.ok () : Except DeviceError Unit)
  | _, .load _ => (.ok (some w) : Except String (Option Workflow))
  | _, q => q.refusal

variable {R : Workflow → Workflow → Prop} {α β : Type}

theorem Surroundings.holding_alike {w w' : Workflow} (h : R w w') :
    (holding w).Alike R (holding w') := by
  intro past past' _ q
  cases q with
  | load id => exact .found h
  | _ => rfl

/-- The surroundings that hold a workflow give out no other one. -/
theorem Surroundings.eq_of_holding {w child : Workflow} {t : List Exchange}
    (hanswered : Plan.AnsweredBy (holding w) t) (h : Loaded t child) : child = w := by
  obtain ⟨id, hid⟩ := h
  obtain ⟨b, u, rfl⟩ := List.append_of_mem hid
  have hanswer : (.ok (some child) : Except String (Option Workflow)) = .ok (some w) :=
    hanswered b _ u rfl
  cases hanswer
  rfl

theorem Request.eq_of_answersAlike {q : Request} (hq : q.SparesStore) {a a' : q.Answer}
    (h : q.AnswersAlike R a a') : a' = a := by
  cases q with
  | load id => exact hq.elim
  | _ => exact h

theorem map_request_of_alike {t t' : List Exchange} (h : List.Forall₂ (Exchange.Alike R) t t') :
    t'.map Exchange.request = t.map Exchange.request := by
  induction h with
  | nil => rfl
  | cons hx _ ih =>
    obtain ⟨_⟩ := hx
    rw [List.map_cons, List.map_cons, ih]

/-- Like exchanges tell the same events. -/
theorem eventsOf_of_alike {t t' : List Exchange} (h : List.Forall₂ (Exchange.Alike R) t t') :
    eventsOf t' = eventsOf t := by
  induction h with
  | nil => rfl
  | cons hx _ ih =>
    obtain ⟨_⟩ := hx
    rw [eventsOf_cons, eventsOf_cons, ih]
    rfl

namespace Plan

/-- Two plans ask the same, go on alike after like answers, and come to the same. -/
inductive RunsLike (R : Workflow → Workflow → Prop) : Plan α → Plan α → Prop where
  | done (a : α) : RunsLike R (done a) (done a)
  | ask {q : Request} {next next' : q.Answer → Plan α}
      (h : ∀ a a', q.AnswersAlike R a a' → RunsLike R (next a) (next' a')) :
      RunsLike R (ask q next) (ask q next')

theorem RunsLike.bind {p p' : Plan α} {f f' : α → Plan β} (hp : p.RunsLike R p')
    (hf : ∀ a, (f a).RunsLike R (f' a)) : (p >>= f).RunsLike R (p' >>= f') := by
  induction hp with
  | done a => exact hf a
  | ask _ ih => exact .ask ih

/-- A plan that asks no store runs like itself. -/
theorem RunsLike.of_keeps {p : Plan α} {Q : α → Prop} (h : p.Keeps Request.SparesStore Q) :
    p.RunsLike R p := by
  induction p with
  | done a => exact .done a
  | ask q next ih =>
    refine .ask fun a a' halike => ?_
    obtain rfl := Request.eq_of_answersAlike h.1 halike
    exact ih a' (h.2 a')

theorem RunsLike.request (q : Request) (hq : q.SparesStore) :
    (request q).RunsLike R (request q) :=
  .ask fun _ _ halike => Request.eq_of_answersAlike hq halike ▸ .done _

/-- What a plan exchanges in some surroundings, and what it comes to. -/
def under : Plan α → Surroundings → List Exchange × α
  | done a, _ => ([], a)
  | ask q next, reply =>
    let rest := (next (reply [] q)).under fun past => reply (⟨q, reply [] q⟩ :: past)
    (⟨q, reply [] q⟩ :: rest.1, rest.2)

/-- There is one way in which a plan can be carried out in some surroundings. -/
theorem under_eq_iff {p : Plan α} {reply : Surroundings} {t : List Exchange} {a : α} :
    p.under reply = (t, a) ↔ p.Ends t a ∧ AnsweredBy reply t := by
  induction p generalizing reply t with
  | done b =>
    rw [ends_done]
    constructor
    · intro h
      obtain ⟨rfl, rfl⟩ := Prod.mk.inj h
      exact ⟨⟨rfl, rfl⟩, by simp [AnsweredBy]⟩
    · rintro ⟨⟨rfl, rfl⟩, _⟩
      rfl
  | ask q next ih =>
    rw [ends_ask]
    constructor
    · intro h
      obtain ⟨rfl, rfl⟩ := Prod.mk.inj h
      obtain ⟨hends, hanswered⟩ := (ih (reply [] q)).mp
        (Prod.eta ((next (reply [] q)).under fun past => reply (⟨q, reply [] q⟩ :: past))).symm
      refine ⟨⟨_, _, rfl, hends⟩, ?_⟩
      intro b x u hsplit
      cases b with
      | nil =>
        obtain ⟨rfl, rfl⟩ := List.cons.inj hsplit
        rfl
      | cons y b =>
        obtain ⟨rfl, hrest⟩ := List.cons.inj hsplit
        exact hanswered b x u hrest
    · rintro ⟨⟨answer, u, rfl, hends⟩, hanswered⟩
      obtain rfl : answer = reply [] q := hanswered [] _ u rfl
      have hrest : AnsweredBy (fun past => reply (⟨q, reply [] q⟩ :: past)) u := by
        intro b x v hsplit
        rw [hsplit] at hanswered
        exact hanswered (_ :: b) x v rfl
      unfold under
      rw [(ih _).mpr ⟨hends, hrest⟩]

/-- Plans that run alike have like exchanges in surroundings that are alike, and come to the same,
    if all the workflows that are given out have what counterparts must have. -/
theorem RunsLike.under {callable : Workflow → Prop} {p p' : Plan α}
    (hp : p.RunsLike (fun w w' => callable w ∧ R w w') p') {reply reply' : Surroundings}
    (hreply : reply.Alike R reply')
    (hloaded : ∀ child, Loaded (p.under reply).1 child → callable child) :
    List.Forall₂ (Exchange.Alike R) (p.under reply).1 (p'.under reply').1 ∧
      (p'.under reply').2 = (p.under reply).2 := by
  induction hp generalizing reply reply' with
  | done a => exact ⟨.nil, rfl⟩
  | @ask q next next' h ih =>
    have hanswers : q.AnswersAlike R (reply [] q) (reply' [] q) := hreply [] [] .nil q
    have hcallable : q.AnswersAlike (fun w w' => callable w ∧ R w w') (reply [] q)
        (reply' [] q) := by
      cases q with
      | load id =>
        have hgiven : ∀ child, reply [] (.load id) = .ok (some child) → callable child := by
          intro child hchild
          refine hloaded child ⟨id, ?_⟩
          rw [← hchild]
          exact List.mem_cons_self
        revert hanswers hgiven
        generalize reply [] (.load id) = a, reply' [] (.load id) = a'
        intro hanswers hgiven
        cases hanswers with
        | failed text => exact .failed text
        | missing => exact .missing
        | found hw => exact .found ⟨hgiven _ rfl, hw⟩
      | _ => exact hanswers
    have hlater : Surroundings.Alike R (fun past => reply (⟨q, reply [] q⟩ :: past))
        (fun past => reply' (⟨q, reply' [] q⟩ :: past)) :=
      fun past past' hpast => hreply _ _ (.cons (.same hanswers) hpast)
    obtain ⟨hexchanged, hresult⟩ := ih _ _ hcallable hlater
      (fun child hchild => hloaded child (hchild.mono (List.subset_cons_self ..)))
    exact ⟨.cons (.same hanswers) hexchanged, hresult⟩

theorem RunsLike.sameRun {callable : Workflow → Prop} {p p' : Plan α}
    (hp : p.RunsLike (fun w w' => callable w ∧ R w w') p') {reply reply' : Surroundings}
    (hreply : reply.Alike R reply')
    (hloaded : ∀ child, Loaded (p.under reply).1 child → callable child) :
    SameRun (p.under reply) (p'.under reply') := by
  obtain ⟨hexchanged, hresult⟩ := hp.under hreply hloaded
  exact ⟨map_request_of_alike hexchanged, eventsOf_of_alike hexchanged, hresult⟩

end Plan

end DeviceFlow
