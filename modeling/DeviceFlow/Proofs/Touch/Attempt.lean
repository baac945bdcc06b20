import DeviceFlow.Proofs.Budget.Await
import DeviceFlow.Proofs.Trace.Keeps

/-!
# What an attempt touches

Of all that a step may ask for, only calls of the device, recorded scripts and looks at the screen
reach beyond the run itself. An attempt first makes checks, which touch nothing and refuse it for
good when they fail. Then it does what it is there for, and nothing that fails from then on is a
refusal.
-/

namespace DeviceFlow

/-- A request has the device do something, be it by a recorded script. -/
def Request.operates : Request → Bool
  | .perform _ | .play _ => true
  | _ => false

/-- A request reaches the device, the player of scripts or the screen. -/
def Request.touches : Request → Bool
  | .perform _ | .play _ | .look => true
  | _ => false

/-- The requests of a trace that reach beyond the run, in their order. -/
def touched (t : List Exchange) : List Request :=
  (t.map Exchange.request).filter Request.touches

@[simp] theorem touched_append (t u : List Exchange) :
    touched (t ++ u) = touched t ++ touched u := by
  rw [touched, List.map_append, List.filter_append]
  rfl

theorem touched_eq_nil {t : List Exchange} (h : ∀ x ∈ t, x.request.touches = false) :
    touched t = [] := by
  refine List.filter_eq_nil_iff.mpr fun q hq => ?_
  obtain ⟨x, hx, rfl⟩ := List.mem_map.mp hq
  simp [h x hx]

namespace Attempt

open Plan

variable {α β : Type} {x : Attempt α} {f : α → Attempt β} {N : List Request → Prop}

/-- An attempt has been refused: it fails with an error that ends the run. -/
def refused : Except StepError α → Bool
  | .ok _ => false
  | .error e => e.isFatal

/-- An attempt that touches nothing, and refuses what comes after it when it fails. -/
abbrev Checks (x : Attempt α) : Prop :=
  x.Keeps (fun q => q.touches = false) (fun _ => True) (fun e => e.isFatal = true)

/-- An attempt that touches nothing, and refuses nothing. -/
abbrev Concludes (x : Attempt α) : Prop :=
  x.Keeps (fun q => q.touches = false) (fun _ => True) (fun e => e.isFatal = false)

/-- The attempt is refused before it touches anything, or touches what it should. -/
def Touches (x : Attempt α) (N : List Request → Prop) : Prop :=
  ∀ t r, x.run.Ends t r → if refused r then touched t = [] else N (touched t)

/-- Checks that come first make no difference to what an attempt touches. -/
theorem touches_of_checks (hx : x.Checks) (hf : ∀ a, (f a).Touches N) : (x >>= f).Touches N := by
  intro t r h
  rw [ExceptT.run_bind] at h
  obtain ⟨t, a, u, rfl, hchecks, hrest⟩ := ends_bind.mp h
  obtain ⟨hrequests, hcomes⟩ := Plan.Keeps.follows hx hchecks
  rw [touched_append, touched_eq_nil hrequests, List.nil_append]
  cases a with
  | ok a => exact hf a u r hrest
  | error e =>
    obtain ⟨rfl, rfl⟩ := ends_done.mp hrest
    exact (if_pos hcomes).mpr rfl

/-- What an attempt touches is not changed by what comes after it and touches nothing. -/
theorem Touches.before (hx : x.Touches N) (hf : ∀ a, (f a).Concludes) : (x >>= f).Touches N := by
  intro t r h
  rw [ExceptT.run_bind] at h
  obtain ⟨t, a, u, rfl, hfirst, hrest⟩ := ends_bind.mp h
  have htouches := hx t a hfirst
  cases a with
  | ok a =>
    obtain ⟨hrequests, hcomes⟩ := Plan.Keeps.follows (hf a) hrest
    have hgoes : refused r = false := by
      cases r with
      | ok b => rfl
      | error e => exact hcomes
    rw [touched_append, touched_eq_nil hrequests, List.append_nil, hgoes]
    exact htouches
  | error e =>
    obtain ⟨rfl, rfl⟩ := ends_done.mp hrest
    rw [List.append_nil]
    exact htouches

theorem Touches.mono {M : List Request → Prop} (hx : x.Touches N)
    (hNM : ∀ requests, N requests → M requests) : x.Touches M := by
  intro t r h
  have htouches := hx t r h
  split
  · rwa [if_pos ‹_›] at htouches
  · rw [if_neg ‹_›] at htouches
    exact hNM _ htouches

theorem Concludes.touches (hx : x.Concludes) (hN : N []) : x.Touches N := by
  intro t r h
  obtain ⟨hrequests, hcomes⟩ := Plan.Keeps.follows hx h
  rw [touched_eq_nil hrequests]
  split
  · rfl
  · exact hN

theorem touches_throw {e : StepError} (he : e.isFatal = true) :
    (throw e : Attempt α).Touches N := by
  intro t r h
  obtain ⟨rfl, rfl⟩ := ends_throw.mp h
  have hrefused : refused (.error e : Except StepError α) = true := he
  rw [hrefused]
  rfl

theorem touches_lift {p : Plan α} (hp : ∀ t a, p.Ends t a → N (touched t)) :
    Touches (ExceptT.lift p) N := by
  intro t r h
  rw [ExceptT.run_lift] at h
  obtain ⟨t, a, u, rfl, hfirst, hrest⟩ := ends_bind.mp h
  obtain ⟨rfl, rfl⟩ := ends_done.mp hrest
  rw [List.append_nil]
  exact hp t a hfirst

/-- No failure of a device, or of one of its helpers, is a refusal. -/
theorem touches_device {p : Plan (Except DeviceError α)}
    (hp : ∀ t answer, p.Ends t answer → N (touched t)) : (device p).Touches N := by
  refine (touches_lift hp).before fun answer => ?_
  cases answer with
  | ok a => trivial
  | error e => rfl

theorem touches_perform (call : DeviceCall) :
    (Attempt.perform call).Touches (· = [.perform call]) := by
  refine touches_device fun t answer h => ?_
  obtain rfl := ends_request.mp h
  rfl

theorem touches_play (script : String) : (Attempt.play script).Touches (· = [.play script]) := by
  refine touches_device fun t answer h => ?_
  obtain rfl := ends_request.mp h
  rfl

theorem touches_look : Attempt.look.Touches (· = [.look]) := by
  refine touches_device fun t answer h => ?_
  obtain rfl := ends_request.mp h
  rfl

end Attempt

end DeviceFlow
