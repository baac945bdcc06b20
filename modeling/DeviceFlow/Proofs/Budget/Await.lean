import DeviceFlow.Proofs.Trace.Basic
import DeviceFlow.Run.Perform

/-!
# Awaiting an element

An element is awaited until it is found, or the screen cannot be looked at, or the deadline is
over, or the run is cancelled. The rules below say so without any bound on the number of looks.
When time moves on in every pause, the number of looks that a step is allowed is never used up,
so that the loop of the step takes just the course that the rules give.
-/

namespace DeviceFlow

/-- The course of awaiting an element until a deadline, with its result. -/
inductive Awaits (rig : Rig) (selector : Selector) (deadline : Nat) :
    List Exchange → Except StepError Element → Prop where
  | unseen {e : DeviceError} :
      Awaits rig selector deadline [⟨.look, .error e⟩] (.error (.device e))
  | found {screen : Screen} {element : Element} (hfind : screen.find? selector = some element) :
      Awaits rig selector deadline [⟨.look, .ok screen⟩] (.ok element)
  | expired {screen : Screen} {now : Nat} (hfind : screen.find? selector = none)
      (hlate : deadline ≤ now) :
      Awaits rig selector deadline [⟨.look, .ok screen⟩, ⟨.clock, now⟩]
        (.error (.device (.elementNotFound selector.text)))
  | cancelled {screen : Screen} {now : Nat} (hfind : screen.find? selector = none)
      (hearly : now < deadline) :
      Awaits rig selector deadline
        [⟨.look, .ok screen⟩, ⟨.clock, now⟩, ⟨.sleep rig.settings.pollIntervalMs, false⟩]
        (.error .cancelled)
  | again {screen : Screen} {now : Nat} {t : List Exchange} {r : Except StepError Element}
      (hfind : screen.find? selector = none) (hearly : now < deadline)
      (h : Awaits rig selector deadline t r) :
      Awaits rig selector deadline
        (⟨.look, .ok screen⟩ :: ⟨.clock, now⟩ :: ⟨.sleep rig.settings.pollIntervalMs, true⟩ :: t) r

/-- The clock never goes back along a trace, and goes on by the length of every pause that is
    not cut short. The number is a time before the trace. -/
def Timely : Nat → List Exchange → Prop
  | _, [] => True
  | now, ⟨.clock, (time : Nat)⟩ :: t => now ≤ time ∧ Timely time t
  | now, ⟨.sleep ms, (whole : Bool)⟩ :: t => Timely (if whole then now + ms else now) t
  | now, _ :: t => Timely now t

namespace Attempt

open Plan

variable {α β : Type} {t : List Exchange} {r : Except StepError β}

theorem ends_throw {e : StepError} :
    (throw e : Attempt β).run.Ends t r ↔ t = [] ∧ r = .error e := ends_done

theorem ends_pure {a : β} : (pure a : Attempt β).run.Ends t r ↔ t = [] ∧ r = .ok a := ends_done

theorem ends_look_bind {f : Screen → Attempt β} :
    (look >>= f).run.Ends t r ↔
      (∃ e, t = [⟨.look, .error e⟩] ∧ r = .error (.device e)) ∨
        ∃ screen u, t = ⟨.look, .ok screen⟩ :: u ∧ (f screen).run.Ends u r := by
  refine ends_ask.trans ?_
  constructor
  · rintro ⟨(e | screen), u, rfl, h⟩
    · obtain ⟨rfl, rfl⟩ := ends_done.mp h
      exact .inl ⟨e, rfl, rfl⟩
    · exact .inr ⟨screen, u, rfl, h⟩
  · rintro (⟨e, rfl, rfl⟩ | ⟨screen, u, rfl, h⟩)
    · exact ⟨.error e, [], rfl, ends_done.mpr ⟨rfl, rfl⟩⟩
    · exact ⟨.ok screen, u, rfl, h⟩

theorem ends_clock_bind {f : Nat → Attempt β} :
    (ExceptT.lift Plan.clock >>= f : Attempt β).run.Ends t r ↔
      ∃ (now : Nat) (u : List Exchange), t = ⟨.clock, now⟩ :: u ∧ (f now).run.Ends u r :=
  ends_ask

theorem ends_sleep_bind {ms : Nat} {f : Unit → Attempt β} :
    (sleep ms >>= f).run.Ends t r ↔
      (t = [⟨.sleep ms, false⟩] ∧ r = .error .cancelled) ∨
        ∃ u, t = ⟨.sleep ms, true⟩ :: u ∧ (f ()).run.Ends u r := by
  refine ends_ask.trans ?_
  constructor
  · rintro ⟨(whole : Bool), u, rfl, h⟩
    cases whole with
    | false =>
      obtain ⟨rfl, rfl⟩ := ends_done.mp h
      exact .inl ⟨rfl, rfl⟩
    | true => exact .inr ⟨u, rfl, h⟩
  · rintro (⟨rfl, rfl⟩ | ⟨u, rfl, h⟩)
    · exact ⟨false, [], rfl, ends_done.mpr ⟨rfl, rfl⟩⟩
    · exact ⟨true, u, rfl, h⟩

end Attempt

variable {rig : Rig} {selector : Selector} {deadline : Nat}

open Attempt in
/-- While looks are left, and no more time than looks, the loop of a step awaits its element. -/
theorem ends_awaitElement_iff {looks now : Nat} {t : List Exchange} {r : Except StepError Element}
    (hpoll : 0 < rig.settings.pollIntervalMs) (htimely : Timely now t) (hlooks : looks ≠ 0)
    (henough : deadline < now + looks) :
    (awaitElement rig selector (some deadline) looks).run.Ends t r ↔
      Awaits rig selector deadline t r := by
  induction looks generalizing now t with
  | zero => exact absurd rfl hlooks
  | succ looks ih =>
    unfold awaitElement
    constructor
    · intro h
      rcases ends_look_bind.mp h with ⟨e, rfl, rfl⟩ | ⟨screen, u, rfl, hseen⟩
      · exact .unseen
      · split at hseen
        · rename_i element hfind
          obtain ⟨rfl, rfl⟩ := ends_pure.mp hseen
          exact .found hfind
        · rename_i hfind
          obtain ⟨time, u, rfl, htimed⟩ := ends_clock_bind.mp hseen
          obtain ⟨htime, htimely⟩ : now ≤ time ∧ Timely time u := htimely
          split at htimed
          · rename_i hearly
            rcases ends_sleep_bind.mp htimed with ⟨rfl, rfl⟩ | ⟨u, rfl, hrest⟩
            · exact .cancelled hfind hearly
            · have hslept : Timely (time + rig.settings.pollIntervalMs) u := htimely
              exact .again hfind hearly ((ih hslept (by omega) (by omega)).mp hrest)
          · rename_i hlate
            obtain ⟨rfl, rfl⟩ := ends_throw.mp htimed
            exact .expired hfind (Nat.le_of_not_lt hlate)
    · intro h
      cases h with
      | unseen => exact ends_look_bind.mpr (.inl ⟨_, rfl, rfl⟩)
      | found hfind =>
        refine ends_look_bind.mpr (.inr ⟨_, _, rfl, ?_⟩)
        simp only [hfind]
        exact ends_pure.mpr ⟨rfl, rfl⟩
      | @expired screen time hfind hlate =>
        refine ends_look_bind.mpr (.inr ⟨_, _, rfl, ?_⟩)
        simp only [hfind]
        refine ends_clock_bind.mpr ⟨_, _, rfl, ?_⟩
        rw [if_neg (Nat.not_lt.mpr hlate)]
        exact ends_throw.mpr ⟨rfl, rfl⟩
      | @cancelled screen time hfind hearly =>
        refine ends_look_bind.mpr (.inr ⟨_, _, rfl, ?_⟩)
        simp only [hfind]
        refine ends_clock_bind.mpr ⟨_, _, rfl, ?_⟩
        rw [if_pos hearly]
        exact ends_sleep_bind.mpr (.inl ⟨rfl, rfl⟩)
      | @again screen time u r hfind hearly hrest =>
        obtain ⟨htime, hslept⟩ : now ≤ time ∧ Timely (time + rig.settings.pollIntervalMs) u :=
          htimely
        refine ends_look_bind.mpr (.inr ⟨_, _, rfl, ?_⟩)
        simp only [hfind]
        refine ends_clock_bind.mpr ⟨_, _, rfl, ?_⟩
        rw [if_pos hearly]
        exact ends_sleep_bind.mpr (.inr ⟨u, rfl, (ih hslept (by omega) (by omega)).mpr hrest⟩)

theorem greatestLooks_ne_zero (rig : Rig) (limitMs : Option Nat) :
    greatestLooks rig limitMs ≠ 0 := by
  unfold greatestLooks
  split
  · exact Nat.one_ne_zero
  · split
    · decide
    · exact Nat.succ_ne_zero _

/-- A read step with a timeout looks as often as it takes: the number of looks that it is
    allowed is never used up. -/
theorem ends_awaitElement_greatestLooks_iff {limit start : Nat} {t : List Exchange}
    {r : Except StepError Element} (hpoll : 0 < rig.settings.pollIntervalMs)
    (htimely : Timely start t) :
    (awaitElement rig selector (some (start + limit)) (greatestLooks rig (some limit))).run.Ends
        t r ↔ Awaits rig selector (start + limit) t r := by
  have hlooks : greatestLooks rig (some limit) = limit + 1 := if_neg (by omega)
  rw [hlooks]
  exact ends_awaitElement_iff hpoll htimely (Nat.succ_ne_zero limit) (by omega)

end DeviceFlow
