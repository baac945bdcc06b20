import DeviceFlow.Proofs.Budget.Await
import DeviceFlow.Proofs.Likeness.Plan
import DeviceFlow.Proofs.Screen.Path
import Mathlib.Algebra.Order.Floor.Div

/-!
# Looking at a screen at intervals

The screen is looked at without delay, nothing cancels the run, and time passes only while the run
waits. Then the course of awaiting an element is known from the pictures that the looks show: there
is a look at the beginning and one after each interval, and the first picture that shows the element
or cannot be taken is the last one, unless the limit is over before.
-/

namespace DeviceFlow

/-- How long a run waits in an exchange. -/
def Exchange.waitMs : Exchange → Nat
  | ⟨.sleep ms, (whole : Bool)⟩ => if whole then ms else 0
  | _ => 0

/-- How often the screen is looked at in an exchange. -/
def Exchange.looks : Exchange → Nat
  | ⟨.look, _⟩ => 1
  | _ => 0

/-- How long a run waits along a trace. -/
def waited (t : List Exchange) : Nat := (t.map Exchange.waitMs).sum

/-- How often the screen is looked at along a trace. -/
def lookCount (t : List Exchange) : Nat := (t.map Exchange.looks).sum

/-- The times at which the screen is looked at along a trace that begins at a time, when time passes
    only while the run waits. -/
def lookTimes : Nat → List Exchange → List Nat
  | _, [] => []
  | now, x :: t => List.replicate x.looks now ++ lookTimes (now + x.waitMs) t

/-- Surroundings without delay or cancellation, in which the looks at the screen show one picture
    after the other. -/
def Surroundings.showing (start : Nat) (pictures : Nat → Except DeviceError Screen) : Surroundings
  | past, .clock => start + waited past
  | past, .look => pictures (lookCount past)
  | _, .isCancelled => false
  | _, .sleep _ => true
  | _, q => q.refusal

/-- How a picture ends the search for an element: it cannot be taken, or shows the element, or is
    the last one that the limit allows and does not show it. -/
inductive Decides (sought : Selector) (isLast : Prop) :
    Except DeviceError Screen → Except DeviceError Element → Prop where
  | unseen (e : DeviceError) : Decides sought isLast (.error e) (.error e)
  | found {screen : Screen} {e : Element} (h : FirstIn screen.nodes sought.Fits (some e)) :
      Decides sought isLast (.ok screen) (.ok e)
  | expired {screen : Screen} (h : FirstIn screen.nodes sought.Fits none) (hlast : isLast) :
      Decides sought isLast (.ok screen) (.error (.elementNotFound sought.text))

/-- A trace in which an element is awaited from a time on: the screen is looked at once, and again
    after each of so many intervals, of which the limit allows a last one. -/
structure Polls (interval last : Nat) (sought : Selector) (start : Nat)
    (pictures : Nat → Except DeviceError Screen) (t : List Exchange) (count : Nat)
    (r : Except DeviceError Element) : Prop where
  /-- The limit is kept. -/
  inTime : count ≤ last
  /-- The pictures before the last look do not show the element. -/
  inVain : ∀ k < count, ∃ screen, pictures k = .ok screen ∧
    FirstIn screen.nodes sought.Fits none
  /-- The looks are taken at the beginning of each interval and at the end of the last one. -/
  looks : lookTimes start t = (List.range (count + 1)).map fun k => start + k * interval
  /-- The search ends at once after the last look. -/
  ends : waited t = count * interval
  /-- The last picture decides. -/
  decides : Decides sought (count = last) (pictures count) r

variable {start now interval last count : Nat} {pictures : Nat → Except DeviceError Screen}
  {sought : Selector} {x : Exchange} {t : List Exchange} {r : Except DeviceError Element}

@[simp] theorem waited_nil : waited [] = 0 := rfl

@[simp] theorem waited_cons : waited (x :: t) = x.waitMs + waited t := List.sum_cons

@[simp] theorem lookCount_nil : lookCount [] = 0 := rfl

@[simp] theorem lookCount_cons : lookCount (x :: t) = x.looks + lookCount t := List.sum_cons

/-- After an exchange the surroundings are the same, at a later time and with the next picture. -/
theorem Surroundings.showing_cons :
    (fun past => showing start pictures (x :: past)) =
      showing (start + x.waitMs) fun k => pictures (x.looks + k) := by
  funext past q
  cases q with
  | clock => exact (congrArg (start + ·) waited_cons).trans (Nat.add_assoc ..).symm
  | look => exact congrArg pictures lookCount_cons
  | log _ | emit _ | date | isCancelled | sleep _ | perform _ | play _ | load _ => rfl

namespace Plan

theorem answeredBy_cons {reply : Surroundings} :
    AnsweredBy reply (x :: t) ↔
      x.answer = reply [] x.request ∧ AnsweredBy (fun past => reply (x :: past)) t := by
  constructor
  · intro h
    refine ⟨h [] x t rfl, fun b y u hsplit => ?_⟩
    exact h (x :: b) y u (congrArg (x :: ·) hsplit)
  · rintro ⟨hfirst, hrest⟩ b y u hsplit
    cases b with
    | nil =>
      obtain ⟨rfl, rfl⟩ := List.cons.inj hsplit
      exact hfirst
    | cons z b =>
      obtain ⟨rfl, htail⟩ := List.cons.inj hsplit
      exact hrest b y u htail

theorem answeredBy_showing_cons :
    AnsweredBy (Surroundings.showing start pictures) (x :: t) ↔
      x.answer = Surroundings.showing start pictures [] x.request ∧
        AnsweredBy
          (Surroundings.showing (start + x.waitMs) fun k => pictures (x.looks + k)) t := by
  rw [answeredBy_cons, Surroundings.showing_cons]

end Plan

theorem Polls.one {screen : Except DeviceError Screen} (hpicture : pictures 0 = screen)
    (htimes : lookTimes start t = [start]) (hwaited : waited t = 0)
    (hdecides : Decides sought (0 = last) screen r) :
    Polls interval last sought start pictures t 0 r where
  inTime := Nat.zero_le last
  inVain := nofun
  looks := by simpa using htimes
  ends := by simpa using hwaited
  decides := hpicture ▸ hdecides

/-- A look in vain and an interval can stand before any such trace. -/
theorem Polls.again {screen : Screen} (hpicture : pictures 0 = .ok screen)
    (hvain : FirstIn screen.nodes sought.Fits none)
    (h : Polls interval last sought (start + interval) (fun k => pictures (k + 1)) t count r) :
    Polls interval (last + 1) sought start pictures
      (⟨.look, .ok screen⟩ :: ⟨.clock, now⟩ :: ⟨.sleep interval, true⟩ :: t) (count + 1) r where
  inTime := Nat.succ_le_succ h.inTime
  inVain k hk := by
    cases k with
    | zero => exact ⟨screen, hpicture, hvain⟩
    | succ k => exact h.inVain k (Nat.lt_of_succ_lt_succ hk)
  looks := by
    have hlater : lookTimes (start + interval) t =
        (List.range (count + 1)).map fun k => start + (k + 1) * interval := by
      rw [h.looks]
      refine List.map_congr_left fun k _ => ?_
      rw [Nat.add_one_mul]
      omega
    rw [List.range_succ_eq_map, List.map_cons, List.map_map]
    simpa [lookTimes, Exchange.looks, Exchange.waitMs, Function.comp_def] using hlater
  ends := by
    simp only [waited_cons, h.ends, Exchange.waitMs, if_true, Nat.add_one_mul]
    omega
  decides := by
    rw [Nat.add_right_cancel_iff]
    exact h.decides

/-- Within a limit one more interval begins than within the limit that is left after it. -/
theorem ceilDiv_eq_succ {limit : Nat} (hinterval : 0 < interval) (hlimit : 0 < limit) :
    limit ⌈/⌉ interval = (limit - interval) ⌈/⌉ interval + 1 := by
  have hfirst : limit + interval - 1 = limit - 1 + interval := by omega
  rw [Nat.ceilDiv_eq_add_pred_div, Nat.ceilDiv_eq_add_pred_div, hfirst,
    Nat.add_div_right _ hinterval]
  congr 1
  rcases Nat.le_total interval limit with hle | hle
  · congr 1
    omega
  · rw [Nat.div_eq_of_lt (by omega), Nat.div_eq_of_lt (by omega)]

/-- How awaiting an element comes out when the pictures are known. -/
theorem Awaits.polls {rig : Rig} {deadline : Nat} {r : Except StepError Element}
    (h : Awaits rig sought deadline t r) (hinterval : 0 < rig.settings.pollIntervalMs)
    (hanswered : Plan.AnsweredBy (Surroundings.showing start pictures) t) :
    ∃ count result, r = result.mapError StepError.device ∧
      Polls rig.settings.pollIntervalMs ((deadline - start) ⌈/⌉ rig.settings.pollIntervalMs) sought
        start pictures t count result := by
  induction h generalizing start pictures with
  | @unseen e =>
    obtain ⟨hpicture, -⟩ := Plan.answeredBy_showing_cons.mp hanswered
    exact ⟨0, .error e, rfl, .one hpicture.symm rfl rfl (.unseen e)⟩
  | @found screen element hfind =>
    obtain ⟨hpicture, -⟩ := Plan.answeredBy_showing_cons.mp hanswered
    have hfirst : FirstIn screen.nodes sought.Fits (some element) :=
      hfind ▸ Screen.firstIn_find?_selector sought
    exact ⟨0, .ok element, rfl, .one hpicture.symm rfl rfl (.found hfirst)⟩
  | @expired screen now hfind hlate =>
    obtain ⟨hpicture, hanswered⟩ := Plan.answeredBy_showing_cons.mp hanswered
    obtain ⟨hnow, -⟩ := Plan.answeredBy_showing_cons.mp hanswered
    have hnone : FirstIn screen.nodes sought.Fits none :=
      hfind ▸ Screen.firstIn_find?_selector sought
    have hlast : 0 = (deadline - start) ⌈/⌉ rig.settings.pollIntervalMs := by
      have hover : now = start := hnow
      rw [Nat.sub_eq_zero_of_le (hover ▸ hlate), zero_ceilDiv]
    exact ⟨0, _, rfl, .one hpicture.symm rfl rfl (.expired hnone hlast)⟩
  | cancelled =>
    obtain ⟨-, hanswered⟩ := Plan.answeredBy_showing_cons.mp hanswered
    obtain ⟨-, hanswered⟩ := Plan.answeredBy_showing_cons.mp hanswered
    obtain ⟨hwhole, -⟩ := Plan.answeredBy_showing_cons.mp hanswered
    cases hwhole
  | @again screen now t r hfind hearly _ ih =>
    obtain ⟨hpicture, hanswered⟩ := Plan.answeredBy_showing_cons.mp hanswered
    obtain ⟨hnow, hanswered⟩ := Plan.answeredBy_showing_cons.mp hanswered
    obtain ⟨-, hanswered⟩ := Plan.answeredBy_showing_cons.mp hanswered
    have hnone : FirstIn screen.nodes sought.Fits none :=
      hfind ▸ Screen.firstIn_find?_selector sought
    have hstart : now = start := hnow
    have hlater : Plan.AnsweredBy (Surroundings.showing (start + rig.settings.pollIntervalMs)
        fun k => pictures (k + 1)) t := by
      simpa [Exchange.waitMs, Exchange.looks, Nat.add_comm 1] using hanswered
    obtain ⟨count, result, rfl, hpolls⟩ := ih hlater
    rw [ceilDiv_eq_succ hinterval (by omega), Nat.sub_sub]
    exact ⟨count + 1, result, rfl, hpolls.again hpicture.symm hnone⟩

end DeviceFlow
