import DeviceFlow.Proofs.Nesting.Adequate
import DeviceFlow.Proofs.Polling.Basic

/-!
# Steps that read the screen

A step that reads an attribute of an element looks at the screen when it begins and after every
interval, until a look fails or shows the element or its timeout is over. The number of looks and
the time that it takes are known exactly, and it changes no variable unless the element is found.
-/

namespace DeviceFlow

variable {start interval last count : Nat} {pictures : Nat → Except DeviceError Screen}
  {sought : Selector} {t u : List Exchange} {result : Except DeviceError Element}

theorem waited_append : waited (t ++ u) = waited t + waited u := by
  simp [waited]

theorem lookTimes_append :
    lookTimes start (t ++ u) = lookTimes start t ++ lookTimes (start + waited t) u := by
  induction t generalizing start with
  | nil => rfl
  | cons x t ih => simp [lookTimes, ih, Nat.add_assoc]

/-- What neither looks nor waits can be left out. -/
theorem Polls.congr {t' : List Exchange}
    (h : Polls interval last sought start pictures t count result)
    (hlooks : lookTimes start t' = lookTimes start t) (hwaited : waited t' = waited t) :
    Polls interval last sought start pictures t' count result where
  inTime := h.inTime
  inVain := h.inVain
  looks := hlooks.trans h.looks
  ends := hwaited.trans h.ends
  decides := h.decides

namespace Plan

theorem AnsweredBy.of_append {reply : Surroundings} (h : AnsweredBy reply (t ++ u)) :
    AnsweredBy reply t := by
  intro b x v hsplit
  refine h b x (v ++ u) ?_
  rw [hsplit, List.append_assoc, List.cons_append]

/-- Where time passes only while a run waits, the clock tells how long it has waited. -/
theorem timely_of_answeredBy (h : AnsweredBy (Surroundings.showing start pictures) t) :
    Timely start t := by
  induction t generalizing start pictures with
  | nil => trivial
  | cons x t ih =>
    obtain ⟨hanswer, hrest⟩ := answeredBy_showing_cons.mp h
    have htimely := ih hrest
    obtain ⟨q, answer⟩ := x
    cases q with
    | clock =>
      obtain rfl : answer = start := hanswer
      exact ⟨le_rfl, htimely⟩
    | sleep ms =>
      obtain rfl : answer = true := hanswer
      exact htimely
    | log _ | emit _ | date | isCancelled | perform _ | play _ | look | load _ => exact htimely

end Plan

namespace Attempt

open Plan

/-- A sequence of attempts ends with the failure of the first one or with the others. -/
theorem ends_run_bind {α β : Type} {x : Attempt α} {f : α → Attempt β} {r : Except StepError β} :
    (x >>= f).run.Ends t r ↔
      (∃ e, x.run.Ends t (.error e) ∧ r = .error e) ∨
        ∃ u a v, t = u ++ v ∧ x.run.Ends u (.ok a) ∧ (f a).run.Ends v r := by
  refine Plan.ends_bind.trans ?_
  constructor
  · rintro ⟨u, (e | a), v, rfl, hu, hv⟩
    · obtain ⟨rfl, rfl⟩ := ends_done.mp hv
      rw [List.append_nil]
      exact .inl ⟨e, hu, rfl⟩
    · exact .inr ⟨u, a, v, rfl, hu, hv⟩
  · rintro (⟨e, hu, rfl⟩ | ⟨u, a, v, rfl, hu, hv⟩)
    · exact ⟨t, .error e, [], (List.append_nil t).symm, hu, ends_done.mpr ⟨rfl, rfl⟩⟩
    · exact ⟨u, .ok a, v, rfl, hu, hv⟩

end Attempt

variable {rig : Rig}

open Attempt in
/-- How awaiting an element comes out within a limit, or without one. -/
theorem polls_of_awaitElement {limitMs : Option Nat} {r : Except StepError Element}
    (hinterval : 0 < rig.settings.pollIntervalMs)
    (h : (awaitElement rig sought (limitMs.map (start + ·)) (greatestLooks rig limitMs)).run.Ends
      t r)
    (hanswered : Plan.AnsweredBy (Surroundings.showing start pictures) t) :
    ∃ count result, r = result.mapError StepError.device ∧
      Polls rig.settings.pollIntervalMs (limitMs.getD 0 ⌈/⌉ rig.settings.pollIntervalMs) sought
        start pictures t count result := by
  cases limitMs with
  | some limit =>
    have hawaits : Awaits rig sought (start + limit) t r :=
      (ends_awaitElement_greatestLooks_iff hinterval (Plan.timely_of_answeredBy hanswered)).mp h
    obtain ⟨count, result, hr, hpolls⟩ := hawaits.polls hinterval hanswered
    rw [Nat.add_sub_cancel_left] at hpolls
    exact ⟨count, result, hr, hpolls⟩
  | none =>
    rcases ends_look_bind.mp h with ⟨e, rfl, rfl⟩ | ⟨screen, u, rfl, hseen⟩
    · obtain ⟨hpicture, -⟩ := Plan.answeredBy_showing_cons.mp hanswered
      exact ⟨0, .error e, rfl, .one hpicture.symm rfl rfl (.unseen e)⟩
    · obtain ⟨hpicture, -⟩ := Plan.answeredBy_showing_cons.mp hanswered
      have hfirst := Screen.firstIn_find?_selector (s := screen) sought
      split at hseen
      · rename_i element hfind
        obtain ⟨rfl, rfl⟩ := ends_pure.mp hseen
        rw [hfind] at hfirst
        exact ⟨0, .ok element, rfl, .one hpicture.symm rfl rfl (.found hfirst)⟩
      · rename_i hfind
        obtain ⟨rfl, rfl⟩ := ends_throw.mp hseen
        rw [hfind] at hfirst
        have hlast : 0 = 0 ⌈/⌉ rig.settings.pollIntervalMs := (zero_ceilDiv _).symm
        exact ⟨0, _, rfl, .one hpicture.symm rfl rfl (.expired hfirst hlast)⟩

theorem Step.limitMs_getD (s : Step) : s.limitMs.getD 0 = s.timeoutMs.elim 0 UInt64.toNat := by
  unfold limitMs
  cases s.timeoutMs with
  | none => rfl
  | some ms =>
    by_cases hpos : 0 < ms
    · simp [Option.filter, hpos]
    · have hzero : ms = 0 := by simpa using hpos
      rw [hzero]
      rfl

/-- The deadline of a step that begins at a time, after the only look at the clock that it takes. -/
theorem ends_deadlineOf {limitMs : Option Nat} {r : Except StepError (Option Nat)}
    (h : (deadlineOf limitMs).run.Ends t r)
    (hanswered : Plan.AnsweredBy (Surroundings.showing start pictures) t) :
    r = .ok (limitMs.map (start + ·)) ∧ (t = [] ∨ t = [⟨.clock, start⟩]) := by
  cases limitMs with
  | none =>
    obtain ⟨rfl, rfl⟩ := Attempt.ends_pure.mp h
    exact ⟨rfl, .inl rfl⟩
  | some limit =>
    obtain ⟨now, u, rfl, hrest⟩ := Attempt.ends_clock_bind.mp h
    obtain ⟨rfl, rfl⟩ := Attempt.ends_pure.mp hrest
    obtain rfl : now = start := (Plan.answeredBy_showing_cons.mp hanswered).1
    exact ⟨rfl, .inr rfl⟩

/-- With a screen to look at, reading an attribute is awaiting the element and a line of the log. -/
theorem performRead_eq (s : Step) (name : String) (selector : Selector) (what : Attribute)
    (vars : Variables) (hscreen : rig.hasScreen = true) :
    ∃ record : Element → LogRecord,
      performRead rig s (some name) (some selector) what vars = (do
        let deadline ← deadlineOf s.limitMs
        let e ← awaitElement rig (selector.substitute vars) deadline (greatestLooks rig s.limitMs)
        Attempt.log (record e)
        return (.ok, vars.insert name (e.get what))) := by
  unfold performRead Attempt.require
  rw [if_pos hscreen]
  exact ⟨_, rfl⟩

/-- What comes of reading an attribute into a variable. -/
theorem polls_of_performRead {s : Step} {name : String} {selector : Selector} {what : Attribute}
    {vars : Variables} {r : Except StepError Effect} (hscreen : rig.hasScreen = true)
    (hinterval : 0 < rig.settings.pollIntervalMs)
    (h : (performRead rig s (some name) (some selector) what vars).run.Ends t r)
    (hanswered : Plan.AnsweredBy (Surroundings.showing start pictures) t) :
    ∃ count result,
      r = (result.mapError StepError.device).map
        (fun e => (.ok, vars.insert name (e.get what))) ∧
      Polls rig.settings.pollIntervalMs (s.limitMs.getD 0 ⌈/⌉ rig.settings.pollIntervalMs)
        (selector.substitute vars) start pictures t count result := by
  obtain ⟨record, heq⟩ := performRead_eq s name selector what vars hscreen
  rw [heq] at h
  rcases Attempt.ends_run_bind.mp h with
    ⟨e, hdeadline, -⟩ | ⟨u, deadline, v, rfl, hdeadline, hafter⟩
  · cases (ends_deadlineOf hdeadline hanswered).1
  obtain ⟨hmap, hshort⟩ := ends_deadlineOf hdeadline hanswered.of_append
  cases hmap
  have hanswered : Plan.AnsweredBy (Surroundings.showing start pictures) v := by
    rcases hshort with rfl | rfl
    · exact hanswered
    · simpa [Exchange.waitMs, Exchange.looks] using (Plan.answeredBy_showing_cons.mp hanswered).2
  have hlooks : lookTimes start (u ++ v) = lookTimes start v := by
    rcases hshort with rfl | rfl
    · rfl
    · rfl
  have hwaited : waited (u ++ v) = waited v := by
    rcases hshort with rfl | rfl
    · rfl
    · rw [waited_append]
      exact Nat.zero_add _
  rcases Attempt.ends_run_bind.mp hafter with ⟨e, hawait, rfl⟩ | ⟨v, e, y, rfl, hawait, hlog⟩
  · obtain ⟨count, result, hresult, hpolls⟩ := polls_of_awaitElement hinterval hawait hanswered
    refine ⟨count, result, ?_, hpolls.congr hlooks hwaited⟩
    rw [← hresult]
    rfl
  · obtain ⟨count, result, hresult, hpolls⟩ :=
      polls_of_awaitElement hinterval hawait hanswered.of_append
    obtain ⟨_, z, rfl, hdone⟩ := Plan.ends_request_bind.mp hlog
    obtain ⟨rfl, rfl⟩ := Plan.ends_done.mp hdone
    refine ⟨count, result, ?_, hpolls.congr ?_ ?_⟩
    · rw [← hresult]
      rfl
    · rw [hlooks, lookTimes_append]
      exact List.append_nil _
    · rw [hwaited, waited_append]
      rfl

/-- What an iteration leaves behind that has searched an element to keep an attribute of it. -/
def Progress.afterReading (p : Progress) (name : String) (what : Attribute) :
    Except DeviceError Element → Progress × StepOutcome
  | .ok e => ({ p with vars := p.vars.insert name (e.get what) }, .ok)
  | .error cause => (p, .failed (.device cause))

namespace Session

/-- A step that reads an attribute of an element looks at the screen when it begins and after every
    interval. It ends with the first picture that cannot be taken, with its error, or that shows the
    element, whose attribute it keeps; or with the last one that its timeout allows. Only when the
    element is found is a variable changed. -/
theorem executeStep_polls (run : Session) (call : Call) (s : Step) (p : Progress) (name : String)
    (selector : Selector) (what : Attribute)
    (hkind : s.kind = .readToVariable (some name) (some selector) what)
    (hscreen : run.rig.hasScreen = true) (hinterval : 0 < run.rig.settings.pollIntervalMs)
    (start : Nat) (pictures : Nat → Except DeviceError Screen) :
    let interval := run.rig.settings.pollIntervalMs
    let last := s.timeoutMs.elim 0 UInt64.toNat ⌈/⌉ interval
    let x := (run.executeStep call s p).under (.showing start pictures)
    ∃ count result,
      Polls interval last (selector.substitute p.vars) start pictures x.1 count result ∧
        x.2 = p.afterReading name what result := by
  intro interval last x
  obtain ⟨hends, hanswered⟩ := Plan.under_eq_iff.mp (Prod.eta x).symm
  rw [executeStep_of_kind (by simp [hkind])] at hends
  obtain ⟨t, r, u, ht, hperform, hrest⟩ := Plan.ends_bind.mp hends
  rw [Step.perform, hkind] at hperform
  rw [ht] at hanswered
  obtain ⟨count, result, rfl, hpolls⟩ :=
    polls_of_performRead hscreen hinterval hperform hanswered.of_append
  rw [Step.limitMs_getD] at hpolls
  have hdone : u = [] ∧ x.2 = p.afterReading name what result := by
    cases result with
    | ok e => exact Plan.ends_done.mp hrest
    | error cause => exact Plan.ends_done.mp hrest
  obtain ⟨rfl, hresult⟩ := hdone
  rw [List.append_nil] at ht
  exact ⟨count, result, ht ▸ hpolls, hresult⟩

/-- The title appears after the timeout, but before the last look. -/
theorem executeStep_polls_late_title :
    let run : Session := ⟨⟨{ Settings.default with pollIntervalMs := 5 }, true, false, false⟩, "d"⟩
    let call : Call := fun _ p => .done (p, .ok ())
    let sought : Selector := ⟨.resourceId, "title"⟩
    let s : Step := { Step.new "title" (.readToVariable (some "title") (some sought) .text) with
      timeoutMs := some 12 }
    let pictures : Nat → Except DeviceError Screen := fun k =>
      .ok ⟨if k < 3 then [] else [⟨⟨"Inbox", "title", "", "", ""⟩, []⟩]⟩
    let x := (run.executeStep call s ⟨Dict.empty, 1⟩).under (.showing 7 pictures)
    s.kind = .readToVariable (some "title") (some sought) .text ∧ run.rig.hasScreen = true ∧
      0 < run.rig.settings.pollIntervalMs ∧ lookTimes 7 x.1 = [7, 12, 17, 22] ∧
      x.2.1 = ⟨Dict.empty.insert "title" "Inbox", 1⟩ ∧ x.2.2.isFailure = false ∧
      ∃ count result, Polls 5 3 sought 7 pictures x.1 count result := by
  intro run call sought s pictures x
  have hinterval : 0 < run.rig.settings.pollIntervalMs := by decide
  have hsought : sought.substitute Dict.empty = sought := by decide +kernel
  have hlast : 12 ⌈/⌉ 5 = 3 := rfl
  obtain ⟨count, result, hpolls, -⟩ :=
    executeStep_polls run call s ⟨Dict.empty, 1⟩ "title" sought .text rfl rfl hinterval 7 pictures
  have hpolls : Polls 5 (12 ⌈/⌉ 5) (sought.substitute Dict.empty) 7 pictures x.1 count result :=
    hpolls
  rw [hsought, hlast] at hpolls
  exact ⟨rfl, rfl, hinterval, by decide +kernel, by decide +kernel, by decide +kernel,
    count, result, hpolls⟩

end Session

end DeviceFlow
