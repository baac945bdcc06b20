import DeviceFlow.Proofs.Events.Run
import DeviceFlow.Proofs.Watch.Underway
import Mathlib.Data.List.Dedup
import Mathlib.Data.List.Perm.Basic

/-!
# A timeline that devices share

Each device's events give spans of their own. When the iterations of all devices are under way
together, an end takes its start from the device's part of them, and leaves the parts of the
others as they are.

One timeline hears the events of all devices and pairs them without regard to the device. It
gives the spans of every device just when no end is told while a later iteration of the same step
is under way on another device. Two devices that run the same workflow may well break this.
-/

namespace DeviceFlow

/-! ## Devices apart -/

namespace Timeline

variable {start : Nat} {begun : List Begun} {heard : List (Nat × Event)} {i : Iteration}
  {devices : List String} {d : String}

/-- What is found in a part of a list, and what is left of the part without it. -/
theorem find?_filter_on (i : Iteration) (begun : List Begun) :
    (begun.filter (Begun.on i.device)).find? (Begun.sameStep i) =
      begun.find? (Begun.sameSlot i) := by
  rw [List.find?_filter]
  refine congrArg (List.find? · begun) (funext fun b => ?_)
  simp [Begun.on, Begun.sameStep, Begun.sameSlot, Iteration.sameSlot, Bool.and_comm]

theorem eraseP_filter_on (i : Iteration) (begun : List Begun) :
    (begun.filter (Begun.on i.device)).eraseP (Begun.sameStep i) =
      (begun.eraseP (Begun.sameSlot i)).filter (Begun.on i.device) := by
  induction begun with
  | nil => rfl
  | cons b begun ih =>
    by_cases hon : b.on i.device = true
    · by_cases hsame : b.sameStep i = true
      · have hslot : b.sameSlot i = true := by
          simp_all [Begun.on, Begun.sameStep, Begun.sameSlot, Iteration.sameSlot]
        rw [List.filter_cons_of_pos hon, List.eraseP_cons_of_pos hsame,
          List.eraseP_cons_of_pos hslot]
      · have hslot : ¬ b.sameSlot i = true := by
          simp_all [Begun.on, Begun.sameStep, Begun.sameSlot, Iteration.sameSlot]
        rw [List.filter_cons_of_pos hon, List.eraseP_cons_of_neg hsame,
          List.eraseP_cons_of_neg hslot, List.filter_cons_of_pos hon, ih]
    · have hslot : ¬ b.sameSlot i = true := by
        simp_all [Begun.on, Begun.sameSlot, Iteration.sameSlot]
      rw [List.filter_cons_of_neg hon, List.eraseP_cons_of_neg hslot,
        List.filter_cons_of_neg hon, ih]

/-- An end takes nothing from the iterations on other devices. -/
theorem eraseP_filter_other (hd : i.device ≠ d) (begun : List Begun) :
    (begun.eraseP (Begun.sameSlot i)).filter (Begun.on d) = begun.filter (Begun.on d) := by
  induction begun with
  | nil => rfl
  | cons b begun ih =>
    by_cases hslot : b.sameSlot i = true
    · have hon : ¬ b.on d = true := by
        simp_all [Begun.on, Begun.sameSlot, Iteration.sameSlot]
      rw [List.eraseP_cons_of_pos hslot, List.filter_cons_of_neg hon]
    · rw [List.eraseP_cons_of_neg hslot, List.filter_cons, List.filter_cons, ih]

/-- The events that are about a device. -/
def heardOf (d : String) (heard : List (Nat × Event)) : List (Nat × Event) :=
  heard.filter fun h => h.2.device = d

theorem heardOf_cons_of_eq (timeMs : Nat) (e : Event) (hd : e.device = d) :
    heardOf d ((timeMs, e) :: heard) = (timeMs, e) :: heardOf d heard := by
  simp [heardOf, hd]

theorem heardOf_cons_of_ne (timeMs : Nat) (e : Event) (hd : e.device ≠ d) :
    heardOf d ((timeMs, e) :: heard) = heardOf d heard := by
  simp [heardOf, hd]

/-- The spans that the events of some devices lead to, each device for itself, when some
    iterations are under way. -/
def spansApartFrom (start : Nat) (devices : List String) (begun : List Begun)
    (heard : List (Nat × Event)) : List Span :=
  devices.flatMap fun d => spansFrom start (begun.filter (Begun.on d)) (heardOf d heard)

/-- What one device's part of a list begins with can be taken to the front. -/
theorem perm_flatMap_of_mem {f g : String → List Span} {front : List Span}
    (hdevices : devices.Nodup) (hd : d ∈ devices) (hown : f d = front ++ g d)
    (hother : ∀ d', d ≠ d' → f d' = g d') :
    (devices.flatMap f).Perm (front ++ devices.flatMap g) := by
  have hsplit := List.perm_cons_erase hd
  have hrest : (devices.erase d).flatMap f = (devices.erase d).flatMap g := by
    refine List.flatMap_congr fun d' hd' => hother d' ?_
    rintro rfl
    exact hdevices.not_mem_erase hd'
  have hf := hsplit.flatMap_right f
  have hg := hsplit.flatMap_right g
  rw [List.flatMap_cons, hown, hrest, List.append_assoc] at hf
  rw [List.flatMap_cons] at hg
  exact hf.trans (hg.symm.append_left front)

theorem spansApartFrom_started (timeMs : Nat) :
    spansApartFrom start devices begun ((timeMs, .stepStarted i) :: heard) =
      spansApartFrom start devices (⟨i, timeMs - start⟩ :: begun) heard := by
  refine List.flatMap_congr fun d _ => ?_
  by_cases hd : i.device = d
  · have hon : Begun.on d ⟨i, timeMs - start⟩ = true := by simp [Begun.on, hd]
    rw [heardOf_cons_of_eq timeMs (.stepStarted i) hd, spansFrom_started,
      List.filter_cons_of_pos hon]
  · have hon : ¬ Begun.on d ⟨i, timeMs - start⟩ = true := by simp [Begun.on, hd]
    rw [heardOf_cons_of_ne timeMs (.stepStarted i) hd, List.filter_cons_of_neg hon]

theorem spansApartFrom_ended (hdevices : devices.Nodup) (hd : i.device ∈ devices)
    (timeMs durationMs : Nat) (success : Bool) (error : Option String) :
    (spansApartFrom start devices begun
        ((timeMs, .stepEnded i success durationMs error) :: heard)).Perm
      (((begun.find? (Begun.sameSlot i)).map (·.span (timeMs - start) success)).toList ++
        spansApartFrom start devices (begun.eraseP (Begun.sameSlot i)) heard) := by
  have hown : heardOf i.device ((timeMs, .stepEnded i success durationMs error) :: heard) =
      (timeMs, .stepEnded i success durationMs error) :: heardOf i.device heard :=
    heardOf_cons_of_eq timeMs _ rfl
  refine perm_flatMap_of_mem hdevices hd ?_ fun d' hd' => ?_
  · rw [hown, spansFrom_ended, find?_filter_on, eraseP_filter_on]
  · rw [heardOf_cons_of_ne timeMs (.stepEnded i success durationMs error) hd',
      eraseP_filter_other hd']

theorem spansApartFrom_other {timeMs : Nat} {e : Event} (he : e.mark? timeMs = none) :
    spansApartFrom start devices begun ((timeMs, e) :: heard) =
      spansApartFrom start devices begun heard := by
  refine List.flatMap_congr fun d _ => ?_
  by_cases hd : e.device = d
  · rw [heardOf_cons_of_eq timeMs e hd, spansFrom_other he]
  · rw [heardOf_cons_of_ne timeMs e hd]

/-- Every span of a device ends at the time of an event. -/
theorem endMs_of_mem_spansApartFrom {s : Span}
    (h : s ∈ spansApartFrom start devices begun heard) : ∃ x ∈ heard, s.endMs = x.1 - start := by
  obtain ⟨d, _, hs⟩ := List.mem_flatMap.mp h
  obtain ⟨x, hx, hend⟩ := endMs_of_mem_spansFrom hs
  exact ⟨x, (List.mem_filter.mp hx).1, hend⟩

end Timeline

/-! ## One timeline for all devices -/

namespace Timeline

variable {start : Nat} {begun : List Begun} {heard : List (Nat × Event)} {i : Iteration}
  {devices : List String}

/-- When the latest iteration of a step is on the device of the one that ends, it is also the
    latest one on that device. -/
theorem sameSlot_of_latest
    (h : ∀ b, begun.find? (Begun.sameStep i) = some b → b.iteration.device = i.device) :
    begun.find? (Begun.sameSlot i) = begun.find? (Begun.sameStep i) ∧
      begun.eraseP (Begun.sameSlot i) = begun.eraseP (Begun.sameStep i) := by
  induction begun with
  | nil => exact ⟨rfl, rfl⟩
  | cons b begun ih =>
    by_cases hsame : b.sameStep i = true
    · have hdevice : b.iteration.device = i.device := h b (List.find?_cons_of_pos hsame)
      have hslot : b.sameSlot i = true :=
        Bool.and_eq_true_iff.mpr ⟨hsame, decide_eq_true hdevice⟩
      rw [List.find?_cons_of_pos hsame, List.find?_cons_of_pos hslot,
        List.eraseP_cons_of_pos hsame, List.eraseP_cons_of_pos hslot]
      exact ⟨rfl, rfl⟩
    · have hslot : ¬ b.sameSlot i = true := by
        intro hslot
        exact hsame (Bool.and_eq_true_iff.mp hslot).1
      rw [List.find?_cons_of_neg hsame, List.find?_cons_of_neg hslot,
        List.eraseP_cons_of_neg hsame, List.eraseP_cons_of_neg hslot]
      obtain ⟨hfind, herase⟩ := ih fun c hc => h c ((List.find?_cons_of_neg hsame).trans hc)
      exact ⟨hfind, congrArg (b :: ·) herase⟩

theorem untangled_ended_iff {success : Bool} {durationMs : Nat} {error : Option String}
    {rest : List Event} :
    Untangled (begun.map Begun.iteration) (.stepEnded i success durationMs error :: rest) ↔
      (∀ b, begun.find? (Begun.sameStep i) = some b → b.iteration.device = i.device) ∧
        Untangled ((begun.eraseP (Begun.sameSlot i)).map Begun.iteration) rest := by
  rw [Untangled, List.find?_map, List.eraseP_map]
  refine and_congr ⟨fun h b hb => ?_, fun h j hj => ?_⟩ Iff.rfl
  · exact h b.iteration (congrArg (Option.map Begun.iteration) hb)
  · obtain ⟨b, hb, rfl⟩ := Option.map_eq_some_iff.mp hj
    exact h b hb

/-- As long as nothing gets tangled, the spans are those of all devices. -/
theorem spansFrom_perm_spansApartFrom (hdevices : devices.Nodup)
    (hcover : ∀ x ∈ heard, x.2.device ∈ devices)
    (h : Untangled (begun.map Begun.iteration) (heard.map Prod.snd)) :
    (spansFrom start begun heard).Perm (spansApartFrom start devices begun heard) := by
  induction heard generalizing begun with
  | nil => simp [spansApartFrom, heardOf]
  | cons x heard ih =>
    obtain ⟨timeMs, e⟩ := x
    have hrest : ∀ x ∈ heard, x.2.device ∈ devices :=
      fun x hx => hcover x (List.mem_cons_of_mem _ hx)
    cases e with
    | stepStarted i =>
      rw [spansFrom_started, spansApartFrom_started]
      exact ih hrest h
    | stepEnded i success durationMs error =>
      obtain ⟨hlatest, hafter⟩ := untangled_ended_iff.mp h
      obtain ⟨hfind, herase⟩ := sameSlot_of_latest hlatest
      have hown : i.device ∈ devices := hcover _ (List.mem_cons_self ..)
      have htail := ih hrest hafter
      rw [spansFrom_ended]
      refine .trans ?_ (spansApartFrom_ended hdevices hown timeMs durationMs success error).symm
      rw [hfind, herase] at *
      exact htail.append_left _
    | runStarted | runCompleted | runFailed =>
      rw [spansFrom_other rfl, spansApartFrom_other rfl]
      exact ih hrest h

/-- What two lists have in front of them is the same, if they are the same up to order and nothing
    behind ends at that time. -/
theorem front_eq_of_perm {x y : Option Span} {l r : List Span} {endMs : Nat}
    (hperm : (x.toList ++ l).Perm (y.toList ++ r)) (hx : ∀ s ∈ x, s.endMs = endMs)
    (hy : ∀ s ∈ y, s.endMs = endMs) (hl : ∀ s ∈ l, s.endMs ≠ endMs)
    (hr : ∀ s ∈ r, s.endMs ≠ endMs) : x = y ∧ l.Perm r := by
  have hfront : ∀ {z : Option Span} {m : List Span}, (∀ s ∈ z, s.endMs = endMs) →
      (∀ s ∈ m, s.endMs ≠ endMs) → (z.toList ++ m).filter (·.endMs = endMs) = z.toList := by
    intro z m hz hm
    have hnone : m.filter (·.endMs = endMs) = [] :=
      List.filter_eq_nil_iff.mpr fun s hs h => hm s hs (of_decide_eq_true h)
    rw [List.filter_append, hnone, List.append_nil]
    exact List.filter_eq_self.mpr fun s hs => decide_eq_true (hz s (Option.mem_toList.mp hs))
  have htold := hperm.filter (·.endMs = endMs)
  rw [hfront hx hl, hfront hy hr] at htold
  have heq : x = y := by
    cases x with
    | none => exact (Option.toList_eq_nil_iff.mp htold.symm.eq_nil).symm
    | some s =>
      have hlist : y.toList = [s] := htold.symm.eq_singleton
      exact (Option.mem_toList.mp (hlist ▸ List.mem_singleton_self s)).symm
  subst heq
  exact ⟨rfl, (List.perm_append_left_iff _).mp hperm⟩

/-- Where all events have times of their own, the spans are those of all devices only if nothing
    gets tangled: the first end that is would get a wrong start. -/
theorem untangled_of_perm (hdevices : devices.Nodup) (hcover : ∀ x ∈ heard, x.2.device ∈ devices)
    (hstart : ∀ x ∈ heard, start ≤ x.1) (horder : heard.Pairwise fun x y => x.1 < y.1)
    (hbegun : (begun.map Begun.startMs).Nodup)
    (hbefore : ∀ b ∈ begun, ∀ x ∈ heard, b.startMs < x.1 - start)
    (hperm : (spansFrom start begun heard).Perm (spansApartFrom start devices begun heard)) :
    Untangled (begun.map Begun.iteration) (heard.map Prod.snd) := by
  induction heard generalizing begun with
  | nil => trivial
  | cons x heard ih =>
    obtain ⟨timeMs, e⟩ := x
    obtain ⟨hnext, horder⟩ := List.pairwise_cons.mp horder
    have hnow : start ≤ timeMs := hstart _ (List.mem_cons_self ..)
    have hlater : ∀ x ∈ heard, timeMs - start < x.1 - start := by
      intro x hx
      have hlt : timeMs < x.1 := hnext x hx
      omega
    have hrest : ∀ begun : List Begun, (begun.map Begun.startMs).Nodup →
        (∀ b ∈ begun, ∀ x ∈ heard, b.startMs < x.1 - start) →
        (spansFrom start begun heard).Perm (spansApartFrom start devices begun heard) →
          Untangled (begun.map Begun.iteration) (heard.map Prod.snd) :=
      fun _ => ih (fun x hx => hcover x (List.mem_cons_of_mem _ hx))
        (fun x hx => hstart x (List.mem_cons_of_mem _ hx)) horder
    have hkept : ∀ b ∈ begun, ∀ x ∈ heard, b.startMs < x.1 - start :=
      fun b hb x hx => hbefore b hb x (List.mem_cons_of_mem _ hx)
    cases e with
    | stepStarted i =>
      rw [spansFrom_started, spansApartFrom_started] at hperm
      refine hrest (⟨i, timeMs - start⟩ :: begun) ?_ ?_ hperm
      · rw [List.map_cons, List.nodup_cons]
        refine ⟨fun hmem => ?_, hbegun⟩
        obtain ⟨b, hb, heq⟩ := List.mem_map.mp hmem
        have hlt := hbefore b hb _ (List.mem_cons_self ..)
        exact absurd heq (Nat.ne_of_lt hlt)
      · intro b hb
        rcases List.mem_cons.mp hb with rfl | hb
        · exact hlater
        · exact hkept b hb
    | stepEnded i success durationMs error =>
      have hown : i.device ∈ devices := hcover _ (List.mem_cons_self ..)
      rw [spansFrom_ended] at hperm
      have hmoved :=
        hperm.trans (spansApartFrom_ended hdevices hown timeMs durationMs success error)
      have hends : ∀ {b? : Option Begun}, ∀ s ∈ b?.map (·.span (timeMs - start) success),
          s.endMs = timeMs - start := by
        intro b? s hs
        obtain ⟨b, _, rfl⟩ := Option.map_eq_some_iff.mp hs
        rfl
      obtain ⟨hspan, htail⟩ := front_eq_of_perm hmoved hends hends
        (fun s hs => by
          obtain ⟨x, hx, hend⟩ := endMs_of_mem_spansFrom hs
          have := hlater x hx
          omega)
        (fun s hs => by
          obtain ⟨x, hx, hend⟩ := endMs_of_mem_spansApartFrom hs
          have := hlater x hx
          omega)
      have hlatest : ∀ b, begun.find? (Begun.sameStep i) = some b →
          b.iteration.device = i.device := by
        intro b hb
        rw [hb] at hspan
        obtain ⟨c, hc, heq⟩ := Option.map_eq_some_iff.mp hspan.symm
        have hmoment : c.startMs = b.startMs := congrArg Span.startMs heq
        have hsame : c = b := List.inj_on_of_nodup_map hbegun (List.mem_of_find?_eq_some hc)
          (List.mem_of_find?_eq_some hb) hmoment
        subst hsame
        have hslot : c.sameSlot i = true := List.find?_some hc
        exact of_decide_eq_true (Bool.and_eq_true_iff.mp hslot).2
      refine untangled_ended_iff.mpr ⟨hlatest, hrest _ ?_ ?_ ?_⟩
      · exact hbegun.sublist (List.eraseP_sublist.map _)
      · exact fun b hb => hkept b (List.mem_of_mem_eraseP hb)
      · rwa [← (sameSlot_of_latest hlatest).2] at htail
    | runStarted | runCompleted | runFailed =>
      rw [spansFrom_other rfl, spansApartFrom_other rfl] at hperm
      exact hrest _ hbegun hkept hperm

/-- The spans that the events of each device would give alone, at the same times. -/
def spansApart (start : Nat) (heard : List (Nat × Event)) : List Span :=
  (heard.map (·.2.device)).dedup.flatMap fun d => (ofEvents start (heardOf d heard)).spans

theorem spansApart_perm (start : Nat) (heard : List (Nat × Event)) :
    (spansApart start heard).Perm
      (spansApartFrom start (heard.map (·.2.device)).dedup [] heard) :=
  List.Perm.flatMap_left _ fun d _ => spans_perm_spansFrom start (heardOf d heard)

/-- A timeline that devices share gives the spans of all of them if no end is told while a later
    iteration of the same step is under way on another device; and where all events have times of
    their own, only then. -/
theorem spans_perm_spansApart (start : Nat) (heard : List (Nat × Event)) :
    (Untangled [] (heard.map Prod.snd) →
      (ofEvents start heard).spans.Perm (spansApart start heard)) ∧
    ((∀ x ∈ heard, start ≤ x.1) → (heard.Pairwise fun x y => x.1 < y.1) →
      (ofEvents start heard).spans.Perm (spansApart start heard) →
        Untangled [] (heard.map Prod.snd)) := by
  have hspans := spans_perm_spansFrom start heard
  have hapart := spansApart_perm start heard
  have hdevices := (heard.map (·.2.device)).nodup_dedup
  have hcover : ∀ x ∈ heard, x.2.device ∈ (heard.map (·.2.device)).dedup :=
    fun x hx => List.mem_dedup.mpr (List.mem_map_of_mem hx)
  constructor
  · intro h
    exact (hspans.trans (spansFrom_perm_spansApartFrom hdevices hcover h)).trans hapart.symm
  · intro hstart horder hperm
    have hboth := (hspans.symm.trans hperm).trans hapart
    exact untangled_of_perm hdevices hcover hstart horder (by simp) (by simp) hboth

/-- An iteration of a step of a workflow that two devices run. -/
def tapOn (device : String) : Iteration := ⟨device, "login", "tap", "tap", 1⟩

/-- A device taps while another one does so. -/
def nested : List (Nat × Event) :=
  [(0, .stepStarted (tapOn "a")), (10, .stepStarted (tapOn "b")),
    (20, .stepEnded (tapOn "b") true 10 none), (30, .stepEnded (tapOn "a") false 30 none)]

theorem spans_perm_nested :
    (ofEvents 0 nested).spans.Perm (spansApart 0 nested) ∧
      Untangled [] (nested.map Prod.snd) := by
  have huntangled : Untangled [] (nested.map Prod.snd) := by decide
  have hperm := (spans_perm_spansApart 0 nested).1 huntangled
  refine ⟨hperm, (spans_perm_spansApart 0 nested).2 ?_ ?_ hperm⟩
  · simp
  · simp [nested]

/-- A device begins to tap while another one does so, and ends after it. -/
def crossing : List (Nat × Event) :=
  [(0, .stepStarted (tapOn "a")), (10, .stepStarted (tapOn "b")),
    (20, .stepEnded (tapOn "a") true 20 none), (30, .stepEnded (tapOn "b") false 20 none)]

/-- The events of each device are bracketed, but the two spans get each other's starts. -/
theorem not_spans_perm_crossing :
    (∀ d, Bracketed ((heardOf d crossing).map Prod.snd)) ∧
      (ofEvents 0 crossing).spans.Perm
        [⟨"login", "tap", 10, 20, true⟩, ⟨"login", "tap", 0, 30, false⟩] ∧
      (spansApart 0 crossing).Perm
        [⟨"login", "tap", 0, 20, true⟩, ⟨"login", "tap", 10, 30, false⟩] ∧
      ¬ (ofEvents 0 crossing).spans.Perm (spansApart 0 crossing) := by
  have hshared : (ofEvents 0 crossing).spans.Perm
      [⟨"login", "tap", 10, 20, true⟩, ⟨"login", "tap", 0, 30, false⟩] :=
    spans_perm_spansFrom 0 crossing
  have hapart : (spansApart 0 crossing).Perm
      [⟨"login", "tap", 0, 20, true⟩, ⟨"login", "tap", 10, 30, false⟩] :=
    spansApart_perm 0 crossing
  refine ⟨fun d => ?_, hshared, hapart, fun hperm => ?_⟩
  · by_cases ha : d = "a"
    · subst ha
      exact .iteration .nil .nil
    · by_cases hb : d = "b"
      · subst hb
        exact .iteration .nil .nil
      · have hnone : heardOf d crossing = [] := by
          simp [heardOf, crossing, Event.device, tapOn, Ne.symm ha, Ne.symm hb]
        rw [hnone]
        exact .nil
  · have hboth := (hshared.symm.trans hperm).trans hapart
    revert hboth
    decide

end Timeline

end DeviceFlow
