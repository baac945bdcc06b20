import DeviceFlow.Rehearsal.Task

/-!
# What a device sees of a scene

A run on a device depends on a scene only by the time, by the files, and by what is remembered of
this device, as long as its helpers answer per device. What happens to requests of runs on other
devices changes nothing of this.
-/

namespace DeviceFlow.Rehearsal

/-- Two scenes are alike for a device: whatever its helpers go by is the same in both. -/
structure Scene.Alike (device : String) (s s' : Scene) : Prop where
  nowMs : s'.nowMs = s.nowMs
  files : s'.files = s.files
  asked : s'.asked.get? device = s.asked.get? device
  calls : s'.calls.get? device = s.calls.get? device
  shells : s'.shells.get? device = s.shells.get? device
  plays : s'.plays.get? device = s.plays.get? device

namespace Scene.Alike

variable {device : String} {s s' s'' : Scene}

theorem refl (device : String) (s : Scene) : Alike device s s := ⟨rfl, rfl, rfl, rfl, rfl, rfl⟩

theorem symm (h : Alike device s s') : Alike device s' s :=
  ⟨h.nowMs.symm, h.files.symm, h.asked.symm, h.calls.symm, h.shells.symm, h.plays.symm⟩

theorem trans (h : Alike device s s') (h' : Alike device s' s'') : Alike device s s'' :=
  ⟨h'.nowMs.trans h.nowMs, h'.files.trans h.files, h'.asked.trans h.asked,
    h'.calls.trans h.calls, h'.shells.trans h.shells, h'.plays.trans h.plays⟩

/-- Lines of the log are not seen. -/
theorem keep (device : String) (s : Scene) (records : List LogRecord) :
    Alike device s (s.keep records) :=
  ⟨rfl, rfl, rfl, rfl, rfl, rfl⟩

theorem date (h : Alike device s s') : s'.date = s.date := by
  unfold Scene.date
  rw [h.nowMs]

theorem pass (h : Alike device s s') (ms : Nat) : Alike device (s.pass ms) (s'.pass ms) :=
  ⟨congrArg (· + ms) h.nowMs, h.files, h.asked, h.calls, h.shells, h.plays⟩

/-- Time passes as well in two stretches as in one. -/
theorem pass_add (device : String) (s : Scene) (ms ms' : Nat) :
    Alike device (s.pass (ms + ms')) ((s.pass ms).pass ms') :=
  ⟨Nat.add_assoc .., rfl, rfl, rfl, rfl, rfl⟩

/-- No time passes up to a moment that has come. -/
theorem pass_of_due (device : String) {s : Scene} {untilMs : Nat} (h : untilMs ≤ s.nowMs) :
    Alike device s (s.pass (untilMs - s.nowMs)) := by
  rw [Nat.sub_eq_zero_of_le h]
  exact ⟨rfl, rfl, rfl, rfl, rfl, rfl⟩

theorem askedFor (h : Alike device s s') : s'.askedFor device = s.askedFor device := by
  unfold Scene.askedFor Dict.getD
  rw [h.asked]

/-- What is asked for the device is remembered in the same way. -/
theorem hear (h : Alike device s s') (q : Request) :
    Alike device (s.hear device q) (s'.hear device q) := by
  refine ⟨h.nowMs, h.files, ?_, h.calls, h.shells, h.plays⟩
  unfold Scene.hear
  rw [h.askedFor, h.nowMs]
  simp [Dict.get?_insert]

/-- What is asked for another device is not seen. -/
theorem hear_of_ne {other : String} (hother : other ≠ device) (s : Scene) (q : Request) :
    Alike other s (s.hear device q) := by
  refine ⟨rfl, rfl, ?_, rfl, rfl, rfl⟩
  simp [Scene.hear, Dict.get?_insert, Ne.symm hother]

end Scene.Alike

namespace Cast

/-- Something concerns one device only: its outcome is the same in scenes that are alike for this
    device, and leaves them alike; and other devices see nothing of it. -/
structure Local {α : Type} (device : String) (f : Scene → Scene × α) : Prop where
  own : ∀ {s s' : Scene}, s.Alike device s' →
    (f s).1.Alike device (f s').1 ∧ (f s').2 = (f s).2
  others : ∀ {other : String} (s : Scene), other ≠ device → s.Alike other (f s).1

/-- What happens to a request concerns one device only, and so does what comes of it later. -/
structure LocalTurn {α : Type} (device : String) (f : Scene → Scene × Turn α) : Prop
    extends Local device f where
  later : ∀ {s : Scene} {ms : Nat} {finish : Scene → Scene × α},
    (f s).2 = .later ms finish → Local device finish

variable {α : Type} {device : String}

/-- Nothing is seen of what leaves scenes alike for every device. -/
theorem local_of_unseen {f : Scene → Scene × α}
    (hunseen : ∀ other (s : Scene), s.Alike other (f s).1)
    (hanswer : ∀ s s' : Scene, s.Alike device s' → (f s').2 = (f s).2) : Local device f where
  own h := ⟨(hunseen device _).symm.trans (h.trans (hunseen device _)), hanswer _ _ h⟩
  others s _ := hunseen _ s

theorem local_answer (device : String) (a : α) : Local device fun s => (s, a) :=
  local_of_unseen (fun other s => .refl other s) fun _ _ _ => rfl

/-- A request that is answered at once. -/
theorem localTurn_now {f : Scene → Scene × α} (h : Local device f) :
    LocalTurn device fun s => ((f s).1, .now (f s).2) where
  own halike := ⟨(h.own halike).1, congrArg Turn.now (h.own halike).2⟩
  others := h.others
  later hlater := by cases hlater

/-- A turn that goes by what has been asked for the device, this request included. -/
theorem LocalTurn.hear {f : Scene → Scene × Turn α} (h : LocalTurn device f) (q : Request) :
    LocalTurn device fun s => f (s.hear device q) where
  own halike := h.own (halike.hear q)
  others s hother := (Scene.Alike.hear_of_ne hother s q).trans (h.others _ hother)
  later := h.later

/-- A request whose time begins after some change. -/
theorem localTurn_timed {change : Scene → Scene} {finish : Scene → Scene → Scene × α}
    (hchange : Local device fun s => (change s, finish s))
    (hfinish : ∀ s, Local device (finish s)) (ms : Nat) :
    LocalTurn device fun s => timed ms (change s) (finish s) := by
  unfold timed
  by_cases hms : ms = 0
  · simp only [hms, if_true]
    refine localTurn_now (f := fun s => finish s (change s)) ⟨fun {s s'} h => ?_, ?_⟩
    · obtain ⟨halike, hsame⟩ := hchange.own h
      dsimp only at hsame ⊢
      rw [hsame]
      exact (hfinish s).own halike
    · intro other s hother
      exact (hchange.others s hother).trans ((hfinish s).others _ hother)
  · simp only [hms, if_false]
    refine ⟨⟨fun {s s'} h => ?_, hchange.others⟩, fun {s} _ _ hlater => ?_⟩
    · obtain ⟨halike, hsame⟩ := hchange.own h
      dsimp only at hsame ⊢
      exact ⟨halike, by rw [hsame]⟩
    · cases hlater
      exact hfinish s

theorem localTurn_beginHabit (habit : Habit α) (device : String) :
    LocalTurn device (beginHabit habit device) := by
  refine ⟨⟨fun {s s'} h => ?_, fun {other} s _ => ?_⟩, fun {s ms finish} hlater => ?_⟩
  · unfold beginHabit timed
    rw [h.askedFor]
    dsimp only
    split
    · exact ⟨h, rfl⟩
    · exact ⟨h, rfl⟩
  · unfold beginHabit timed
    dsimp only
    split
    · exact .refl other s
    · exact .refl other s
  · unfold beginHabit timed at hlater
    dsimp only at hlater
    split at hlater
    · cases hlater
    · cases hlater
      exact local_answer device _

theorem local_finishCall (part : DevicePart) (device : String) (number : Nat)
    (call : DeviceCall) : Local device (finishCall part device number call) := by
  unfold finishCall
  cases part.mishaps.at? number with
  | some e => exact local_answer device _
  | none =>
    cases call with
    | shell command =>
      refine ⟨fun {s s'} h => ?_, fun {other} s hother => ?_⟩
      · have hcount : s'.shells.getD device 0 = s.shells.getD device 0 := by
          unfold Dict.getD
          rw [h.shells]
        dsimp only
        rw [hcount]
        refine ⟨⟨h.nowMs, h.files, h.asked, h.calls, ?_, h.plays⟩, rfl⟩
        simp [Dict.get?_insert]
      · refine ⟨rfl, rfl, rfl, rfl, ?_, rfl⟩
        simp [Dict.get?_insert, Ne.symm hother]
    | _ => exact local_answer device _

/-- A program knows nothing of scenes. -/
theorem local_runStandIn (device serial command : String)
    (standIn : Except Adb.LaunchError Script) :
    Local device (runStandIn serial command standIn) := by
  unfold runStandIn
  cases standIn with
  | error e => exact local_answer device _
  | ok script =>
    refine local_of_unseen (fun other s => ?_) fun s s' _ => rfl
    dsimp only
    split
    · exact ⟨rfl, rfl, rfl, rfl, rfl, rfl⟩
    · exact .refl other s

theorem local_callProgram (device program : String) (standIn : Except Adb.LaunchError Script)
    (call : DeviceCall) : Local device (callProgram device program standIn call) := by
  have hcommand : ∀ command, Local device fun s =>
      let r := runStandIn device command standIn (s.keep (Adb.commandLog device command))
      (r.1.keep (Adb.resultLog device command r.2), Adb.result program r.2) := by
    intro command
    have hstandIn := local_runStandIn device device command standIn
    have hkeep : ∀ s : Scene, s.Alike device (s.keep (Adb.commandLog device command)) :=
      fun s => .keep device s _
    refine ⟨fun {s s'} h => ?_, fun {other} s hother => ?_⟩
    · obtain ⟨halike, hended⟩ := hstandIn.own ((hkeep s).symm.trans (h.trans (hkeep s')))
      refine ⟨(Scene.Alike.keep device _ _).symm.trans (halike.trans (.keep device _ _)), ?_⟩
      exact congrArg (Adb.result program) hended
    · exact ((Scene.Alike.keep other s _).trans (hstandIn.others _ hother)).trans
        (.keep other _ _)
  unfold callProgram
  cases call with
  | element selector action ms =>
    exact local_of_unseen (fun other s => .keep other s _) fun _ _ _ => rfl
  | shell | tap | swipe | keyEvent | app =>
    dsimp only
    cases Adb.command? _ with
    | none => exact local_answer device _
    | some command => exact hcommand command

variable (cast : Cast)

theorem localTurn_beginCall (device : String) (call : DeviceCall) :
    LocalTurn device (cast.beginCall device call) := by
  unfold beginCall
  cases cast.device with
  | dryRun =>
    exact localTurn_now (f := fun s =>
        (s.keep [call.dryRunRecord device], (Except.ok "" : Except DeviceError String)))
      (local_of_unseen (fun other s => .keep other s _) fun _ _ _ => rfl)
  | adb program standIn => exact localTurn_now (local_callProgram device program standIn call)
  | acting habit => exact localTurn_beginHabit habit device
  | scripted part =>
    have hnumber : ∀ {s s' : Scene}, s.Alike device s' →
        s'.calls.getD device [] = s.calls.getD device [] := by
      intro s s' h
      unfold Dict.getD
      rw [h.calls]
    apply localTurn_timed
    · refine ⟨fun {s s'} h => ?_, fun {other} s hother => ?_⟩
      · dsimp only
        rw [hnumber h]
        refine ⟨⟨h.nowMs, h.files, h.asked, ?_, h.shells, h.plays⟩, rfl⟩
        simp [Dict.get?_insert]
      · refine ⟨rfl, rfl, rfl, ?_, rfl, rfl⟩
        simp [Dict.get?_insert, Ne.symm hother]
    · exact fun s => local_finishCall ..

theorem localTurn_beginPlay (device name : String) :
    LocalTurn device (cast.beginPlay device name) := by
  unfold beginPlay
  cases cast.player with
  | absent => exact localTurn_now (local_answer device (Except.ok () : Except DeviceError Unit))
  | dryRun =>
    exact localTurn_now (f := fun s =>
        (s.keep [scriptDryRunRecord device name], (Except.ok () : Except DeviceError Unit)))
      (local_of_unseen (fun other s => .keep other s _) fun _ _ _ => rfl)
  | acting habit => exact localTurn_beginHabit habit device
  | scripted mishaps delayMs =>
    have hplays : ∀ {s s' : Scene}, s.Alike device s' →
        s'.plays.getD device [] = s.plays.getD device [] := by
      intro s s' h
      unfold Dict.getD
      rw [h.plays]
    apply localTurn_timed
    · refine ⟨fun {s s'} h => ?_, fun {other} s hother => ?_⟩
      · dsimp only
        rw [hplays h]
        refine ⟨⟨h.nowMs, h.files, h.asked, h.calls, h.shells, ?_⟩, rfl⟩
        simp [Dict.get?_insert]
      · refine ⟨rfl, rfl, rfl, rfl, rfl, ?_⟩
        simp [Dict.get?_insert, Ne.symm hother]
    · intro s
      cases mishaps.at? _ with
      | some e => exact local_answer device _
      | none => exact local_answer device _

theorem alike_beginLook (device other : String) (s : Scene) :
    s.Alike other (cast.beginLook device s).1 := by
  unfold beginLook
  cases cast.screen with
  | absent | still => exact .refl other s
  | changing first rest => exact ⟨rfl, rfl, rfl, rfl, rfl, rfl⟩
  | acting habit =>
    dsimp only
    unfold beginHabit timed
    dsimp only
    split
    · exact .refl other s
    · exact .refl other s

theorem local_of_later_beginLook {s : Scene} {ms : Nat}
    {finish : Scene → Scene × Except DeviceError Screen}
    (hlater : (cast.beginLook device s).2 = .later ms finish) : Local device finish := by
  unfold beginLook at hlater
  cases hscreen : cast.screen with
  | absent | still | changing =>
    rw [hscreen] at hlater
    cases hlater
  | acting habit =>
    rw [hscreen] at hlater
    exact (localTurn_beginHabit habit device).later hlater

theorem localTurn_beginLoad (device id : String) : LocalTurn device (cast.beginLoad id) := by
  unfold beginLoad
  cases cast.store with
  | absent => exact localTurn_now (f := fun s => (s, _)) (local_answer device _)
  | memory store => exact localTurn_now (f := fun s => (s, _)) (local_answer device _)
  | directory store =>
    refine localTurn_now (f := fun s => (s.keep (store.loadLog s.files id), _)) ?_
    refine local_of_unseen (fun other s => .keep other s _) fun s s' h => ?_
    dsimp only
    rw [h.files]
  | serving answers =>
    exact @localTurn_timed _ device (fun s => s) (fun _ scene => (scene, (answers id).2))
      ⟨fun h => ⟨h, rfl⟩, fun s _ => .refl _ s⟩ (fun _ => local_answer device _) _

theorem alike_tell (device : String) (e : Event) (s : Scene) : s.Alike device (cast.tell e s) := by
  unfold tell
  dsimp only
  split
  · exact ⟨rfl, rfl, rfl, rfl, rfl, rfl⟩
  · exact ⟨rfl, rfl, rfl, rfl, rfl, rfl⟩

/-- Every request of a run concerns only the device of the run, if looks at the screen do. -/
theorem localTurn_begin (device : String) (isCancelled : Bool) (q : Request)
    (hlook : ∀ {s s' : Scene}, s.Alike device s' →
      (cast.beginLook device (s'.hear device .look)).2 =
        (cast.beginLook device (s.hear device .look)).2) :
    LocalTurn device (cast.begin device (fun _ => isCancelled) q) := by
  cases q with
  | log record =>
    exact localTurn_now (f := fun s => (s.keep [record], ()))
      (local_of_unseen (fun other s => .keep other s _) fun _ _ _ => rfl)
  | emit e =>
    exact localTurn_now (f := fun s => (cast.tell e s, ()))
      (local_of_unseen (fun other s => cast.alike_tell other e s) fun _ _ _ => rfl)
  | clock =>
    exact localTurn_now (f := fun s => (s, s.nowMs))
      (local_of_unseen (fun other s => .refl other s) fun _ _ h => h.nowMs)
  | date =>
    exact localTurn_now (f := fun s => (s, s.date))
      (local_of_unseen (fun other s => .refl other s) fun _ _ h => h.date)
  | isCancelled => exact localTurn_now (local_answer device isCancelled)
  | sleep ms => exact ⟨⟨fun h => ⟨h, rfl⟩, fun s _ => .refl _ s⟩, fun h => by cases h⟩
  | perform call => exact (cast.localTurn_beginCall device call).hear _
  | play name => exact (cast.localTurn_beginPlay device name).hear _
  | look =>
    have hunseen : ∀ s : Scene, (s.hear device .look).Alike device
        (cast.beginLook device (s.hear device .look)).1 :=
      fun s => cast.alike_beginLook device device _
    refine ⟨⟨fun {s s'} halike => ⟨?_, hlook halike⟩, fun s hother => ?_⟩,
      cast.local_of_later_beginLook⟩
    · exact (hunseen s).symm.trans ((halike.hear _).trans (hunseen s'))
    · exact (Scene.Alike.hear_of_ne hother s _).trans (cast.alike_beginLook device _ _)
  | load id => exact cast.localTurn_beginLoad device id

/-- The helpers answer per serial: what comes of a request for a device goes by nothing but what
    this device sees. -/
def AnswersPerSerial (cast : Cast) : Prop :=
  ∀ (device : String) (q : Request) {s s' : Scene}, s.Alike device s' →
    (cast.begin device (fun _ => false) q s').2 = (cast.begin device (fun _ => false) q s).2

variable {cast} in
theorem AnswersPerSerial.localTurn_begin (h : cast.AnswersPerSerial) (device : String)
    (isCancelled : Bool) (q : Request) :
    LocalTurn device (cast.begin device (fun _ => isCancelled) q) :=
  cast.localTurn_begin device isCancelled q (h device .look)

variable {cast} in
/-- Only a screen that the devices look at one after the other is not seen per serial. -/
theorem answersPerSerial_of_screen (h : ∀ first rest, cast.screen ≠ .changing first rest) :
    cast.AnswersPerSerial := by
  intro device q s s' halike
  refine ((cast.localTurn_begin device false q fun {s s'} halike => ?_).own halike).2
  unfold beginLook
  cases hscreen : cast.screen with
  | absent | still => rfl
  | changing first rest => exact absurd hscreen (h first rest)
  | acting habit => exact ((localTurn_beginHabit habit device).own (halike.hear .look)).2

variable {cast} in
/-- Other devices see nothing of a plan that goes on as far as it can. -/
theorem AnswersPerSerial.alike_advance (h : cast.AnswersPerSerial) {other : String}
    (hother : other ≠ device) (isCancelled : Bool) (p : Plan α) (s : Scene) :
    s.Alike other (cast.advance device isCancelled p s).1 := by
  induction p generalizing s with
  | done a => exact .refl other s
  | ask q next ih =>
    have hbegin := (h.localTurn_begin device isCancelled q).others s hother
    unfold advance
    generalize cast.begin device (fun _ => isCancelled) q s = begun at hbegin ⊢
    obtain ⟨scene, turn⟩ := begun
    dsimp only at hbegin ⊢
    split
    · exact hbegin
    · cases turn with
      | now a => exact hbegin.trans (ih a scene)
      | later ms finish => exact hbegin
      | pause ms finish =>
        dsimp only
        split
        · exact hbegin.trans (ih _ scene)
        · split
          · exact hbegin.trans (ih _ scene)
          · exact hbegin

variable {cast} in
/-- What a plan waits for concerns its device only. -/
theorem AnswersPerSerial.local_resume (h : cast.AnswersPerSerial) {isCancelled : Bool}
    {p : Plan α} {s : Scene} {untilMs : Nat} {resume : Scene → Scene × Plan α}
    (hbusy : (cast.advance device isCancelled p s).2 = .busy untilMs resume) :
    Local device resume := by
  induction p generalizing s with
  | done a => cases hbusy
  | ask q next ih =>
    have hlater : ∀ ms finish, (cast.begin device (fun _ => isCancelled) q s).2 =
        .later ms finish → Local device finish :=
      fun ms finish => (h.localTurn_begin device isCancelled q).later
    unfold advance at hbusy
    generalize cast.begin device (fun _ => isCancelled) q s = begun at hbusy hlater
    obtain ⟨scene, turn⟩ := begun
    dsimp only at hbusy hlater
    split at hbusy
    · cases hbusy
    · cases turn with
      | now a => exact ih a hbusy
      | later ms finish =>
        have hfinish := hlater ms finish rfl
        cases hbusy
        refine ⟨fun halike => ?_, hfinish.others⟩
        obtain ⟨hscene, hanswer⟩ := hfinish.own halike
        exact ⟨hscene, congrArg next hanswer⟩
      | pause ms finish =>
        dsimp only at hbusy
        split at hbusy
        · exact ih _ hbusy
        · split at hbusy
          · exact ih _ hbusy
          · cases hbusy

end Cast

end DeviceFlow.Rehearsal
