import DeviceFlow.Proofs.Cancellation.History
import DeviceFlow.Proofs.Events.Run
import DeviceFlow.Proofs.Failure.Run
import DeviceFlow.Proofs.Variables.Course

/-!
# What a run leaves of the variables

The main statement about variables: however a run ends, nothing has taken a variable away at any
moment of it, a name that no step has written to has the value that the caller gave or else the
first default, and an isolated call leaves the variables of its caller as they were.

A piece that begins within another one ends within it as well. What it leaves is found by what
comes next on its level, up to the end of the outer piece, so a variable that has been there at
some moment is there at the end.
-/

namespace DeviceFlow

/-! ## From one moment to the next -/

section

namespace Plan

variable {α : Type} {p : Plan α} {t u : List Exchange} {a b : α}

/-- A plan comes to its end after everything that it is followed to. -/
theorem Follows.within_ends {q : Plan α} {t' u' : List Exchange} (h : p.Follows t q)
    (h' : p.Ends t' a) (heq : t ++ u = t' ++ u') : ∃ c, t' = t ++ c ∧ u = c ++ u' := by
  rcases List.append_eq_append_iff.mp heq with ⟨c, rfl, rfl⟩ | ⟨c, rfl, rfl⟩
  · exact ⟨c, rfl, rfl⟩
  · cases c with
    | nil => exact ⟨[], by simp, rfl⟩
    | cons x c => exact absurd (h'.of_append h) not_follows_done

/-- A plan comes to its end at one place of a trace, and with one result. -/
theorem Ends.unique_split {t' u' : List Exchange} (h : p.Ends t a) (h' : p.Ends t' b)
    (heq : t ++ u = t' ++ u') : t' = t ∧ b = a ∧ u' = u := by
  obtain ⟨c, rfl, rfl⟩ := h.within_ends h' heq
  obtain ⟨rfl, rfl⟩ := ends_done.mp (h.of_append h')
  simp

theorem Ends.unique_of_append {t' : List Exchange} (h : p.Ends t a) (h' : p.Ends t' b)
    (heq : t' = t ++ u) : b = a :=
  (h.unique_split h' (heq.symm.trans (List.append_nil t').symm)).2.1

end Plan

variable {run : Session} {x y : Piece} {b t u : List Exchange}

/-- What one piece leaves is found at the end of another one, if they work on the same
    variables. -/
def Piece.Bequeaths (run : Session) (y : Piece) (r' : y.Result) (x : Piece) (r : x.Result) : Prop :=
  (run.rig.settings.scope = .isolated → y.level run = x.level run) →
    ∀ name, (y.varsAfter r').contains name = true → (x.varsAfter r).contains name = true

/-- A piece that another one begins with takes its course within that of the other one. -/
theorem Begins.within {r : x.Result} (h : Begins run x b y) (hx : Course run x t r)
    (ht : t = b ++ u) :
    ∃ v rest r', u = v ++ rest ∧ Course run y v r' ∧ y.Bequeaths run r' x r := by
  cases h with
  | run w vars startedAt startedMs =>
    cases hx with
    | run hwalk hannounce =>
      simp only [List.append_assoc] at ht
      obtain ⟨_, rfl⟩ := List.append_inj ht rfl
      exact ⟨_, _, _, rfl, hwalk, fun _ _ hname => hname⟩
  | walk hstart =>
    cases hx with
    | walk hstart' h =>
      rw [hstart] at hstart'
      cases hstart'
      exact ⟨t, [], _, by simpa using ht.symm, h, fun _ _ hname => hname⟩
    | startless hstart' => simp [hstart] at hstart'
    | forked hstart' => simp [hstart] at hstart'
  | onward hroom htarget =>
    cases hx with
    | halted => cases (List.cons.inj ht).1
    | exhausted hlimit => omega
    | lost _ htarget' => simp [htarget] at htarget'
    | broken _ htarget' h | stopped _ htarget' h =>
      rw [htarget] at htarget'
      cases htarget'
      obtain ⟨_, rfl⟩ := List.cons.inj ht
      exact ⟨_, [], _, (List.append_nil _).symm, h, fun _ _ hname => hname⟩
    | onward _ htarget' h _ hrest =>
      rw [htarget] at htarget'
      cases htarget'
      obtain ⟨_, rfl⟩ := List.cons.inj ht
      exact ⟨_, _, _, rfl, h, fun _ _ hname => hrest.contains_varsAfter hname⟩
  | next hroom htarget hends hend =>
    cases hx with
    | halted => cases (List.cons.inj ht).1
    | exhausted hlimit => omega
    | lost _ htarget' => simp [htarget] at htarget'
    | broken _ htarget' h =>
      rw [htarget] at htarget'
      cases htarget'
      obtain ⟨_, ht⟩ := List.cons.inj ht
      cases hends.unique_of_append h.ends ht
    | stopped _ htarget' h hend' =>
      rw [htarget] at htarget'
      cases htarget'
      obtain ⟨_, ht⟩ := List.cons.inj ht
      cases hends.unique_of_append h.ends ht
      rw [hend] at hend'
      cases hend'
    | onward _ htarget' h _ hrest =>
      rw [htarget] at htarget'
      cases htarget'
      obtain ⟨_, ht⟩ := List.cons.inj ht
      obtain ⟨_, hresult, rfl⟩ := hends.unique_split h.ends ht.symm
      cases hresult
      exact ⟨_, [], _, (List.append_nil _).symm, hrest, fun _ _ hname => hname⟩
  | repetition =>
    cases hx with
    | failed h | last h =>
      exact ⟨t, [], _, by simpa using ht.symm, h, fun _ _ hname => hname⟩
    | again h _ _ hrest =>
      exact ⟨_, _, _, ht.symm, h, fun _ _ hname => hrest.contains_varsAfter hname⟩
  | again hends hleft hbreak =>
    cases hx with
    | failed h =>
      cases hends.unique_of_append h.ends ht
    | last h hlast =>
      cases hends.unique_of_append h.ends ht
      simp [hleft, hbreak] at hlast
    | again h _ _ hrest =>
      obtain ⟨_, hresult, rfl⟩ := hends.unique_split h.ends ht.symm
      cases hresult
      exact ⟨_, [], _, (List.append_nil _).symm, hrest, fun _ _ hname => hname⟩
  | iteration levels w s number p startedAt =>
    cases hx with
    | refused => cases (List.cons.inj ht).1
    | fatal h hfatal =>
      rw [← List.append_nil (_ :: _), run.sleep_cons_bracket] at ht
      obtain ⟨_, rfl⟩ := List.append_inj ht rfl
      exact ⟨_, _, _, rfl, h, fun _ _ hname => hname⟩
    | bearable h hfatal hreport =>
      rw [run.sleep_cons_bracket] at ht
      obtain ⟨_, rfl⟩ := List.append_inj ht rfl
      exact ⟨_, _, _, rfl, h, fun _ _ hname => hname⟩
  | attempt hkind hid =>
    cases hx with
    | nameless hkind' hid' =>
      rw [hkind] at hkind'
      cases hkind'
      rw [hid] at hid'
      cases hid'
    | returned hkind' hid' h | thrown hkind' hid' h =>
      rw [hkind] at hkind'
      cases hkind'
      rw [hid] at hid'
      cases hid'
      exact ⟨t, [], _, by simpa using ht.symm, h, fun _ _ hname => hname⟩
    | performed hkind' | unperformed hkind' => exact absurd hkind (hkind' _)
  | call child hstore hdepth =>
    cases hx with
    | storeless hstore' => simp [hstore] at hstore'
    | unloaded | missing => simp at ht
    | finished _ _ h =>
      rw [List.append_assoc] at ht
      obtain ⟨hload, rfl⟩ := List.append_inj ht rfl
      cases (List.cons.inj hload).1
      refine ⟨_, _, _, rfl, h, fun hlevel name hname => ?_⟩
      unfold Piece.varsAfter Session.Progress.afterCall
      cases hscope : run.rig.settings.scope with
      | shared => exact hname
      | isolated => simp [Piece.level, hscope] at hlevel
    | unfinished _ _ h =>
      obtain ⟨hload, rfl⟩ := List.append_inj ht rfl
      cases (List.cons.inj hload).1
      refine ⟨_, [], _, (List.append_nil _).symm, h, fun hlevel name hname => ?_⟩
      unfold Piece.varsAfter Session.Progress.afterCall
      cases hscope : run.rig.settings.scope with
      | shared => exact hname
      | isolated => simp [Piece.level, hscope] at hlevel

theorem Begins.level_le (h : Begins run x b y) : y.level run ≤ x.level run := by
  cases h with
  | call => exact Nat.le_succ _
  | _ => exact Nat.le_refl _

theorem Reaches.level_le (h : Reaches run x b y) : y.level run ≤ x.level run := by
  induction h with
  | refl x => exact Nat.le_refl _
  | head h _ ih => exact Nat.le_trans ih h.level_le

/-- Whatever a piece finds is found by the pieces that it reaches as well, also on other levels. -/
theorem Begins.contains_varsBefore {name : String} (h : Begins run x b y)
    (hname : x.varsBefore.contains name = true) : y.varsBefore.contains name = true := by
  cases h with
  | @walk _ w => exact Variables.contains_seed w.vars hname
  | next _ _ hends =>
    exact (Session.course_iterate (Session.callCourse _) hends).contains_varsAfter hname
  | again hends =>
    exact (Session.course_iterateOnce (Session.callCourse _) hends).contains_varsAfter hname
  | _ => exact hname

theorem Reaches.contains_varsBefore {name : String} (h : Reaches run x b y)
    (hname : x.varsBefore.contains name = true) : y.varsBefore.contains name = true := by
  induction h with
  | refl x => exact hname
  | head h _ ih => exact ih (h.contains_varsBefore hname)

/-- Every piece that is reached takes its course within that of the piece that reaches it. -/
theorem Reaches.within {r : x.Result} (h : Reaches run x b y) (hx : Course run x t r)
    (ht : t = b ++ u) :
    ∃ v rest r', u = v ++ rest ∧ Course run y v r' ∧ y.Bequeaths run r' x r := by
  induction h generalizing t u with
  | refl x => exact ⟨t, [], r, by simpa using ht.symm, hx, fun _ _ hname => hname⟩
  | @head x z y c d h hrest ih =>
    rw [List.append_assoc] at ht
    obtain ⟨v, rest, r', hsplit, hz, hbequeaths⟩ := h.within hx ht
    obtain ⟨f, hfollows, _⟩ := hrest.handsOn
    obtain ⟨v, rfl, rfl⟩ := hfollows.within_ends hz.ends hsplit
    obtain ⟨v, rest', r'', rfl, hy, hinner⟩ := ih hz rfl
    refine ⟨v, rest' ++ rest, r'', List.append_assoc .., hy, fun hlevel name hname => ?_⟩
    have hxz := h.level_le
    have hzy := hrest.level_le
    have hinner := hinner (fun hscope => by have := hlevel hscope; omega) name hname
    exact hbequeaths (fun hscope => by have := hlevel hscope; omega) name hinner

end

/-! ## Whole runs -/

section

variable {run : Session} {x : Piece} {t : List Exchange}

/-- A piece is a step that calls another workflow, or a part of it above the called workflow. -/
def Piece.OfCall : Piece → Prop
  | .repetition _ _ s _ _ _ | .iteration _ _ s _ _ | .attempt _ s _ =>
    ∃ id, s.kind = .subWorkflow id
  | .call .. => True
  | .run .. | .walk .. | .onward .. => False

/-- An isolated call gives back the variables that its caller has had, whether it has succeeded or
    failed. -/
theorem Course.varsAfter_of_call {r : x.Result} (h : Course run x t r)
    (hscope : run.rig.settings.scope = .isolated) (hx : x.OfCall) :
    x.varsAfter r = x.varsBefore := by
  induction h with
  | run | walk | startless | forked | arrived | halted | exhausted | lost | broken | stopped
  | onward => exact hx.elim
  | failed _ ih | last _ _ ih => exact ih hx
  | again _ _ _ _ ih ihrest => exact (ihrest hx).trans (ih hx)
  | fatal _ _ ih | bearable _ _ _ ih => exact ih hx
  | returned _ _ _ ih | thrown _ _ _ ih => exact ih trivial
  | performed hkind | unperformed hkind =>
    obtain ⟨id, hcall⟩ := hx
    exact absurd hcall (hkind id)
  | finished | unfinished =>
    unfold Piece.varsAfter Session.Progress.afterCall
    simp only [hscope]
    rfl
  | idle | refused | nameless | tooDeep | storeless | unloaded | missing => rfl

/-- A run along a trace treats the variables that its caller gives as it has to. -/
structure Session.FramesVariables (run : Session) (w : Workflow) (vars : Variables)
    (t : List Exchange) (r : RunRecord) : Prop where
  /-- A name that no step writes to has the value from the caller, or else the default from the
      first workflow that has one. Steps and workflows on deeper levels count when they share
      the variables. -/
  spared : ∀ name, (Piece.run w vars).Spares run name t →
    r.vars.get? name = (vars.get? name).or (firstDefault (w :: run.enteredAlong t) name)
  /-- The variables from the caller are there at the end. -/
  whole : ∀ name, vars.contains name = true → r.vars.contains name = true
  /-- No variable gets lost between two moments: those that are there when a piece begins are
      there when a part of it begins and when that part ends; and when the outer piece ends, if
      both work on the same variables. -/
  kept : ∀ {b c u x y}, Reaches run (.run w vars) b x → Reaches run x c y → t = b ++ (c ++ u) →
    ∃ v rest rest' r' r'', u = v ++ (rest ++ rest') ∧ (y.plan run).Ends v r' ∧
      (x.plan run).Ends (c ++ (v ++ rest)) r'' ∧
      (∀ name, x.varsBefore.contains name = true → y.varsBefore.contains name = true) ∧
      (∀ name, y.varsBefore.contains name = true → (y.varsAfter r').contains name = true) ∧
      y.Bequeaths run r' x r''
  /-- A step that calls a workflow leaves the variables as they are when calls are isolated. -/
  restored : run.rig.settings.scope = .isolated →
    ∀ {b u y}, Reaches run (.run w vars) b y → t = b ++ u → y.OfCall →
      ∃ v rest r', u = v ++ rest ∧ (y.plan run).Ends v r' ∧ y.varsAfter r' = y.varsBefore

namespace Session

/-- Every run frames its variables, whatever it comes to. -/
theorem framesVariables_of_execute (run : Session) (w : Workflow) (vars : Variables)
    {t : List Exchange} {r : RunRecord} (h : (run.execute w vars).Ends t r) :
    run.FramesVariables w vars t r := by
  have hcourse := course_execute h
  constructor
  · intro name hspares
    exact hcourse.get?_varsAfter hspares
  · intro name hname
    exact hcourse.contains_varsAfter hname
  · intro b c u x y hx hy ht
    obtain ⟨d, rest', r'', hsplit, houter, _⟩ := hx.within hcourse ht
    obtain ⟨f, hfollows, _⟩ := hy.handsOn
    obtain ⟨d, rfl, rfl⟩ := hfollows.within_ends houter.ends hsplit
    obtain ⟨v, rest, r', rfl, hinner, hbequeaths⟩ := hy.within houter rfl
    refine ⟨v, rest, rest', r', r'', List.append_assoc .., hinner.ends, houter.ends, ?_, ?_, ?_⟩
    · exact fun name hname => hy.contains_varsBefore hname
    · exact fun name hname => hinner.contains_varsAfter hname
    · exact hbequeaths
  · intro hscope b u y hy ht hcall
    obtain ⟨v, rest, r', rfl, hinner, _⟩ := hy.within hcourse ht
    exact ⟨v, rest, r', rfl, hinner.ends, hinner.varsAfter_of_call hscope hcall⟩

/-- A workflow that writes to a variable and has a default for another one. -/
def scribe : Workflow :=
  { Workflow.ofSteps "scribe"
      [(Step.new "start" .start).andThen "write",
        Step.new "write" (.setVariable (some "note") (some "written"))] with
    vars := Dict.empty.insert "ink" "blue" }

/-- A workflow that calls this one and has a default for the same variable. -/
def author : Workflow :=
  { Workflow.ofSteps "author"
      [(Step.new "start" .start).andThen "call",
        Step.new "call" (.subWorkflow (some "scribe"))] with
    vars := Dict.empty.insert "ink" "black" }

/-- A rehearsal with both workflows and a scope of the variables. -/
def writing (scope : VariableScope) : Rehearsal.Cast :=
  { threeSteps with
    settings := { Settings.default with scope := scope }
    store := .memory (Dict.empty.insert "scribe" scribe) }

/-- A called workflow writes to a variable of its caller only if they share it, and its default
    comes second. -/
theorem framesVariables_of_author :
    (∃ t r, ((⟨(writing .shared).rig, "d"⟩ : Session).execute author Dict.empty).Ends t r ∧
      (⟨(writing .shared).rig, "d"⟩ : Session).FramesVariables author Dict.empty t r ∧
      r.vars.get? "note" = some "written" ∧ r.vars.get? "ink" = some "black") ∧
    (∃ t r, ((⟨(writing .isolated).rig, "d"⟩ : Session).execute author Dict.empty).Ends t r ∧
      (⟨(writing .isolated).rig, "d"⟩ : Session).FramesVariables author Dict.empty t r ∧
      r.vars.get? "note" = none ∧ r.vars.get? "ink" = some "black") := by
  constructor
  · have hends := (writing .shared).ends_history "d"
      ((⟨(writing .shared).rig, "d"⟩ : Session).execute author Dict.empty) (.opening .empty)
    refine ⟨_, _, hends, framesVariables_of_execute _ author Dict.empty hends, ?_, ?_⟩
    · decide +kernel
    · decide +kernel
  · have hends := (writing .isolated).ends_history "d"
      ((⟨(writing .isolated).rig, "d"⟩ : Session).execute author Dict.empty) (.opening .empty)
    refine ⟨_, _, hends, framesVariables_of_execute _ author Dict.empty hends, ?_, ?_⟩
    · decide +kernel
    · decide +kernel

end Session

end

end DeviceFlow
