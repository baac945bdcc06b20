import DeviceFlow.Proofs.Failure.Walk
import DeviceFlow.Proofs.Nesting.Course

/-!
# The rules of the courses are those of the run

Each rule for a course describes what a run really does: whenever a piece takes a course, its
plan ends along the trace with the result. With the way back, a run and its course are the same.
-/

namespace DeviceFlow

namespace Plan

variable {α β : Type} {p : Plan α} {f : α → Plan β} {t u : List Exchange} {a : α} {b : β}

theorem Ends.followedBy (hp : p.Ends t a) (hf : (f a).Ends u b) : (p >>= f).Ends (t ++ u) b :=
  ends_bind.mpr ⟨t, a, u, rfl, hp, hf⟩

/-- A sequence of plans ends with the first of them when nothing but a result is left. -/
theorem Ends.andDone (hp : p.Ends t a) (hf : f a = done b) : (p >>= f).Ends t b := by
  rw [← List.append_nil t]
  exact hp.followedBy (hf ▸ .here _)

theorem Ends.afterRequest {q : Request} {f : q.Answer → Plan β} (answer : q.Answer)
    (hf : (f answer).Ends u b) : (request q >>= f).Ends (⟨q, answer⟩ :: u) b :=
  ends_request_bind.mpr ⟨answer, u, rfl, hf⟩

end Plan

namespace Session

open Plan

variable {run : Session} {call : Call} {w : Workflow} {s : Step} {p q : Progress}
  {t : List Exchange}

theorem ends_bracketStep {number startedAt endedAt : Nat} {outcome : StepOutcome}
    (h : (run.executeStep call s p).Ends t (q, outcome)) :
    (run.bracketStep call w s number p).Ends
      (run.bracket w s number startedAt endedAt outcome t) (q, outcome) := by
  unfold bracketStep bracket
  rw [List.append_assoc]
  refine .afterRequest (q := .emit _) () ?_
  refine .afterRequest (q := .log _) () ?_
  refine .afterRequest (q := .clock) startedAt ?_
  refine h.followedBy ?_
  refine .afterRequest (q := .clock) endedAt ?_
  exact .afterRequest (q := .emit _) () (.here _)

/-- A walk that is kept from its next step fails. -/
theorem ends_walkFrom_of_obstacle {room : Nat} {id : String} {e : RunError}
    (h : (run.obstacle p).Ends t (some e)) :
    (run.walkFrom call w room (some id) p).Ends t (p, .error e) := by
  rw [walkFrom.eq_def]
  cases room with
  | zero => exact h.andDone rfl
  | succ room => exact h.andDone rfl

/-- A walk that is not kept from it dispatches its next step. -/
theorem ends_walkFrom_of_target {room : Nat} {id : String} {r : Progress × Except RunError Unit}
    (hroom : p.steps < run.rig.settings.maxSteps) (htarget : w.target? id = some s)
    (h : Plan.Ends (do
      match ← run.iterate call w s s.iterations 1 { p with steps := p.steps + 1 } with
      | (p, .error e) => return (p, .error e)
      | (p, .ok outcome) =>
        match endError? s outcome with
        | some e => return (p, .error e)
        | none => run.walkFrom call w room (s.next outcome) p) t r) :
    (run.walkFrom call w (room + 1) (some id) p).Ends (⟨.isCancelled, false⟩ :: t) r := by
  rw [walkFrom.eq_def]
  refine (ends_obstacle hroom).followedBy ?_
  simp only [htarget]
  exact h

theorem executeStep_of_kind (hkind : ∀ id, s.kind ≠ .subWorkflow id) :
    run.executeStep call s p = (do
      match ← (s.perform run.rig p.vars).run with
      | .ok (outcome, vars) => return ({ p with vars := vars }, outcome)
      | .error e => return (p, .failed e)) := by
  unfold executeStep
  split
  · rename_i id hid
    exact absurd hid (hkind id)
  · rfl

end Session

variable {run : Session}

open Plan in
/-- Whatever course a piece takes, its plan ends so. -/
theorem Course.ends {x : Piece} {t : List Exchange} {r : x.Result} (h : Course run x t r) :
    (x.plan run).Ends t r := by
  induction h with
  | @run w vars startedAt finishedAt startedMs endedMs t v q result _ hannounce ih =>
    show (run.execute w vars).Ends _ _
    unfold Session.execute
    simp only [List.cons_append, List.nil_append, List.append_assoc]
    refine .afterRequest (q := .date) startedAt ?_
    refine .afterRequest (q := .clock) startedMs ?_
    refine .afterRequest (q := .log _) () ?_
    refine .afterRequest (q := .emit _) () ?_
    refine ih.followedBy ?_
    refine .afterRequest (q := .clock) endedMs ?_
    refine hannounce.followedBy ?_
    exact .afterRequest (q := .date) finishedAt (.here _)
  | @walk levels w p start t r hstart h ih =>
    show (run.walk (run.call levels) w p).Ends _ _
    unfold Session.walk
    simp only [hstart]
    exact ih
  | @startless levels w p hstart =>
    show (run.walk (run.call levels) w p).Ends _ _
    unfold Session.walk
    simp only [hstart]
    exact .here _
  | @forked levels w p hstart =>
    show (run.walk (run.call levels) w p).Ends _ _
    unfold Session.walk
    match hstarts : w.starts with
    | [] | [_] => simp [hstarts] at hstart
    | _ :: _ :: _ => exact .here _
  | @arrived levels room w p =>
    show (run.walkFrom (run.call levels) w room none p).Ends _ _
    rw [Session.walkFrom.eq_def]
    cases room with
    | zero => exact .afterRequest (q := .log _) () (.here _)
    | succ room => exact .afterRequest (q := .log _) () (.here _)
  | halted =>
    refine Session.ends_walkFrom_of_obstacle (Session.ends_obstacle_iff.mpr ?_)
    exact .inl ⟨rfl, rfl⟩
  | exhausted hlimit =>
    refine Session.ends_walkFrom_of_obstacle (Session.ends_obstacle_iff.mpr (.inr ⟨rfl, ?_⟩))
    rw [if_pos hlimit]
  | lost hroom htarget =>
    refine (Session.ends_obstacle hroom).andDone ?_
    simp only [htarget]
    rfl
  | broken hroom htarget h ih =>
    exact Session.ends_walkFrom_of_target hroom htarget (ih.andDone rfl)
  | stopped hroom htarget h hend ih =>
    refine Session.ends_walkFrom_of_target hroom htarget (ih.andDone ?_)
    simp only [hend]
    rfl
  | onward hroom htarget h hend hrest ih ihrest =>
    refine Session.ends_walkFrom_of_target hroom htarget (ih.followedBy ?_)
    simp only [hend]
    exact ihrest
  | idle => exact .here _
  | failed h ih => exact ih.andDone rfl
  | last h hlast ih =>
    refine ih.andDone (if_pos ?_)
    rcases hlast with hleft | hbreak
    · simp [hleft]
    · simp [hbreak]
  | again h hleft hbreak hrest ih ihrest =>
    refine ih.followedBy ?_
    simp only [hleft, hbreak]
    exact ihrest
  | refused => exact .afterRequest (q := .sleep _) false (.here _)
  | fatal h hfatal ih =>
    refine .afterRequest (q := .sleep _) true ((Session.ends_bracketStep ih).andDone ?_)
    simp only [hfatal]
    rfl
  | @bearable levels w s number startedAt endedAt p q t v outcome whole h hfatal hreport ih =>
    refine .afterRequest (q := .sleep _) true ((Session.ends_bracketStep ih).followedBy ?_)
    simp only [hfatal]
    refine hreport.followedBy (.afterRequest (q := .sleep _) whole ?_)
    cases whole with
    | false => exact .here _
    | true => exact .here _
  | @nameless levels s p wiredId hkind hid =>
    show (run.executeStep (run.call levels) s p).Ends _ _
    unfold Session.executeStep
    simp only [hkind, hid]
    exact .here _
  | @returned levels s p q wiredId id t hkind hid h ih =>
    show (run.executeStep (run.call levels) s p).Ends _ _
    unfold Session.executeStep
    simp only [hkind, hid]
    exact ih.andDone rfl
  | @thrown levels s p q wiredId id t e hkind hid h ih =>
    show (run.executeStep (run.call levels) s p).Ends _ _
    unfold Session.executeStep
    simp only [hkind, hid]
    exact ih.andDone rfl
  | @performed levels s p t outcome vars hkind h =>
    show (run.executeStep (run.call levels) s p).Ends _ _
    rw [Session.executeStep_of_kind hkind]
    exact h.andDone rfl
  | @unperformed levels s p t e hkind h =>
    show (run.executeStep (run.call levels) s p).Ends _ _
    rw [Session.executeStep_of_kind hkind]
    exact h.andDone rfl
  | tooDeep => exact .here _
  | @storeless levels id p hstore =>
    show (run.call (levels + 1) id p).Ends _ _
    unfold Session.call
    simp only [hstore]
    exact .here _
  | @unloaded levels id text p hstore =>
    show (run.call (levels + 1) id p).Ends _ _
    unfold Session.call
    simp only [hstore]
    exact .afterRequest (q := .load id) (.error text) (.here _)
  | @missing levels id p hstore =>
    show (run.call (levels + 1) id p).Ends _ _
    unfold Session.call
    simp only [hstore]
    exact .afterRequest (q := .load id) (.ok none) (.here _)
  | @finished levels depth id child p q t hstore hdepth h ih =>
    subst hdepth
    show (run.call (levels + 1) id p).Ends _ _
    unfold Session.call
    simp only [hstore, List.cons_append, List.nil_append]
    refine .afterRequest (q := .load id) (.ok (some child)) ?_
    refine .afterRequest (q := .log _) () (ih.followedBy ?_)
    exact .afterRequest (q := .log _) () (.here _)
  | @unfinished levels depth id child p q t e hstore hdepth h ih =>
    subst hdepth
    show (run.call (levels + 1) id p).Ends _ _
    unfold Session.call
    simp only [hstore, List.cons_append, List.nil_append]
    refine .afterRequest (q := .load id) (.ok (some child)) ?_
    exact .afterRequest (q := .log _) () (ih.andDone rfl)

/-- A run ends along a trace just when this is its course. -/
theorem Session.ends_execute_iff {w : Workflow} {vars : Variables} {t : List Exchange}
    {r : RunRecord} : (run.execute w vars).Ends t r ↔ Course run (.run w vars) t r :=
  ⟨course_execute, Course.ends⟩

end DeviceFlow
