import DeviceFlow.Proofs.Nesting.Piece
import DeviceFlow.Proofs.Trace.Perform

/-!
# Every iteration is a piece of its run

Whenever a run tells that an iteration begins, it has reached this iteration as one of its
pieces: there are no iterations besides those that the chains of pieces lead to.
-/

namespace DeviceFlow

/-- A request other than to tell that an iteration begins. -/
def Request.IsSilent : Request → Prop
  | .emit (.stepStarted _) => False
  | _ => True

theorem Request.OfStep.isSilent {q : Request} (h : q.OfStep) : q.IsSilent := by
  cases q with
  | emit e => exact h.elim
  | _ => trivial

namespace Plan

variable {α β : Type} {Q : α → Prop} {p : Plan α} {f : α → Plan β} {t : List Exchange}
  {i : Iteration}

/-- Following the plan along a trace leads to the point where it tells that an iteration
    begins. -/
def Starts (p : Plan α) (t : List Exchange) (i : Iteration) : Prop :=
  ∃ next, p.Follows t (ask (.emit (.stepStarted i)) next)

theorem not_starts (h : p.Keeps Request.IsSilent Q) : ¬ p.Starts t i := by
  rintro ⟨next, ht⟩
  exact (h.follows ht).2.1

theorem not_starts_done {a : α} : ¬ (done a).Starts t i :=
  not_starts (Q := fun _ => True) trivial

/-- In a sequence of plans an iteration begins in the first one, or after its end. -/
theorem Starts.of_bind (h : (p >>= f).Starts t i) :
    p.Starts t i ∨ ∃ u a v, t = u ++ v ∧ p.Ends u a ∧ (f a).Starts v i := by
  obtain ⟨next, ht⟩ := h
  induction p generalizing t with
  | done a => exact .inr ⟨[], a, t, rfl, .here _, next, ht⟩
  | ask q after ih =>
    rw [ask_bind] at ht
    cases ht with
    | here => exact .inl ⟨_, .here _⟩
    | @step _ _ t _ answer ht =>
      rcases ih answer ht with ⟨next', h⟩ | ⟨u, a, v, rfl, hu, hv⟩
      · exact .inl ⟨next', .step answer h⟩
      · exact .inr ⟨⟨q, answer⟩ :: u, a, v, rfl, .step answer hu, hv⟩

/-- No iteration begins in a plan that makes silent requests only. -/
theorem Starts.after (h : (p >>= f).Starts t i) (hp : p.Keeps Request.IsSilent Q) :
    ∃ u a v, t = u ++ v ∧ p.Ends u a ∧ (f a).Starts v i :=
  h.of_bind.resolve_left (not_starts hp)

theorem Starts.before {R : β → Prop} (h : (p >>= f).Starts t i)
    (hf : ∀ a, (f a).Keeps Request.IsSilent R) : p.Starts t i := by
  rcases h.of_bind with h | ⟨u, a, v, _, _, hv⟩
  · exact h
  · exact absurd hv (not_starts (hf a))

/-- The first request of a plan is answered when an iteration begins after it. -/
theorem Starts.ask {q : Request} {g : q.Answer → Plan β} (h : (request q >>= g).Starts t i)
    (hq : q.IsSilent) : ∃ answer v, t = ⟨q, answer⟩ :: v ∧ (g answer).Starts v i := by
  obtain ⟨u, a, v, rfl, hu, hv⟩ := h.after (Q := fun _ => True) ⟨hq, fun _ => trivial⟩
  exact ⟨a, v, by rw [ends_request.mp hu, List.singleton_append], hv⟩

end Plan

/-- A piece reaches an iteration that begins after a trace. -/
def Piece.Contains (run : Session) (x : Piece) (t : List Exchange) (i : Iteration) : Prop :=
  ∃ b levels w s number p, Reaches run x b (.iteration levels w s number p) ∧
    t = b ++ [⟨.sleep s.preWaitMs.toNat, true⟩] ∧
    i = ⟨run.device, w.id, s.id, s.typeName, number⟩

theorem Begins.contains {run : Session} {x y : Piece} {t u : List Exchange} {i : Iteration}
    (h : Begins run x t y) (hy : y.Contains run u i) : x.Contains run (t ++ u) i := by
  obtain ⟨b, levels, w, s, number, p, hreaches, rfl, rfl⟩ := hy
  exact ⟨t ++ b, levels, w, s, number, p, .head h hreaches, by rw [List.append_assoc], rfl⟩

namespace Session

open Plan

variable {run : Session} {levels : Nat} {t : List Exchange} {i : Iteration}

/-- Every iteration that begins in a call on some level is a piece of the call. -/
def CallContains (run : Session) (levels : Nat) : Prop :=
  ∀ {id p t i}, (run.call levels id p).Starts t i → (Piece.call levels id p).Contains run t i

theorem contains_executeStep (hcall : CallContains run levels) {s : Step} {p : Progress}
    (h : (run.executeStep (run.call levels) s p).Starts t i) :
    (Piece.attempt levels s p).Contains run t i := by
  unfold executeStep at h
  split at h
  · rename_i wiredId hkind
    split at h
    · exact absurd h not_starts_done
    · rename_i id hid
      have hstarts := h.before (R := fun _ => True) (by
        rintro ⟨q, r⟩
        cases r with
        | ok u => trivial
        | error e => trivial)
      exact (Begins.attempt hkind hid).contains (hcall hstarts)
  · have hperform := Step.modest_perform run.rig s p.vars
    obtain ⟨u, r, v, rfl, _, hv⟩ :=
      h.after (Keeps.mono hperform (fun _ hq => hq.isSilent) fun _ hr => hr)
    cases r with
    | ok effect => exact absurd hv not_starts_done
    | error e => exact absurd hv not_starts_done

theorem contains_iterateOnce (hcall : CallContains run levels) {w : Workflow} {s : Step}
    {number : Nat} {p : Progress}
    (h : (run.iterateOnce (run.call levels) w s number p).Starts t i) :
    (Piece.iteration levels w s number p).Contains run t i := by
  unfold iterateOnce at h
  obtain ⟨rested, v, rfl, hv⟩ := Starts.ask (q := .sleep _) h trivial
  cases rested with
  | false => exact absurd hv not_starts_done
  | true =>
    have hbracket := Starts.before (R := fun _ => True) hv (by
      intro r
      dsimp only
      split
      · trivial
      · refine (keeps_reportFailure (fun _ => trivial) _ _ _).bind fun _ _ => ?_
        refine Keeps.bind (keeps_sleep.mpr ⟨trivial, fun _ => trivial⟩) fun rested _ => ?_
        cases rested with
        | true => trivial
        | false => trivial)
    unfold bracketStep at hbracket
    rcases hbracket.of_bind with hemit | ⟨u, a, v, rfl, hu, htold⟩
    · obtain ⟨next, hnext⟩ := hemit
      cases hnext with
      | here => exact ⟨[], levels, w, s, number, p, .refl _, rfl, rfl⟩
      | step answer hnext => exact absurd ⟨_, hnext⟩ not_starts_done
    · obtain ⟨_, v, rfl, hlogged⟩ := Starts.ask (q := .log _) htold trivial
      obtain ⟨startedAt, v, rfl, htimed⟩ := Starts.ask (q := .clock) hlogged trivial
      have hstarts := htimed.before (R := fun _ => True) (by
        rintro ⟨q, r⟩
        simp [Request.IsSilent])
      have hattempt := contains_executeStep hcall hstarts
      rw [ends_request.mp hu]
      exact (Begins.iteration levels w s number p startedAt).contains hattempt

theorem contains_iterate (hcall : CallContains run levels) {w : Workflow} {s : Step}
    {left number : Nat} {p : Progress}
    (h : (run.iterate (run.call levels) w s left number p).Starts t i) :
    (Piece.repetition levels w s left number p).Contains run t i := by
  induction left generalizing number p t with
  | zero => exact absurd h not_starts_done
  | succ left ih =>
    unfold iterate at h
    rcases h.of_bind with h | ⟨u, ⟨q, r⟩, v, rfl, hu, hv⟩
    · exact Begins.repetition.contains (contains_iterateOnce hcall h)
    · cases r with
      | error e => exact absurd hv not_starts_done
      | ok outcome =>
        dsimp only at hv
        split at hv
        · exact absurd hv not_starts_done
        · rename_i hgoes
          obtain ⟨hleft, hbreak⟩ : left ≠ 0 ∧ breaksLoop s outcome = false := by
            simpa using hgoes
          exact (Begins.again hu hleft hbreak).contains (ih hv)

theorem contains_walkFrom (hcall : CallContains run levels) {w : Workflow} {room : Nat}
    {id : Option String} {p : Progress}
    (h : (run.walkFrom (run.call levels) w room id p).Starts t i) :
    (Piece.onward levels w room id p).Contains run t i := by
  induction room generalizing id p t with
  | zero =>
    unfold walkFrom at h
    cases id with
    | none =>
      obtain ⟨_, v, rfl, hv⟩ := Starts.ask (q := .log _) h trivial
      exact absurd hv not_starts_done
    | some id =>
      obtain ⟨u, e, v, rfl, hu, hv⟩ := h.after (keeps_obstacle trivial p)
      exact absurd hv not_starts_done
  | succ room ih =>
    unfold walkFrom at h
    cases id with
    | none =>
      obtain ⟨_, v, rfl, hv⟩ := Starts.ask (q := .log _) h trivial
      exact absurd hv not_starts_done
    | some id =>
      obtain ⟨u, blocked, v, rfl, hu, hv⟩ := h.after (keeps_obstacle trivial p)
      cases blocked with
      | some e => exact absurd hv not_starts_done
      | none =>
        obtain ⟨rfl, hroom⟩ := of_ends_obstacle hu
        dsimp only at hv
        split at hv
        · exact absurd hv not_starts_done
        · rename_i s htarget
          rcases hv.of_bind with hv | ⟨u, ⟨q, r⟩, v, rfl, hu, hv⟩
          · exact (Begins.onward hroom htarget).contains (contains_iterate hcall hv)
          · cases r with
            | error e => exact absurd hv not_starts_done
            | ok outcome =>
              dsimp only at hv
              split at hv
              · exact absurd hv not_starts_done
              · rename_i hend
                exact (Begins.next hroom htarget hu hend).contains (ih hv)

theorem contains_walk (hcall : CallContains run levels) {w : Workflow} {p : Progress}
    (h : (run.walk (run.call levels) w p).Starts t i) :
    (Piece.walk levels w p).Contains run t i := by
  unfold walk at h
  dsimp only at h
  split at h
  · rename_i start hstart
    exact (Begins.walk hstart).contains (contains_walkFrom hcall h)
  · exact absurd h not_starts_done
  · exact absurd h not_starts_done

theorem callContains (levels : Nat) : CallContains run levels := by
  induction levels with
  | zero =>
    intro id p t i h
    exact absurd h not_starts_done
  | succ levels ih =>
    intro id p t i h
    unfold Session.call at h
    split at h
    · exact absurd h not_starts_done
    · rename_i hstore
      obtain ⟨answer, v, rfl, hv⟩ := Starts.ask (q := .load id) h trivial
      dsimp only at hv
      split at hv
      · exact absurd hv not_starts_done
      · exact absurd hv not_starts_done
      · obtain ⟨_, v, rfl, hlogged⟩ := Starts.ask (q := .log _) hv trivial
        have hstarts := hlogged.before (R := fun _ => True) (by
          rintro ⟨q, _ | u⟩
          · trivial
          · exact keeps_bind.mpr (keeps_log.mpr ⟨trivial, trivial⟩))
        have hstored : run.rig.hasStore = true := by simpa using hstore
        exact (Begins.call _ hstored rfl).contains (contains_walk ih hstarts)

/-- Whenever a run tells that an iteration begins, it has come to this iteration through a
    chain of pieces. -/
theorem contains_every_iteration {w : Workflow} {vars : Variables}
    (h : (run.execute w vars).Starts t i) : (Piece.run w vars).Contains run t i := by
  unfold execute at h
  obtain ⟨startedAt, v, rfl, hdated⟩ := Starts.ask (q := .date) h trivial
  obtain ⟨startedMs, v, rfl, htimed⟩ := Starts.ask (q := .clock) hdated trivial
  obtain ⟨_, v, rfl, hlogged⟩ := Starts.ask (q := .log _) htimed trivial
  obtain ⟨_, v, rfl, hannounced⟩ := Starts.ask (q := .emit _) hlogged trivial
  have hstarts := hannounced.before (R := fun _ => True) (by
    rintro ⟨q, r⟩
    refine Keeps.bind (keeps_clock.mpr ⟨trivial, fun _ => trivial⟩) fun endedMs _ => ?_
    refine (keeps_announceEnd (fun _ => trivial) (fun _ => trivial) trivial).bind fun _ _ => ?_
    exact Keeps.bind (keeps_date.mpr ⟨trivial, fun _ => trivial⟩) fun _ _ => trivial)
  exact (Begins.run w vars startedAt startedMs).contains (contains_walk (callContains _) hstarts)

end Session

end DeviceFlow
