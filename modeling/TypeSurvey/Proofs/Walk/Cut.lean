import TypeSurvey.Proofs.Walk.Pull
import TypeSurvey.Sample

/-!
# Walks that are cancelled

A walk looks at its token only when it is about to enter a unit. So a walk that is cancelled at any
time lists the types of the units it has entered, the rest of the latest one included, and nothing
of another unit. It reports the cancellation if and only if there was another unit to enter.
-/
namespace TypeSurvey

namespace Walk

/-- The units that wait for the walk once it has left the current one. -/
def waiting (p : Program) (w : Walk) : List CodeUnit :=
  match w.current with
  | some u =>
    if w.crosses then (w.frontier.meetAll p w.gate u.dependencies).worklist else w.worklist
  | none => w.worklist

theorem waiting_of_none {p : Program} {w : Walk} (h : w.current = none) :
    w.waiting p = w.worklist := by
  rw [waiting, h]

/-- Leaving the current unit queues what waits behind it. -/
theorem waiting_departing {p : Program} {w : Walk} {u : CodeUnit} (h : w.current = some u) :
    (w.departing p u).waiting p = w.waiting p := by
  rw [waiting_of_none (departing_current p u w), waiting, h]
  unfold departing
  split <;> rfl

theorem Exhausted.owed {w : Walk} (h : w.Exhausted) : w.owed = [] := by
  rw [Walk.owed, h.pending, List.flatMap_nil]

theorem Exhausted.waiting {w : Walk} (h : w.Exhausted) (p : Program) : w.waiting p = [] := by
  rw [waiting_of_none h.current, h.worklist]

end Walk

namespace Turn

variable {c : Catalog} {w w' : Walk} {m : Move}

theorem entered_suffix (h : Turn c w m w') : w.entered <:+ w'.entered := by
  cases h with
  | enter => exact List.suffix_cons _ _
  | depart => simp
  | _ => exact List.suffix_rfl

/-- A walk that goes on was going on before, and was not stopped. -/
theorem live_before (h : Turn c w m w') (hlive : w'.isOver = false) :
    w.isOver = false ∧ ∀ e, m ≠ .item (.error e) := by
  cases h <;> simp_all

/-- A move that is no error lists types of the units already entered, or else enters a unit that
was waiting, which takes a token that is not cancelled. -/
theorem stays_or_enters (h : Turn c w m w') (hm : ∀ e, m ≠ .item (.error e)) :
    (w.owed = m.listed ++ w'.owed ∧ w'.waiting c.program = w.waiting c.program ∧
        w'.entered = w.entered) ∨
      c.wasCancelled w.token = false ∧ w.waiting c.program ≠ [] ∧
        ∃ u, w'.entered = u :: w.entered := by
  cases h with
  | stay ended => exact Or.inl ⟨rfl, rfl, rfl⟩
  | unpack live pending => exact Or.inl ⟨Walk.owed_of_space pending, rfl, rfl⟩
  | list live pending => exact Or.inl ⟨Walk.owed_of_type pending, rfl, rfl⟩
  | depart live pending current =>
    exact Or.inl ⟨by simp [Walk.owed, Move.listed], Walk.waiting_departing current, by simp⟩
  | exhaust => exact Or.inl ⟨rfl, rfl, rfl⟩
  | cut => exact absurd rfl (hm _)
  | enter live pending current worklist uncancelled =>
    refine Or.inr ⟨uncancelled, ?_, _, rfl⟩
    simp [Walk.waiting_of_none current, worklist]

end Turn

namespace Advances

variable {p : Program} {w w' : Walk} {ts : List TypeDecl}

theorem entered_suffix (h : Advances p w ts w') : w.entered <:+ w'.entered :=
  h.preserves (P := fun v => w.entered <:+ v.entered)
    (fun _ hturn hsuffix => hsuffix.trans hturn.entered_suffix) List.suffix_rfl

/-- A walk that goes on has entered no other unit, or else one that was waiting. -/
theorem stays_or_enters (h : Advances p w ts w') (hlive : w'.isOver = false) :
    (w'.waiting p = w.waiting p ∧ w'.entered = w.entered) ∨
      w.waiting p ≠ [] ∧ w.enteredCount < w'.enteredCount := by
  induction h with
  | still => exact Or.inl ⟨rfl, rfl⟩
  | @move us v v' c m prior hprogram hturn ih =>
    subst hprogram
    obtain ⟨hbefore, hm⟩ := hturn.live_before hlive
    rcases ih hbefore with ⟨hwaiting, hentered⟩ | ⟨hwaiting, hlt⟩
    · rcases hturn.stays_or_enters hm with ⟨-, hstays, hsame⟩ | ⟨-, hnonempty, u, hu⟩
      · exact Or.inl ⟨hstays.trans hwaiting, hsame.trans hentered⟩
      · refine Or.inr ⟨hwaiting ▸ hnonempty, ?_⟩
        simp [Walk.enteredCount, hu, hentered]
    · exact Or.inr ⟨hwaiting, Nat.lt_of_lt_of_le hlt hturn.entered_suffix.length_le⟩

/-- On its way to the end a walk enters more units if and only if some are waiting. -/
theorem waiting_iff (h : Advances p w ts w') (hend : w'.Exhausted) :
    (!(w.waiting p).isEmpty) = decide (w.enteredCount < w'.entered.reverse.length) := by
  rw [Bool.eq_iff_iff, decide_eq_true_iff, List.length_reverse]
  rcases h.stays_or_enters hend.live with ⟨hwaiting, hentered⟩ | ⟨hwaiting, hlt⟩
  · simp [Walk.enteredCount, hentered, ← hwaiting, hend.waiting p]
  · exact iff_of_true (by simpa using hwaiting) hlt

/-- The units entered so far are the first ones of those that are entered in the end. -/
theorem entered_take (h : Advances p w ts w') :
    w.entered.reverse = w'.entered.reverse.take w.enteredCount := by
  obtain ⟨later, hlater⟩ := h.entered_suffix
  rw [← hlater, List.reverse_append, Walk.enteredCount, ← List.length_reverse, List.take_left]

end Advances

namespace Walk

variable {w : Walk} {c : Catalog}

theorem step_of_over (h : w.isOver = true) : w.step c = (.finished, w, c) := by
  simp [step, h]

/-- Once its token is cancelled, a walk lists what it owes and then ends, with an error if units
are waiting. It enters none of them. -/
theorem pull_of_cancelled (hlive : w.isOver = false) (hcancelled : c.wasCancelled w.token = true)
    (n : Nat) :
    (w.pull c n).1 = replies (!(w.waiting c.program).isEmpty) w.owed n ∧
      (w.pull c n).2.1.entered = w.entered := by
  induction w, c using run.induct generalizing n with
  | case1 w c w' c' hstep ih =>
    cases n with
    | zero => simp [pull]
    | succ n =>
      have hturn := turn_of_step hstep
      rcases hturn.stays_or_enters (by simp) with ⟨howed, hwaiting, hentered⟩ | ⟨huncancelled, -⟩
      · rw [pull_of_quiet hstep, howed, ← hwaiting, ← hentered, ← program_of_step hstep]
        apply ih (hturn.live hlive (by simp))
        rw [hturn.setup.2.2]
        exact wasCancelled_of_step_of hstep hcancelled
      · simp [hcancelled] at huncancelled
  | case2 w c t w' c' hstep ih =>
    cases n with
    | zero => simp [pull]
    | succ n =>
      have hturn := turn_of_step hstep
      rcases hturn.stays_or_enters (by simp) with ⟨howed, hwaiting, hentered⟩ | ⟨huncancelled, -⟩
      · have hrest := ih (hturn.live hlive (by simp))
          (hturn.setup.2.2 ▸ wasCancelled_of_step_of hstep hcancelled) n
        rw [program_of_step hstep, hwaiting, hentered] at hrest
        rw [pull_of_item hstep, howed]
        exact ⟨congrArg (some (.ok t) :: ·) hrest.1, hrest.2⟩
      · simp [hcancelled] at huncancelled
  | case3 w c e w' c' hstep =>
    cases n with
    | zero => simp [pull]
    | succ n =>
      rw [pull_of_item hstep]
      cases turn_of_step hstep with
      | cut live pending current worklist =>
        rw [pull_of_finished (step_of_over rfl)]
        simp [waiting_of_none current, worklist, owed, pending, replies]
  | case4 w c w' c' hstep =>
    have hend := exhausted_of_finished hstep hlive
    rw [pull_of_finished hstep]
    simp [hend.waiting, hend.owed, replies_nil]

/-- A walk whose token is cancelled after `k` calls of `next` lists in all the types of the units
that it has entered until then, in the order in which the complete run lists them, and nothing of
the other units. It then says once that it was cancelled if the complete run enters more units, and
stays at its end. -/
theorem pull_cancelled_at_boundary {t : Token} (g : Gate) (u : CodeUnit) (crosses : Bool)
    (hsteady : c.Steady (some t)) (hlive : c.wasCancelled (some t) = false) (k : Nat) :
    let w := start g u crosses (some t)
    let units := (w.run c).2.1.entered.reverse
    let paused := w.pull c k
    let n := paused.2.1.enteredCount
    (w.run c).1 = .ok (units.flatMap fun v => v.root.declared) ∧
      paused.2.1.entered.reverse = units.take n ∧
      ∀ j, let rest := paused.2.1.pull (paused.2.2.cancel t) j
        paused.1 ++ rest.1 = replies (n < units.length)
            ((units.take n).flatMap fun v => v.root.declared) (k + j) ∧
          rest.2.1.enteredCount = n := by
  intro w units paused n
  obtain ⟨ts, hrun⟩ := run_ok (w := w) hsteady hlive
  have hend := run_exhausted hrun rfl
  obtain ⟨hitems, hgoing, htaken, hahead, hreached⟩ := pull_of_run hrun rfl k
  have hprogram : paused.2.2.program = c.program :=
    pull_catalog (P := fun d => d.program = c.program) id k rfl
  have hunits : paused.2.1.entered.reverse = units.take n := hahead.entered_take
  have hmore : (!(paused.2.1.waiting c.program).isEmpty) = decide (n < units.length) :=
    hahead.waiting_iff hend
  have howed : ts.take k ++ paused.2.1.owed =
      (units.take n).flatMap fun v => v.root.declared := by
    have hstart : w.promised = [] ++ w.owed := rfl
    have hpromised := htaken.promised hstart
    rw [← hunits]
    exact hpromised.symm
  have hcut : k ≤ ts.length ∨ decide (n < units.length) = false ∧ paused.2.1.owed = [] :=
    hreached.imp_right fun h => ⟨by rw [← hmore, h.waiting c.program]; rfl, h.owed⟩
  have htoken : (paused.2.2.cancel t).wasCancelled paused.2.1.token = true := by
    rw [htaken.setup.2.2]
    exact Catalog.wasCancelled_cancel
  refine ⟨?_, hunits, fun j => ?_⟩
  · rw [hrun, start_listed hrun]
    rfl
  · obtain ⟨hleft, hentered⟩ := pull_of_cancelled hgoing htoken j
    constructor
    · rw [← howed, replies_take hcut, ← hmore, ← hitems, ← hprogram]
      exact congrArg (paused.1 ++ ·) hleft
    · exact congrArg List.length hentered

/-- Of two units that refer to each other, the walk has entered the first and listed its type when
it is cancelled. -/
theorem pull_cancelled_at_boundary_cycle :
    let c : Catalog := { program := Sample.cycle.program }
    let t : Token := ⟨0⟩
    c.Steady (some t) ∧ c.wasCancelled (some t) = false ∧
    ∃ u, c.program.find? Sample.left = some u ∧
      let units := ((start {} u true (some t)).run c).2.1.entered.reverse
      let paused := (start {} u true (some t)).pull c 1
      paused.2.1.enteredCount = 1 ∧ paused.2.1.entered.reverse = units.take 1 ∧
      ∀ j, paused.1 ++ (paused.2.1.pull (paused.2.2.cancel t) j).1 =
        replies (1 < units.length) ((units.take 1).flatMap fun v => v.root.declared) (1 + j) := by
  intro c t
  have hsteady : c.Steady (some t) := Catalog.steady_of_tripwires rfl
  obtain ⟨u, hfound⟩ : ∃ u, c.program.find? Sample.left = some u := ⟨_, rfl⟩
  refine ⟨hsteady, rfl, u, hfound, ?_⟩
  have hcount : ((start {} u true (some t)).pull c 1).2.1.enteredCount = 1 := by
    obtain rfl : _ = u := Option.some.inj hfound
    rw [pull_of_quiet rfl, pull_of_quiet rfl, pull_of_quiet rfl, pull_of_item rfl]
    rfl
  have hcut := (pull_cancelled_at_boundary {} u true hsteady rfl 1).2
  simp only [hcount] at hcut
  exact ⟨hcount, hcut.1, fun j => (hcut.2 j).1⟩

end Walk

end TypeSurvey
