import TypeSurvey.Proofs.Walk.Runs

/-!
# Walks under another setting

Whether a walk crosses is decided at its start. From then on it uses the marker of its gate alone,
so under another setting it makes the same moves.
-/
namespace TypeSurvey

/-- The same marker under another setting. -/
def Gate.withCrossing (g : Gate) (x : Crossing) : Gate := { g with crossing := x }

namespace Walk

def withCrossing (w : Walk) (x : Crossing) : Walk := { w with gate := w.gate.withCrossing x }

section Fields

variable (w : Walk) (x : Crossing)

@[simp] theorem withCrossing_token : (w.withCrossing x).token = w.token := rfl

@[simp] theorem withCrossing_worklist : (w.withCrossing x).worklist = w.worklist := rfl

@[simp] theorem withCrossing_seen : (w.withCrossing x).seen = w.seen := rfl

@[simp] theorem withCrossing_pending : (w.withCrossing x).pending = w.pending := rfl

@[simp] theorem withCrossing_current : (w.withCrossing x).current = w.current := rfl

@[simp] theorem withCrossing_isOver : (w.withCrossing x).isOver = w.isOver := rfl

end Fields

variable {w w' : Walk} {c c' : Catalog} {m : Move} {x : Crossing}

theorem consider_withCrossing (id : UnitKey) :
    consider id (w.withCrossing x, c) =
      ((consider id (w, c)).1.withCrossing x, (consider id (w, c)).2) := by
  by_cases hid : id ∈ w.seen
  · simp [consider, hid]
  · simp only [consider, withCrossing_seen, hid, if_false]
    rfl

theorem queue_withCrossing (u : CodeUnit) :
    queue u (w.withCrossing x, c) =
      ((queue u (w, c)).1.withCrossing x, (queue u (w, c)).2) := by
  unfold queue
  induction u.dependencies with
  | nil => rfl
  | cons id ids ih => rw [List.foldr_cons, List.foldr_cons, ih, consider_withCrossing]

theorem leave_withCrossing (u : CodeUnit) :
    (w.withCrossing x).leave u c = ((w.leave u c).1.withCrossing x, (w.leave u c).2) := by
  by_cases hcrosses : w.crosses = true
  · have hcrosses' : (w.withCrossing x).crosses = true := hcrosses
    rw [leave, leave, if_pos hcrosses, if_pos hcrosses']
    exact queue_withCrossing (w := { w with current := none }) u
  · have hcrosses' : ¬(w.withCrossing x).crosses = true := hcrosses
    rw [leave, leave, if_neg hcrosses, if_neg hcrosses']
    rfl

theorem step_withCrossing (h : w.step c = (m, w', c')) :
    (w.withCrossing x).step c = (m, w'.withCrossing x, c') := by
  have hstep : (w.withCrossing x).step c =
      ((w.step c).1, (w.step c).2.1.withCrossing x, (w.step c).2.2) := by
    cases hover : w.isOver with
    | true => simp [step, hover]
    | false =>
      match hpending : w.pending with
      | .space n :: rest => simp [step, hover, hpending, withCrossing]
      | .type t :: rest => simp [step, hover, hpending, withCrossing]
      | [] =>
        cases hcurrent : w.current with
        | some u => simp [step, hover, hpending, hcurrent, leave_withCrossing]
        | none =>
          match hworklist : w.worklist with
          | [] => simp [step, hover, hpending, hcurrent, hworklist]
          | u :: rest =>
            cases hcancelled : c.wasCancelled w.token <;>
              simp [step, hover, hpending, hcurrent, hworklist, hcancelled, withCrossing, entering]
  rw [hstep, h]

theorem run_withCrossing (w : Walk) (c : Catalog) (x : Crossing) :
    (w.withCrossing x).run c =
      ((w.run c).1, (w.run c).2.1.withCrossing x, (w.run c).2.2) := by
  induction w, c using run.induct with
  | case1 w c w' c' hstep ih =>
    rw [run_of_quiet hstep, run_of_quiet (step_withCrossing hstep), ih]
  | case2 w c t w' c' hstep ih =>
    rw [run_of_item hstep, run_of_item (step_withCrossing hstep), ih]
  | case3 w c e w' c' hstep =>
    rw [run_of_error hstep, run_of_error (step_withCrossing hstep)]
  | case4 w c w' c' hstep =>
    rw [run_of_finished hstep, run_of_finished (step_withCrossing hstep)]

theorem next_withCrossing (w : Walk) (c : Catalog) (x : Crossing) :
    (w.withCrossing x).next c =
      ((w.next c).1, (w.next c).2.1.withCrossing x, (w.next c).2.2) := by
  induction w, c using next.induct with
  | case1 w c w' c' hstep ih =>
    rw [next_of_quiet hstep, next_of_quiet (step_withCrossing hstep), ih]
  | case2 w c r w' c' hstep =>
    rw [next_of_item hstep, next_of_item (step_withCrossing hstep)]
  | case3 w c w' c' hstep =>
    rw [next_of_finished hstep, next_of_finished (step_withCrossing hstep)]

theorem take_withCrossing (w : Walk) (c : Catalog) (x : Crossing) (n : Nat) :
    (w.withCrossing x).take c n =
      ((w.take c n).1, (w.take c n).2.1.withCrossing x, (w.take c n).2.2) := by
  induction n generalizing w c with
  | zero => rfl
  | succ n ih =>
    rw [take, take, next_withCrossing]
    cases hitem : (w.next c).1 with
    | none => rfl
    | some item => simp only [ih]

end Walk

end TypeSurvey
