import TypeSurvey.Proofs.Walk.Listing

/-!
# Pulling one item after the other

Of a walk any number of items may be asked for, and the walk stays where it is in between. While
nobody cancels, the items are the types of the complete run and then the end, over and over. What
the run lists from then on is what it would have listed anyway.
-/
namespace TypeSurvey.Walk

/-- What `n` calls of `next` bring. Unlike `take` it goes on asking behind the end. -/
def pull (w : Walk) (c : Catalog) :
    Nat → List (Option (Except SurveyError TypeDecl)) × Walk × Catalog
  | 0 => ([], w, c)
  | n + 1 =>
    let first := w.next c
    let others := pull first.2.1 first.2.2 n
    (first.1 :: others.1, others.2)

/-- The first items of a walk that lists the types and then ends. If it is `cut`, it says so once
before the end. -/
def replies (cut : Bool) : List TypeDecl → Nat → List (Option (Except SurveyError TypeDecl))
  | _, 0 => []
  | t :: ts, n + 1 => some (.ok t) :: replies cut ts n
  | [], n + 1 => (if cut then some (.error .cancelled) else none) :: List.replicate n none

@[simp] theorem replies_zero (cut : Bool) (ts : List TypeDecl) : replies cut ts 0 = [] := by
  cases ts <;> rfl

@[simp] theorem replies_cons (cut : Bool) (t : TypeDecl) (ts : List TypeDecl) (n : Nat) :
    replies cut (t :: ts) (n + 1) = some (.ok t) :: replies cut ts n :=
  rfl

theorem replies_nil (n : Nat) : replies false [] n = List.replicate n none := by
  cases n <;> rfl

/-- The items behind the first `k` follow them, unless the end lies between and does not stay. -/
theorem replies_take {cut : Bool} {ts us : List TypeDecl} {k : Nat}
    (h : k ≤ ts.length ∨ cut = false ∧ us = []) (n : Nat) :
    replies cut (ts.take k ++ us) (k + n) = replies false ts k ++ replies cut us n := by
  induction ts generalizing k with
  | nil =>
    cases k with
    | zero => simp
    | succ k =>
      obtain ⟨rfl, rfl⟩ : cut = false ∧ us = [] := by simpa using h
      simp only [List.take_nil, List.append_nil, replies_nil,
        List.replicate_append_replicate]
  | cons t ts ih =>
    cases k with
    | zero => simp
    | succ k =>
      have hrest := ih (k := k) (by simpa using h)
      rw [Nat.add_right_comm]
      simp [hrest]

variable {w w' : Walk} {c c' : Catalog}

theorem pull_of_quiet (h : w.step c = (.quiet, w', c')) (n : Nat) :
    w.pull c (n + 1) = w'.pull c' (n + 1) := by
  rw [pull, pull, next_of_quiet h]

theorem pull_of_item {r : Except SurveyError TypeDecl} (h : w.step c = (.item r, w', c'))
    (n : Nat) : w.pull c (n + 1) = (some r :: (w'.pull c' n).1, (w'.pull c' n).2) := by
  rw [pull, next_of_item h]

theorem step_of_finished (h : w.step c = (.finished, w', c')) :
    w.step c = (.finished, w, c) := by
  revert h
  unfold step
  repeat' split
  all_goals simp

/-- At its end a walk stays as it is. -/
theorem pull_of_finished (h : w.step c = (.finished, w', c')) (n : Nat) :
    w.pull c n = (List.replicate n none, w, c) := by
  induction n with
  | zero => rfl
  | succ n ih => rw [pull, next_of_finished (step_of_finished h), ih, List.replicate_succ]

theorem pull_catalog {P : Catalog → Prop}
    (hvisit : ∀ {c : Catalog} {id : UnitKey}, P c → P (c.visited id)) (n : Nat) (h : P c) :
    P (w.pull c n).2.2 := by
  induction n generalizing w c with
  | zero => exact h
  | succ n ih => exact ih (next_catalog hvisit h)

/-- A walk that was pulled `k` times has listed the first types of its run and goes on with the
other ones. If it has no more, it has nothing ahead at all. -/
theorem pull_of_run {ts : List TypeDecl} (h : (w.run c).1 = .ok ts) (hlive : w.isOver = false)
    (k : Nat) :
    (w.pull c k).1 = replies false ts k ∧
      (w.pull c k).2.1.isOver = false ∧
      Advances c.program w (ts.take k) (w.pull c k).2.1 ∧
      Advances c.program (w.pull c k).2.1 (ts.drop k) (w.run c).2.1 ∧
      (k ≤ ts.length ∨ (w.pull c k).2.1.Exhausted) := by
  induction w, c using run.induct generalizing ts k with
  | case1 w c w' c' hstep ih =>
    cases k with
    | zero => exact ⟨by simp [pull], hlive, .still, run_advances h, Or.inl (Nat.zero_le _)⟩
    | succ k =>
      have hturn := turn_of_step hstep
      rw [pull_of_quiet hstep]
      rw [run_of_quiet hstep] at h ⊢
      obtain ⟨hitems, hlive', htaken, hahead, hend⟩ := ih h (hturn.live hlive (by simp)) (k + 1)
      rw [program_of_step hstep] at htaken hahead
      exact ⟨hitems, hlive', (Advances.single rfl hturn).trans htaken, hahead, hend⟩
  | case2 w c t w' c' hstep ih =>
    cases k with
    | zero => exact ⟨by simp [pull], hlive, .still, run_advances h, Or.inl (Nat.zero_le _)⟩
    | succ k =>
      have hturn := turn_of_step hstep
      obtain ⟨us, hus, rfl⟩ := run_item_ok hstep h
      rw [pull_of_item hstep, run_of_item hstep]
      obtain ⟨hitems, hlive', htaken, hahead, hend⟩ := ih hus (hturn.live hlive (by simp)) k
      rw [program_of_step hstep] at htaken hahead
      refine ⟨by simp [hitems], hlive', (Advances.single rfl hturn).trans htaken, hahead, ?_⟩
      exact hend.imp_left Nat.succ_le_succ
  | case3 w c e w' c' hstep => simp [run_of_error hstep] at h
  | case4 w c w' c' hstep =>
    have hstay := step_of_finished hstep
    rw [pull_of_finished hstep]
    rw [run_of_finished hstay] at h ⊢
    obtain rfl : [] = ts := by simpa using h
    rw [List.take_nil, List.drop_nil]
    exact ⟨(replies_nil k).symm, hlive, .still, .still, Or.inr (exhausted_of_finished hstay hlive)⟩

end TypeSurvey.Walk
