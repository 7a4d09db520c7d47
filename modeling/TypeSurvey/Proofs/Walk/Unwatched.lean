import TypeSurvey.Proofs.Walk.Runs

/-!
# Walks without a token

A token can cut a walk short but not change what it lists: a run that comes to its end lists the
same types as the run of the same walk without a token, over any catalog of the same program.
-/
namespace TypeSurvey

/-- The same walk with no token to stop it. -/
def Walk.unwatched (w : Walk) : Walk := { w with token := none }

namespace Turn

variable {c c' : Catalog} {w w' : Walk} {m : Move}

/-- A turn is what the move does. -/
theorem step_eq (h : Turn c w m w') : ∃ c₁, w.step c = (m, w', c₁) := by
  cases h with
  | stay ended => exact ⟨c, by simp [Walk.step, ended]⟩
  | unpack live pending => exact ⟨c, by simp [Walk.step, live, pending]⟩
  | list live pending => exact ⟨c, by simp [Walk.step, live, pending]⟩
  | @depart u live pending current =>
    refine ⟨(w.leave u c).2, ?_⟩
    rw [← Walk.leave_walk]
    simp [Walk.step, live, pending, current]
  | exhaust live pending current worklist =>
    exact ⟨c, by simp [Walk.step, live, pending, current, worklist]⟩
  | cut live pending current worklist cancelled =>
    exact ⟨c, by simp [Walk.step, live, pending, current, worklist, cancelled]⟩
  | enter live pending current worklist uncancelled =>
    exact ⟨c, by simp [Walk.step, live, pending, current, worklist, uncancelled]⟩

/-- Without a token the walk makes the same move, unless the token stopped it. -/
theorem unwatched (h : Turn c w m w') (hm : ∀ e, m ≠ .item (.error e))
    (hc : c'.program = c.program) : Turn c' w.unwatched m w'.unwatched := by
  cases h with
  | stay ended => exact .stay ended
  | unpack live pending => exact .unpack live pending
  | list live pending => exact .list live pending
  | @depart u live pending current =>
    have hsame : (w.departing c.program u).unwatched = w.unwatched.departing c'.program u := by
      rw [hc]
      unfold Walk.departing Walk.unwatched
      split <;> rfl
    rw [hsame]
    exact .depart live pending current
  | exhaust live pending current worklist => exact .exhaust live pending current worklist
  | cut => exact absurd rfl (hm _)
  | enter live pending current worklist => exact .enter live pending current worklist rfl

end Turn

namespace Walk

variable {w : Walk} {c c' : Catalog} {ts : List TypeDecl}

/-- Without its token the walk lists the same types and ends the same way. -/
theorem run_unwatched (h : (w.run c).1 = .ok ts) (hc : c'.program = c.program) :
    (w.unwatched.run c').1 = .ok ts ∧ (w.unwatched.run c').2.1 = (w.run c).2.1.unwatched := by
  induction w, c using run.induct generalizing c' ts with
  | case1 w c w₁ c₁ hstep ih =>
    obtain ⟨c₂, hstep'⟩ := ((turn_of_step hstep).unwatched (by simp) hc).step_eq
    have hprogram : c₂.program = c₁.program := by
      rw [program_of_step hstep', program_of_step hstep, hc]
    rw [run_of_quiet hstep] at h
    rw [run_of_quiet hstep', run_of_quiet hstep]
    exact ih h hprogram
  | case2 w c t w₁ c₁ hstep ih =>
    obtain ⟨c₂, hstep'⟩ := ((turn_of_step hstep).unwatched (by simp) hc).step_eq
    have hprogram : c₂.program = c₁.program := by
      rw [program_of_step hstep', program_of_step hstep, hc]
    obtain ⟨us, hus, rfl⟩ := run_item_ok hstep h
    obtain ⟨hlists, hends⟩ := ih hus hprogram
    rw [run_of_item hstep', run_of_item hstep, hlists]
    exact ⟨rfl, hends⟩
  | case3 w c e w₁ c₁ hstep => simp [run_of_error hstep] at h
  | case4 w c w₁ c₁ hstep =>
    obtain ⟨c₂, hstep'⟩ := ((turn_of_step hstep).unwatched (by simp) hc).step_eq
    rw [run_of_finished hstep] at h
    rw [run_of_finished hstep', run_of_finished hstep]
    exact ⟨h, rfl⟩

/-- Two walks that differ in their tokens alone list the same types if both come to their end. -/
theorem run_agree {w' : Walk} {us : List TypeDecl} (hw : w'.unwatched = w.unwatched)
    (hc : c'.program = c.program) (h : (w.run c).1 = .ok ts) (h' : (w'.run c').1 = .ok us) :
    us = ts := by
  have hfree := (run_unwatched h hc).1
  have hfree' : (w'.unwatched.run c').1 = .ok us := (run_unwatched h' rfl).1
  rw [hw, hfree] at hfree'
  exact (Except.ok.inj hfree').symm

end Walk

end TypeSurvey
