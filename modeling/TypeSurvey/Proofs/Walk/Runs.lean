import TypeSurvey.Proofs.Catalog

/-!
# Runs of a walk

A run that brings a list of types is a series of moves that lists them and leaves nothing ahead.
While nobody cancels, every run does so, and asking for one item after the other brings the same
types and then the end.
-/
namespace TypeSurvey

theorem Walk.turn_of_step {w w' : Walk} {c c' : Catalog} {m : Move} (h : w.step c = (m, w', c')) :
    Turn c w m w' := by
  have hturn := w.step_turn c
  rwa [h] at hturn

theorem Walk.program_of_step {w w' : Walk} {c c' : Catalog} {m : Move}
    (h : w.step c = (m, w', c')) : c'.program = c.program := by
  have hprogram := w.step_program c
  rwa [h] at hprogram

theorem Walk.catalog_of_step {P : Catalog → Prop} {w w' : Walk} {c c' : Catalog} {m : Move}
    (hvisit : ∀ {c : Catalog} {id : UnitKey}, P c → P (c.visited id))
    (h : w.step c = (m, w', c')) (hc : P c) : P c' := by
  have hkept := step_catalog hvisit w hc
  rwa [h] at hkept

theorem Walk.steady_of_step {w w' : Walk} {c c' : Catalog} {m : Move} {token : Option Token}
    (h : w.step c = (m, w', c')) (hsteady : c.Steady token) : c'.Steady token :=
  catalog_of_step (P := fun d => d.Steady token) Catalog.Steady.visited h hsteady

theorem Walk.wasCancelled_of_step {w w' : Walk} {c c' : Catalog} {m : Move} {token : Option Token}
    (h : w.step c = (m, w', c')) (hsteady : c.Steady token) :
    c'.wasCancelled token = c.wasCancelled token := by
  let P (d : Catalog) : Prop := d.Steady token ∧ d.wasCancelled token = c.wasCancelled token
  have hvisit {d : Catalog} {id : UnitKey} (hd : P d) : P (d.visited id) :=
    ⟨hd.1.visited, (Catalog.wasCancelled_visited hd.1).trans hd.2⟩
  exact (catalog_of_step (P := P) hvisit h ⟨hsteady, rfl⟩).2

theorem Walk.wasCancelled_of_step_of {w w' : Walk} {c c' : Catalog} {m : Move}
    {token : Option Token} (h : w.step c = (m, w', c')) (hc : c.wasCancelled token = true) :
    c'.wasCancelled token = true :=
  catalog_of_step (P := fun d => d.wasCancelled token = true) Catalog.wasCancelled_visited_of h hc

namespace Walk

variable (p : Program) (u : CodeUnit) (w : Walk)

@[simp] theorem departing_gate : (w.departing p u).gate = w.gate := by
  unfold departing; split <;> rfl

@[simp] theorem departing_crosses : (w.departing p u).crosses = w.crosses := by
  unfold departing; split <;> rfl

@[simp] theorem departing_token : (w.departing p u).token = w.token := by
  unfold departing; split <;> rfl

@[simp] theorem departing_pending : (w.departing p u).pending = w.pending := by
  unfold departing; split <;> rfl

@[simp] theorem departing_current : (w.departing p u).current = none := by
  unfold departing; split <;> rfl

@[simp] theorem departing_entered : (w.departing p u).entered = w.entered := by
  unfold departing; split <;> rfl

@[simp] theorem departing_isOver : (w.departing p u).isOver = w.isOver := by
  unfold departing; split <;> rfl

end Walk

namespace Turn

variable {c : Catalog} {w w' : Walk} {m : Move}

/-- A walk is set up once: no move changes its gate, its reach or its token. -/
theorem setup (h : Turn c w m w') :
    w'.gate = w.gate ∧ w'.crosses = w.crosses ∧ w'.token = w.token := by
  cases h <;> simp [Walk.entering]

theorem live (h : Turn c w m w') (hlive : w.isOver = false) (hm : ∀ e, m ≠ .item (.error e)) :
    w'.isOver = false := by
  cases h with
  | cut => exact absurd rfl (hm _)
  | _ => simp_all [Walk.entering]

theorem error_iff (h : Turn c w m w') {e : SurveyError} (hm : m = .item (.error e)) :
    e = .cancelled ∧ c.wasCancelled w.token = true := by
  cases h <;> simp_all

end Turn

theorem Advances.setup {p : Program} {w w' : Walk} {ts : List TypeDecl} (h : Advances p w ts w') :
    w'.gate = w.gate ∧ w'.crosses = w.crosses ∧ w'.token = w.token := by
  induction h with
  | still => exact ⟨rfl, rfl, rfl⟩
  | move _ _ hturn ih =>
    obtain ⟨hgate, hcrosses, htoken⟩ := hturn.setup
    exact ⟨hgate.trans ih.1, hcrosses.trans ih.2.1, htoken.trans ih.2.2⟩

namespace Walk

variable {w w' : Walk} {c c' : Catalog}

theorem next_of_quiet (h : w.step c = (.quiet, w', c')) : w.next c = w'.next c' := by
  rw [next]
  split <;> simp_all

theorem next_of_item {r : Except SurveyError TypeDecl} (h : w.step c = (.item r, w', c')) :
    w.next c = (some r, w', c') := by
  rw [next]
  split <;> simp_all

theorem next_of_finished (h : w.step c = (.finished, w', c')) : w.next c = (none, w', c') := by
  rw [next]
  split <;> simp_all

theorem run_of_quiet (h : w.step c = (.quiet, w', c')) : w.run c = w'.run c' := by
  rw [run]
  split <;> simp_all

theorem run_of_item {t : TypeDecl} (h : w.step c = (.item (.ok t), w', c')) :
    w.run c = ((w'.run c').1.map (t :: ·), (w'.run c').2) := by
  rw [run]
  split <;> simp_all

theorem run_of_error {e : SurveyError} (h : w.step c = (.item (.error e), w', c')) :
    w.run c = (.error e, w', c') := by
  rw [run]
  split <;> simp_all

theorem run_of_finished (h : w.step c = (.finished, w', c')) : w.run c = (.ok [], w', c') := by
  rw [run]
  split <;> simp_all

/-- A run behind one more type lists that type in front. -/
theorem run_item_ok {t : TypeDecl} {ts : List TypeDecl} (h : w.step c = (.item (.ok t), w', c'))
    (hrun : (w.run c).1 = .ok ts) : ∃ us, (w'.run c').1 = .ok us ∧ ts = t :: us := by
  rw [run_of_item h] at hrun
  cases hrest : (w'.run c').1 with
  | error e => simp [hrest, Except.map] at hrun
  | ok us => exact ⟨us, rfl, by simpa [hrest, Except.map, eq_comm] using hrun⟩

/-- Nothing is ahead of the walk, and it was not cut short. -/
structure Exhausted (w : Walk) : Prop where
  live : w.isOver = false
  pending : w.pending = []
  current : w.current = none
  worklist : w.worklist = []

theorem exhausted_of_finished (h : w.step c = (.finished, w', c')) (hlive : w.isOver = false) :
    w.Exhausted := by
  cases turn_of_step h with
  | stay ended => simp [hlive] at ended
  | exhaust live pending current worklist => exact ⟨live, pending, current, worklist⟩

theorem run_advances {ts : List TypeDecl} (h : (w.run c).1 = .ok ts) :
    Advances c.program w ts (w.run c).2.1 := by
  induction w, c using run.induct generalizing ts with
  | case1 w c w' c' hstep ih =>
    rw [run_of_quiet hstep] at h ⊢
    have hrest := ih h
    rw [program_of_step hstep] at hrest
    exact (Advances.single rfl (turn_of_step hstep)).trans hrest
  | case2 w c t w' c' hstep ih =>
    obtain ⟨us, hus, rfl⟩ := run_item_ok hstep h
    rw [run_of_item hstep]
    have hrest := ih hus
    rw [program_of_step hstep] at hrest
    exact (Advances.single rfl (turn_of_step hstep)).trans hrest
  | case3 w c e w' c' hstep => simp [run_of_error hstep] at h
  | case4 w c w' c' hstep =>
    rw [run_of_finished hstep] at h ⊢
    obtain rfl : [] = ts := by simpa using h
    exact .single rfl (turn_of_step hstep)

/-- A run that was not cut short goes on until nothing is ahead. -/
theorem run_exhausted {ts : List TypeDecl} (h : (w.run c).1 = .ok ts) (hlive : w.isOver = false) :
    (w.run c).2.1.Exhausted := by
  induction w, c using run.induct generalizing ts with
  | case1 w c w' c' hstep ih =>
    rw [run_of_quiet hstep] at h ⊢
    exact ih h ((turn_of_step hstep).live hlive (by simp))
  | case2 w c t w' c' hstep ih =>
    obtain ⟨us, hus, rfl⟩ := run_item_ok hstep h
    rw [run_of_item hstep]
    exact ih hus ((turn_of_step hstep).live hlive (by simp))
  | case3 w c e w' c' hstep => simp [run_of_error hstep] at h
  | case4 w c w' c' hstep =>
    rw [run_of_finished hstep]
    have hend := exhausted_of_finished hstep hlive
    cases turn_of_step hstep with
    | stay | exhaust => exact hend

/-- A run that was cut short found its token cancelled. -/
theorem run_error {e : SurveyError} (h : (w.run c).1 = .error e) :
    e = .cancelled ∧ (w.run c).2.2.wasCancelled w.token = true := by
  induction w, c using run.induct with
  | case1 w c w' c' hstep ih =>
    rw [run_of_quiet hstep] at h ⊢
    rw [← (turn_of_step hstep).setup.2.2]
    exact ih h
  | case2 w c t w' c' hstep ih =>
    rw [run_of_item hstep] at h ⊢
    rw [← (turn_of_step hstep).setup.2.2]
    cases hrest : (w'.run c').1 with
    | error e' => exact ih (by simpa [hrest, Except.map] using h)
    | ok us => simp [hrest, Except.map] at h
  | case3 w c e' w' c' hstep =>
    rw [run_of_error hstep] at h ⊢
    obtain ⟨rfl, hcancelled⟩ := (turn_of_step hstep).error_iff rfl
    obtain rfl : .cancelled = e := Except.error.inj h
    exact ⟨rfl, wasCancelled_of_step_of hstep hcancelled⟩
  | case4 w c w' c' hstep => simp [run_of_finished hstep] at h

/-- What every lookup keeps is kept by a run. -/
theorem run_catalog {P : Catalog → Prop}
    (hvisit : ∀ {c : Catalog} {id : UnitKey}, P c → P (c.visited id)) (h : P c) :
    P (w.run c).2.2 := by
  induction w, c using run.induct with
  | case1 w c w' c' hstep ih =>
    rw [run_of_quiet hstep]
    exact ih (catalog_of_step hvisit hstep h)
  | case2 w c t w' c' hstep ih =>
    rw [run_of_item hstep]
    exact ih (catalog_of_step hvisit hstep h)
  | case3 w c e w' c' hstep =>
    rw [run_of_error hstep]
    exact catalog_of_step hvisit hstep h
  | case4 w c w' c' hstep =>
    rw [run_of_finished hstep]
    exact catalog_of_step hvisit hstep h

theorem next_catalog {P : Catalog → Prop}
    (hvisit : ∀ {c : Catalog} {id : UnitKey}, P c → P (c.visited id)) (h : P c) :
    P (w.next c).2.2 := by
  induction w, c using next.induct with
  | case1 w c w' c' hstep ih =>
    rw [next_of_quiet hstep]
    exact ih (catalog_of_step hvisit hstep h)
  | case2 w c r w' c' hstep =>
    rw [next_of_item hstep]
    exact catalog_of_step hvisit hstep h
  | case3 w c w' c' hstep =>
    rw [next_of_finished hstep]
    exact catalog_of_step hvisit hstep h

theorem take_catalog {P : Catalog → Prop}
    (hvisit : ∀ {c : Catalog} {id : UnitKey}, P c → P (c.visited id)) (n : Nat) (h : P c) :
    P (w.take c n).2.2 := by
  induction n generalizing w c with
  | zero => exact h
  | succ n ih =>
    unfold take
    simp only
    split
    · exact next_catalog hvisit h
    · exact ih (next_catalog hvisit h)

/-- Nobody cancels the walk, so it is not cut short. -/
theorem run_ok (hsteady : c.Steady w.token) (hlive : c.wasCancelled w.token = false) :
    ∃ ts, (w.run c).1 = .ok ts := by
  induction w, c using run.induct with
  | case1 w c w' c' hstep ih =>
    rw [run_of_quiet hstep]
    rw [← (turn_of_step hstep).setup.2.2] at hsteady hlive
    exact ih (steady_of_step hstep hsteady) (wasCancelled_of_step hstep hsteady ▸ hlive)
  | case2 w c t w' c' hstep ih =>
    rw [run_of_item hstep]
    rw [← (turn_of_step hstep).setup.2.2] at hsteady hlive
    obtain ⟨us, hus⟩ :=
      ih (steady_of_step hstep hsteady) (wasCancelled_of_step hstep hsteady ▸ hlive)
    exact ⟨t :: us, by simp [hus, Except.map]⟩
  | case3 w c e w' c' hstep =>
    have hcancelled := ((turn_of_step hstep).error_iff rfl).2
    simp [hlive] at hcancelled
  | case4 w c w' c' hstep => exact ⟨[], by rw [run_of_finished hstep]⟩

/-- The same for a new walk, whose root has just been looked up. -/
theorem start_run_ok {token : Option Token} (g : Gate) (u : CodeUnit) (crosses : Bool)
    (root : UnitKey) (hsteady : c.Steady token) (hlive : c.wasCancelled token = false) :
    ∃ ts, ((start g u crosses token).run (c.visited root)).1 = .ok ts := by
  apply run_ok
  · exact hsteady.visited
  · exact (Catalog.wasCancelled_visited hsteady).trans hlive

/-- What a walk lists when it is asked for one item after the other, and then its end. -/
def listing (ts : List TypeDecl) : List (Option (Except SurveyError TypeDecl)) :=
  ts.map (fun t => some (.ok t)) ++ [none]

theorem take_of_run {ts : List TypeDecl} (h : (w.run c).1 = .ok ts) :
    w.take c (ts.length + 1) = (listing ts, (w.run c).2) := by
  induction w, c using run.induct generalizing ts with
  | case1 w c w' c' hstep ih =>
    rw [run_of_quiet hstep] at h ⊢
    rw [← ih h, take, take, next_of_quiet hstep]
  | case2 w c t w' c' hstep ih =>
    obtain ⟨us, hus, rfl⟩ := run_item_ok hstep h
    rw [List.length_cons, take, next_of_item hstep, run_of_item hstep]
    simp [ih hus, listing]
  | case3 w c e w' c' hstep => simp [run_of_error hstep] at h
  | case4 w c w' c' hstep =>
    rw [run_of_finished hstep] at h ⊢
    obtain rfl : [] = ts := by simpa using h
    simp [take, next_of_finished hstep, listing]

/-- Asked for any number of items, the walk lists the first of its types and then its end. -/
theorem take_items_of_run {ts : List TypeDecl} (h : (w.run c).1 = .ok ts) (n : Nat) :
    (w.take c n).1 = (listing ts).take n := by
  induction w, c using run.induct generalizing ts n with
  | case1 w c w' c' hstep ih =>
    rw [run_of_quiet hstep] at h
    rw [← ih h]
    cases n with
    | zero => rfl
    | succ n => rw [take, take, next_of_quiet hstep]
  | case2 w c t w' c' hstep ih =>
    obtain ⟨us, hus, rfl⟩ := run_item_ok hstep h
    cases n with
    | zero => rfl
    | succ n =>
      rw [take, next_of_item hstep]
      simp [ih hus, listing]
  | case3 w c e w' c' hstep => simp [run_of_error hstep] at h
  | case4 w c w' c' hstep =>
    rw [run_of_finished hstep] at h
    obtain rfl : [] = ts := by simpa using h
    cases n with
    | zero => rfl
    | succ n =>
      rw [take, next_of_finished hstep]
      simp [listing]

/-- The types that come up in any number of items are those of the run. -/
theorem mem_take_iff_of_run {ts : List TypeDecl} (h : (w.run c).1 = .ok ts) {t : TypeDecl} :
    (∃ n, some (.ok t) ∈ (w.take c n).1) ↔ t ∈ ts := by
  have hlisting : some (.ok t) ∈ listing ts ↔ t ∈ ts := by simp [listing]
  constructor
  · rintro ⟨n, hn⟩
    rw [take_items_of_run h] at hn
    exact hlisting.mp (List.mem_of_mem_take hn)
  · intro ht
    refine ⟨ts.length + 1, ?_⟩
    rw [take_of_run h]
    exact hlisting.mpr ht

end Walk

end TypeSurvey
