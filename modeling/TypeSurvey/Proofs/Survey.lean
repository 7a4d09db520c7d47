import Mathlib.Data.List.Basic
import TypeSurvey.Proofs.Walk.Unwatched
import TypeSurvey.Survey

/-!
# Outcomes of a survey

A survey fails if its root is not found or its token is already cancelled. Otherwise, if no lookup
cancels the token, it answers with the types that its walk lists and its question selects, of each
symbol the first. The answer depends on the program, the gate, the root and the question alone.
-/
namespace TypeSurvey

section FirstOfEach

variable {seen : List Symbol} {t : TypeDecl} {ts : List TypeDecl}

/-- Declarations of one symbol count as duplicates, of which the first is kept. -/
theorem firstOfEach_eq (seen : List Symbol) (ts : List TypeDecl) :
    firstOfEach seen ts =
      (ts.filter fun t => t.symbol ∉ seen).eraseDupsBy fun a b => a.symbol == b.symbol := by
  induction ts generalizing seen with
  | nil => rfl
  | cons t ts ih =>
    by_cases h : t.symbol ∈ seen
    · simp [firstOfEach, h, ih]
    · have hfilter : (ts.filter fun b => b.symbol ∉ t.symbol :: seen) =
          (ts.filter fun b => b.symbol ∉ seen).filter fun b => (b.symbol == t.symbol) = false := by
        rw [List.filter_filter]
        apply List.filter_congr
        intro b _
        simp [List.mem_cons, not_or]
      rw [firstOfEach, if_neg h, ih, hfilter, List.filter_cons_of_pos (by simpa using h),
        List.eraseDupsBy_cons]

theorem mem_of_mem_firstOfEach (h : t ∈ firstOfEach seen ts) : t ∈ ts ∧ t.symbol ∉ seen := by
  induction ts generalizing seen with
  | nil => simp [firstOfEach] at h
  | cons b ts ih =>
    unfold firstOfEach at h
    split at h
    · exact ⟨List.mem_cons_of_mem _ (ih h).1, (ih h).2⟩
    · rename_i hb
      rcases List.mem_cons.mp h with rfl | h
      · exact ⟨List.mem_cons_self, hb⟩
      · exact ⟨List.mem_cons_of_mem _ (ih h).1, fun hs => (ih h).2 (List.mem_cons_of_mem _ hs)⟩

theorem nodup_firstOfEach (seen : List Symbol) (ts : List TypeDecl) :
    ((firstOfEach seen ts).map TypeDecl.symbol).Nodup := by
  induction ts generalizing seen with
  | nil => simp [firstOfEach]
  | cons t ts ih =>
    unfold firstOfEach
    split
    · exact ih seen
    · refine List.nodup_cons.mpr ⟨?_, ih _⟩
      intro hmem
      obtain ⟨b, hb, hsymbol⟩ := List.mem_map.mp hmem
      exact (mem_of_mem_firstOfEach hb).2 (hsymbol ▸ List.mem_cons_self)

/-- No symbol is lost. -/
theorem symbol_mem_firstOfEach (h : t ∈ ts) (hseen : t.symbol ∉ seen) :
    t.symbol ∈ (firstOfEach seen ts).map TypeDecl.symbol := by
  induction ts generalizing seen with
  | nil => simp at h
  | cons b ts ih =>
    unfold firstOfEach
    split
    · rename_i hb
      rcases List.mem_cons.mp h with rfl | h
      · exact absurd hb hseen
      · exact ih h hseen
    · rw [List.map_cons, List.mem_cons]
      by_cases hb : t.symbol = b.symbol
      · exact Or.inl hb
      · rcases List.mem_cons.mp h with rfl | h
        · exact absurd rfl hb
        · exact Or.inr (ih h (by simp [hb, hseen]))

end FirstOfEach

namespace Question

variable {q : Question} {t : TypeDecl} {ts : List TypeDecl}

/-- The types that are selected, where declarations of one symbol count as duplicates. -/
theorem choose_eq (q : Question) (ts : List TypeDecl) :
    q.choose ts = (ts.filter q.selects).eraseDupsBy fun a b => a.symbol == b.symbol := by
  rw [choose, firstOfEach_eq]
  simp

theorem choose_singleton (h : q.selects t = true) : q.choose [t] = [t] := by
  simp [choose, firstOfEach, h]

theorem nodup_choose (q : Question) (ts : List TypeDecl) :
    ((q.choose ts).map TypeDecl.symbol).Nodup :=
  nodup_firstOfEach _ _

theorem mem_of_mem_choose (h : t ∈ q.choose ts) : t ∈ ts ∧ q.selects t = true :=
  List.mem_filter.mp (mem_of_mem_firstOfEach h).1

theorem symbol_mem_choose (ht : t ∈ ts) (h : q.selects t = true) :
    t.symbol ∈ (q.choose ts).map TypeDecl.symbol :=
  symbol_mem_firstOfEach (List.mem_filter.mpr ⟨ht, h⟩) List.not_mem_nil

/-- The symbols that are left are those of the selected types. -/
theorem symbol_mem_choose_iff {x : Symbol} :
    x ∈ (q.choose ts).map TypeDecl.symbol ↔ ∃ t ∈ ts, q.selects t = true ∧ t.symbol = x := by
  constructor
  · intro hx
    obtain ⟨t, ht, rfl⟩ := List.mem_map.mp hx
    obtain ⟨hmem, hselects⟩ := mem_of_mem_choose ht
    exact ⟨t, hmem, hselects, rfl⟩
  · rintro ⟨t, ht, hselects, rfl⟩
    exact symbol_mem_choose ht hselects

end Question

variable {g : Gate} {q : Question} {root : UnitKey} {token : Option Token} {c : Catalog}
  {u : CodeUnit} {ts : List TypeDecl}

theorem survey_of_missing (h : c.program.find? root = none) :
    survey g q root token c = (.error (.unresolved root), c.visited root) := by
  simp [survey, Catalog.lookup, h]

theorem survey_of_found (h : c.program.find? root = some u) :
    survey g q root token c =
      (((Walk.start g u g.allowsCrossing token).run (c.visited root)).1.map q.choose,
        ((Walk.start g u g.allowsCrossing token).run (c.visited root)).2.2) := by
  simp [survey, Catalog.lookup, h]

/-- A walk whose token is cancelled stops in front of its root. -/
theorem run_of_cancelled {crosses : Bool} (h : c.wasCancelled token = true) :
    ((Walk.start g u crosses token).run c).1 = .error .cancelled ∧
      ((Walk.start g u crosses token).run c).2.2 = c := by
  have hstep : (Walk.start g u crosses token).step c =
      (.item (.error .cancelled),
        { Walk.start g u crosses token with worklist := [], isOver := true }, c) := by
    simp [Walk.step, Walk.start, h]
  rw [Walk.run_of_error hstep]
  exact ⟨rfl, rfl⟩

theorem survey_of_cancelled (hfound : c.program.find? root = some u)
    (h : c.wasCancelled token = true) :
    survey g q root token c = (.error .cancelled, c.visited root) := by
  have hvisited : (c.visited root).wasCancelled token = true := Catalog.wasCancelled_visited_of h
  rw [survey_of_found hfound, (run_of_cancelled hvisited).1, (run_of_cancelled hvisited).2]
  rfl

/-- A survey that fails behind its root was cancelled on the way. -/
theorem survey_error {e : SurveyError} (hfound : c.program.find? root = some u)
    (h : (survey g q root token c).1 = .error e) :
    e = .cancelled ∧ (survey g q root token c).2.wasCancelled token = true := by
  rw [survey_of_found hfound] at h ⊢
  cases hrun : ((Walk.start g u g.allowsCrossing token).run (c.visited root)).1 with
  | error e' =>
    obtain ⟨rfl, hcancelled⟩ := Walk.run_error hrun
    obtain rfl : .cancelled = e := by simpa [hrun, Except.map] using h
    exact ⟨rfl, hcancelled⟩
  | ok us => simp [hrun, Except.map] at h

/-- What every lookup keeps is kept by a survey. -/
theorem survey_catalog {P : Catalog → Prop}
    (hvisit : ∀ {c : Catalog} {id : UnitKey}, P c → P (c.visited id)) (h : P c) :
    P (survey g q root token c).2 := by
  cases hfound : c.program.find? root with
  | none =>
    rw [survey_of_missing hfound]
    exact hvisit h
  | some u =>
    rw [survey_of_found hfound]
    exact Walk.run_catalog hvisit (hvisit h)

/-- A survey that answers does so with what its walk lists. -/
theorem survey_ok (h : (survey g q root token c).1 = .ok ts) :
    ∃ u us, c.program.find? root = some u ∧
      ((Walk.start g u g.allowsCrossing token).run (c.visited root)).1 = .ok us ∧
      ts = q.choose us := by
  cases hfound : c.program.find? root with
  | none => simp [survey_of_missing hfound] at h
  | some u =>
    rw [survey_of_found hfound] at h
    cases hrun : ((Walk.start g u g.allowsCrossing token).run (c.visited root)).1 with
    | error e => simp [hrun, Except.map] at h
    | ok us => exact ⟨u, us, rfl, hrun, by simpa [hrun, Except.map, eq_comm] using h⟩

theorem survey_of_run {us : List TypeDecl} (hfound : c.program.find? root = some u)
    (hrun : ((Walk.start g u g.allowsCrossing token).run (c.visited root)).1 = .ok us) :
    (survey g q root token c).1 = .ok (q.choose us) := by
  rw [survey_of_found hfound, hrun]
  rfl

/-- The survey of a found root answers if nobody cancels it. -/
theorem survey_of_steady (q : Question) (hfound : c.program.find? root = some u)
    (hsteady : c.Steady token) (hlive : c.wasCancelled token = false) :
    ∃ us, (survey g q root token c).1 = .ok (q.choose us) := by
  obtain ⟨us, hrun⟩ := Walk.start_run_ok g u g.allowsCrossing root hsteady hlive
  exact ⟨us, survey_of_run hfound hrun⟩

/-- An answer once given is given again for every token that nobody cancels, whatever the catalog
records besides the program. -/
theorem survey_again {c' : Catalog} {token' : Option Token}
    (h : (survey g q root token c).1 = .ok ts) (hc : c'.program = c.program)
    (hsteady : c'.Steady token') (hlive : c'.wasCancelled token' = false) :
    (survey g q root token' c').1 = .ok ts := by
  obtain ⟨u, us, hfound, hrun, rfl⟩ := survey_ok h
  obtain ⟨us', hrun'⟩ := Walk.start_run_ok g u g.allowsCrossing root hsteady hlive
  have hvisited : (c'.visited root).program = (c.visited root).program := hc
  have htoken : (Walk.start g u g.allowsCrossing token').unwatched =
      (Walk.start g u g.allowsCrossing token).unwatched := rfl
  have hsame : us' = us := Walk.run_agree htoken hvisited hrun hrun'
  rw [survey_of_run (hc ▸ hfound) hrun', hsame]

end TypeSurvey
