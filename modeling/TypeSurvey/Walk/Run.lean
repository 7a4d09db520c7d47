import TypeSurvey.Walk.Weight

/-!
# Running a walk

`next` moves on to the next type, to an error or to the end. `take` asks for several, and `run` for
all that are left.
-/
namespace TypeSurvey.Walk

def next (w : Walk) (c : Catalog) : Option (Except SurveyError TypeDecl) × Walk × Catalog :=
  match _h : w.step c with
  | (.quiet, w', c') => next w' c'
  | (.item result, w', c') => (some result, w', c')
  | (.finished, w', c') => (none, w', c')
termination_by w.weight c.program
decreasing_by
  have hlt := step_weight (w := w) (c := c) (by simp [_h]) (by simp [_h])
  have hprogram := step_program w c
  simp only [_h] at hlt hprogram
  rw [hprogram]; exact hlt

/-- At most `n` items; the end is an item too, and nothing is asked for behind it. -/
def take (w : Walk) (c : Catalog) :
    Nat → List (Option (Except SurveyError TypeDecl)) × Walk × Catalog
  | 0 => ([], w, c)
  | n + 1 =>
    let first := w.next c
    match first.1 with
    | none => ([none], first.2)
    | some item =>
      let others := take first.2.1 first.2.2 n
      (some item :: others.1, others.2)

/-- All types that are left, or the error that ends the walk early. -/
def run (w : Walk) (c : Catalog) : Except SurveyError (List TypeDecl) × Walk × Catalog :=
  match _h : w.step c with
  | (.quiet, w', c') => run w' c'
  | (.item (.ok t), w', c') =>
    let others := run w' c'
    (others.1.map (t :: ·), others.2)
  | (.item (.error e), w', c') => (.error e, w', c')
  | (.finished, w', c') => (.ok [], w', c')
termination_by w.weight c.program
decreasing_by
  all_goals
    have hlt := step_weight (w := w) (c := c) (by simp [_h]) (by simp [_h])
    have hprogram := step_program w c
    simp only [_h] at hlt hprogram
    rw [hprogram]; exact hlt

end TypeSurvey.Walk
