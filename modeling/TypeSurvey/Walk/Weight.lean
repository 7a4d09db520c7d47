import TypeSurvey.Walk

/-!
# What is ahead of a walk

The weight of a walk counts the declarations it can still come by, in the queued units and in units
of the program that it has not seen. Every move that is not an end makes it smaller, so walks over
any graph are finite.
-/
namespace TypeSurvey

mutual

/-- How many declarations a type amounts to. -/
def TypeDecl.weight : TypeDecl → Nat
  | { nested, .. } => 1 + TypeDecl.weightAll nested

def TypeDecl.weightAll : List TypeDecl → Nat
  | [] => 0
  | t :: rest => t.weight + TypeDecl.weightAll rest

end

mutual

def Namespace.weight : Namespace → Nat
  | { children, types, .. } => 1 + TypeDecl.weightAll types + Namespace.weightAll children

def Namespace.weightAll : List Namespace → Nat
  | [] => 0
  | n :: rest => n.weight + Namespace.weightAll rest

end

def Part.weight : Part → Nat
  | space n => n.weight
  | type t => t.weight

/-- Entering a unit and leaving it count once each. -/
def CodeUnit.weight (u : CodeUnit) : Nat := 2 + u.root.weight

/-- What a program holds under identities that are not `seen`. -/
def Program.weightOutside (p : Program) (seen : List UnitKey) : Nat :=
  total (fun entry => entry.2.weight) (p.units.filter fun entry => entry.1 ∉ seen)

def Program.weightUnder (p : Program) (id : UnitKey) : Nat :=
  total (fun entry => entry.2.weight) (p.units.filter fun entry => entry.1 = id)

namespace Walk

/-- What is still ahead: the queued units, those that `p` holds under identities not seen, and what
is pending. -/
def weight (p : Program) (w : Walk) : Nat :=
  total CodeUnit.weight w.worklist + p.weightOutside w.seen + total Part.weight w.pending +
    (if w.current.isSome then 1 else 0)

theorem weightAll_eq (ts : List TypeDecl) :
    TypeDecl.weightAll ts = total (fun t => t.weight) ts := by
  induction ts with
  | nil => rfl
  | cons t ts ih => simp [TypeDecl.weightAll, ih]

theorem namespaceWeightAll_eq (ns : List Namespace) :
    Namespace.weightAll ns = total (fun n => n.weight) ns := by
  induction ns with
  | nil => rfl
  | cons n ns ih => simp [Namespace.weightAll, ih]

theorem weight_type (t : TypeDecl) : t.weight = 1 + total (fun s => s.weight) t.nested := by
  cases t; rw [TypeDecl.weight, weightAll_eq]

theorem weight_space (n : Namespace) :
    n.weight = 1 + total (fun t => t.weight) n.types + total (fun m => m.weight) n.children := by
  cases n; rw [Namespace.weight, weightAll_eq, namespaceWeightAll_eq]

theorem weightOutside_cons (p : Program) {seen : List UnitKey} {id : UnitKey} (h : id ∉ seen) :
    p.weightOutside (id :: seen) + p.weightUnder id = p.weightOutside seen := by
  obtain ⟨entries⟩ := p
  simp only [Program.weightOutside, Program.weightUnder]
  induction entries with
  | nil => rfl
  | cons entry entries ih =>
    by_cases hid : entry.1 = id
    · subst hid; simp [h] at ih ⊢; omega
    · by_cases hs : entry.1 ∈ seen <;> simp [hid, hs] at ih ⊢ <;> omega

theorem weight_le_of_find? {p : Program} {id : UnitKey} {u : CodeUnit} (h : p.find? id = some u) :
    u.weight ≤ p.weightUnder id := by
  obtain ⟨entries⟩ := p
  simp only [Program.weightUnder, Program.find?] at h ⊢
  induction entries with
  | nil => simp at h
  | cons entry entries ih =>
    by_cases hid : entry.1 = id
    · simp [hid] at h; subst h; simp [hid]
    · rw [List.find?_cons_of_neg (by simpa using hid)] at h
      rw [List.filter_cons_of_neg (by simpa using hid)]
      exact ih h

@[simp] theorem consider_program (id : UnitKey) (s : Walk × Catalog) :
    (consider id s).2.program = s.2.program := by
  unfold consider; split <;> rfl

theorem consider_weight (id : UnitKey) (s : Walk × Catalog) :
    (consider id s).1.weight s.2.program ≤ s.1.weight s.2.program := by
  unfold consider
  split
  · exact Nat.le_refl _
  · rename_i h
    have hseen := weightOutside_cons s.2.program h
    cases hfind : s.2.program.find? id with
    | none => simp only [Catalog.lookup, receive, hfind, weight]; simp; omega
    | some u =>
      have hle := weight_le_of_find? hfind
      by_cases ha : s.1.gate.admits u <;>
        simp only [Catalog.lookup, receive, hfind, weight, Option.filter, ha] <;> simp <;> omega

@[simp] theorem queue_program (u : CodeUnit) (s : Walk × Catalog) :
    (queue u s).2.program = s.2.program := by
  unfold queue
  induction u.dependencies with
  | nil => rfl
  | cons id ids ih => simp [ih]

theorem queue_weight (u : CodeUnit) (s : Walk × Catalog) :
    (queue u s).1.weight s.2.program ≤ s.1.weight s.2.program := by
  have hprogram := queue_program u s
  unfold queue at hprogram ⊢
  generalize u.dependencies = ids at hprogram ⊢
  induction ids with
  | nil => exact Nat.le_refl _
  | cons id ids ih =>
    simp only [List.foldr_cons, consider_program] at hprogram ⊢
    have hstep := consider_weight id (ids.foldr consider s)
    rw [hprogram] at hstep
    exact Nat.le_trans hstep (ih hprogram)

@[simp] theorem leave_program (u : CodeUnit) (w : Walk) (c : Catalog) :
    (w.leave u c).2.program = c.program := by
  unfold leave; split <;> simp

theorem leave_weight {w : Walk} {c : Catalog} {u : CodeUnit} (h : w.current.isSome) :
    (w.leave u c).1.weight c.program < w.weight c.program := by
  have hnone : ({ w with current := none } : Walk).weight c.program < w.weight c.program := by
    simp [weight, h]
  unfold leave
  split
  · exact Nat.lt_of_le_of_lt (queue_weight u ({ w with current := none }, c)) hnone
  · exact hnone

@[simp] theorem step_program (w : Walk) (c : Catalog) : (w.step c).2.2.program = c.program := by
  unfold step
  repeat' split
  all_goals simp

theorem step_weight {w : Walk} {c : Catalog} (hfinished : (w.step c).1 ≠ .finished)
    (herror : ∀ e, (w.step c).1 ≠ .item (.error e)) :
    (w.step c).2.1.weight c.program < w.weight c.program := by
  revert hfinished herror
  unfold step
  split
  · simp
  · split
    · rename_i n rest hpending
      intro _ _
      have := weight_space n
      simp only [weight, hpending, total_append, total_map, total_cons, Part.weight]
      omega
    · rename_i t rest hpending
      intro _ _
      have := weight_type t
      simp only [weight, hpending, total_append, total_map, total_cons, Part.weight]
      omega
    · split
      · rename_i u hcurrent
        intro _ _
        exact leave_weight (by simp [hcurrent])
      · split
        · simp
        · split
          · simp
          · rename_i hpending _ hcurrent _ u rest hworklist _
            intro _ _
            simp [weight, entering, hpending, hcurrent, hworklist, Part.weight, CodeUnit.weight]
            omega

end Walk

end TypeSurvey
