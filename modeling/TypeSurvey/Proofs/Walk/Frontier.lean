import TypeSurvey.Proofs.Program
import TypeSurvey.Walk.Weight

/-!
# The frontier of a walk

Leaving a unit changes only what a walk has seen and queued. `Frontier` is that part of a walk, and
`meetAll` what a list of dependencies makes of it, whatever else the catalog records.
-/
namespace TypeSurvey

structure Frontier where
  seen : List UnitKey
  worklist : List CodeUnit

namespace Frontier

variable {p : Program} {g : Gate} {f : Frontier}

/-- An identity met for the first time is marked, and its unit queued if the gate admits it. -/
def meet (p : Program) (g : Gate) (id : UnitKey) (f : Frontier) : Frontier :=
  if id ∈ f.seen then f
  else ⟨id :: f.seen, ((p.find? id).filter g.admits).toList ++ f.worklist⟩

def meetAll (p : Program) (g : Gate) (ids : List UnitKey) (f : Frontier) : Frontier :=
  ids.foldr (meet p g) f

theorem mem_seen_meet {id k : UnitKey} : k ∈ (f.meet p g id).seen ↔ k = id ∨ k ∈ f.seen := by
  unfold meet
  split
  · rename_i hid
    exact ⟨Or.inr, fun h => h.elim (fun e => e ▸ hid) fun h => h⟩
  · simp

theorem mem_seen_meetAll {ids : List UnitKey} {k : UnitKey} :
    k ∈ (f.meetAll p g ids).seen ↔ k ∈ ids ∨ k ∈ f.seen := by
  induction ids with
  | nil => simp [meetAll]
  | cons id ids ih =>
    have hstep : (f.meetAll p g (id :: ids)).seen = ((f.meetAll p g ids).meet p g id).seen := rfl
    rw [hstep, mem_seen_meet, ih, List.mem_cons, or_assoc]

theorem mem_worklist_meet {id : UnitKey} {u : CodeUnit} :
    u ∈ (f.meet p g id).worklist ↔
      (id ∉ f.seen ∧ p.find? id = some u ∧ g.admits u = true) ∨ u ∈ f.worklist := by
  unfold meet
  split
  · rename_i hid
    simp [hid]
  · rename_i hid
    simp [hid, Option.filter_eq_some_iff]

/-- Only units that were looked up and admitted come into the worklist. -/
theorem mem_worklist_meetAll {ids : List UnitKey} {u : CodeUnit}
    (h : u ∈ (f.meetAll p g ids).worklist) :
    (∃ id ∈ ids, p.find? id = some u ∧ g.admits u = true) ∨ u ∈ f.worklist := by
  induction ids with
  | nil => exact Or.inr h
  | cons id ids ih =>
    rcases mem_worklist_meet.mp h with ⟨_, hfind, hadmits⟩ | h
    · exact Or.inl ⟨id, List.mem_cons_self, hfind, hadmits⟩
    · rcases ih h with ⟨k, hk, hfound⟩ | h
      · exact Or.inl ⟨k, List.mem_cons_of_mem _ hk, hfound⟩
      · exact Or.inr h

theorem worklist_subset_meetAll {ids : List UnitKey} {u : CodeUnit} (h : u ∈ f.worklist) :
    u ∈ (f.meetAll p g ids).worklist := by
  induction ids with
  | nil => exact h
  | cons id ids ih => exact mem_worklist_meet.mpr (Or.inr ih)

/-- Queued and entered units have identities of their own, all of them seen. -/
structure Tidy (entered : List CodeUnit) (f : Frontier) : Prop where
  nodup : ((f.worklist ++ entered).map CodeUnit.id).Nodup
  seen : ∀ u ∈ f.worklist ++ entered, u.id ∈ f.seen

/-- A unit that was met and may be entered is queued unless it was entered. -/
def Covers (p : Program) (g : Gate) (entered : List CodeUnit) (f : Frontier) : Prop :=
  ∀ id ∈ f.seen, ∀ u, p.find? id = some u → g.admits u = true → u ∈ f.worklist ++ entered

variable {entered : List CodeUnit}

theorem Tidy.meet (hp : p.Filed) (h : f.Tidy entered) (id : UnitKey) :
    (f.meet p g id).Tidy entered := by
  unfold Frontier.meet
  split
  · exact h
  · rename_i hid
    cases hfound : (p.find? id).filter g.admits with
    | none => exact ⟨h.nodup, fun u hu => List.mem_cons_of_mem _ (h.seen u hu)⟩
    | some v =>
      have hv : v.id = id := hp id v (Option.filter_eq_some_iff.mp hfound).1
      have hfresh : v.id ∉ (f.worklist ++ entered).map CodeUnit.id := by
        intro hmem
        obtain ⟨u, hu, hue⟩ := List.mem_map.mp hmem
        exact hid (hv ▸ hue ▸ h.seen u hu)
      constructor
      · exact List.nodup_cons.mpr ⟨hfresh, h.nodup⟩
      · intro u hu
        rcases List.mem_cons.mp hu with rfl | hu
        · exact hv ▸ List.mem_cons_self
        · exact List.mem_cons_of_mem _ (h.seen u hu)

theorem Tidy.meetAll (hp : p.Filed) (h : f.Tidy entered) (ids : List UnitKey) :
    (f.meetAll p g ids).Tidy entered := by
  induction ids with
  | nil => exact h
  | cons id ids ih => exact ih.meet hp id

theorem Covers.meet (h : f.Covers p g entered) (id : UnitKey) :
    (f.meet p g id).Covers p g entered := by
  intro k hk u hfind hadmits
  rcases mem_seen_meet.mp hk with rfl | hk
  · by_cases hseen : k ∈ f.seen
    · rcases List.mem_append.mp (h k hseen u hfind hadmits) with hu | hu
      · exact List.mem_append_left _ (mem_worklist_meet.mpr (Or.inr hu))
      · exact List.mem_append_right _ hu
    · exact List.mem_append_left _ (mem_worklist_meet.mpr (Or.inl ⟨hseen, hfind, hadmits⟩))
  · rcases List.mem_append.mp (h k hk u hfind hadmits) with hu | hu
    · exact List.mem_append_left _ (mem_worklist_meet.mpr (Or.inr hu))
    · exact List.mem_append_right _ hu

theorem Covers.meetAll (h : f.Covers p g entered) (ids : List UnitKey) :
    (f.meetAll p g ids).Covers p g entered := by
  induction ids with
  | nil => exact h
  | cons id ids ih => exact ih.meet id

end Frontier

namespace Walk

def frontier (w : Walk) : Frontier := ⟨w.seen, w.worklist⟩

def withFrontier (w : Walk) (f : Frontier) : Walk :=
  { w with seen := f.seen, worklist := f.worklist }

theorem consider_walk (id : UnitKey) (s : Walk × Catalog) :
    (consider id s).1 = s.1.withFrontier (s.1.frontier.meet s.2.program s.1.gate id) := by
  unfold consider Frontier.meet
  split
  · rename_i hid
    rw [if_pos (show id ∈ s.1.frontier.seen from hid)]
    rfl
  · rename_i hid
    rw [if_neg (show id ∉ s.1.frontier.seen from hid)]
    rfl

theorem foldr_consider (ids : List UnitKey) (s : Walk × Catalog) :
    (ids.foldr consider s).1 =
        s.1.withFrontier (s.1.frontier.meetAll s.2.program s.1.gate ids) ∧
      (ids.foldr consider s).2.program = s.2.program := by
  induction ids with
  | nil => exact ⟨rfl, rfl⟩
  | cons id ids ih =>
    rw [List.foldr_cons, consider_walk, consider_program, ih.1, ih.2]
    exact ⟨rfl, rfl⟩

/-- A walk that has left `u`, once the units `u` refers to have been considered. -/
def departing (p : Program) (u : CodeUnit) (w : Walk) : Walk :=
  if w.crosses then
    { w with current := none }.withFrontier (w.frontier.meetAll p w.gate u.dependencies)
  else { w with current := none }

theorem leave_walk (u : CodeUnit) (w : Walk) (c : Catalog) :
    (w.leave u c).1 = w.departing c.program u := by
  unfold leave departing
  split
  · exact (foldr_consider u.dependencies ({ w with current := none }, c)).1
  · rfl

end Walk

end TypeSurvey
