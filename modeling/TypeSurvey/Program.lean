import TypeSurvey.CodeUnit

/-!
# Programs

A program holds at most one unit under each identity. A later unit takes the place of an earlier one
with the same identity.
-/
namespace TypeSurvey

structure Program where
  units : List (UnitKey × CodeUnit) := []

namespace Program

def unbind (p : Program) (id : UnitKey) : Program :=
  ⟨p.units.filter fun entry => entry.1 ≠ id⟩

/-- Files `u` under `id`, which need not be the identity that `u` states. -/
def bind (p : Program) (id : UnitKey) (u : CodeUnit) : Program :=
  ⟨(p.unbind id).units ++ [(id, u)]⟩

def insert (p : Program) (u : CodeUnit) : Program := p.bind u.id u

def ofUnits (units : List CodeUnit) : Program := units.foldl insert {}

def find? (p : Program) (id : UnitKey) : Option CodeUnit :=
  (p.units.find? fun entry => entry.1 = id).map Prod.snd

def size (p : Program) : Nat := p.units.length

/-- The units by identity. -/
def sorted (p : Program) : List CodeUnit :=
  (p.units.map Prod.snd).mergeSort fun a b => a.id.order b.id != .gt

@[simp] theorem find?_unbind_self (p : Program) (id : UnitKey) : (p.unbind id).find? id = none := by
  simp [find?, unbind]

theorem find?_unbind_of_ne (p : Program) {id other : UnitKey} (h : other ≠ id) :
    (p.unbind id).find? other = p.find? other := by
  simp only [find?, unbind, List.find?_filter]
  congr 2
  funext entry
  by_cases he : entry.1 = other <;> simp [he, h]

@[simp] theorem find?_bind_self (p : Program) (id : UnitKey) (u : CodeUnit) :
    (p.bind id u).find? id = some u := by
  have h := p.find?_unbind_self id
  simp only [find?, Option.map_eq_none_iff] at h
  simp [find?, bind, h]

theorem find?_bind_of_ne (p : Program) {id other : UnitKey} (u : CodeUnit) (h : other ≠ id) :
    (p.bind id u).find? other = p.find? other := by
  rw [← p.find?_unbind_of_ne h]
  simp [find?, bind, List.find?_append, h.symm]

end Program

end TypeSurvey
