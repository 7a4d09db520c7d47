import Mathlib.Data.List.Find
import Mathlib.Data.List.Nodup
import TypeSurvey.Program

/-!
# Programs built by insertion
-/
namespace TypeSurvey.Program

/-- Every unit is found under the identity that it states and under no other. -/
def Filed (p : Program) : Prop := ∀ id u, p.find? id = some u → u.id = id

theorem Filed.insert {p : Program} (h : p.Filed) (v : CodeUnit) : (p.insert v).Filed := by
  intro id u hu
  by_cases hid : id = v.id
  · subst hid
    rw [Program.insert, find?_bind_self] at hu
    exact congrArg CodeUnit.id (Option.some.inj hu).symm
  · rw [Program.insert, find?_bind_of_ne p v hid] at hu
    exact h id u hu

theorem filed_foldl_insert {p : Program} (h : p.Filed) (units : List CodeUnit) :
    (units.foldl Program.insert p).Filed := by
  induction units generalizing p with
  | nil => exact h
  | cons v units ih => exact ih (h.insert v)

theorem filed_ofUnits (units : List CodeUnit) : (ofUnits units).Filed := by
  apply filed_foldl_insert
  intro id u hu
  simp [find?] at hu

/-- Of the units with one identity the one that was inserted last is found. -/
theorem find?_foldl_insert (p : Program) (units : List CodeUnit) (id : UnitKey) :
    (units.foldl Program.insert p).find? id =
      (units.reverse.find? fun u => u.id = id).or (p.find? id) := by
  induction units generalizing p with
  | nil => rfl
  | cons v units ih =>
    rw [List.foldl_cons, ih, List.reverse_cons, List.find?_append, Option.or_assoc]
    congr 1
    by_cases hid : v.id = id
    · subst hid
      rw [Program.insert, find?_bind_self]
      simp
    · rw [Program.insert, find?_bind_of_ne p v (Ne.symm hid)]
      simp [hid]

theorem find?_ofUnits (units : List CodeUnit) (id : UnitKey) :
    (ofUnits units).find? id = units.reverse.find? fun u => u.id = id := by
  rw [ofUnits, find?_foldl_insert]
  simp [find?]

/-- The order of insertion does not matter for units of distinct identities. -/
theorem find?_ofUnits_perm {units units' : List CodeUnit} (h : units'.Perm units)
    (hdistinct : (units.map CodeUnit.id).Nodup) (id : UnitKey) :
    (ofUnits units').find? id = (ofUnits units).find? id := by
  have hreversed : units'.reverse.Perm units.reverse :=
    units'.reverse_perm.trans (h.trans units.reverse_perm.symm)
  have hunique : {u ∈ units'.reverse | decide (u.id = id) = true}.Subsingleton := by
    rintro u ⟨hu, huid⟩ v ⟨hv, hvid⟩
    have hmem {w : CodeUnit} (hw : w ∈ units'.reverse) : w ∈ units :=
      h.mem_iff.mp (List.mem_reverse.mp hw)
    have hsame : u.id = v.id := (of_decide_eq_true huid).trans (of_decide_eq_true hvid).symm
    exact List.inj_on_of_nodup_map hdistinct (hmem hu) (hmem hv) hsame
  rw [find?_ofUnits, find?_ofUnits, List.find?_eq_find?_of_perm hreversed hunique]

end TypeSurvey.Program
