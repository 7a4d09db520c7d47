import Mathlib.Data.List.Forall2
import TypeSurvey.Proofs.Program
import TypeSurvey.Proofs.Walk.Route

/-!
# Programs that refer to more

A program widens when its units refer to more units or carry more annotations and declare what they
did before. A walk then enters at least the units that it entered before, in whatever order: they
form a closed set, and the route does not leave such a set.
-/
namespace TypeSurvey

namespace CodeUnit

/-- The same unit with at least the references and the annotation names of `u`, in any order and any
number. -/
structure WidensTo (u u' : CodeUnit) : Prop where
  id : u'.id = u.id
  root : u'.root = u.root
  dependencies : u.dependencies ⊆ u'.dependencies
  names : u.annotations.map Annotation.name ⊆ u'.annotations.map Annotation.name

/-- The same references and annotation names, in any order and any number. -/
def Rearranges (u u' : CodeUnit) : Prop := u.WidensTo u' ∧ u'.WidensTo u

theorem carries_iff {u : CodeUnit} {name : String} :
    u.carries name = true ↔ name ∈ u.annotations.map Annotation.name := by
  simp [carries]

theorem WidensTo.refl (u : CodeUnit) : u.WidensTo u :=
  ⟨rfl, rfl, List.Subset.refl _, List.Subset.refl _⟩

/-- A unit that has opted in stays so. -/
theorem WidensTo.carries {u u' : CodeUnit} (h : u.WidensTo u') {marker : String}
    (hu : u.carries marker = true) : u'.carries marker = true :=
  carries_iff.mpr (h.names (carries_iff.mp hu))

end CodeUnit

namespace Program

/-- The same identities, each with a unit that widens. -/
def WidensTo (p p' : Program) : Prop :=
  ∀ id, Option.Rel CodeUnit.WidensTo (p.find? id) (p'.find? id)

variable {p p' : Program} {g : Gate} {root : UnitKey} {selects : TypeDecl → Bool}

theorem WidensTo.of_find? (h : ∀ id, p'.find? id = p.find? id) : p.WidensTo p' := by
  intro id
  rw [h]
  cases p.find? id with
  | none => exact .none
  | some u => exact .some (.refl u)

theorem WidensTo.found (h : p.WidensTo p') {id : UnitKey} {u : CodeUnit}
    (hu : p.find? id = some u) : ∃ u', p'.find? id = some u' ∧ u.WidensTo u' := by
  have hrel := h id
  rw [hu] at hrel
  cases hrel' : p'.find? id with
  | none => simp [hrel'] at hrel
  | some u' => exact ⟨u', rfl, by simpa [hrel'] using hrel⟩

theorem WidensTo.missing (h : p.WidensTo p') {id : UnitKey} (hnone : p.find? id = none) :
    p'.find? id = none := by
  have hrel := h id
  rw [hnone] at hrel
  cases hrel' : p'.find? id with
  | none => rfl
  | some u' => simp [hrel'] at hrel

/-- Units that widen one by one make a program that widens. -/
theorem WidensTo.of_forall₂ {units units' : List CodeUnit}
    (h : List.Forall₂ CodeUnit.WidensTo units units') :
    (ofUnits units).WidensTo (ofUnits units') := by
  have hfind {us us' : List CodeUnit} (h : List.Forall₂ CodeUnit.WidensTo us us') (id : UnitKey) :
      Option.Rel CodeUnit.WidensTo (us.find? fun u => u.id = id) (us'.find? fun u => u.id = id) := by
    induction h with
    | nil => exact .none
    | @cons u u' us us' hu _ ih =>
      by_cases hid : u.id = id
      · rw [List.find?_cons_of_pos (by simpa using hid),
          List.find?_cons_of_pos (by simpa [hu.id] using hid)]
        exact .some hu
      · rw [List.find?_cons_of_neg (by simpa using hid),
          List.find?_cons_of_neg (by simpa [hu.id] using hid)]
        exact ih
  intro id
  rw [find?_ofUnits, find?_ofUnits]
  exact hfind (List.rel_reverse h) id

/-- Each unit on the route is on that of a wider program. -/
theorem WidensTo.of_mem_route (h : p.WidensTo p') (hp : p.Filed) (hp' : p'.Filed) {v : CodeUnit}
    (hv : v ∈ p.route g root) : ∃ v' ∈ p'.route g root, v.WidensTo v' := by
  cases hfound : p.find? root with
  | none => simp [route, hfound] at hv
  | some u =>
    obtain ⟨u', hfound', hu⟩ := h.found hfound
    have hscope := (route_isLeast (g := g) hp' hfound').1
    have hclosed : ScopeClosed p g g.allowsCrossing u
        {v | ∃ v' ∈ p'.route g root, v.WidensTo v'} := by
      refine ⟨⟨u', hscope.root_mem, hu⟩, ?_⟩
      rintro hcrosses v ⟨v', hv', hwider⟩ id hid x hx hmarked
      obtain ⟨x', hx', hwider'⟩ := h.found hx
      have hfollowed : x' ∈ p'.route g root :=
        hscope.follow_mem hcrosses v' hv' id (hwider.dependencies hid) x' hx'
          (hwider'.carries hmarked)
      exact ⟨x', hfollowed, hwider'⟩
    exact mem_of_mem_route hp hfound hclosed hv

/-- The symbols of the selected types that are declared in the units on the route. -/
def symbols (p : Program) (g : Gate) (root : UnitKey) (selects : TypeDecl → Bool) : Set Symbol :=
  {x | ∃ v ∈ p.route g root, ∃ t ∈ v.root.declared, selects t = true ∧ t.symbol = x}

/-- They are those of the selected types that a walk lists up to its end. -/
theorem mem_symbols_iff {c : Catalog} {token : Option Token} {u : CodeUnit} {ts : List TypeDecl}
    (hc : c.program = p) (hfound : p.find? root = some u)
    (hrun : ((Walk.start g u g.allowsCrossing token).run c).1 = .ok ts) {x : Symbol} :
    x ∈ p.symbols g root selects ↔ ∃ t ∈ ts, selects t = true ∧ t.symbol = x := by
  simp only [symbols, Set.mem_ofPred_eq, mem_run_iff hc hfound hrun]
  constructor
  · rintro ⟨v, hv, t, ht, hselects, hx⟩
    exact ⟨t, ⟨v, hv, ht⟩, hselects, hx⟩
  · rintro ⟨t, ⟨v, hv, ht⟩, hselects, hx⟩
    exact ⟨v, hv, t, ht, hselects, hx⟩

theorem WidensTo.symbols_subset (h : p.WidensTo p') (hp : p.Filed) (hp' : p'.Filed) :
    p.symbols g root selects ⊆ p'.symbols g root selects := by
  rintro x ⟨v, hv, t, ht, hselects, hx⟩
  obtain ⟨v', hv', hwider⟩ := h.of_mem_route hp hp' hv
  exact ⟨v', hv', t, hwider.root ▸ ht, hselects, hx⟩

end Program

end TypeSurvey
