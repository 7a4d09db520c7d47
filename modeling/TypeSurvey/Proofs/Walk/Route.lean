import TypeSurvey.Proofs.Walk.Scope
import TypeSurvey.Proofs.Walk.Unwatched

/-!
# The route from a root

The route is the list of units that a walk from the root enters when nobody cancels it. A token does
not change it, and its units are those of the root's scope.
-/
namespace TypeSurvey

namespace Program

/-- The units that a walk from `root` enters, in the order of entering. -/
def route (p : Program) (g : Gate) (root : UnitKey) : List CodeUnit :=
  match p.find? root with
  | some u =>
    ((Walk.start g u g.allowsCrossing none).run { program := p }).2.1.entered.reverse
  | none => []

variable {p : Program} {g : Gate} {root : UnitKey} {u : CodeUnit}

theorem route_of_found (h : p.find? root = some u) :
    p.route g root =
      ((Walk.start g u g.allowsCrossing none).run { program := p }).2.1.entered.reverse := by
  rw [route, h]

/-- The route is what a walk without a token has entered when nothing is ahead of it. -/
theorem route_reached (hfound : p.find? root = some u) :
    ∃ ts w, Advances p (.start g u g.allowsCrossing none) ts w ∧ w.Exhausted ∧
      p.route g root = w.entered.reverse := by
  have hsteady : ({ program := p } : Catalog).Steady none := Catalog.steady_of_tripwires rfl
  obtain ⟨ts, hrun⟩ :=
    Walk.run_ok (w := .start g u g.allowsCrossing none) (c := { program := p }) hsteady rfl
  exact ⟨ts, _, Walk.run_advances hrun, Walk.run_exhausted hrun rfl, route_of_found hfound⟩

/-- A walk that comes to its end has taken the route. -/
theorem route_of_run {c : Catalog} {token : Option Token} {ts : List TypeDecl}
    (hc : c.program = p) (hfound : p.find? root = some u)
    (hrun : ((Walk.start g u g.allowsCrossing token).run c).1 = .ok ts) :
    p.route g root = ((Walk.start g u g.allowsCrossing token).run c).2.1.entered.reverse := by
  have hfree : ((Walk.start g u g.allowsCrossing none).run { program := p }).2.1 =
      ((Walk.start g u g.allowsCrossing token).run c).2.1.unwatched :=
    (Walk.run_unwatched hrun hc.symm).2
  rw [route_of_found hfound, hfree]
  rfl

/-- A walk that comes to its end has listed the types declared in the units on the route. -/
theorem mem_run_iff {c : Catalog} {token : Option Token} {ts : List TypeDecl}
    (hc : c.program = p) (hfound : p.find? root = some u)
    (hrun : ((Walk.start g u g.allowsCrossing token).run c).1 = .ok ts) (t : TypeDecl) :
    t ∈ ts ↔ ∃ v ∈ p.route g root, t ∈ v.root.declared := by
  rw [route_of_run hc hfound hrun, Walk.start_listed hrun, Walk.promised]
  exact List.mem_flatMap

/-- The units on the route are the scope of the root. -/
theorem route_isLeast (hp : p.Filed) (hfound : p.find? root = some u) :
    IsLeast {S | ScopeClosed p g g.allowsCrossing u S} {v | v ∈ p.route g root} := by
  have hself : p.find? u.id = some u := hp root u hfound ▸ hfound
  obtain ⟨ts, w, hadvances, hend, hroute⟩ := route_reached (g := g) hfound
  have hsetup := hadvances.setup
  have hcoherent := (Walk.coherent_start hself).advances hp hadvances
  have hleast := hcoherent.entered_isLeast hend
  rw [hsetup.1, hsetup.2.1] at hleast
  have hset : {v | v ∈ p.route g root} = {v | v ∈ w.entered} := by
    ext v
    simp [hroute]
  rw [hset]
  exact hleast

/-- The route does not leave a closed set. -/
theorem mem_of_mem_route (hp : p.Filed) (hfound : p.find? root = some u) {S : Set CodeUnit}
    (hS : ScopeClosed p g g.allowsCrossing u S) {v : CodeUnit} (hv : v ∈ p.route g root) : v ∈ S :=
  (route_isLeast hp hfound).2 hS hv

end Program

end TypeSurvey
