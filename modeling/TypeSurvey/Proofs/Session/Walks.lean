import Mathlib.Data.Multiset.Bind
import TypeSurvey.Proofs.Walk.Scope
import TypeSurvey.Sample
import TypeSurvey.Session

/-!
# Walks that a session opens

A walk from a root of the program, over which nobody cancels, comes to its end. It has then entered
the units of the root's scope once each and listed every type declared in them.
-/
namespace TypeSurvey.Session

variable {s : Session} {root : UnitKey} {u : CodeUnit} {token : Option Token}

/-- The walk that a session opens from the unit `u`. -/
def walkFrom (s : Session) (u : CodeUnit) (token : Option Token) : Walk :=
  .start s.gate u s.gate.allowsCrossing token

theorem openWalk_of_found (hblank : root.isBlank = false)
    (hfound : s.catalog.program.find? root = some u) :
    s.openWalk root token =
      (.ok (s.walkFrom u token), { s with catalog := s.catalog.visited root }) := by
  simp [openWalk, findRoot, lookup, Catalog.lookup, hblank, hfound, walkFrom, Except.map]

/-- An opened walk starts at the unit that is found, and nothing else was looked up. -/
theorem openWalk_ok {w : Walk} {s₁ : Session} (h : s.openWalk root token = (.ok w, s₁)) :
    ∃ u, s.catalog.program.find? root = some u ∧ w = s.walkFrom u token ∧
      s₁ = { s with catalog := s.catalog.visited root } := by
  cases hblank : root.isBlank with
  | true => simp [openWalk, findRoot, hblank, Except.map] at h
  | false =>
    cases hfound : s.catalog.program.find? root with
    | none => simp [openWalk, findRoot, lookup, Catalog.lookup, hblank, hfound, Except.map] at h
    | some u =>
      rw [openWalk_of_found hblank hfound] at h
      obtain ⟨hw, rfl⟩ := Prod.mk.inj h
      exact ⟨u, rfl, (Except.ok.inj hw).symm, rfl⟩

theorem takeFrom_of_run {w : Walk} {ts : List TypeDecl} (hrun : (w.run s.catalog).1 = .ok ts) :
    s.takeFrom w (ts.length + 1) =
      (Walk.listing ts, (w.run s.catalog).2.1, { s with catalog := (w.run s.catalog).2.2 }) := by
  rw [takeFrom, Walk.take_of_run hrun]

/-- Asked for one type after the other, a walk that nobody cancels comes to its end. The units it
has entered are then the least set that holds the root and, unless crossing is disabled, each unit
with the marker that a member refers to; each was entered once, and the types listed are all
declarations in them, nested ones included. -/
theorem openWalk_lists_scope {units : List CodeUnit} (hprogram : s.catalog.program = .ofUnits units)
    (hblank : root.isBlank = false) (hfound : (Program.ofUnits units).find? root = some u)
    (hsteady : s.catalog.Steady token) (hlive : s.catalog.wasCancelled token = false) :
    ∃ (w w' : Walk) (s₁ s₂ : Session) (ts : List TypeDecl),
      s.openWalk root token = (.ok w, s₁) ∧
      s₁.takeFrom w (ts.length + 1) = (Walk.listing ts, w', s₂) ∧
      IsLeast {S | ScopeClosed (.ofUnits units) s.gate s.gate.allowsCrossing u S}
        {v | v ∈ w'.entered} ∧
      (w'.entered.map CodeUnit.id).Nodup ∧
      w'.enteredCount = {v | v ∈ w'.entered}.ncard ∧
      (ts : Multiset TypeDecl) =
        (w'.entered : Multiset CodeUnit).bind fun v => (v.root.declared : Multiset TypeDecl) := by
  have hfiled : s.catalog.program.Filed := hprogram ▸ Program.filed_ofUnits units
  have hfound' : s.catalog.program.find? root = some u := hprogram ▸ hfound
  have hself : s.catalog.program.find? u.id = some u := hfiled root u hfound' ▸ hfound'
  obtain ⟨ts, hrun⟩ := Walk.start_run_ok s.gate u s.gate.allowsCrossing root hsteady hlive
  have hadvances := Walk.run_advances hrun
  have hsetup := hadvances.setup
  have hend := Walk.run_exhausted hrun rfl
  have hcoherent := (Walk.coherent_start hself).advances hfiled hadvances
  refine ⟨_, _, _, _, ts, openWalk_of_found hblank hfound', takeFrom_of_run hrun, ?_,
    hcoherent.entered_nodup, hcoherent.enteredCount_eq_ncard, ?_⟩
  · have hleast := hcoherent.entered_isLeast hend
    rwa [hsetup.1, hsetup.2.1, hprogram] at hleast
  · have hlisted : ts = _ := Walk.start_listed hrun
    conv_lhs => rw [hlisted, Walk.promised]
    rw [← Multiset.coe_bind, Multiset.coe_reverse]
    rfl

/-- The services of the layered application refer back to it, and its closed library has not opted
in. -/
theorem openWalk_lists_scope_layered :
    Sample.app.isBlank = false ∧ (start Sample.layered.program).catalog.Steady none ∧
    ∃ u, Sample.layered.program.find? Sample.app = some u ∧
    ∃ (w w' : Walk) (s₁ s₂ : Session) (ts : List TypeDecl),
      (start Sample.layered.program).openWalk Sample.app = (.ok w, s₁) ∧
      s₁.takeFrom w (ts.length + 1) = (Walk.listing ts, w', s₂) ∧
      IsLeast {S | ScopeClosed Sample.layered.program {} true u S} {v | v ∈ w'.entered} ∧
      (w'.entered.map CodeUnit.id).Nodup ∧
      w'.enteredCount = {v | v ∈ w'.entered}.ncard ∧
      (ts : Multiset TypeDecl) =
        (w'.entered : Multiset CodeUnit).bind fun v => (v.root.declared : Multiset TypeDecl) := by
  have hblank : Sample.app.isBlank = false := by decide
  have hsteady : (start Sample.layered.program).catalog.Steady none :=
    Catalog.steady_of_tripwires rfl
  exact ⟨hblank, hsteady, _, rfl, openWalk_lists_scope rfl hblank rfl hsteady rfl⟩

end TypeSurvey.Session
