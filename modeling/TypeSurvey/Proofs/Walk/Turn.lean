import TypeSurvey.Proofs.Walk.Frontier
import TypeSurvey.Walk.Run

/-!
# The turns of a walk

`Turn` lists everything one move of a walk can be, and `Advances` what a walk has become after any
number of moves, with the types listed on the way. Between two moves the catalog may change in
everything but its program.
-/
namespace TypeSurvey

/-- What one move makes of the walk `w` over the catalog `c`. -/
inductive Turn (c : Catalog) (w : Walk) : Move → Walk → Prop
  | stay (ended : w.isOver = true) : Turn c w .finished w
  | unpack {n : Namespace} {rest : List Part} (live : w.isOver = false)
      (pending : w.pending = .space n :: rest) :
      Turn c w .quiet
        { w with pending := n.types.map .type ++ (n.children.map .space ++ rest) }
  | list {t : TypeDecl} {rest : List Part} (live : w.isOver = false)
      (pending : w.pending = .type t :: rest) :
      Turn c w (.item (.ok t)) { w with pending := t.nested.map .type ++ rest }
  | depart {u : CodeUnit} (live : w.isOver = false) (pending : w.pending = [])
      (current : w.current = some u) : Turn c w .quiet (w.departing c.program u)
  | exhaust (live : w.isOver = false) (pending : w.pending = []) (current : w.current = none)
      (worklist : w.worklist = []) : Turn c w .finished w
  | cut {u : CodeUnit} {rest : List CodeUnit} (live : w.isOver = false) (pending : w.pending = [])
      (current : w.current = none) (worklist : w.worklist = u :: rest)
      (cancelled : c.wasCancelled w.token = true) :
      Turn c w (.item (.error .cancelled)) { w with worklist := [], isOver := true }
  | enter {u : CodeUnit} {rest : List CodeUnit} (live : w.isOver = false) (pending : w.pending = [])
      (current : w.current = none) (worklist : w.worklist = u :: rest)
      (uncancelled : c.wasCancelled w.token = false) : Turn c w .quiet (w.entering u rest)

namespace Walk

theorem step_turn (w : Walk) (c : Catalog) : Turn c w (w.step c).1 (w.step c).2.1 := by
  unfold step
  split
  · rename_i hover
    exact .stay hover
  · rename_i hlive
    have live : w.isOver = false := by simpa using hlive
    split
    · rename_i n rest hpending
      exact .unpack live hpending
    · rename_i t rest hpending
      exact .list live hpending
    · rename_i hpending
      split
      · rename_i u hcurrent
        rw [leave_walk]
        exact .depart live hpending hcurrent
      · rename_i hcurrent
        split
        · rename_i hworklist
          exact .exhaust live hpending hcurrent hworklist
        · rename_i u rest hworklist
          split
          · rename_i hcancelled
            exact .cut live hpending hcurrent hworklist hcancelled
          · rename_i huncancelled
            exact .enter live hpending hcurrent hworklist (by simpa using huncancelled)

end Walk

def Move.listed : Move → List TypeDecl
  | .item (.ok t) => [t]
  | _ => []

/-- After some moves over the program `p` the walk `w` has listed the types of the list and has
become the last argument. -/
inductive Advances (p : Program) (w : Walk) : List TypeDecl → Walk → Prop
  | still : Advances p w [] w
  | move {ts : List TypeDecl} {w' w'' : Walk} {c : Catalog} {m : Move} (prior : Advances p w ts w')
      (program : c.program = p) (turn : Turn c w' m w'') : Advances p w (ts ++ m.listed) w''

namespace Advances

variable {p : Program} {w w' w'' : Walk} {ts us : List TypeDecl}

theorem single {c : Catalog} {m : Move} (program : c.program = p) (turn : Turn c w m w') :
    Advances p w m.listed w' :=
  .move .still program turn

theorem trans (h : Advances p w ts w') (h' : Advances p w' us w'') :
    Advances p w (ts ++ us) w'' := by
  induction h' with
  | still => simpa using h
  | move _ hprogram hturn ih =>
    rw [← List.append_assoc]
    exact .move ih hprogram hturn

/-- What every move keeps holds of all that a walk becomes. -/
theorem preserves {P : Walk → Prop} (h : Advances p w ts w')
    (hturn : ∀ {v v' : Walk} {c : Catalog} {m : Move}, c.program = p → Turn c v m v' → P v → P v')
    (hw : P w) : P w' := by
  induction h with
  | still => exact hw
  | move _ hprogram hmove ih => exact hturn hprogram hmove ih

end Advances

end TypeSurvey
