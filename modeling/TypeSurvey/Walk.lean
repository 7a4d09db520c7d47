import TypeSurvey.Catalog
import TypeSurvey.Gate
import TypeSurvey.SurveyError

/-!
# The walk over units

A walk lists the types declared in its root and in the dependencies that it may enter. It is lazy: a
unit's dependencies are looked up only once its types have been listed and one more is asked for.
Whatever the graph, an identity is followed at most once, since it is marked as seen when it is
first met.
-/
namespace TypeSurvey

/-- What of a unit is still to be listed. -/
inductive Part where
  | space (n : Namespace)
  | type (t : TypeDecl)

/-- `worklist` and `pending` have what comes next in front. `seen` holds the identities that were
queued or turned away, `current` is the unit whose types are being listed, and `entered` has the
latest unit first. -/
structure Walk where
  gate : Gate
  crosses : Bool
  token : Option Token
  worklist : List CodeUnit
  seen : List UnitKey
  pending : List Part := []
  current : Option CodeUnit := none
  entered : List CodeUnit := []
  isOver : Bool := false

/-- What one move of a walk brings. -/
inductive Move where
  | quiet
  | item (result : Except SurveyError TypeDecl)
  | finished

namespace Walk

/-- Without `crosses` only the types of `root` are listed. -/
def start (gate : Gate) (root : CodeUnit) (crosses : Bool) (token : Option Token) : Walk :=
  { gate, crosses, token, worklist := [root], seen := [root.id] }

def enteredCount (w : Walk) : Nat := w.entered.length

/-- Marks `id` as seen and queues the unit found for it if that has opted in. -/
def receive (w : Walk) (id : UnitKey) (found : Option CodeUnit) : Walk :=
  { w with seen := id :: w.seen, worklist := (found.filter w.gate.admits).toList ++ w.worklist }

/-- Looks a dependency up unless it was seen. -/
def consider (id : UnitKey) (s : Walk × Catalog) : Walk × Catalog :=
  if id ∈ s.1.seen then s
  else (s.1.receive id (s.2.lookup id).1, (s.2.lookup id).2)

/-- Considers the last dependency first, which leaves the first one in front. -/
def queue (u : CodeUnit) (s : Walk × Catalog) : Walk × Catalog := u.dependencies.foldr consider s

def leave (u : CodeUnit) (w : Walk) (c : Catalog) : Walk × Catalog :=
  if w.crosses then queue u ({ w with current := none }, c) else ({ w with current := none }, c)

def entering (w : Walk) (u : CodeUnit) (rest : List CodeUnit) : Walk :=
  { w with
    worklist := rest
    pending := [.space u.root]
    current := some u
    entered := u :: w.entered }

/-- A cancelled walk stops where it would enter a unit, and says so once. -/
def step (w : Walk) (c : Catalog) : Move × Walk × Catalog :=
  if w.isOver then (.finished, w, c)
  else
    match w.pending with
    | .space n :: rest =>
      (.quiet, { w with pending := n.types.map .type ++ (n.children.map .space ++ rest) }, c)
    | .type t :: rest => (.item (.ok t), { w with pending := t.nested.map .type ++ rest }, c)
    | [] =>
      match w.current with
      | some u => (.quiet, w.leave u c)
      | none =>
        match w.worklist with
        | [] => (.finished, w, c)
        | u :: rest =>
          if c.wasCancelled w.token then
            (.item (.error .cancelled), { w with worklist := [], isOver := true }, c)
          else
            (.quiet, w.entering u rest, c)

end Walk

end TypeSurvey
