import TypeSurvey.SurveyError
import TypeSurvey.Text.Record

/-!
# Sessions by root

A registry says which session serves a root. Sessions are named by their place among those of a
build pass.
-/
namespace TypeSurvey

structure Registry where
  entries : List (UnitKey × Nat) := []
  deriving DecidableEq, Repr

namespace Registry

def find? (r : Registry) (root : UnitKey) : Option Nat :=
  (r.entries.find? fun entry => entry.1 = root).map Prod.snd

def erase (r : Registry) (root : UnitKey) : Registry :=
  ⟨r.entries.filter fun entry => entry.1 ≠ root⟩

/-- Answers with the session that was there before. -/
def register (r : Registry) (root : UnitKey) (session : Nat) :
    Except SurveyError (Option Nat) × Registry :=
  if root.isBlank then (.error (.blankArgument .rootUnit), r)
  else (.ok (r.find? root), ⟨(r.erase root).entries ++ [(root, session)]⟩)

def get (r : Registry) (root : UnitKey) : Except SurveyError Nat :=
  match r.find? root with
  | some session => .ok session
  | none => .error (.noSession root)

def remove (r : Registry) (root : UnitKey) : Option Nat × Registry := (r.find? root, r.erase root)

def contains (r : Registry) (root : UnitKey) : Bool := (r.find? root).isSome

def size (r : Registry) : Nat := r.entries.length

def summary (r : Registry) : String :=
  Text.recordText "DiscoveryRegistry"
    [Text.field "roots" (Text.listingText (r.entries.map fun entry => entry.1.summary))]

@[simp] theorem find?_erase_self (r : Registry) (root : UnitKey) :
    (r.erase root).find? root = none := by
  simp [find?, erase]

theorem find?_erase_of_ne (r : Registry) {root other : UnitKey} (h : other ≠ root) :
    (r.erase root).find? other = r.find? other := by
  simp only [find?, erase, List.find?_filter]
  congr 2
  funext entry
  by_cases he : entry.1 = other <;> simp [he, h]

end Registry

end TypeSurvey
