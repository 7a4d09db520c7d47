import TypeSurvey.Namespace

/-!
# Units

A unit is one compiled module: its identity, its declarations, the units it refers to and its own
annotations.
-/
namespace TypeSurvey

structure CodeUnit where
  id : UnitKey
  root : Namespace := { name := "" }
  dependencies : List UnitKey := []
  annotations : List Annotation := []

namespace CodeUnit

def ofTypes (id : UnitKey) (types : List TypeDecl) (dependencies : List UnitKey := [])
    (annotations : List Annotation := []) : CodeUnit :=
  { id, root := .ofTypes types, dependencies, annotations }

/-- The name is compared as it stands. -/
def carries (u : CodeUnit) (name : String) : Bool := u.annotations.any fun a => a.name = name

end CodeUnit

end TypeSurvey
