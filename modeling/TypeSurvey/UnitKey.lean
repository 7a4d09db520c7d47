import TypeSurvey.Text.Blank

/-!
# Unit identities

A unit is known by its name and version together.
-/
namespace TypeSurvey

structure UnitKey where
  name : String
  version : String := ""
  deriving DecidableEq, Repr

namespace UnitKey

/-- No unit has a blank name. -/
def isBlank (id : UnitKey) : Bool := Text.isAllBlank id.name

def display (id : UnitKey) : String :=
  if id.version = "" then id.name else id.name ++ "@" ++ id.version

def summary (id : UnitKey) : String := "UnitId(" ++ id.display ++ ")"

/-- By name and then by version, each by code points. -/
def order (a b : UnitKey) : Ordering := (compare a.name b.name).then (compare a.version b.version)

end UnitKey

end TypeSurvey
