import TypeSurvey.CodeUnit
import TypeSurvey.Config

/-!
# The opt-in gate

Two independent checks bound a survey: the setting says whether it may leave the root at all, and
the marker whether it may enter a given dependency. The root itself is always surveyed.
-/
namespace TypeSurvey

structure Gate where
  crossing : Crossing := ({} : Config).crossing
  marker : String := ({} : Config).marker
  deriving DecidableEq, Repr

namespace Gate

def ofConfig (config : Config) : Gate := ⟨config.crossing, config.marker⟩

def allowsCrossing (g : Gate) : Bool := g.crossing.allows

def admits (g : Gate) (u : CodeUnit) : Bool := u.carries g.marker

theorem admits_eq (g : Gate) : g.admits = fun u => u.carries g.marker := rfl

theorem admits_iff {g : Gate} {u : CodeUnit} : g.admits u = true ↔ u.carries g.marker = true := by
  rw [admits_eq]

def summary (g : Gate) : String :=
  Text.recordText "OptInGate"
    [Text.field "setting" g.crossing.name, Text.field "marker" (Text.quote g.marker)]

end Gate

end TypeSurvey
