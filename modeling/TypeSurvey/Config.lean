import TypeSurvey.Crossing
import TypeSurvey.Text.Quoted
import TypeSurvey.Text.Record

/-!
# Configuration of a session

A configuration is the crossing setting and the name of the annotation by which a unit opts in.
`ofProperties` reads it from build properties: of several occurrences of a property the last one
counts, and other properties are ignored.
-/
namespace TypeSurvey

structure Config where
  crossing : Crossing := .unset
  marker : String := "Unitscan.DiscoverableUnitAttribute"
  deriving DecidableEq, Repr

namespace Config

def crossingKey : String := "EnableCrossUnitDiscovery"

def markerKey : String := "DiscoveryOptInMarker"

/-- Stands in front of a property's name where properties are forwarded. -/
def forwarded : String := "build_property."

/-- The name in a key: blanks around it and one `forwarded` lead are dropped. -/
def propertyName (key : String) : List Char :=
  let name := Text.trimChars key.toList
  (Text.dropLead? forwarded.toList name).getD name

def isKey (key : String) (name : List Char) : Bool := Text.sameUpToAsciiCase name key.toList

/-- A blank marker leaves the marker as it is. -/
def setProperty (config : Config) (property : String × String) : Config :=
  let name := propertyName property.1
  if isKey crossingKey name then { config with crossing := .ofText property.2 }
  else if isKey markerKey name then
    if Text.isAllBlank property.2 then config else { config with marker := Text.trim property.2 }
  else config

def ofProperties (properties : List (String × String)) : Config := properties.foldl setProperty {}

def summary (config : Config) : String :=
  Text.recordText "DiscoveryConfig"
    [Text.field "enable_cross_unit_discovery" config.crossing.name,
     Text.field "opt_in_marker" (Text.quote config.marker)]

end Config

end TypeSurvey
