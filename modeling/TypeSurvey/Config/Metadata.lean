import TypeSurvey.Config
import TypeSurvey.Decimal.Shortest
import TypeSurvey.Json.Value

/-!
# Configuration from JSON metadata

A setting is a null, a flag, an integer or a text. A configuration is an object with named fields,
or an array with the setting first and the marker second; what is left out has its default. The text
is read from left to right and the first fault found is the one reported.
-/
namespace TypeSurvey

open Json (Token Value Rigor skipGap readToken? readValue? readName? skipValue?)

inductive MetadataError where
  /-- The text is not JSON, or does not end where its value does. -/
  | malformed
  | badSetting
  | repeatedField (name : String)
  | unexpected (found : Token) (wanted : String)

namespace MetadataError

/-- Doubles are written without an exponent from `1e-5` up to below `1e16`. -/
def realFormat : Decimal.Format := ⟨-4, 16, "+"⟩

def describe : Token → String
  | .null => "null"
  | .bool b => "boolean `" ++ (if b then "true" else "false") ++ "`"
  | .number (.int n) => "integer `" ++ toString n ++ "`"
  | .number (.real x) => "floating point `" ++ Decimal.render realFormat x ++ "`"
  | .text s => "string " ++ Text.quote s
  | .openArray => "sequence"
  | .openObject => "map"

/-- A malformed text has no message. -/
def message? : MetadataError → Option String
  | malformed => none
  | badSetting => some "data did not match any variant of untagged enum RawSetting"
  | repeatedField name => some ("duplicate field `" ++ name ++ "`")
  | unexpected found wanted => some ("invalid type: " ++ describe found ++ ", expected " ++ wanted)

end MetadataError

/-- Containers nest at most this deep in a value that is wanted. -/
def maxDepth : Nat := 127

def orMalformed {α : Type} : Option α → Except MetadataError α
  | some x => .ok x
  | none => .error .malformed

/-- Nothing but gaps may follow. -/
def finish {α : Type} (reading : Except MetadataError (α × List Char)) :
    Except MetadataError α := do
  let (x, rest) ← reading
  if (skipGap rest).isEmpty then return x else throw .malformed

namespace Crossing

/-- Integers count when they fit a signed word of 64 bits. -/
def ofValue? : Value → Option Crossing
  | .null => some unset
  | .bool b => some (if b then enabled else disabled)
  | .number (.int n) =>
    if -0x8000000000000000 ≤ n && n < 0x8000000000000000 then
      some (if n = 0 then disabled else enabled)
    else none
  | .text s => some (ofText s)
  | _ => none

def read (depth : Nat) (cs : List Char) : Except MetadataError (Crossing × List Char) := do
  let (v, rest) ← orMalformed (readValue? .wanted depth cs)
  match ofValue? v with
  | some crossing => return (crossing, rest)
  | none => throw .badSetting

def ofJson (text : String) : Except MetadataError Crossing := finish (read maxDepth text.toList)

end Crossing

namespace Config

/-- What has been read of a configuration. -/
structure Draft where
  crossing : Option Crossing := none
  marker : Option String := none

def Draft.toConfig (d : Draft) : Config :=
  let default : Config := {}
  { crossing := d.crossing.getD default.crossing, marker := d.marker.getD default.marker }

/-- The marker's field may also have the name of its build property. -/
def markerField : String := "OptInMarker"

def readMarker (cs : List Char) : Except MetadataError (String × List Char) := do
  match ← orMalformed (readToken? .wanted cs) with
  | (.text s, rest) => return (s, rest)
  | (found, _) => throw (.unexpected found "a string")

def readColon (cs : List Char) : Except MetadataError (List Char) :=
  match skipGap cs with
  | ':' :: rest => .ok rest
  | _ => .error .malformed

/-- A member, from its name on. A repeated field is refused before its value is read. -/
def readMember (d : Draft) (cs : List Char) : Except MetadataError (Draft × List Char) := do
  match ← orMalformed (readToken? .wanted cs) with
  | (.text name, rest) =>
    if name = crossingKey then
      if d.crossing.isSome then throw (.repeatedField crossingKey)
      let (crossing, rest) ← Crossing.read (maxDepth - 1) (← readColon rest)
      return ({ d with crossing := some crossing }, rest)
    else if name = markerField || name = markerKey then
      if d.marker.isSome then throw (.repeatedField markerField)
      let (marker, rest) ← readMarker (← readColon rest)
      return ({ d with marker := some marker }, rest)
    else
      return (d, ← orMalformed (skipValue? (← readColon rest)))
  | _ => throw .malformed

/-- Members up to the closing brace, each with a comma in front. `fuel` bounds their number. -/
def readMembers : (fuel : Nat) → Draft → List Char → Except MetadataError (Draft × List Char)
  | 0, _, _ => .error .malformed
  | fuel + 1, d, cs =>
    match skipGap cs with
    | '\x7d' :: rest => .ok (d, rest)
    | ',' :: rest => do
      let (d, rest) ← readMember d rest
      readMembers fuel d rest
    | _ => .error .malformed

def readObject (cs : List Char) : Except MetadataError (Draft × List Char) :=
  match skipGap cs with
  | '\x7d' :: rest => .ok ({}, rest)
  | cs => do
    let (d, rest) ← readMember {} cs
    readMembers rest.length d rest

def readClose (d : Draft) (cs : List Char) : Except MetadataError (Draft × List Char) :=
  match skipGap cs with
  | ']' :: rest => .ok (d, rest)
  | _ => .error .malformed

def readArray (cs : List Char) : Except MetadataError (Draft × List Char) :=
  match skipGap cs with
  | ']' :: rest => .ok ({}, rest)
  | cs => do
    let (crossing, rest) ← Crossing.read (maxDepth - 1) cs
    match skipGap rest with
    | ',' :: rest =>
      let (marker, rest) ← readMarker rest
      readClose { crossing := some crossing, marker := some marker } rest
    | rest => readClose { crossing := some crossing } rest

def read (cs : List Char) : Except MetadataError (Draft × List Char) := do
  match ← orMalformed (readToken? .wanted cs) with
  | (.openObject, rest) => readObject rest
  | (.openArray, rest) => readArray rest
  | (found, _) => throw (.unexpected found "struct DiscoveryConfig")

def ofJson (text : String) : Except MetadataError Config :=
  (finish (read text.toList)).map Draft.toConfig

end Config

end TypeSurvey
