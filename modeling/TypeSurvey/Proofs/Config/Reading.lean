import TypeSurvey.Proofs.Config.Properties
import TypeSurvey.Proofs.Text.ByteOffsets

/-!
# What a list of properties says

A list of properties says two things, and each is said by the last property that says it: the
crossing setting by the last that spells it, the marker by the last that spells it and is not blank.
The name in a key can be read by byte offsets, and no key is cut inside a character by that.
-/
namespace TypeSurvey

namespace Config

variable {config : Config} {properties : List (String × String)}

/-- What a property of that name and value makes of the configuration. -/
def setNamed (config : Config) (name : List Char) (value : String) : Config :=
  if isKey crossingKey name then { config with crossing := .ofText value }
  else if isKey markerKey name then
    if Text.isAllBlank value then config else { config with marker := Text.trim value }
  else config

/-- The name in a key, read by bytes: those in front are compared with the lead, if the text can be
cut behind them, and then the text is cut there. There is no name if that cut fails. -/
def nameByOffset? (key : String) : Option (List Char) :=
  let name := Text.trimChars key.toList
  let offset := String.utf8Len forwarded.toList
  match (Text.cutAtByte? offset name).map Prod.fst with
  | some lead =>
    if Text.sameUpToAsciiCase lead forwarded.toList then
      (Text.cutAtByte? offset name).map Prod.snd
    else some name
  | none => some name

/-- No key makes the cut fail, wherever its characters begin. -/
theorem nameByOffset?_eq (key : String) : nameByOffset? key = some (propertyName key) := by
  simp only [nameByOffset?, propertyName, Text.dropLead?_eq_cutAtByte?]
  cases Text.cutAtByte? (String.utf8Len forwarded.toList) (Text.trimChars key.toList) with
  | none => rfl
  | some cut =>
    simp only [Option.map_some, Option.bind_some]
    split <;> rfl

/-- The configuration, read by byte offsets; there is none if a key is cut inside a character. -/
def readByOffset? (properties : List (String × String)) : Option Config :=
  properties.foldlM (fun config property =>
    (nameByOffset? property.1).map fun name => config.setNamed name property.2) {}

theorem readByOffset?_eq (properties : List (String × String)) :
    readByOffset? properties = some (ofProperties properties) := by
  have hstep (config : Config) (property : String × String) :
      ((nameByOffset? property.1).map fun name => config.setNamed name property.2) =
        pure (config.setProperty property) := by
    rw [nameByOffset?_eq]
    rfl
  simp only [readByOffset?, hstep, List.foldlM_pure]
  rfl

def setsCrossing (property : String × String) : Bool := spells crossingKey property.1

/-- A blank marker sets nothing. -/
def setsMarker (property : String × String) : Bool :=
  spells markerKey property.1 && !Text.isAllBlank property.2

/-- No name is both. -/
theorem isKey_markerKey_of_isKey_crossingKey {name : List Char} (h : isKey crossingKey name = true) :
    isKey markerKey name = false := by
  rw [Bool.eq_false_iff]
  intro hmarker
  have hsame := (Text.sameUpToAsciiCase_iff.mp h).symm.trans (Text.sameUpToAsciiCase_iff.mp hmarker)
  exact absurd hsame (by decide)

/-- One property more. -/
theorem marker_setProperty (config : Config) (property : String × String) :
    (config.setProperty property).marker =
      if setsMarker property then Text.trim property.2 else config.marker := by
  rw [setsMarker, ← isKey_propertyName (by decide)]
  cases hkey : isKey crossingKey (propertyName property.1) with
  | true => simp [setProperty, hkey, isKey_markerKey_of_isKey_crossingKey hkey]
  | false =>
    cases hmarker : isKey markerKey (propertyName property.1) <;>
      cases hblank : Text.isAllBlank property.2 <;> simp [setProperty, hkey, hmarker, hblank]

/-- The configuration that a list of properties spells: the crossing setting of the last that spells
one, and the marker of the last that spells one and is not blank. -/
def spelled (properties : List (String × String)) : Config where
  crossing := ((properties.filter setsCrossing).getLast?.map fun p => .ofText p.2).getD .unset
  marker := ((properties.filter setsMarker).getLast?.map fun p => Text.trim p.2).getD
    ({} : Config).marker

/-- Reading a list of properties by byte offsets gives a configuration for every list, and it is the
one that the list spells. Lists with the same settings and the same markers in the same order give
the same, whatever else they hold and however the two are mixed. -/
theorem ofProperties_eq_spelled (properties : List (String × String)) :
    readByOffset? properties = some (ofProperties properties) ∧
      ofProperties properties = spelled properties ∧
      ∀ others, others.filter setsCrossing = properties.filter setsCrossing →
        others.filter setsMarker = properties.filter setsMarker →
        ofProperties others = ofProperties properties := by
  have hspelled (ps : List (String × String)) : ofProperties ps = spelled ps := by
    have hcrossing := foldl_eq_getLast? Config.crossing crossing_setProperty ps {}
    have hmarker := foldl_eq_getLast? Config.marker marker_setProperty ps {}
    rw [ofProperties, spelled, ← hmarker]
    exact congrArg (Config.mk · _) hcrossing
  refine ⟨readByOffset?_eq properties, hspelled properties, fun others hcrossing hmarker => ?_⟩
  rw [hspelled, hspelled, spelled, hcrossing, hmarker]
  rfl

/-- Without the unknown key and the blank marker, and with the other two turned round, the same is
read. The bytes of a lead end inside a character of the unknown key. -/
theorem ofProperties_eq_spelled_mixed :
    let setting := ("BUILD_PROPERTY.enablecrossunitdiscovery", " False")
    let marker := ("discoveryoptinmarker", " Mine ")
    let blank := ("DiscoveryOptInMarker", " ")
    ofProperties [("build_propertyé", "1"), setting, marker, blank] =
        { crossing := .disabled, marker := "Mine" } ∧
      ofProperties [marker, setting] =
        ofProperties [("build_propertyé", "1"), setting, marker, blank] :=
  have h := ofProperties_eq_spelled [("build_propertyé", "1"),
    ("BUILD_PROPERTY.enablecrossunitdiscovery", " False"), ("discoveryoptinmarker", " Mine "),
    ("DiscoveryOptInMarker", " ")]
  ⟨h.2.1.trans (by decide +kernel), h.2.2 _ (by decide +kernel) (by decide +kernel)⟩

end Config

end TypeSurvey
