import Mathlib.Data.List.Induction
import TypeSurvey.Config

/-!
# Which property counts

A key spells a property if it is its name, or its name behind the lead of forwarded properties; the
blanks around it and the case of ASCII letters make no difference. The crossing setting is read from
the value of the last property whose key spells it.
-/
namespace TypeSurvey

namespace Text

variable {lead cs cs' rest : List Char}

theorem sameUpToAsciiCase_iff {a b : List Char} :
    sameUpToAsciiCase a b = true ↔ a.map Char.toLower = b.map Char.toLower := by
  simp [sameUpToAsciiCase]

theorem dropLead?_eq_some_iff :
    dropLead? lead cs = some cs' ↔
      sameUpToAsciiCase (cs.take lead.length) lead = true ∧ cs.drop lead.length = cs' := by
  simp [dropLead?]

/-- A text is a lead and something behind it if that is left when the lead is dropped. -/
theorem sameUpToAsciiCase_append :
    sameUpToAsciiCase cs (lead ++ rest) = true ↔
      ∃ cs', dropLead? lead cs = some cs' ∧ sameUpToAsciiCase cs' rest = true := by
  simp only [dropLead?_eq_some_iff, sameUpToAsciiCase_iff]
  constructor
  · intro h
    rw [List.map_append] at h
    obtain ⟨front, back, rfl, hfront, hback⟩ := List.map_eq_append_iff.mp h
    have hlength : front.length = lead.length := by simpa using congrArg List.length hfront
    exact ⟨back, by simp [← hlength, hfront], hback⟩
  · rintro ⟨cs', ⟨hlead, rfl⟩, hrest⟩
    rw [← List.take_append_drop lead.length cs, List.map_append, List.map_append, hlead, hrest]

/-- Texts that are the same have a lead both or neither. -/
theorem dropLead?_isSome_congr (lead : List Char) (h : sameUpToAsciiCase cs rest = true) :
    (dropLead? lead cs).isSome = (dropLead? lead rest).isSome := by
  have htake : (cs.take lead.length).map Char.toLower =
      (rest.take lead.length).map Char.toLower := by
    rw [List.map_take, List.map_take, sameUpToAsciiCase_iff.mp h]
  unfold dropLead? sameUpToAsciiCase
  rw [htake]
  split <;> rfl

end Text

namespace Crossing

/-- The text is `0` or `false`; the blanks around it and the case of its letters make no
difference. -/
def isOptOut (value : String) : Bool :=
  Text.trim value = "0" || Text.sameUpToAsciiCase (Text.trim value).toList "false".toList

theorem isOptOut_eq (value : String) :
    isOptOut value =
      (Text.sameUpToAsciiCase (Text.trimChars value.toList) ['f', 'a', 'l', 's', 'e'] ||
        Text.trimChars value.toList = ['0']) := by
  have hzero : Text.trim value = "0" ↔ Text.trimChars value.toList = ['0'] := by
    rw [← String.toList_inj, Text.trim, String.toList_ofList]
    rfl
  have hfalse : "false".toList = ['f', 'a', 'l', 's', 'e'] := by decide
  rw [isOptOut, decide_eq_decide.mpr hzero, hfalse, Bool.or_comm, Text.trim, String.toList_ofList]

/-- Whatever else is written leaves crossing on. -/
theorem allows_ofText (value : String) : (ofText value).allows = !isOptOut value := by
  rw [isOptOut_eq, ofText]
  split
  · rename_i hempty
    rw [List.isEmpty_iff.mp hempty]
    rfl
  · split <;> rename_i hout <;> simp [hout, allows]

end Crossing

/-- Where each step of a fold either sets a value or leaves it, the last one that sets it counts. -/
theorem foldl_eq_getLast? {α γ β : Type} {step : γ → α → γ} {sets : α → Bool} {value : α → β}
    (view : γ → β) (h : ∀ c a, view (step c a) = if sets a then value a else view c)
    (as : List α) (c : γ) :
    view (as.foldl step c) = ((as.filter sets).getLast?.map value).getD (view c) := by
  induction as using List.reverseRecOn with
  | nil => rfl
  | append_singleton as a ih =>
    rw [List.foldl_append, List.foldl_cons, List.foldl_nil, h, List.filter_append]
    cases ha : sets a with
    | true => simp [ha]
    | false => simpa [ha] using ih

namespace Config

variable {name : String}

def spells (name key : String) : Bool :=
  Text.sameUpToAsciiCase (Text.trim key).toList name.toList ||
    Text.sameUpToAsciiCase (Text.trim key).toList (forwarded ++ name).toList

/-- The value of the last property whose key spells the name. -/
def lastValue? (name : String) (properties : List (String × String)) : Option String :=
  properties.reverse.findSome? fun property =>
    if spells name property.1 then some property.2 else none

/-- Of a name that has no lead of its own the lead can be dropped without loss. -/
theorem isKey_propertyName (h : Text.dropLead? forwarded.toList name.toList = none) (key : String) :
    isKey name (propertyName key) = spells name key := by
  rw [Bool.eq_iff_iff, spells, Bool.or_eq_true, String.toList_append,
    Text.sameUpToAsciiCase_append, Text.trim, String.toList_ofList, isKey, propertyName]
  cases hdrop : Text.dropLead? forwarded.toList (Text.trimChars key.toList) with
  | none => simp
  | some rest =>
    have hlead : Text.sameUpToAsciiCase (Text.trimChars key.toList) name.toList = false := by
      rw [Bool.eq_false_iff]
      intro hsame
      have hsome := Text.dropLead?_isSome_congr forwarded.toList hsame
      simp [hdrop, h] at hsome
    simp [hlead]

theorem lastValue?_eq_getLast? (name : String) (properties : List (String × String)) :
    lastValue? name properties =
      (properties.filter fun property => spells name property.1).getLast?.map Prod.snd := by
  rw [lastValue?, ← List.getLast?_filterMap, ← List.getLast?_map, ← List.filterMap_eq_map,
    List.filterMap_filter]
  rfl

/-- One property more. -/
theorem crossing_setProperty (config : Config) (property : String × String) :
    (config.setProperty property).crossing =
      if spells crossingKey property.1 then .ofText property.2 else config.crossing := by
  rw [← isKey_propertyName (by decide)]
  cases hkey : isKey crossingKey (propertyName property.1) with
  | true => simp [setProperty, hkey]
  | false =>
    simp only [setProperty, hkey, Bool.false_eq_true, if_false]
    -- no other property changes the setting, a marker included
    repeat' split
    all_goals rfl

/-- The last property that spells the setting decides, and without one it is not set. -/
theorem crossing_ofProperties (properties : List (String × String)) :
    (ofProperties properties).crossing =
      ((lastValue? crossingKey properties).map Crossing.ofText).getD .unset := by
  rw [lastValue?_eq_getLast?, Option.map_map]
  exact foldl_eq_getLast? Config.crossing crossing_setProperty properties {}

/-- The last property that spells the setting says `0` or `false`. -/
def optsOut (properties : List (String × String)) : Bool :=
  (lastValue? crossingKey properties).any Crossing.isOptOut

/-- Crossing is allowed unless it is opted out of. -/
theorem allows_ofProperties (properties : List (String × String)) :
    (ofProperties properties).crossing.allows = !optsOut properties := by
  rw [crossing_ofProperties, optsOut]
  cases lastValue? crossingKey properties with
  | none => rfl
  | some value => exact Crossing.allows_ofText value

end Config

end TypeSurvey
