import TypeSurvey.Proofs.Config.Metadata
import TypeSurvey.Proofs.Config.Properties
import TypeSurvey.Proofs.Text.Trim

/-!
# What settings say

A plain setting is a null, a flag, an integer of a signed word or a text. It says what a build
property of the same text says, and it disables crossing exactly if it opts out. No other setting is
accepted.
-/
namespace TypeSurvey

namespace Json

/-- The integers of a signed word of 64 bits. -/
def fitsWord (n : Int) : Bool := -0x8000000000000000 ≤ n && n < 0x8000000000000000

namespace Tree

/-- The build property that says the same as a plain setting. -/
def property? : Tree → Option String
  | .null => some ""
  | .bool b => some (toString b)
  | .number t => (t.integer?.filter fitsWord).map toString
  | .text s => some s
  | .array _ => none
  | .object _ => none

/-- The setting is `false`, or the integer zero, or a text that says one of them. -/
def optsOut : Tree → Bool
  | .bool b => !b
  | .number t => t.integer? = some 0
  | .text s => Crossing.isOptOut s
  | _ => false

/-- A null, a flag, an integer of a signed word or a text. -/
def isPlain : Tree → Bool
  | .number t => t.integer?.any fitsWord
  | .array _ => false
  | .object _ => false
  | _ => true

/-- What is wrong with a setting that is not plain. -/
def fault (v : Tree) (depth : Nat) : MetadataError :=
  if (v.value? depth).isSome then .badSetting else .malformed

end Tree

end Json

namespace Text

variable {n : Int}

theorem mem_toString {c : Char} (h : c ∈ (toString n).toList) : c = '-' ∨ c.isDigit = true := by
  have hdigit {m : Nat} (h : c ∈ m.repr.toList) : c.isDigit = true := by
    rw [Nat.toList_repr] at h
    exact Nat.isDigit_of_mem_toDigits (by decide) (by decide) h
  rw [Int.toString_eq_repr, Int.repr_eq_if] at h
  split at h
  · exact Or.inr (hdigit h)
  · rw [String.toList_append, List.mem_append] at h
    rcases h with h | h
    · exact Or.inl (by simpa using h)
    · exact Or.inr (hdigit h)

theorem toString_ne_nil (n : Int) : (toString n).toList ≠ [] := by
  rw [Int.toString_eq_repr, Int.repr_eq_if]
  split
  · rw [Nat.toList_repr]
    exact Nat.toDigits_ne_nil
  · simp

/-- A number has no blanks, and it is no word. -/
theorem of_mem_toString {c : Char} (h : c ∈ (toString n).toList) :
    isBlank c = false ∧ c.toLower ≠ 'f' := by
  rcases mem_toString h with rfl | hdigit
  · decide
  · have hrange : 48 ≤ c.toNat ∧ c.toNat ≤ 57 := Char.isDigit_iff_toNat.mp hdigit
    constructor
    · simp [isBlank, blankRanges, inRanges]
      omega
    · have hupper : ¬ (c.val ≥ 'A'.val ∧ c.val ≤ 'Z'.val) := by
        rintro ⟨hleast, -⟩
        have hle : 65 ≤ c.toNat := hleast
        omega
      have hlower : c.toLower = c := dif_neg hupper
      rw [hlower]
      rintro rfl
      simp at hdigit

theorem trimChars_toString (n : Int) : trimChars (toString n).toList = (toString n).toList :=
  trimChars_eq_self fun _ hc => (of_mem_toString hc).1

theorem toString_eq_zero_iff : toString n = "0" ↔ n = 0 := by
  refine ⟨fun h => ?_, fun h => h ▸ rfl⟩
  rw [Int.toString_eq_repr, Int.repr_eq_if] at h
  have hlist := congrArg String.toList h
  split at hlist
  · rw [Nat.toList_repr] at hlist
    have hvalue : Nat.ofDigitChars 10 (Nat.toDigits 10 n.toNat) 0 = 0 := by
      rw [hlist]
      rfl
    rw [Nat.ofDigitChars_ten_toDigits] at hvalue
    omega
  · rw [String.toList_append] at hlist
    simp at hlist

end Text

namespace Crossing

theorem isOptOut_toString (n : Int) : isOptOut (toString n) = decide (n = 0) := by
  have hword : Text.sameUpToAsciiCase (toString n).toList "false".toList = false := by
    rw [Bool.eq_false_iff, Ne, Text.sameUpToAsciiCase_iff]
    intro hsame
    have hmem : 'f' ∈ (toString n).toList.map Char.toLower := by
      rw [hsame]
      decide
    obtain ⟨c, hc, hf⟩ := List.mem_map.mp hmem
    exact (Text.of_mem_toString hc).2 hf
  rw [isOptOut, Text.trim, Text.trimChars_toString, String.ofList_toList, hword, Bool.or_false]
  exact decide_eq_decide.mpr Text.toString_eq_zero_iff

theorem ofText_eq (value : String) :
    ofText value = if Text.isAllBlank value then unset
      else if isOptOut value then disabled else enabled := by
  rw [isOptOut_eq, Text.isAllBlank, ofText]

theorem ofText_toString (n : Int) : ofText (toString n) = if n = 0 then disabled else enabled := by
  have hblank : Text.isAllBlank (toString n) = false := by
    rw [Text.isAllBlank, Text.trimChars_toString, List.isEmpty_eq_false_iff]
    exact Text.toString_ne_nil n
  rw [ofText_eq, hblank, isOptOut_toString]
  simp

end Crossing

namespace Json.Tree

variable {v : Tree} {raw : String} {depth : Nat}

theorem isSome_property? (v : Tree) : v.property?.isSome = v.isPlain := by
  cases v with
  | number t =>
    rw [property?, isPlain, Option.isSome_map]
    cases t.integer? with
    | none => rfl
    | some n => cases hfits : fitsWord n <;> simp [hfits]
  | null | bool | text | array | object => rfl

/-- A plain setting has a value, however deep containers may nest, and the property says it too. -/
theorem ofValue?_of_property? (h : v.property? = some raw) (depth : Nat) :
    ∃ w, v.value? depth = some w ∧ Crossing.ofValue? w = some (.ofText raw) := by
  cases v with
  | null =>
    obtain rfl : "" = raw := by simpa [property?] using h
    exact ⟨.null, by cases depth <;> rfl, by decide +kernel⟩
  | bool b =>
    obtain rfl : toString b = raw := Option.some.inj h
    exact ⟨.bool b, by cases depth <;> rfl, by cases b <;> decide +kernel⟩
  | text s =>
    obtain rfl : s = raw := Option.some.inj h
    exact ⟨.text s, by cases depth <;> rfl, rfl⟩
  | number t =>
    obtain ⟨n, hfilter, rfl⟩ := Option.map_eq_some_iff.mp h
    obtain ⟨hinteger, hfits⟩ := Option.filter_eq_some_iff.mp hfilter
    have hrange : -0x8000000000000000 ≤ n ∧ n < 0x8000000000000000 := by
      simpa [fitsWord] using hfits
    have hvalue : t.value? = some (.int n) := by
      rw [NumberText.value?_eq_int_iff, NumberText.word]
      exact ⟨hinteger, hrange.1, by omega⟩
    refine ⟨.number (.int n), by cases depth <;> simp [value?, hvalue], ?_⟩
    rw [Crossing.ofText_toString]
    simp [Crossing.ofValue?, hrange]
  | array | object => simp [property?] at h

/-- A setting that is not plain may have a value, but that is not accepted. -/
theorem ofValue?_eq_none (h : v.property? = none) {w : Value} (hvalue : v.value? depth = some w) :
    Crossing.ofValue? w = none := by
  cases v with
  | null | bool | text => simp [property?] at h
  | number t =>
    obtain ⟨x, hx, rfl⟩ : ∃ x, t.value? = some x ∧ Value.number x = w := by
      cases depth <;> exact Option.map_eq_some_iff.mp hvalue
    cases x with
    | real => rfl
    | int n =>
      have hinteger := (NumberText.value?_eq_int_iff.mp hx).1
      have hfits : fitsWord n = false := by
        simpa [property?, hinteger] using h
      rw [Crossing.ofValue?]
      exact if_neg (Bool.eq_false_iff.mp hfits)
  | array items | object members =>
    cases depth with
    | zero => simp [value?] at hvalue
    | succ depth =>
      obtain ⟨elements, -, rfl⟩ := Option.map_eq_some_iff.mp hvalue
      rfl

theorem crossing_of_property? (h : v.property? = some raw) (depth : Nat) :
    v.crossing depth = .ok (.ofText raw) := by
  obtain ⟨w, hvalue, hcrossing⟩ := ofValue?_of_property? h depth
  simp [crossing, hvalue, hcrossing, orMalformed, bind, Except.bind, pure, Except.pure]

theorem crossing_of_no_property (h : v.property? = none) (depth : Nat) :
    v.crossing depth = .error (v.fault depth) := by
  rw [crossing, fault]
  cases hvalue : v.value? depth with
  | none => rfl
  | some w =>
    simp only [orMalformed, bind, Except.bind, ofValue?_eq_none h hvalue, Option.isSome_some]
    rfl

/-- A plain setting opts out exactly if the property does. -/
theorem isOptOut_property? (h : v.property? = some raw) : Crossing.isOptOut raw = v.optsOut := by
  cases v with
  | null =>
    obtain rfl : "" = raw := by simpa [property?] using h
    decide +kernel
  | bool b =>
    obtain rfl : toString b = raw := Option.some.inj h
    cases b <;> decide +kernel
  | text s =>
    obtain rfl : s = raw := Option.some.inj h
    rfl
  | number t =>
    obtain ⟨n, hfilter, rfl⟩ := Option.map_eq_some_iff.mp h
    have hinteger := (Option.filter_eq_some_iff.mp hfilter).1
    rw [Crossing.isOptOut_toString]
    simp [optsOut, hinteger]
  | array | object => simp [property?] at h

end Json.Tree

namespace Config

open Json (Tree Document Written StringText CharText Quad)

variable {v : Tree} {text object : String}

/-- The key needs no escapes. -/
theorem written_crossingKey {cs : List Char} (h : Written v cs) :
    Written (.object [(crossingKey, v)])
      ('\x7b' :: '"' :: (crossingKey.toList ++ '"' :: ':' :: (cs ++ ['\x7d']))) := by
  have hname : StringText crossingKey.toList (crossingKey.toList ++ ['"']) := .plain (by decide)
  simpa using Written.single hname h

/-- A setting is accepted if it is plain, on its own and as the only member of a configuration, and
then it disables crossing exactly if it opts out. Every other setting is refused. -/
theorem ofJson_setting (ht : Document v text) (ho : Document (.object [(crossingKey, v)]) object) :
    (v.isPlain = true → ∃ x, Crossing.ofJson text = .ok x ∧ ofJson object = .ok { crossing := x } ∧
      x.allows = !v.optsOut) ∧
    (v.isPlain = false → Crossing.ofJson text = .error (v.fault maxDepth) ∧
      ofJson object = .error (v.fault (maxDepth - 1))) := by
  rw [Crossing.ofJson_document ht, ofJson_crossing ho, ← v.isSome_property?]
  cases hproperty : v.property? with
  | none =>
    rw [Tree.crossing_of_no_property hproperty, Tree.crossing_of_no_property hproperty]
    exact ⟨fun h => by simp at h, fun _ => ⟨rfl, rfl⟩⟩
  | some raw =>
    rw [Tree.crossing_of_property? hproperty, Tree.crossing_of_property? hproperty]
    refine ⟨fun _ => ⟨.ofText raw, rfl, rfl, ?_⟩, fun h => by simp at h⟩
    rw [Crossing.allows_ofText, Tree.isOptOut_property? hproperty]

theorem ofJson_setting_false :
    let object := "\x7b\"EnableCrossUnitDiscovery\":false\x7d"
    Document (.bool false) "false" ∧ Document (.object [(crossingKey, .bool false)]) object ∧
      ∃ x, Crossing.ofJson "false" = .ok x ∧ ofJson object = .ok { crossing := x } ∧
        x.allows = false := by
  intro object
  have ht : Document (.bool false) "false" := Json.document_of_written .falseWord (by decide)
  have ho : Document (.object [(crossingKey, .bool false)]) object :=
    Json.document_of_written (written_crossingKey .falseWord) (by decide)
  exact ⟨ht, ho, (ofJson_setting ht ho).1 rfl⟩

/-- An array does not opt out, and still it fails. -/
theorem ofJson_empty_array :
    Document (.array []) "[]" ∧ (Tree.array []).optsOut = false ∧
      Crossing.ofJson "[]" = .error .badSetting := by
  have ht : Document (.array []) "[]" :=
    Json.document_of_written (.array (.empty Json.gap_nil)) (by decide)
  refine ⟨ht, rfl, ?_⟩
  rw [Crossing.ofJson_document ht]
  rfl

/-- A plain setting says what the property says, on its own and as the only member of a
configuration. -/
theorem ofJson_eq_ofProperties {raw key : String} (hproperty : v.property? = some raw)
    (ht : Document v text) (ho : Document (.object [(crossingKey, v)]) object)
    (hkey : spells crossingKey key = true) :
    Crossing.ofJson text = .ok (.ofText raw) ∧ ofJson object = .ok (ofProperties [(key, raw)]) := by
  have hname : isKey crossingKey (propertyName key) = true := by
    rw [isKey_propertyName (by decide), hkey]
  have hsingle : ofProperties [(key, raw)] = { crossing := .ofText raw } := by
    simp [ofProperties, setProperty, hname]
  rw [Crossing.ofJson_document ht, ofJson_crossing ho, hsingle]
  rw [Tree.crossing_of_property? hproperty, Tree.crossing_of_property? hproperty]
  exact ⟨rfl, rfl⟩

theorem ofJson_eq_ofProperties_escaped :
    let text := "\"\\u0046alse \""
    let object := "\x7b\"EnableCrossUnitDiscovery\":\"\\u0046alse \"\x7d"
    let key := "build_property.enablecrossunitdiscovery"
    (Tree.text "False ").property? = some "False " ∧ Document (.text "False ") text ∧
      Document (.object [(crossingKey, .text "False ")]) object ∧ spells crossingKey key = true ∧
      Crossing.ofJson text = .ok .disabled ∧
      ofJson object = .ok (ofProperties [(key, "False ")]) := by
  intro text object key
  have hletter : CharText 'F' ['\\', 'u', '0', '0', '4', '6'] :=
    .unit (.digits (.lower (n := 0) (by decide)) (.lower (n := 0) (by decide))
      (.lower (n := 4) (by decide)) (.lower (n := 6) (by decide)))
  have hstring : StringText "False ".toList ("\\u0046alse \"".toList) :=
    .char hletter (.plain (by decide))
  have hwritten : Written (.text "False ") ("\"\\u0046alse \"".toList) := .text hstring
  have ht : Document (.text "False ") text := Json.document_of_written hwritten rfl
  have ho : Document (.object [(crossingKey, .text "False ")]) object :=
    Json.document_of_written (written_crossingKey hwritten) (by decide)
  have hkey : spells crossingKey key = true := by decide +kernel
  obtain ⟨hsetting, hconfig⟩ := ofJson_eq_ofProperties rfl ht ho hkey
  have hfalse : Crossing.ofText "False " = .disabled := by decide +kernel
  exact ⟨rfl, ht, ho, hkey, hfalse ▸ hsetting, hconfig⟩

end Config

end TypeSurvey
