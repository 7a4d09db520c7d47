import TypeSurvey.Proofs.Config.Metadata
import TypeSurvey.Proofs.Text.Trim
import TypeSurvey.Proofs.Walk.Route
import TypeSurvey.Sample

/-!
# Markers from documents

A document gives the marker as it stands. A property gives it without the blanks at its ends, and a
blank one gives the default, so the two agree exactly on texts that are trimmed and not empty. Where
they differ, there is a program in which they let a walk enter different units.
-/
namespace TypeSurvey

namespace Program

/-- A unit that refers to another. -/
def referrer : CodeUnit := { id := Sample.app, dependencies := [Sample.core] }

/-- A unit that opts in by one marker only. -/
def carrier (marker : String) : CodeUnit :=
  { id := Sample.core, annotations := [{ name := marker }] }

def referring (marker : String) : List CodeUnit := [referrer, carrier marker]

variable {g : Gate} {marker : String}

theorem find?_referrer (marker : String) :
    (ofUnits (referring marker)).find? Sample.app = some referrer := rfl

theorem find?_carrier (marker : String) :
    (ofUnits (referring marker)).find? Sample.core = some (carrier marker) := rfl

/-- The other unit is entered exactly if the gate has its marker. -/
theorem carrier_mem_route_iff (hcrosses : g.allowsCrossing = true) :
    carrier marker ∈ (ofUnits (referring marker)).route g Sample.app ↔ marker = g.marker := by
  have hfiled := filed_ofUnits (referring marker)
  have hcarries : (carrier marker).carries g.marker = true ↔ marker = g.marker := by
    simp [CodeUnit.carries, carrier]
  constructor
  · intro hmem
    by_contra hne
    -- the other unit does not carry the marker, so nothing leads out of the referrer
    have hclosed :
        ScopeClosed (ofUnits (referring marker)) g g.allowsCrossing referrer {referrer} := by
      refine ⟨rfl, fun _ u hu id hid v hfind hv => ?_⟩
      obtain rfl : u = referrer := hu
      obtain rfl : id = Sample.core := by simpa [referrer] using hid
      obtain rfl : carrier marker = v := Option.some.inj ((find?_carrier marker).symm.trans hfind)
      exact absurd (hcarries.mp hv) hne
    have hself := mem_of_mem_route hfiled (find?_referrer marker) hclosed hmem
    have hid : Sample.core = Sample.app := congrArg CodeUnit.id hself
    exact absurd hid (by decide)
  · intro hmarker
    have hclosed := (route_isLeast (g := g) hfiled (find?_referrer marker)).1
    exact hclosed.follow_mem hcrosses referrer hclosed.root_mem Sample.core (by simp [referrer]) _
      (find?_carrier marker) (hcarries.mpr hmarker)

end Program

namespace Config

open Json (Document)

variable {name marker text : String}

/-- The marker of a property, without the blanks at its ends. A blank one is not taken. -/
def propertyMarker (marker : String) : String :=
  if Text.isAllBlank marker then ({} : Config).marker else Text.trim marker

theorem ofProperties_marker (marker : String) :
    ofProperties [(markerKey, marker)] = { marker := propertyMarker marker } := by
  have hcrossing : isKey crossingKey (propertyName markerKey) = false := by decide +kernel
  have hmarker : isKey markerKey (propertyName markerKey) = true := by decide +kernel
  rw [propertyMarker]
  cases hblank : Text.isAllBlank marker <;>
    simp [ofProperties, setProperty, hcrossing, hmarker, hblank]

/-- The markers that a property leaves as they stand are those that are trimmed and not empty. -/
theorem propertyMarker_eq_self_iff :
    propertyMarker marker = marker ↔ Text.trim marker = marker ∧ marker ≠ "" := by
  rw [propertyMarker]
  cases hblank : Text.isAllBlank marker with
  | true =>
    have hdefault : Text.isAllBlank ({} : Config).marker = false := by decide +kernel
    have htrim : Text.trim marker = "" := Text.isAllBlank_iff.mp hblank
    refine iff_of_false (fun hself => ?_) fun ⟨hself, hne⟩ => hne (hself.symm.trans htrim)
    have hsame : ({} : Config).marker = marker := hself
    rw [← hsame, hdefault] at hblank
    exact Bool.noConfusion hblank
  | false =>
    refine ⟨fun hself => ⟨hself, ?_⟩, And.left⟩
    rintro rfl
    exact absurd hblank (by decide)

/-- An object with a marker alone gives that marker as it stands. It is the one that the property
gives, and every walk enters the same units under both, exactly if it is trimmed and not empty. -/
theorem ofJson_marker_agrees_iff (hname : name = markerField ∨ name = markerKey)
    (h : Document (.object [(name, .text marker)]) text) :
    ∃ config, ofJson text = .ok config ∧
      (config.marker = (ofProperties [(markerKey, marker)]).marker ↔
        Text.trim marker = marker ∧ marker ≠ "") ∧
      ((∀ units root u, u ∈ (Program.ofUnits units).route (.ofConfig config) root ↔
          u ∈ (Program.ofUnits units).route (.ofConfig (ofProperties [(markerKey, marker)])) root) ↔
        Text.trim marker = marker ∧ marker ≠ "") := by
  refine ⟨{ marker }, ofJson_marker hname h, ?_, ?_⟩
  · rw [ofProperties_marker, ← propertyMarker_eq_self_iff, eq_comm]
  rw [ofProperties_marker, ← propertyMarker_eq_self_iff]
  constructor
  · intro hsame
    have hcarrier := hsame (Program.referring marker) Sample.app (Program.carrier marker)
    rw [Program.carrier_mem_route_iff rfl, Program.carrier_mem_route_iff rfl] at hcarrier
    exact (hcarrier.mp rfl).symm
  · intro hmarker units root u
    rw [hmarker]

theorem ofJson_marker_agrees_trimmed :
    let text := "\x7b\"DiscoveryOptInMarker\":\"Acme.Scan\"\x7d"
    Document (.object [(markerKey, .text "Acme.Scan")]) text ∧
      ∃ config, ofJson text = .ok config ∧
        config.marker = (ofProperties [(markerKey, "Acme.Scan")]).marker ∧
        ∀ units root u, u ∈ (Program.ofUnits units).route (.ofConfig config) root ↔
          u ∈ (Program.ofUnits units).route (.ofConfig (ofProperties [(markerKey, "Acme.Scan")]))
            root := by
  intro text
  have h : Document (.object [(markerKey, .text "Acme.Scan")]) text :=
    Json.document_of_written
      (.single (.plain (by decide)) (.text (.plain (by decide)))) (by decide)
  obtain ⟨config, hread, hmarker, hroutes⟩ := ofJson_marker_agrees_iff (Or.inr rfl) h
  have hplain : Text.trim "Acme.Scan" = "Acme.Scan" ∧ "Acme.Scan" ≠ "" := by decide +kernel
  exact ⟨h, config, hread, hmarker.mpr hplain, hroutes.mpr hplain⟩

/-- A unit that carries the trimmed marker is entered under the property only. -/
theorem ofJson_marker_padded :
    let text := "\x7b\"OptInMarker\":\" Acme.Scan \"\x7d"
    let property := ofProperties [(markerKey, " Acme.Scan ")]
    let program := Program.ofUnits (Program.referring "Acme.Scan")
    Document (.object [(markerField, .text " Acme.Scan ")]) text ∧
      ∃ config, ofJson text = .ok config ∧ config.marker ≠ property.marker ∧
        Program.carrier "Acme.Scan" ∉ program.route (.ofConfig config) Sample.app ∧
        Program.carrier "Acme.Scan" ∈ program.route (.ofConfig property) Sample.app := by
  intro text property program
  have h : Document (.object [(markerField, .text " Acme.Scan ")]) text :=
    Json.document_of_written
      (.single (.plain (by decide)) (.text (.plain (by decide)))) (by decide)
  have hproperty : property = { marker := "Acme.Scan" } := by decide +kernel
  refine ⟨h, { marker := " Acme.Scan " }, ofJson_marker (Or.inl rfl) h, ?_, ?_, ?_⟩
  · rw [hproperty]
    decide
  · rw [Program.carrier_mem_route_iff rfl]
    decide
  · rw [hproperty, Program.carrier_mem_route_iff rfl]
    rfl

end Config

end TypeSurvey
