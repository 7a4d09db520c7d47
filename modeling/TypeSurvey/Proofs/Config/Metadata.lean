import TypeSurvey.Config.Metadata
import TypeSurvey.Proofs.Json.Reading

/-!
# Reading documents

However a setting is written, what is read depends on its tree alone. Of an object with one member
the configuration is what that member says.
-/
namespace TypeSurvey

open Json (Tree Gap Written Document Member Elements Ends ends_nil ends_cons skipGap skipGap_append
  skipGap_cons readToken?)

variable {g cs rest : List Char} {v : Tree} {text name : String}

/-- Nothing is left behind a document but a gap. -/
theorem finish_gap {α : Type} (reading : Except MetadataError α) (h : Gap g) :
    finish (reading.map (·, g)) = reading := by
  have hempty : (skipGap g).isEmpty = true := by
    have hskip := skipGap_append h []
    rw [List.append_nil] at hskip
    rw [hskip]
    rfl
  cases reading with
  | error fault => rfl
  | ok x => simp [finish, Except.map, bind, Except.bind, hempty, pure, Except.pure]

/-- The setting that a tree says where containers may nest so deep. -/
def Json.Tree.crossing (v : Tree) (depth : Nat) : Except MetadataError Crossing := do
  match Crossing.ofValue? (← orMalformed (v.value? depth)) with
  | some crossing => return crossing
  | none => throw .badSetting

namespace Crossing

theorem read_gap (h : Gap g) (depth : Nat) (cs : List Char) :
    read depth (g ++ cs) = read depth cs := by
  rw [read, read, Json.readValue?_gap h]

theorem read_written (h : Written v cs) (hrest : Ends rest) (depth : Nat) :
    read depth (cs ++ rest) = (v.crossing depth).map (·, rest) := by
  rw [read, Json.readValue?_written h hrest, Tree.crossing]
  cases v.value? depth with
  | none => rfl
  | some w =>
    simp only [Option.map_some, orMalformed, bind, Except.bind]
    cases ofValue? w <;> rfl

theorem ofJson_document (h : Document v text) : ofJson text = v.crossing maxDepth := by
  obtain @⟨g, cs, g', before, written, after, htext⟩ := h
  have hends : Ends g' := by simpa using after.ends ends_nil
  rw [ofJson, htext, read_gap before, read_written written hends, finish_gap _ after]

end Crossing

namespace Config

theorem readColon_gap (h : Gap g) (cs : List Char) : readColon (g ++ ':' :: cs) = .ok cs := by
  have hcolon : Json.isGap ':' = false := by decide
  simp [readColon, skipGap_append h, skipGap_cons hcolon]

/-- A first member of that name and tree leaves that draft, however it is written. -/
def MemberReads (name : String) (v : Tree) (reading : Except MetadataError Draft) : Prop :=
  ∀ {cs rest : List Char}, Member Written (name, v) cs → Ends rest →
    readMember {} (cs ++ rest) = reading.map (·, rest)

/-- The setting is read from the member that has its name. -/
theorem memberReads_crossing (v : Tree) :
    MemberReads crossingKey v
      ((v.crossing (maxDepth - 1)).map fun x => { crossing := some x }) := by
  intro cs rest h hrest
  cases h with
  | @pair _ _ ns g g' cs nameText before after item =>
    have htoken := Json.readToken?_text nameText (g ++ ':' :: (g' ++ (cs ++ rest)))
    have hcolon := readColon_gap before (g' ++ (cs ++ rest))
    have hread := Crossing.read_written item hrest (maxDepth - 1)
    rw [← Crossing.read_gap after] at hread
    simp only [List.cons_append, List.append_assoc, readMember, htoken, orMalformed, bind,
      Except.bind, if_true, Option.isSome_none, Bool.false_eq_true, if_false, hcolon, hread]
    cases v.crossing (maxDepth - 1) <;> rfl

/-- A text is the marker under either name of its field. -/
theorem memberReads_marker (hname : name = markerField ∨ name = markerKey) (marker : String) :
    MemberReads name (.text marker) (.ok { marker := some marker }) := by
  intro cs rest h _
  cases h with
  | @pair _ _ ns g g' cs nameText before after item =>
    cases item with
    | @text _ cs string =>
      have hcrossing : name ≠ crossingKey := by rcases hname with rfl | rfl <;> decide
      have htoken := Json.readToken?_text nameText (g ++ ':' :: (g' ++ '"' :: (cs ++ rest)))
      have hcolon := readColon_gap before (g' ++ '"' :: (cs ++ rest))
      have hmarker := Json.readToken?_text string rest
      rw [← Json.readToken?_gap after] at hmarker
      simp [readMember, htoken, orMalformed, bind, Except.bind, hcrossing, hname, hcolon,
        readMarker, hmarker, pure, Except.pure, Except.map]

theorem readMembers_close (h : Gap g) (d : Draft) (rest : List Char) :
    readMembers (g ++ '\x7d' :: rest).length d (g ++ '\x7d' :: rest) = .ok (d, rest) := by
  have hclose : Json.isGap '\x7d' = false := by decide
  rw [List.length_append, List.length_cons, ← Nat.add_assoc]
  simp [readMembers, skipGap_append h, skipGap_cons hclose]

section Single

variable {reading : Except MetadataError Draft}

theorem readObject_single (hreads : MemberReads name v reading)
    (h : Elements (Member Written) '\x7d' [(name, v)] cs) (rest : List Char) :
    readObject (cs ++ rest) = reading.map (·, rest) := by
  cases h with
  | @first _ _ g ms _ before member others =>
    cases others with
    | @close g' after =>
      have hmember := hreads member (after.ends (ends_cons (by simp)) : Ends (g' ++ '\x7d' :: rest))
      -- the member begins with a quote, so the object is not empty
      obtain ⟨nameText, _, _, _⟩ := member
      have hquote : Json.isGap '"' = false := by decide
      simp only [List.cons_append, List.append_assoc] at hmember ⊢
      simp [readObject, skipGap_append before, skipGap_cons hquote, hmember]
      cases reading with
      | error fault => rfl
      | ok d => simpa [Except.map, bind, Except.bind] using readMembers_close after d rest

/-- Of an object with one member the configuration is what that member says. -/
theorem ofJson_single (hreads : MemberReads name v reading)
    (h : Document (.object [(name, v)]) text) : ofJson text = reading.map Draft.toConfig := by
  obtain @⟨g, _, g', before, written, after, htext⟩ := h
  cases written with
  | @object _ cs elements =>
    have htoken : readToken? .wanted ('\x7b' :: (cs ++ g')) = some (.openObject, cs ++ g') := rfl
    have hread : read text.toList = reading.map (·, g') := by
      rw [read, htext, Json.readToken?_gap before, List.cons_append, htoken]
      exact readObject_single hreads elements g'
    rw [ofJson, hread, finish_gap reading after]

end Single

theorem ofJson_crossing (h : Document (.object [(crossingKey, v)]) text) :
    ofJson text = (v.crossing (maxDepth - 1)).map fun x => { crossing := x } := by
  rw [ofJson_single (memberReads_crossing v) h]
  cases v.crossing (maxDepth - 1) <;> rfl

theorem ofJson_marker {marker : String} (hname : name = markerField ∨ name = markerKey)
    (h : Document (.object [(name, .text marker)]) text) : ofJson text = .ok { marker } := by
  rw [ofJson_single (memberReads_marker hname marker) h]
  rfl

end Config

end TypeSurvey
