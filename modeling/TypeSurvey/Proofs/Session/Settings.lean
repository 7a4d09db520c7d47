import TypeSurvey.Proofs.Config.Properties
import TypeSurvey.Proofs.Session.Answers
import TypeSurvey.Proofs.Survey
import TypeSurvey.Proofs.Walk.Settings
import TypeSurvey.Sample

/-!
# Settings that make no difference

Of the crossing setting a session uses only whether it allows crossing. So in all that is said to it
and all that it replies, a session whose setting is read from build properties is one whose setting
is disabled, if the last word on it is `0` or `false`, and one whose setting is enabled otherwise.
-/
namespace TypeSurvey

variable {g : Gate} {x : Crossing} {c : Catalog} {q : Question} {root : UnitKey}
  {token : Option Token}

theorem survey_withCrossing (h : x.allows = g.allowsCrossing) :
    survey (g.withCrossing x) q root token c = survey g q root token c := by
  have hallows : (g.withCrossing x).allowsCrossing = g.allowsCrossing := h
  cases hfound : c.program.find? root with
  | none => rw [survey_of_missing hfound, survey_of_missing hfound]
  | some u =>
    have hstart : Walk.start (g.withCrossing x) u g.allowsCrossing token =
        (Walk.start g u g.allowsCrossing token).withCrossing x := rfl
    rw [survey_of_found hfound, survey_of_found hfound, hallows, hstart, Walk.run_withCrossing]

theorem Cache.survey_withCrossing {α : Type} {cmp : Comparer α} {cache : Cache cmp} {a : α}
    (h : x.allows = g.allowsCrossing) :
    cache.survey (g.withCrossing x) q a root token c = cache.survey g q a root token c := by
  simp only [survey, TypeSurvey.survey_withCrossing h]

namespace Session

variable {s : Session}

def withCrossing (s : Session) (x : Crossing) : Session := { s with gate := s.gate.withCrossing x }

theorem ask_withCrossing (h : x.allows = s.gate.allowsCrossing) (q : Question) (root : UnitKey)
    (token : Option Token) :
    (s.withCrossing x).ask q root token =
      ((s.ask q root token).1, (s.ask q root token).2.withCrossing x) := by
  rcases ask_cases s q root token with ⟨a, hblank, hagain⟩ | ⟨hroot, hargument, hanswer⟩
  · rw [hblank, hagain]
  · rw [hanswer, ask_eq_answer hroot hargument]
    cases q <;> simp only [answer, withCrossing, Cache.survey_withCrossing h]

theorem ask_gate (s : Session) (q : Question) (root : UnitKey) (token : Option Token) :
    (s.ask q root token).2.gate = s.gate := by
  rcases ask_cases s q root token with ⟨a, hblank, -⟩ | ⟨-, -, hanswer⟩
  · rw [hblank]
  · rw [hanswer, answer_gate]

theorem findRoot_gate (s : Session) (root : UnitKey) : (s.findRoot root).2.gate = s.gate := by
  rw [findRoot_caches]

theorem findRoot_withCrossing (s : Session) (x : Crossing) (root : UnitKey) :
    (s.withCrossing x).findRoot root =
      ((s.findRoot root).1, (s.findRoot root).2.withCrossing x) := by
  have hlookup : (s.withCrossing x).lookup root =
      ((s.lookup root).1, (s.lookup root).2.withCrossing x) := rfl
  unfold findRoot
  split
  · rfl
  · simp only [hlookup]
    split <;> rfl

theorem mayCross_withCrossing (h : x.allows = s.gate.allowsCrossing) (root : UnitKey) :
    (s.withCrossing x).mayCross root =
      ((s.mayCross root).1, (s.mayCross root).2.withCrossing x) := by
  have hallows : (s.withCrossing x).gate.allowsCrossing = s.gate.allowsCrossing := h
  rw [mayCross, mayCross, findRoot_withCrossing, hallows]

theorem openWalk_withCrossing (h : x.allows = s.gate.allowsCrossing) (root : UnitKey)
    (token : Option Token) :
    (s.withCrossing x).openWalk root token =
      ((s.openWalk root token).1.map fun w => w.withCrossing x,
        (s.openWalk root token).2.withCrossing x) := by
  have hallows : (s.withCrossing x).gate.allowsCrossing = s.gate.allowsCrossing := h
  rw [openWalk, openWalk, findRoot_withCrossing, hallows]
  cases hfound : (s.findRoot root).1 with
  | error err => rfl
  | ok u => rfl

theorem takeFrom_withCrossing (s : Session) (x : Crossing) (w : Walk) (n : Nat) :
    (s.withCrossing x).takeFrom (w.withCrossing x) n =
      ((s.takeFrom w n).1, (s.takeFrom w n).2.1.withCrossing x,
        (s.takeFrom w n).2.2.withCrossing x) := by
  have hcatalog : (s.withCrossing x).catalog = s.catalog := rfl
  rw [takeFrom, takeFrom, hcatalog, Walk.take_withCrossing]
  rfl

end Session

/-- What is said to a session. A walk is named by its place among those that were opened. -/
inductive Prompt where
  | ask (q : Question) (root : UnitKey) (token : Option Token)
  | mayCross (root : UnitKey)
  | openWalk (root : UnitKey) (token : Option Token)
  | takeFrom (place n : Nat)
  | statistics
  | lookups
  | cancel (t : Token)
  | addTripwire (id : UnitKey) (t : Token)

/-- What comes back. Of an opened walk only its items are seen, and how many units it has entered. -/
inductive Reply where
  | answer (result : Except SurveyError Entry)
  | crossing (result : Except SurveyError Bool)
  | opened (result : Except SurveyError Unit)
  | items (items : List (Option (Except SurveyError TypeDecl))) (entered : Nat)
  | statistics (statistics : Statistics)
  | lookups (log : List UnitKey)
  | silence

/-- A session with the walks that were opened, the latest one last. -/
structure Dialogue where
  session : Session
  walks : List Walk := []

namespace Dialogue

def start (p : Program) (config : Config) : Dialogue := { session := .start p config }

def reply (d : Dialogue) : Prompt → Reply × Dialogue
  | .ask q root token =>
    let r := d.session.ask q root token
    (.answer r.1, { d with session := r.2 })
  | .mayCross root =>
    let r := d.session.mayCross root
    (.crossing r.1, { d with session := r.2 })
  | .openWalk root token =>
    let r := d.session.openWalk root token
    (.opened (r.1.map fun _ => ()), { session := r.2, walks := d.walks ++ r.1.toOption.toList })
  | .takeFrom place n =>
    match d.walks[place]? with
    | none => (.silence, d)
    | some w =>
      let r := d.session.takeFrom w n
      (.items r.1 r.2.1.enteredCount, { session := r.2.2, walks := d.walks.set place r.2.1 })
  | .statistics => (.statistics d.session.statistics, d)
  | .lookups => (.lookups d.session.catalog.log, d)
  | .cancel t =>
    (.silence, { d with session := { d.session with catalog := d.session.catalog.cancel t } })
  | .addTripwire id t =>
    (.silence,
      { d with session := { d.session with catalog := d.session.catalog.addTripwire id t } })

def replies (d : Dialogue) : List Prompt → List Reply
  | [] => []
  | prompt :: prompts => (d.reply prompt).1 :: replies (d.reply prompt).2 prompts

def withCrossing (d : Dialogue) (x : Crossing) : Dialogue :=
  { session := d.session.withCrossing x, walks := d.walks.map fun w => w.withCrossing x }

variable {d : Dialogue}

theorem reply_gate (d : Dialogue) (prompt : Prompt) :
    (d.reply prompt).2.session.gate = d.session.gate := by
  cases prompt with
  | ask q root token => exact Session.ask_gate d.session q root token
  | mayCross root => exact Session.findRoot_gate d.session root
  | openWalk root token => exact Session.findRoot_gate d.session root
  | takeFrom place n =>
    rw [reply]
    split <;> rfl
  | _ => rfl

/-- One prompt. -/
theorem reply_withCrossing (h : x.allows = d.session.gate.allowsCrossing) (prompt : Prompt) :
    (d.withCrossing x).reply prompt =
      ((d.reply prompt).1, (d.reply prompt).2.withCrossing x) := by
  cases prompt with
  | ask q root token =>
    rw [reply, reply, withCrossing, Session.ask_withCrossing h]
    rfl
  | mayCross root =>
    rw [reply, reply, withCrossing, Session.mayCross_withCrossing h]
    rfl
  | openWalk root token =>
    rw [reply, reply, withCrossing, Session.openWalk_withCrossing h]
    cases hopened : (d.session.openWalk root token).1 with
    | error err => simp [withCrossing, Except.map, Except.toOption]
    | ok w => simp [withCrossing, Except.map, Except.toOption]
  | takeFrom place n =>
    cases hplace : d.walks[place]? with
    | none => simp [reply, withCrossing, hplace]
    | some w =>
      simp only [reply, withCrossing, List.getElem?_map, hplace, Option.map_some,
        Session.takeFrom_withCrossing, List.map_set]
      rfl
  | statistics => rfl
  | lookups => rfl
  | cancel t => rfl
  | addTripwire id t => rfl

/-- Any run of prompts. -/
theorem replies_withCrossing (h : x.allows = d.session.gate.allowsCrossing)
    (prompts : List Prompt) : (d.withCrossing x).replies prompts = d.replies prompts := by
  induction prompts generalizing d with
  | nil => rfl
  | cons prompt prompts ih =>
    rw [replies, replies, reply_withCrossing h]
    simp only
    rw [ih ((reply_gate d prompt).symm ▸ h)]

/-- A session whose setting is read from build properties replies like one with the same marker
whose setting is disabled, if the value of the last property that spells the setting is `0` or
`false`, and like one whose setting is enabled in every other case. -/
theorem replies_ofProperties (p : Program) (properties : List (String × String))
    (prompts : List Prompt) :
    let config := Config.ofProperties properties
    let repliesWith (x : Crossing) := (start p { config with crossing := x }).replies prompts
    (Config.optsOut properties = true →
      (start p config).replies prompts = repliesWith .disabled) ∧
    (Config.optsOut properties = false →
      (start p config).replies prompts = repliesWith .enabled) := by
  intro config repliesWith
  have hsame (x : Crossing) (hx : x.allows = config.crossing.allows) :
      (start p config).replies prompts = repliesWith x :=
    (replies_withCrossing (d := start p config) hx prompts).symm
  have hallows : config.crossing.allows = !Config.optsOut properties :=
    Config.allows_ofProperties properties
  constructor
  · intro hout
    exact hsame .disabled (by rw [hallows, hout]; rfl)
  · intro hout
    exact hsame .enabled (by rw [hallows, hout]; rfl)

/-- The layered application opts out by a forwarded property behind another one, and opts in again by
a blank value. -/
theorem replies_ofProperties_layered :
    let prompts : List Prompt :=
      [.openWalk Sample.app none, .takeFrom 0 3, .ask .everything Sample.app none, .takeFrom 0 9,
       .statistics]
    let out := [("EnableCrossUnitDiscovery", "true"),
      (" BUILD_property.enablecrossunitdiscovery ", "\tFALSE")]
    let back := out ++ [("EnableCrossUnitDiscovery", " ")]
    Config.optsOut out = true ∧ Config.optsOut back = false ∧
      (start Sample.layered.program (.ofProperties out)).replies prompts =
        (start Sample.layered.program { crossing := .disabled }).replies prompts ∧
      (start Sample.layered.program (.ofProperties back)).replies prompts =
        (start Sample.layered.program { crossing := .enabled }).replies prompts := by
  intro prompts out back
  have hout : Config.optsOut out = true := by decide +kernel
  have hback : Config.optsOut back = false := by decide +kernel
  have hmarker : (Config.ofProperties out).marker = ({} : Config).marker := by decide +kernel
  have hmarker' : (Config.ofProperties back).marker = ({} : Config).marker := by decide +kernel
  refine ⟨hout, hback, ?_, ?_⟩
  · rw [(replies_ofProperties Sample.layered.program out prompts).1 hout, hmarker]
  · rw [(replies_ofProperties Sample.layered.program back prompts).2 hback, hmarker']

end Dialogue

end TypeSurvey
