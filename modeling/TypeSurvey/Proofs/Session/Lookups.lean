import TypeSurvey.Proofs.Session.Calls
import TypeSurvey.Proofs.Session.ColdQuestions
import TypeSurvey.Proofs.Walk.Lookups

/-!
# What a question looks up

A question that is answered from the cache or refused for a blank argument looks nothing up. One
that fails since its root is not found or its token was cancelled before looks up the root alone.
Any other one that is answered looks up the root and what the units on its route depend on, once
each.
-/
namespace TypeSurvey.Session

variable {s : Session} {q : Question} {root : UnitKey} {u : CodeUnit} {token : Option Token}

theorem answer_lookups_of_ok {e : Entry} (hp : s.catalog.program.Filed)
    (hkept : s.kept? q root = none) (hok : (s.answer q root token).1 = .ok e) :
    ∃ ids : List UnitKey, (s.answer q root token).2.catalog.log = ids ++ s.catalog.log ∧
      ids.Nodup ∧
      ∀ id, id ∈ ids ↔ id = root ∨ s.gate.allowsCrossing = true ∧
        ∃ v ∈ s.catalog.program.route s.gate root, id ∈ v.dependencies := by
  obtain ⟨u, us, hfound, hrun, -⟩ := survey_ok (survey_of_answer_ok hkept hok)
  rw [(answer_of_missing token hkept).2, survey_of_found hfound]
  exact Walk.start_lookups hp hfound hrun

/-- An answer fails because its root is not found, or because it was cancelled. -/
theorem answer_error_cases {err : SurveyError} (herr : (s.answer q root token).1 = .error err) :
    s.kept? q root = none ∧
      ((s.catalog.program.find? root = none ∧ err = .unresolved root) ∨
        ∃ u, s.catalog.program.find? root = some u ∧ err = .cancelled) := by
  obtain ⟨hkept, hfailed⟩ := survey_of_answer_error herr
  refine ⟨hkept, ?_⟩
  cases hfound : s.catalog.program.find? root with
  | none =>
    rw [survey_of_missing hfound] at hfailed
    exact Or.inl ⟨rfl, (Except.error.inj hfailed).symm⟩
  | some u => exact Or.inr ⟨u, rfl, (survey_error hfound hfailed).1⟩

theorem answer_lookups_of_unresolved {missing : UnitKey}
    (herr : (s.answer q root token).1 = .error (.unresolved missing)) :
    (s.answer q root token).2.catalog.log = root :: s.catalog.log := by
  obtain ⟨hkept, ⟨hfound, -⟩ | ⟨u, -, hcancelled⟩⟩ := answer_error_cases herr
  · rw [(answer_of_missing token hkept).2, survey_of_missing hfound]
    rfl
  · simp at hcancelled

theorem answer_lookups_of_cancelled (herr : (s.answer q root token).1 = .error .cancelled)
    (hcancelled : s.catalog.wasCancelled token = true) :
    (s.answer q root token).2.catalog.log = root :: s.catalog.log := by
  obtain ⟨hkept, ⟨-, hunresolved⟩ | ⟨u, hfound, -⟩⟩ := answer_error_cases herr
  · simp at hunresolved
  · rw [(answer_of_missing token hkept).2, survey_of_cancelled hfound hcancelled]
    rfl

/-- The log of a session tells what a question looks up. If the question is answered and the answer
was not stored before, that is the root and, if crossing is allowed, the dependencies of the units
that the walk enters, found or not and marked or not, each of them once. If the root is not found or
the token was cancelled before, it is the root. If the answer was stored or an argument is blank, it
is nothing. -/
theorem ask_lookups {units : List CodeUnit} (hprogram : s.catalog.program = .ofUnits units)
    (q : Question) (root : UnitKey) (token : Option Token) :
    (s.kept? q root = none → ∀ e, (s.ask q root token).1 = .ok e →
      ∃ ids : List UnitKey, (s.ask q root token).2.catalog.log = ids ++ s.catalog.log ∧
        ids.Nodup ∧
        ∀ id, id ∈ ids ↔ id = root ∨ s.gate.allowsCrossing = true ∧
          ∃ v ∈ (Program.ofUnits units).route s.gate root, id ∈ v.dependencies) ∧
    (∀ missing, (s.ask q root token).1 = .error (.unresolved missing) →
      (s.ask q root token).2.catalog.log = root :: s.catalog.log) ∧
    ((s.ask q root token).1 = .error .cancelled → s.catalog.wasCancelled token = true →
      (s.ask q root token).2.catalog.log = root :: s.catalog.log) ∧
    (∀ e, s.kept? q root = some e → (s.ask q root token).2.catalog.log = s.catalog.log) ∧
    ∀ a, (s.ask q root token).1 = .error (.blankArgument a) →
      (s.ask q root token).2.catalog.log = s.catalog.log := by
  have hfiled : s.catalog.program.Filed := hprogram ▸ Program.filed_ofUnits units
  rcases ask_cases s q root token with ⟨a, hblank, -⟩ | ⟨-, -, hanswer⟩
  · rw [hblank]
    simp
  · rw [hanswer]
    refine ⟨fun hkept e hok => hprogram ▸ answer_lookups_of_ok hfiled hkept hok,
      fun _ herr => answer_lookups_of_unresolved herr,
      fun herr hcancelled => answer_lookups_of_cancelled herr hcancelled,
      fun e hkept => by rw [(answer_of_kept hkept).2], fun a herr => ?_⟩
    obtain ⟨-, ⟨-, hunresolved⟩ | ⟨u, -, hcancelled⟩⟩ := answer_error_cases herr
    · simp at hunresolved
    · simp at hcancelled

/-- Among the shapes the first question looks up the root and its closed vendor, and the same
question asked again nothing. A root that is nowhere and a cancelled token cost one lookup, a blank
root none. -/
theorem ask_lookups_shapes :
    let s := start Sample.shapes.program
    let cancelled : Session := { s with catalog := s.catalog.cancel ⟨0⟩ }
    let nowhere : UnitKey := ⟨"Nowhere", ""⟩
    (∃ e, s.kept? .everything Sample.shapesRoot = none ∧
      (s.ask .everything Sample.shapesRoot).1 = .ok e ∧
      (∃ ids : List UnitKey, (s.ask .everything Sample.shapesRoot).2.catalog.log = ids ++ [] ∧
        ids.Nodup ∧
        ∀ id, id ∈ ids ↔ id = Sample.shapesRoot ∨ s.gate.allowsCrossing = true ∧
          ∃ v ∈ Sample.shapes.program.route s.gate Sample.shapesRoot, id ∈ v.dependencies) ∧
      let asked := (s.ask .everything Sample.shapesRoot).2
      asked.kept? .everything Sample.shapesRoot = some e ∧
        (asked.ask .everything Sample.shapesRoot).2.catalog.log = asked.catalog.log) ∧
    (s.ask .everything nowhere).2.catalog.log = [nowhere] ∧
    (cancelled.ask .everything Sample.shapesRoot (some ⟨0⟩)).2.catalog.log = [Sample.shapesRoot] ∧
    (s.ask .everything ⟨"", ""⟩).2.catalog.log = [] := by
  intro s cancelled nowhere
  have hroot : Sample.shapesRoot.isBlank = false := by decide
  have hanswer (s' : Session) (token : Option Token) :
      s'.ask .everything Sample.shapesRoot token = s'.answer .everything Sample.shapesRoot token :=
    ask_eq_answer hroot rfl
  obtain ⟨u, hfound⟩ : ∃ u, s.catalog.program.find? Sample.shapesRoot = some u := ⟨_, rfl⟩
  have hsteady : s.catalog.Steady none := Catalog.steady_of_tripwires rfl
  obtain ⟨us, hsurvey⟩ := survey_of_steady (g := s.gate) .everything hfound hsteady rfl
  obtain ⟨e, hok, -⟩ := entry_of_types ((answer_of_missing none rfl).1.trans hsurvey)
  rw [← hanswer] at hok
  have hprogram : (s.ask .everything Sample.shapesRoot).2.catalog.program =
      Sample.shapes.program :=
    hanswer s none ▸ answer_program s .everything Sample.shapesRoot none
  have hkept : (s.ask .everything Sample.shapesRoot).2.kept? .everything Sample.shapesRoot =
      some e := by
    rw [hanswer] at hok ⊢
    exact kept?_answer_self hok
  have hnowhere : (s.ask .everything nowhere).1 = .error (.unresolved nowhere) := by
    rw [ask_eq_answer (by decide) rfl]
    exact answer_of_unresolved rfl rfl
  have hcut : (cancelled.ask .everything Sample.shapesRoot (some ⟨0⟩)).1 = .error .cancelled :=
    hanswer cancelled (some ⟨0⟩) ▸ answer_of_cancelled rfl hfound rfl
  have hblank : (s.ask .everything ⟨"", ""⟩).1 = .error (.blankArgument .rootUnit) := rfl
  refine ⟨⟨e, rfl, hok, ?_, hkept, ?_⟩, ?_, ?_, ?_⟩
  · exact (ask_lookups (s := s) rfl .everything Sample.shapesRoot none).1 rfl e hok
  · exact (ask_lookups hprogram .everything Sample.shapesRoot none).2.2.2.1 e hkept
  · exact (ask_lookups (s := s) rfl .everything nowhere none).2.1 nowhere hnowhere
  · exact (ask_lookups (s := cancelled) rfl .everything Sample.shapesRoot _).2.2.1 hcut rfl
  · exact (ask_lookups (s := s) rfl .everything ⟨"", ""⟩ none).2.2.2.2 .rootUnit hblank

end TypeSurvey.Session
