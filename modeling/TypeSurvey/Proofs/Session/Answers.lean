import TypeSurvey.Proofs.Cache.Surveys

/-!
# Answers of a session

The four caches of a session act as one memory, which keeps entries by question and root. An answer
is what is kept for the question or else the outcome of a survey, and nothing is kept afterwards but
what was kept before and the answer itself.
-/
namespace TypeSurvey

namespace Question

/-- Questions of one kind whose parameters share an entry. -/
def alike : Question → Question → Bool
  | everything, everything => true
  | subtypesOf a, subtypesOf b => Comparer.symbol.same a b
  | annotatedWith a, annotatedWith b => Comparer.symbol.same a b
  | annotatedLike a, annotatedLike b => Comparer.caseless.same (Text.trim a) (Text.trim b)
  | _, _ => false

theorem alike_refl (q : Question) : q.alike q = true := by
  cases q with
  | everything => rfl
  | subtypesOf base => exact Comparer.symbol.same_refl base
  | annotatedWith t => exact Comparer.symbol.same_refl t
  | annotatedLike name => exact Comparer.caseless.same_refl (Text.trim name)

theorem alike_symm {q q' : Question} (h : q.alike q' = true) : q'.alike q = true := by
  cases q <;> cases q' <;> simp only [alike, Bool.false_eq_true] at h
  case everything.everything => rfl
  case subtypesOf.subtypesOf => exact Comparer.symbol.same_symm _ _ h
  case annotatedWith.annotatedWith => exact Comparer.symbol.same_symm _ _ h
  case annotatedLike.annotatedLike => exact Comparer.caseless.same_symm _ _ h

theorem eq_annotatedLike_of_alike {q : Question} {name : String}
    (h : q.alike (annotatedLike name) = true) : ∃ name', q = annotatedLike name' := by
  cases q with
  | annotatedLike name' => exact ⟨name', rfl⟩
  | _ => simp [alike] at h

end Question

namespace Session

variable {s : Session} {q q' : Question} {root root' : UnitKey} {token : Option Token} {e : Entry}

/-- The entry that is kept for a question from a root. -/
def kept? (s : Session) (q : Question) (root : UnitKey) : Option Entry :=
  match q with
  | .everything => s.everything.peek () root
  | .subtypesOf base => s.subtypes.peek base root
  | .annotatedWith t => s.annotated.peek t root
  | .annotatedLike name => s.named.peek (Text.trim name) root

theorem kept?_congr (h : q.alike q' = true) : s.kept? q root = s.kept? q' root := by
  cases q <;> cases q' <;> simp only [Question.alike, Bool.false_eq_true] at h
  · rfl
  · exact Cache.peek_congr h
  · exact Cache.peek_congr h
  · exact Cache.peek_congr h

theorem answer_gate (s : Session) (q : Question) (root : UnitKey) (token : Option Token) :
    (s.answer q root token).2.gate = s.gate := by
  cases q <;> rfl

/-- What is kept is the answer, and nothing is looked up. -/
theorem answer_of_kept (h : s.kept? q root = some e) :
    (s.answer q root token).1 = .ok e ∧ (s.answer q root token).2.catalog = s.catalog := by
  cases q <;> simp [answer, Cache.survey_of_kept h]

theorem answer_of_missing (token : Option Token) (h : s.kept? q root = none) :
    (s.answer q root token).1.map Entry.types = (survey s.gate q root token s.catalog).1 ∧
      (s.answer q root token).2.catalog = (survey s.gate q root token s.catalog).2 := by
  cases q <;> exact Cache.survey_of_missing h

theorem answer_of_survey_error {err : SurveyError} (h : s.kept? q root = none)
    (herr : (survey s.gate q root token s.catalog).1 = .error err) :
    (s.answer q root token).1 = .error err := by
  have hresult := (answer_of_missing token h).1
  cases hanswer : (s.answer q root token).1 with
  | error err' => simpa [hanswer, herr, Except.map] using hresult
  | ok e => simp [hanswer, herr, Except.map] at hresult

theorem survey_of_answer_error {err : SurveyError}
    (h : (s.answer q root token).1 = .error err) :
    s.kept? q root = none ∧ (survey s.gate q root token s.catalog).1 = .error err := by
  cases hkept : s.kept? q root with
  | some e => simp [(answer_of_kept hkept).1] at h
  | none =>
    have hresult := (answer_of_missing token hkept).1
    rw [h] at hresult
    exact ⟨rfl, hresult.symm⟩

theorem survey_of_answer_ok (h : s.kept? q root = none)
    (hok : (s.answer q root token).1 = .ok e) :
    (survey s.gate q root token s.catalog).1 = .ok e.types := by
  have hresult := (answer_of_missing token h).1
  rw [hok] at hresult
  exact hresult.symm

/-- What is kept after an answer was kept before or is that answer. -/
theorem kept?_answer (h : (s.answer q root token).2.kept? q' root' = some e) :
    s.kept? q' root' = some e ∨
      (s.answer q root token).1 = .ok e ∧ root = root' ∧ q.alike q' = true := by
  cases q <;> cases q'
  case everything.everything =>
    rcases Cache.peek_survey h with hold | ⟨hnew, hroot, -⟩
    · exact Or.inl hold
    · exact Or.inr ⟨hnew, hroot, rfl⟩
  case subtypesOf.subtypesOf => exact Cache.peek_survey h
  case annotatedWith.annotatedWith => exact Cache.peek_survey h
  case annotatedLike.annotatedLike => exact Cache.peek_survey h
  all_goals exact Or.inl h

theorem kept?_answer_self (h : (s.answer q root token).1 = .ok e) :
    (s.answer q root token).2.kept? q root = some e := by
  cases q <;> exact Cache.peek_survey_self h

/-- What was kept stays kept. -/
theorem kept?_answer_of_kept (q : Question) (root : UnitKey) (token : Option Token)
    (h : s.kept? q' root' = some e) : (s.answer q root token).2.kept? q' root' = some e := by
  cases q <;> cases q'
  case everything.everything => exact (Cache.survey_becomes ..).peek h
  case subtypesOf.subtypesOf => exact (Cache.survey_becomes ..).peek h
  case annotatedWith.annotatedWith => exact (Cache.survey_becomes ..).peek h
  case annotatedLike.annotatedLike => exact (Cache.survey_becomes ..).peek h
  all_goals exact h

/-- Behind an answer there is an entry for what had one before and for what shares that of the
answer. -/
theorem kept?_answer_isSome_iff (hok : (s.answer q root token).1 = .ok e) :
    ((s.answer q root token).2.kept? q' root').isSome = true ↔
      (s.kept? q' root').isSome = true ∨ root = root' ∧ q.alike q' = true := by
  simp only [Option.isSome_iff_exists]
  constructor
  · rintro ⟨e', he'⟩
    rcases kept?_answer he' with hold | ⟨-, hsame⟩
    · exact Or.inl ⟨e', hold⟩
    · exact Or.inr hsame
  · rintro (⟨e', he'⟩ | ⟨rfl, halike⟩)
    · exact ⟨e', kept?_answer_of_kept q root token he'⟩
    · exact ⟨e, kept?_congr halike ▸ kept?_answer_self hok⟩

/-- A result that has types has an entry with these types. -/
theorem entry_of_types {result : Except SurveyError Entry} {types : List TypeDecl}
    (h : result.map Entry.types = .ok types) : ∃ e, result = .ok e ∧ e.types = types := by
  cases result with
  | error err => simp [Except.map] at h
  | ok e => exact ⟨e, rfl, Except.ok.inj h⟩

theorem ask_of_blankRoot (h : root.isBlank = true) :
    s.ask q root token = (.error (.blankArgument .rootUnit), s) := by
  simp [ask, h]

theorem ask_of_blankArgument {a : Argument} (hroot : root.isBlank = false)
    (h : q.blankArgument? = some a) : s.ask q root token = (.error (.blankArgument a), s) := by
  simp [ask, hroot, h]

theorem ask_eq_answer (hroot : root.isBlank = false) (h : q.blankArgument? = none) :
    s.ask q root token = s.answer q root token := by
  simp [ask, hroot, h]

/-- An answer serves every later question that shares its entry. -/
theorem ask_of_alike (token' : Option Token) (hroot : root.isBlank = false)
    (hq : q.blankArgument? = none) (hq' : q'.blankArgument? = none) (halike : q.alike q' = true)
    (hok : (s.ask q root token).1 = .ok e) :
    ((s.ask q root token).2.ask q' root token').1 = .ok e := by
  rw [ask_eq_answer hroot hq] at hok ⊢
  rw [ask_eq_answer hroot hq']
  have hkept := kept?_answer_self hok
  rw [kept?_congr halike] at hkept
  exact (answer_of_kept hkept).1

/-- Either an argument is blank and the session stays as it is, or the question is answered. -/
theorem ask_cases (s : Session) (q : Question) (root : UnitKey) (token : Option Token) :
    (∃ a, s.ask q root token = (.error (.blankArgument a), s) ∧
        ∀ (s' : Session) (token' : Option Token),
          s'.ask q root token' = (.error (.blankArgument a), s')) ∨
      root.isBlank = false ∧ q.blankArgument? = none ∧
        s.ask q root token = s.answer q root token := by
  cases hroot : root.isBlank with
  | true => exact Or.inl ⟨.rootUnit, ask_of_blankRoot hroot, fun _ _ => ask_of_blankRoot hroot⟩
  | false =>
    cases h : q.blankArgument? with
    | some a =>
      exact Or.inl ⟨a, ask_of_blankArgument hroot h, fun _ _ => ask_of_blankArgument hroot h⟩
    | none => exact Or.inr ⟨rfl, rfl, ask_eq_answer hroot h⟩

/-- To find the root takes the catalog alone. -/
theorem findRoot_caches (s : Session) (root : UnitKey) :
    (s.findRoot root).2 = { s with catalog := (s.findRoot root).2.catalog } := by
  unfold findRoot
  split
  · rfl
  · simp only [lookup]
    split <;> rfl

end Session

end TypeSurvey
