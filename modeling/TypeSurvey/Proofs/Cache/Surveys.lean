import TypeSurvey.Proofs.Cache.Store
import TypeSurvey.Session

/-!
# Surveys through a cache

A survey through the cache stores its answer if it is the first, and whatever a later lookup finds
was there before or is that answer.
-/
namespace TypeSurvey.Cache

variable {α : Type} {cmp : Comparer α} {cache : Cache cmp} {a b : α} {root root' : UnitKey}
  {e : Entry} {g : Gate} {q : Question} {token : Option Token} {c : Catalog}

theorem survey_of_kept (h : cache.peek a root = some e) :
    cache.survey g q a root token c = (.ok e, cache.countHit, c) := by
  rw [survey]
  exact fetch_of_kept h

theorem survey_of_error {err : SurveyError} (h : cache.peek a root = none)
    (herr : (TypeSurvey.survey g q root token c).1 = .error err) :
    cache.survey g q a root token c =
      (.error err, cache.countMiss, (TypeSurvey.survey g q root token c).2) := by
  rw [survey]
  exact fetch_of_error h herr

theorem survey_of_answer {types : List TypeDecl} (h : cache.peek a root = none)
    (hok : (TypeSurvey.survey g q root token c).1 = .ok types) :
    cache.survey g q a root token c =
      (.ok (cache.countMiss.store ⟨cache.kind, a, root⟩ types).1,
        (cache.countMiss.store ⟨cache.kind, a, root⟩ types).2,
        (TypeSurvey.survey g q root token c).2) := by
  rw [survey]
  exact fetch_of_ok h hok

/-- Without an entry the outcome is that of the survey itself. -/
theorem survey_of_missing (h : cache.peek a root = none) :
    (cache.survey g q a root token c).1.map Entry.types =
        (TypeSurvey.survey g q root token c).1 ∧
      (cache.survey g q a root token c).2.2 = (TypeSurvey.survey g q root token c).2 := by
  cases hout : (TypeSurvey.survey g q root token c).1 with
  | error err =>
    rw [survey_of_error h hout]
    exact ⟨rfl, rfl⟩
  | ok types =>
    have hmiss : cache.countMiss.peek a root = none := h
    have hstore := store_of_missing types hmiss
    rw [survey_of_answer h hout]
    refine ⟨?_, rfl⟩
    change Except.ok (cache.countMiss.store ⟨cache.countMiss.kind, a, root⟩ types).1.types = _
    rw [hstore]

/-- What is found after a survey was there before or is its answer. -/
theorem peek_survey (h : (cache.survey g q a root token c).2.1.peek b root' = some e) :
    cache.peek b root' = some e ∨
      (cache.survey g q a root token c).1 = .ok e ∧ root = root' ∧ cmp.same a b = true := by
  cases hpeek : cache.peek a root with
  | some kept =>
    rw [survey_of_kept hpeek] at h
    exact Or.inl h
  | none =>
    cases hout : (TypeSurvey.survey g q root token c).1 with
    | error err =>
      rw [survey_of_error hpeek hout] at h
      exact Or.inl h
    | ok types =>
      rw [survey_of_answer hpeek hout] at h ⊢
      rcases peek_of_peek_store (c := cache.countMiss) h with hold | ⟨hnew, hsame⟩
      · exact Or.inl hold
      · exact Or.inr ⟨congrArg Except.ok hnew, hsame⟩

/-- An answer is found again under its key. -/
theorem peek_survey_self (h : (cache.survey g q a root token c).1 = .ok e) :
    (cache.survey g q a root token c).2.1.peek a root = some e := by
  cases hpeek : cache.peek a root with
  | some kept =>
    rw [survey_of_kept hpeek] at h ⊢
    obtain rfl : kept = e := Except.ok.inj h
    exact hpeek
  | none =>
    cases hout : (TypeSurvey.survey g q root token c).1 with
    | error err => simp [survey_of_error hpeek hout] at h
    | ok types =>
      rw [survey_of_answer hpeek hout] at h ⊢
      have hstore := peek_store_self cache.countMiss a root types
      exact hstore.trans (congrArg some (Except.ok.inj h))

/-- A survey counts, and it may store its answer. -/
theorem survey_becomes (cache : Cache cmp) (g : Gate) (q : Question) (a : α) (root : UnitKey)
    (token : Option Token) (c : Catalog) :
    cache.Becomes (cache.survey g q a root token c).2.1 := by
  cases hpeek : cache.peek a root with
  | some kept =>
    rw [survey_of_kept hpeek]
    exact .hit cache
  | none =>
    cases hout : (TypeSurvey.survey g q root token c).1 with
    | error err =>
      rw [survey_of_error hpeek hout]
      exact .miss cache
    | ok types =>
      rw [survey_of_answer hpeek hout]
      exact (Becomes.miss cache).trans (.store cache.countMiss a root types)

end TypeSurvey.Cache
