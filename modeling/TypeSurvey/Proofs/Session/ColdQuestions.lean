import TypeSurvey.Proofs.Session.Answers
import TypeSurvey.Proofs.Session.Walks
import TypeSurvey.Proofs.Survey
import TypeSurvey.Proofs.Text.Trim

/-!
# Questions without a stored answer

Such a question is refused for the first of four reasons that applies. Otherwise the types that a
walk from the root lists are filtered first and then freed of duplicates, in this order: of several
declarations with one symbol, the first that is selected is kept.
-/
namespace TypeSurvey

namespace Question

variable {q : Question} {base t : TypeDecl}

/-- The parameter whose text must not be blank, and that text. -/
def parameter? : Question → Option (Argument × String)
  | everything => none
  | subtypesOf base => some (.baseType, base.qualifiedName)
  | annotatedWith t => some (.annotationType, t.qualifiedName)
  | annotatedLike name => some (.annotationName, Text.trim name)

theorem blankArgument?_eq (q : Question) :
    q.blankArgument? = (q.parameter?.filter fun p => Text.isAllBlank p.2).map Prod.fst := by
  cases q with
  | everything => rfl
  | subtypesOf base => by_cases h : Text.isAllBlank base.qualifiedName <;>
      simp [blankArgument?, parameter?, h]
  | annotatedWith t => by_cases h : Text.isAllBlank t.qualifiedName <;>
      simp [blankArgument?, parameter?, h]
  | annotatedLike name => by_cases h : Text.isAllBlank name <;>
      simp [blankArgument?, parameter?, h]

theorem concrete_of_selects (h : (subtypesOf base).selects t = true) :
    t.kind ≠ .interfaceKind ∧ .abstractType ∉ t.modifiers ∧ t.symbol ≠ base.symbol := by
  simp only [selects, TypeDecl.isConcreteSubtypeOf, TypeDecl.isAbstract, Bool.and_eq_true,
    Bool.not_eq_true', Bool.or_eq_false_iff, decide_eq_false_iff_not, decide_eq_true_iff] at h
  exact ⟨h.1.1.1, h.1.1.2, h.1.2⟩

end Question

namespace Session

variable {s : Session} {q : Question} {root : UnitKey} {u : CodeUnit} {token : Option Token}
  {types : List TypeDecl}

/-- The first reason not to answer a question: a blank root, a blank parameter, a root that is not
found, a token that is cancelled. -/
def refusal? (s : Session) (q : Question) (root : UnitKey) (token : Option Token) :
    Option SurveyError :=
  if root.isBlank then some (.blankArgument .rootUnit)
  else
    match q.parameter?.filter fun p => Text.isAllBlank p.2 with
    | some p => some (.blankArgument p.1)
    | none =>
      match s.catalog.program.find? root with
      | none => some (.unresolved root)
      | some _ => if s.catalog.wasCancelled token then some .cancelled else none

/-- What is to be answered: a walk from the root lists types, and of the selected ones the first of
each symbol is kept. -/
def Lists (s : Session) (q : Question) (root : UnitKey) (types : List TypeDecl) : Prop :=
  ∃ (w w' : Walk) (s₁ s₂ : Session) (ts : List TypeDecl),
    s.openWalk root = (.ok w, s₁) ∧
    s₁.takeFrom w (ts.length + 1) = (Walk.listing ts, w', s₂) ∧
    types = (ts.filter q.selects).eraseDupsBy (fun a b => a.symbol == b.symbol) ∧
    ∀ t ∈ ts, q.selects t = true → t.symbol ∈ types.map TypeDecl.symbol

theorem refusal?_of_blankArgument {a : Argument} (hroot : root.isBlank = false)
    (h : q.blankArgument? = some a) : s.refusal? q root token = some (.blankArgument a) := by
  rw [Question.blankArgument?_eq, Option.map_eq_some_iff] at h
  obtain ⟨p, hp, rfl⟩ := h
  simp [refusal?, hroot, hp]

theorem refusal?_of_argument (hroot : root.isBlank = false) (h : q.blankArgument? = none) :
    s.refusal? q root token =
      match s.catalog.program.find? root with
      | none => some (.unresolved root)
      | some _ => if s.catalog.wasCancelled token then some .cancelled else none := by
  rw [Question.blankArgument?_eq, Option.map_eq_none_iff] at h
  simp [refusal?, hroot, h]

/-- The walk of a survey lists the same types when it is opened by itself. -/
theorem lists_of_survey (hroot : root.isBlank = false)
    (h : (survey s.gate q root token s.catalog).1 = .ok types) : s.Lists q root types := by
  obtain ⟨u, us, hfound, hrun, rfl⟩ := survey_ok h
  have hfree : ((s.walkFrom u none).run (s.catalog.visited root)).1 = .ok us :=
    (Walk.run_unwatched hrun rfl).1
  refine ⟨_, _, _, _, us, openWalk_of_found hroot hfound, takeFrom_of_run hfree,
    q.choose_eq us, fun t ht hselects => ?_⟩
  exact Question.symbol_mem_choose ht hselects

theorem answer_of_unresolved (hkept : s.kept? q root = none)
    (hfound : s.catalog.program.find? root = none) :
    (s.answer q root token).1 = .error (.unresolved root) :=
  answer_of_survey_error hkept (by rw [survey_of_missing hfound])

theorem answer_of_cancelled (hkept : s.kept? q root = none)
    (hfound : s.catalog.program.find? root = some u)
    (hcancelled : s.catalog.wasCancelled token = true) :
    (s.answer q root token).1 = .error .cancelled :=
  answer_of_survey_error hkept (by rw [survey_of_cancelled hfound hcancelled])

/-- A question that is not refused either lists its types or is cancelled on the way. -/
theorem answer_of_admitted (hkept : s.kept? q root = none) (hroot : root.isBlank = false)
    (hfound : s.catalog.program.find? root = some u)
    (hlive : s.catalog.wasCancelled token = false) :
    (∃ e us, (s.answer q root token).1 = .ok e ∧ s.Lists q root e.types ∧
        e.types = q.choose us) ∨
      ¬s.catalog.Steady token ∧ (s.answer q root token).1 = .error .cancelled ∧
        (s.answer q root token).2.catalog.wasCancelled token = true := by
  cases hanswer : (s.answer q root token).1 with
  | error err =>
    have hfailed := (survey_of_answer_error hanswer).2
    obtain ⟨rfl, hcancelled⟩ := survey_error hfound hfailed
    have hcatalog := (answer_of_missing token hkept).2
    refine Or.inr ⟨fun hsteady => ?_, rfl, hcatalog ▸ hcancelled⟩
    obtain ⟨us, hok⟩ := survey_of_steady q hfound hsteady hlive
    exact absurd (hfailed.symm.trans hok) (by simp)
  | ok e =>
    have hok := survey_of_answer_ok hkept hanswer
    obtain ⟨v, us, -, -, hchoose⟩ := survey_ok hok
    exact Or.inl ⟨e, us, rfl, lists_of_survey hroot hok, hchoose⟩

/-- A question whose answer is not stored is refused with the first reason there is. Without one it
is answered with the selected types of a walk from the root, unless a lookup on the way cancels the
token. No two types of the answer share a symbol, and a question for subtypes never finds an
interface, an abstract type or the base itself. -/
theorem ask_unkept (h : s.kept? q root = none) :
    (∀ err, s.refusal? q root token = some err → (s.ask q root token).1 = .error err) ∧
    (s.refusal? q root token = none →
      (∃ e, (s.ask q root token).1 = .ok e ∧
          s.Lists q root e.types ∧
          (e.types.map TypeDecl.symbol).Nodup ∧
          ∀ base, q = .subtypesOf base → ∀ t ∈ e.types,
            t.kind ≠ .interfaceKind ∧ .abstractType ∉ t.modifiers ∧ t.symbol ≠ base.symbol) ∨
        ¬s.catalog.Steady token ∧ (s.ask q root token).1 = .error .cancelled ∧
          (s.ask q root token).2.catalog.wasCancelled token = true) := by
  cases hroot : root.isBlank with
  | true => simp [refusal?, ask_of_blankRoot hroot, hroot]
  | false =>
    cases hargument : q.blankArgument? with
    | some a =>
      simp [refusal?_of_blankArgument hroot hargument, ask_of_blankArgument hroot hargument]
    | none =>
      rw [refusal?_of_argument hroot hargument, ask_eq_answer hroot hargument]
      cases hfound : s.catalog.program.find? root with
      | none => simp [answer_of_unresolved h hfound]
      | some u =>
        cases hlive : s.catalog.wasCancelled token with
        | true => simp [answer_of_cancelled h hfound hlive]
        | false =>
          refine ⟨by simp, fun _ => ?_⟩
          rcases answer_of_admitted h hroot hfound hlive with ⟨e, us, hok, hlists, hchoose⟩ | hcut
          · refine Or.inl ⟨e, hok, hlists, hchoose ▸ q.nodup_choose us, ?_⟩
            rintro base rfl t ht
            exact Question.concrete_of_selects (Question.mem_of_mem_choose (hchoose ▸ ht)).2
          · exact Or.inr hcut

/-- A new session has no answers, and among the shapes it does not refuse the question for the
subtypes of the general one. The polygon is abstract, and the triangle's vendor has not opted in. -/
theorem ask_unkept_shapes :
    (start Sample.shapes.program).kept? (.subtypesOf Sample.shape) Sample.shapesRoot = none ∧
    (start Sample.shapes.program).refusal? (.subtypesOf Sample.shape) Sample.shapesRoot none =
      none ∧
    ∃ e, ((start Sample.shapes.program).ask (.subtypesOf Sample.shape) Sample.shapesRoot).1 =
        .ok e ∧
      (start Sample.shapes.program).Lists (.subtypesOf Sample.shape) Sample.shapesRoot e.types ∧
      (e.types.map TypeDecl.symbol).Nodup ∧
      (∀ t ∈ e.types, t.kind ≠ .interfaceKind ∧ .abstractType ∉ t.modifiers ∧
        t.symbol ≠ Sample.shape.symbol) ∧
      e.types.map TypeDecl.name = ["Circle", "Square"] := by
  have hroot : Sample.shapesRoot.isBlank = false := by decide
  have hargument : (Question.subtypesOf Sample.shape).blankArgument? = none := by decide +kernel
  have hkept : (start Sample.shapes.program).kept? (.subtypesOf Sample.shape) Sample.shapesRoot =
      none := rfl
  have hadmitted : (start Sample.shapes.program).refusal? (.subtypesOf Sample.shape)
      Sample.shapesRoot none = none := by
    decide +kernel
  refine ⟨hkept, hadmitted, ?_⟩
  rcases (ask_unkept hkept).2 hadmitted with ⟨e, hok, hlists, hnodup, hconcrete⟩ | ⟨hcut, -⟩
  · refine ⟨e, hok, hlists, hnodup, hconcrete _ rfl, ?_⟩
    rw [ask_eq_answer hroot hargument] at hok
    have htypes := survey_of_answer_ok hkept hok
    rw [survey_of_found rfl] at htypes
    -- enter the root, unpack its namespaces and list the types; then leave the root and end
    rw [Walk.run_of_quiet rfl, Walk.run_of_quiet rfl, Walk.run_of_quiet rfl] at htypes
    rw [Walk.run_of_item rfl, Walk.run_of_item rfl, Walk.run_of_item rfl, Walk.run_of_item rfl,
      Walk.run_of_quiet rfl, Walk.run_of_finished rfl] at htypes
    have hchosen : (Question.subtypesOf Sample.shape).choose
        [Sample.shape, Sample.circle, Sample.square, Sample.polygon] = e.types :=
      Except.ok.inj htypes
    rw [← hchosen]
    decide +kernel
  · exact absurd (Catalog.steady_of_tripwires rfl) hcut

end Session

end TypeSurvey
