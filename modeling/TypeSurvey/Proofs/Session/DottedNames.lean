import TypeSurvey.Proofs.Session.NamedQuestions
import TypeSurvey.Proofs.Text.Trim

/-!
# Questions by a dotted name

A simple name has no dot, so no annotation goes by a name that has one. Trimming leaves the dots of a
name where they are, and spellings of one key have dots or not together. So a question by a dotted
name is answered with no type at all, in a new session and in a used one.
-/
namespace TypeSurvey

namespace Question

variable {q : Question} {name : String} {ts : List TypeDecl}

theorem dot_mem_trim (h : '.' ∈ name.toList) : '.' ∈ (Text.trim name).toList := by
  have hdot : Text.isBlank '.' = false := by decide
  rwa [Text.trim, String.toList_ofList, Text.mem_trimChars_iff hdot]

theorem blankArgument?_of_dot (h : '.' ∈ name.toList) :
    (annotatedLike name).blankArgument? = none := by
  apply blankArgument?_annotatedLike
  rw [Bool.eq_false_iff]
  intro hblank
  have hdot := dot_mem_trim h
  simp [Text.isAllBlank_iff.mp hblank] at hdot

theorem choose_eq_nil (h : ∀ t ∈ ts, q.selects t = false) : q.choose ts = [] := by
  rw [List.eq_nil_iff_forall_not_mem]
  intro t ht
  obtain ⟨hmem, hselects⟩ := mem_of_mem_choose ht
  simp [h t hmem] at hselects

/-- No type is selected by a name whose trimmed form has a dot. -/
theorem choose_of_dot (h : '.' ∈ (Text.trim name).toList) (ts : List TypeDecl) :
    (annotatedLike name).choose ts = [] :=
  choose_eq_nil fun t _ => TypeDecl.isLooselyAnnotated_of_dot h t

end Question

namespace Session

variable {s : Session} {p : Program} {config : Config} {calls : List Call} {q : Question}
  {name : String} {root : UnitKey} {u : CodeUnit} {token : Option Token} {e : Entry}

/-- Whatever is kept, a question from a root that is found is answered if nobody cancels it. -/
theorem exists_answer (hroot : root.isBlank = false) (hq : q.blankArgument? = none)
    (hfound : s.catalog.program.find? root = some u) (hsteady : s.catalog.Steady token)
    (hlive : s.catalog.wasCancelled token = false) : ∃ e, (s.ask q root token).1 = .ok e := by
  rw [ask_eq_answer hroot hq]
  cases hkept : s.kept? q root with
  | some e => exact ⟨e, (answer_of_kept hkept).1⟩
  | none =>
    rcases answer_of_admitted hkept hroot hfound hlive with ⟨e, -, hok, -⟩ | ⟨hcut, -⟩
    · exact ⟨e, hok⟩
    · exact absurd hsteady hcut

/-- An entry that serves a dotted name was stored under a spelling that is dotted as well. -/
theorem types_eq_nil_of_dot (h : '.' ∈ name.toList)
    (hok : (((start p config).after calls).ask (.annotatedLike name) root token).1 = .ok e) :
    e.types = [] := by
  rcases ask_cases ((start p config).after calls) (.annotatedLike name) root token with
    ⟨a, hblank, -⟩ | ⟨-, -, hanswer⟩
  · simp [hblank] at hok
  · rw [hanswer] at hok
    obtain ⟨q', halike, hfresh, -⟩ := (sound_after p config calls).answered hok
    obtain ⟨name', rfl⟩ := Question.eq_annotatedLike_of_alike halike
    have hdot : '.' ∈ (Text.trim name').toList :=
      Question.dot_mem_of_alike (Question.alike_symm halike) (Question.dot_mem_trim h)
    obtain ⟨v, us, -, -, htypes⟩ := survey_ok hfresh
    rw [htypes, Question.choose_of_dot hdot]

/-- No annotation goes by a name that has a dot, wherever the dot is. A question by such a name, from
a root that the program has and with a token that nobody cancels, is answered with no type, in a new
session and in a used one. -/
theorem ask_dotted (h : '.' ∈ name.toList) :
    (∀ t : TypeDecl, t.isLooselyAnnotated name = false) ∧
    ∀ (p : Program) (config : Config) (calls : List Call) (root : UnitKey) (u : CodeUnit)
      (token : Option Token), root.isBlank = false → p.find? root = some u →
      let s := (start p config).after calls
      s.catalog.Steady token → s.catalog.wasCancelled token = false →
        ∃ e, (s.ask (.annotatedLike name) root token).1 = .ok e ∧ e.types = [] := by
  refine ⟨TypeDecl.isLooselyAnnotated_of_dot h, ?_⟩
  intro p config calls root u token hroot hfound s hsteady hlive
  have hprogram : s.catalog.program = p := (sound_after p config calls).program
  have hq := Question.blankArgument?_of_dot h
  obtain ⟨e, hok⟩ := exists_answer hroot hq (hprogram ▸ hfound) hsteady hlive
  exact ⟨e, hok, types_eq_nil_of_dot h hok⟩

/-- The controller carries an annotation of just this qualified name, and is found by it exactly but
not loosely. The token that is cancelled is another one. -/
theorem ask_dotted_layered :
    let name := "Core.ServiceAttribute"
    let s := (start Sample.layered.program).after [.cancel ⟨1⟩]
    '.' ∈ name.toList ∧
      Sample.controller.isAnnotatedWith Sample.serviceAttribute = true ∧
      Sample.controller.isLooselyAnnotated name = false ∧
      Sample.app.isBlank = false ∧ s.catalog.Steady (some ⟨0⟩) ∧
      s.catalog.wasCancelled (some ⟨0⟩) = false ∧
      ∃ u e, Sample.layered.program.find? Sample.app = some u ∧
        (s.ask (.annotatedLike name) Sample.app (some ⟨0⟩)).1 = .ok e ∧ e.types = [] := by
  intro name s
  have hdot : '.' ∈ name.toList := by decide
  have hexact : Sample.controller.isAnnotatedWith Sample.serviceAttribute = true := by
    decide +kernel
  have hroot : Sample.app.isBlank = false := by decide
  have hsteady : s.catalog.Steady (some ⟨0⟩) := Catalog.steady_of_tripwires rfl
  have hlive : s.catalog.wasCancelled (some ⟨0⟩) = false := by decide
  obtain ⟨u, hfound⟩ : ∃ u, Sample.layered.program.find? Sample.app = some u := ⟨_, rfl⟩
  obtain ⟨hnone, hanswers⟩ := ask_dotted hdot
  obtain ⟨e, hok, htypes⟩ := hanswers _ {} [.cancel ⟨1⟩] _ u (some ⟨0⟩) hroot hfound hsteady hlive
  exact ⟨hdot, hexact, hnone _, hroot, hsteady, hlive, u, e, hfound, hok, htypes⟩

end Session

end TypeSurvey
