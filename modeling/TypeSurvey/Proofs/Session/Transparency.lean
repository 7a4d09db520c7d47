import TypeSurvey.Proofs.Session.Calls
import TypeSurvey.Proofs.Session.ColdQuestions

/-!
# Questions by type in a used session

A session may serve a question from an entry that was stored for another declaration of the same
symbol. This makes no difference, since subtypes and annotated types are told by the symbol alone.
-/
namespace TypeSurvey

theorem TypeDecl.isConcreteSubtypeOf_congr {base base' : TypeDecl} (h : base.symbol = base'.symbol)
    (t : TypeDecl) : t.isConcreteSubtypeOf base = t.isConcreteSubtypeOf base' := by
  simp only [isConcreteSubtypeOf, isSubtypeOf, h]

theorem TypeDecl.isAnnotatedWith_congr {a a' : TypeDecl} (h : a.symbol = a'.symbol)
    (t : TypeDecl) : t.isAnnotatedWith a = t.isAnnotatedWith a' := by
  have hname : a.qualifiedName = a'.qualifiedName := congrArg Symbol.name h
  simp only [isAnnotatedWith, hname]

/-- Questions by type that share an entry select the same types. -/
theorem Question.selects_congr {q q' : Question} (h : q.alike q' = true)
    (hq : ∀ name, q' ≠ .annotatedLike name) : q.selects = q'.selects := by
  funext t
  cases q <;> cases q' <;> simp only [alike, Bool.false_eq_true] at h
  case everything.everything => rfl
  case subtypesOf.subtypesOf base base' =>
    exact TypeDecl.isConcreteSubtypeOf_congr (of_decide_eq_true h) t
  case annotatedWith.annotatedWith a a' =>
    exact TypeDecl.isAnnotatedWith_congr (of_decide_eq_true h) t
  case annotatedLike.annotatedLike name name' => exact absurd rfl (hq name')

theorem Question.choose_congr {q q' : Question} (h : q.selects = q'.selects) :
    q.choose = q'.choose := by
  funext ts
  rw [choose, choose, h]

theorem Fresh.congr {p : Program} {g : Gate} {q q' : Question} {root : UnitKey}
    {types : List TypeDecl} (h : Fresh p g q root types) (hq : q.selects = q'.selects) :
    Fresh p g q' root types := by
  obtain ⟨u, us, hfound, hrun, rfl⟩ := survey_ok h
  rw [Question.choose_congr hq]
  exact survey_of_run hfound hrun

namespace Session

variable {p : Program} {g : Gate} {calls : List Call} {s : Session} {q : Question}
  {root : UnitKey} {token : Option Token} {e : Entry}

/-- Every answer is the fresh one to a question of the same key, asked now or before. -/
theorem Sound.answered (h : Sound p g calls s) (hok : (s.answer q root token).1 = .ok e) :
    ∃ q', q'.alike q = true ∧ Fresh p g q' root e.types ∧
      (q' = q ∨ ∃ token', .ask q' root token' ∈ calls) := by
  cases hkept : s.kept? q root with
  | some e' =>
    obtain rfl : e' = e := Except.ok.inj ((answer_of_kept hkept).1.symm.trans hok)
    obtain ⟨q', token', hasked, halike, hfresh⟩ := h.kept q root e' hkept
    exact ⟨q', halike, hfresh, Or.inr ⟨token', hasked⟩⟩
  | none =>
    have hfresh := fresh_of_answer hkept hok
    rw [h.gate, h.program] at hfresh
    exact ⟨q, q.alike_refl, hfresh, Or.inl rfl⟩

/-- A new session in a process where the given tokens are cancelled. -/
def startAmong (cancelled : List Token) (p : Program) (config : Config) : Session :=
  { start p config with catalog := { program := p, cancelled } }

/-- A new session gives a fresh answer whatever the token. -/
theorem ask_start_of_fresh {config : Config} {types : List TypeDecl}
    (hroot : root.isBlank = false) (hq : q.blankArgument? = none)
    (h : Fresh p (.ofConfig config) q root types) (token : Option Token) :
    ((start p config).ask q root token).1.map Entry.types = .ok types := by
  have hkept : (start p config).kept? q root = none := by cases q <;> rfl
  rw [ask_eq_answer hroot hq, (answer_of_missing token hkept).1]
  apply survey_again h
  · rfl
  · exact Catalog.steady_of_tripwires rfl
  · cases token <;> rfl

/-- A question that was refused or cancelled fails in every session without answers in which its
token is cancelled by then. -/
theorem answer_error_again {s' : Session} {err : SurveyError}
    (h : (s.answer q root token).1 = .error err) (hkept : s'.kept? q root = none)
    (hprogram : s'.catalog.program = s.catalog.program)
    (hcancelled : (s.answer q root token).2.catalog.wasCancelled token = true →
      s'.catalog.wasCancelled token = true) :
    (s'.answer q root token).1 = .error err := by
  obtain ⟨hmissing, hfailed⟩ := survey_of_answer_error h
  cases hfound : s.catalog.program.find? root with
  | none =>
    rw [survey_of_missing hfound] at hfailed
    obtain rfl : .unresolved root = err := Except.error.inj hfailed
    exact answer_of_unresolved hkept (hprogram ▸ hfound)
  | some u =>
    obtain ⟨rfl, hcut⟩ := survey_error hfound hfailed
    rw [(answer_of_missing token hmissing).2] at hcancelled
    exact answer_of_cancelled hkept (hprogram ▸ hfound) (hcancelled hcut)

/-- After any sequence of calls, a question for all types, for subtypes or for annotated types that
is answered gets the types that a new session would list. One that fails gets the error that it
gets in a new session where the same tokens are cancelled. -/
theorem ask_transparent (p : Program) (config : Config) (calls : List Call) (q : Question)
    (root : UnitKey) (token : Option Token) (hq : ∀ name, q ≠ .annotatedLike name) :
    (∀ e, (((start p config).after calls).ask q root token).1 = .ok e →
      ∀ token', ((start p config).ask q root token').1.map Entry.types = .ok e.types) ∧
    ∀ err, (((start p config).after calls).ask q root token).1 = .error err →
      ((startAmong (((start p config).after calls).ask q root token).2.catalog.cancelled p
        config).ask q root token).1 = .error err := by
  have hsound := sound_after p config calls
  rcases ask_cases ((start p config).after calls) q root token with
    ⟨a, hblank, hagain⟩ | ⟨hroot, hargument, hanswer⟩
  · rw [hblank]
    refine ⟨by simp, ?_⟩
    intro err herr
    obtain rfl : .blankArgument a = err := Except.error.inj herr
    rw [hagain]
  · rw [hanswer]
    refine ⟨fun e hok => ?_, fun err herr => ?_⟩
    · obtain ⟨q', halike, hfresh, -⟩ := hsound.answered hok
      have hsame : Fresh p (.ofConfig config) q root e.types :=
        hfresh.congr (Question.selects_congr halike hq)
      exact ask_start_of_fresh hroot hargument hsame
    · rw [ask_eq_answer hroot hargument]
      apply answer_error_again herr
      · cases q <;> rfl
      · exact hsound.program.symm
      · exact id

/-- The general shape once more, read from another row. -/
def shapeCopy : TypeDecl := { Sample.shape with row := some 9 }

/-- The copy is served from the entry of the first one. -/
theorem ask_transparent_shapes :
    (∀ name, Question.subtypesOf shapeCopy ≠ .annotatedLike name) ∧
    ∃ e, (((start Sample.shapes.program).after
        [.ask (.subtypesOf Sample.shape) Sample.shapesRoot none]).ask (.subtypesOf shapeCopy)
          Sample.shapesRoot).1 = .ok e ∧
      ((start Sample.shapes.program).ask (.subtypesOf shapeCopy) Sample.shapesRoot).1.map
        Entry.types = .ok e.types := by
  have hq : ∀ name, Question.subtypesOf shapeCopy ≠ .annotatedLike name := fun name h => nomatch h
  have hroot : Sample.shapesRoot.isBlank = false := by decide
  have hargument : (Question.subtypesOf Sample.shape).blankArgument? = none := by decide +kernel
  have hargument' : (Question.subtypesOf shapeCopy).blankArgument? = none := by decide +kernel
  have halike : (Question.subtypesOf Sample.shape).alike (.subtypesOf shapeCopy) = true := by
    decide +kernel
  obtain ⟨u, hfound⟩ : ∃ u, Sample.shapes.program.find? Sample.shapesRoot = some u := ⟨_, rfl⟩
  have hsteady : ({ program := Sample.shapes.program } : Catalog).Steady none :=
    Catalog.steady_of_tripwires rfl
  obtain ⟨us, hfresh⟩ := survey_of_steady (g := .ofConfig {}) (.subtypesOf Sample.shape) hfound
    hsteady rfl
  obtain ⟨e, hanswer, -⟩ := entry_of_types (ask_start_of_fresh hroot hargument hfresh none)
  have hok : (((start Sample.shapes.program).after
      [.ask (.subtypesOf Sample.shape) Sample.shapesRoot none]).ask (.subtypesOf shapeCopy)
        Sample.shapesRoot none).1 = .ok e :=
    ask_of_alike none hroot hargument hargument' halike hanswer
  exact ⟨hq, e, hok, (ask_transparent _ {} _ _ _ none hq).1 e hok none⟩

end Session

end TypeSurvey
