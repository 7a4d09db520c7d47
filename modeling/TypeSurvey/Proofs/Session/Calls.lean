import Mathlib.Data.List.Induction
import TypeSurvey.Proofs.Session.Answers
import TypeSurvey.Proofs.Survey

/-!
# Sequences of calls to a session

Whatever is called on a session, in whatever order and with whatever tokens, each entry it keeps is
the fresh answer to a question that was asked from the same root and shares the entry's key.
-/
namespace TypeSurvey

namespace Session

/-- What is done with a session between two questions. A tripwire cancels its token in the middle of
a later call. -/
inductive Call where
  | ask (q : Question) (root : UnitKey) (token : Option Token)
  | mayCross (root : UnitKey)
  | openWalk (root : UnitKey) (token : Option Token)
  | takeFrom (w : Walk) (n : Nat)
  | cancel (t : Token)
  | addTripwire (id : UnitKey) (t : Token)

/-- The session after one call, whatever its result. -/
def call (s : Session) : Call → Session
  | .ask q root token => (s.ask q root token).2
  | .mayCross root => (s.mayCross root).2
  | .openWalk root token => (s.openWalk root token).2
  | .takeFrom w n => (s.takeFrom w n).2.2
  | .cancel t => { s with catalog := s.catalog.cancel t }
  | .addTripwire id t => { s with catalog := s.catalog.addTripwire id t }

def after (s : Session) (calls : List Call) : Session := calls.foldl call s

end Session

/-- The answer to a question before anything else is asked. -/
def Fresh (p : Program) (g : Gate) (q : Question) (root : UnitKey) (types : List TypeDecl) : Prop :=
  (survey g q root none { program := p }).1 = .ok types

namespace Session

variable {p : Program} {g : Gate} {config : Config} {calls : List Call} {s : Session}
  {q : Question} {root : UnitKey} {token : Option Token} {c : Catalog}

/-- What holds of a session for `p` under the gate `g` after `calls`. -/
structure Sound (p : Program) (g : Gate) (calls : List Call) (s : Session) : Prop where
  gate : s.gate = g
  program : s.catalog.program = p
  kept : ∀ q root e, s.kept? q root = some e →
    ∃ q' token, .ask q' root token ∈ calls ∧ q'.alike q = true ∧ Fresh p g q' root e.types

theorem sound_start (p : Program) (config : Config) :
    Sound p (.ofConfig config) [] (start p config) where
  gate := rfl
  program := rfl
  kept q root e h := by cases q <;> simp [kept?, start, Cache.peek, Cache.find?] at h

@[simp] theorem kept?_withCatalog : { s with catalog := c }.kept? q root = s.kept? q root := by
  cases q <;> rfl

/-- A call that consults the catalog alone keeps the entries as they are. -/
theorem Sound.withCatalog (h : Sound p g calls s) (x : Call) (hc : c.program = p) :
    Sound p g (calls ++ [x]) { s with catalog := c } where
  gate := h.gate
  program := hc
  kept q root e he := by
    obtain ⟨q', token, hasked, halike, hfresh⟩ := h.kept q root e (by simpa using he)
    exact ⟨q', token, List.mem_append_left _ hasked, halike, hfresh⟩

theorem Sound.unchanged (h : Sound p g calls s) (x : Call) : Sound p g (calls ++ [x]) s :=
  h.withCatalog x h.program

theorem answer_program (s : Session) (q : Question) (root : UnitKey) (token : Option Token) :
    (s.answer q root token).2.catalog.program = s.catalog.program := by
  cases hkept : s.kept? q root with
  | some e => rw [(answer_of_kept hkept).2]
  | none =>
    rw [(answer_of_missing token hkept).2]
    exact survey_catalog (P := fun d => d.program = s.catalog.program) id rfl

/-- An answer that was not kept before is that of a survey without a token in a new session. -/
theorem fresh_of_answer {e : Entry} (h : s.kept? q root = none)
    (hok : (s.answer q root token).1 = .ok e) :
    Fresh s.catalog.program s.gate q root e.types := by
  apply survey_again (survey_of_answer_ok h hok)
  · rfl
  · exact Catalog.steady_of_tripwires rfl
  · rfl

theorem Sound.answer (h : Sound p g calls s) (q : Question) (root : UnitKey)
    (token : Option Token) :
    Sound p g (calls ++ [.ask q root token]) (s.answer q root token).2 where
  gate := (answer_gate s q root token).trans h.gate
  program := (answer_program s q root token).trans h.program
  kept q' root' e he := by
    have hold (hkept : s.kept? q' root' = some e) :
        ∃ q'' token', .ask q'' root' token' ∈ calls ++ [.ask q root token] ∧
          q''.alike q' = true ∧ Fresh p g q'' root' e.types := by
      obtain ⟨q'', token', hasked, halike, hfresh⟩ := h.kept q' root' e hkept
      exact ⟨q'', token', List.mem_append_left _ hasked, halike, hfresh⟩
    rcases kept?_answer he with hkept | ⟨hok, rfl, halike⟩
    · exact hold hkept
    · cases hkept : s.kept? q root with
      | some e' =>
        obtain rfl : e' = e := Except.ok.inj ((answer_of_kept hkept).1.symm.trans hok)
        exact hold (kept?_congr halike ▸ hkept)
      | none =>
        have hfresh := fresh_of_answer hkept hok
        rw [h.gate, h.program] at hfresh
        exact ⟨q, token, List.mem_append_right _ List.mem_cons_self, halike, hfresh⟩

theorem Sound.findRoot (h : Sound p g calls s) (x : Call) (root : UnitKey) :
    Sound p g (calls ++ [x]) (s.findRoot root).2 := by
  unfold Session.findRoot
  split
  · exact h.unchanged x
  · simp only [lookup]
    split <;> exact h.withCatalog x h.program

/-- One call. -/
theorem Sound.call (h : Sound p g calls s) (x : Call) : Sound p g (calls ++ [x]) (s.call x) := by
  cases x with
  | ask q root token =>
    rcases ask_cases s q root token with ⟨a, hblank, -⟩ | ⟨-, -, hanswer⟩
    · simpa only [Session.call, hblank] using h.unchanged _
    · simpa only [Session.call, hanswer] using h.answer q root token
  | mayCross root => exact h.findRoot _ root
  | openWalk root token => exact h.findRoot _ root
  | takeFrom w n =>
    apply h.withCatalog
    exact Walk.take_catalog (P := fun d => d.program = p) id n h.program
  | cancel t => exact h.withCatalog _ h.program
  | addTripwire id t => exact h.withCatalog _ h.program

/-- Any sequence of calls. -/
theorem sound_after (p : Program) (config : Config) (calls : List Call) :
    Sound p (.ofConfig config) calls ((start p config).after calls) := by
  induction calls using List.reverseRecOn with
  | nil => exact sound_start p config
  | append_singleton calls x ih =>
    rw [after, List.foldl_append]
    exact ih.call x

end Session

end TypeSurvey
