import Mathlib.Data.Finset.Card
import TypeSurvey.Proofs.Session.Lookups

/-!
# The ledger of a session

The statistics of a session can be read off the questions it was asked and what they got. Each
question without a blank argument is a hit or a miss; an entry stands for each key under which some
question was answered; and the misses are the entries together with the questions that failed.
-/
namespace TypeSurvey

/-- What tells the entries of one root apart: the kind of question, and the symbol of its type or
the folded characters of its trimmed name. -/
inductive QuestionKey where
  | everything
  | subtypes (base : Symbol)
  | annotated (annotationType : Symbol)
  | named (folded : List Char)
  deriving DecidableEq, Repr

def Question.key : Question → QuestionKey
  | everything => .everything
  | subtypesOf base => .subtypes base.symbol
  | annotatedWith t => .annotated t.symbol
  | annotatedLike name => .named (Text.foldChars (Text.trim name).toList)

/-- Questions share an entry exactly if they have one key. -/
theorem Question.alike_iff_key {q q' : Question} : q.alike q' = true ↔ q.key = q'.key := by
  cases q <;> cases q' <;>
    simp [alike, key, Comparer.symbol, Comparer.caseless, Comparer.ofView]

/-- A question that was asked of a session, with what it got. -/
structure Asked where
  question : Question
  root : UnitKey
  result : Except SurveyError Entry

namespace Asked

def key (a : Asked) : QuestionKey × UnitKey := (a.question.key, a.root)

/-- No argument is blank. -/
def isAdmissible (a : Asked) : Bool := !a.root.isBlank && a.question.blankArgument?.isNone

def isAnswered (a : Asked) : Bool := a.result.isOk

/-- The root was not found, or the question was cancelled. -/
def hasFailed (a : Asked) : Bool :=
  match a.result with
  | .error (.unresolved _) => true
  | .error .cancelled => true
  | _ => false

/-- The keys under which some question was answered. -/
def answeredKeys (asked : List Asked) : Finset (QuestionKey × UnitKey) :=
  ((asked.filter isAnswered).map key).toFinset

theorem answeredKeys_concat (asked : List Asked) (a : Asked) :
    answeredKeys (asked ++ [a]) =
      if a.isAnswered = true then insert a.key (answeredKeys asked) else answeredKeys asked := by
  ext k
  split <;> rename_i h <;> simp [answeredKeys, List.filter_append, h]

end Asked

namespace Cache

variable {α : Type} {cmp : Comparer α} {cache : Cache cmp} {a : α} {root : UnitKey} {g : Gate}
  {q : Question} {token : Option Token} {c : Catalog}

theorem statistics_countMiss (cache : Cache cmp) :
    cache.countMiss.statistics = cache.statistics + ⟨0, 1, 0⟩ :=
  rfl

theorem statistics_survey_of_kept {e : Entry} (h : cache.peek a root = some e) :
    (cache.survey g q a root token c).2.1.statistics = cache.statistics + ⟨1, 0, 0⟩ := by
  rw [survey_of_kept h]
  rfl

theorem statistics_survey_of_answer {types : List TypeDecl} (h : cache.peek a root = none)
    (hok : (TypeSurvey.survey g q root token c).1 = .ok types) :
    (cache.survey g q a root token c).2.1.statistics = cache.statistics + ⟨0, 1, 1⟩ := by
  have hmiss : cache.countMiss.peek a root = none := h
  rw [survey_of_answer h hok]
  change (cache.countMiss.store ⟨cache.countMiss.kind, a, root⟩ types).2.statistics = _
  rw [store_of_missing types hmiss]
  apply Statistics.ext <;> simp [statistics, countMiss, size]

end Cache

namespace Session

variable {s : Session} {q q' : Question} {root : UnitKey} {token : Option Token} {c : Catalog}

/-- One miss more in the cache that serves the question. -/
def countMiss (s : Session) : Question → Session
  | .everything => { s with everything := s.everything.countMiss }
  | .subtypesOf _ => { s with subtypes := s.subtypes.countMiss }
  | .annotatedWith _ => { s with annotated := s.annotated.countMiss }
  | .annotatedLike _ => { s with named := s.named.countMiss }

theorem statistics_countMiss (s : Session) (q : Question) :
    (s.countMiss q).statistics = s.statistics + ⟨0, 1, 0⟩ := by
  cases q <;> simp only [countMiss, statistics, Cache.statistics_countMiss] <;> ac_rfl

theorem kept?_countMiss (s : Session) (q q' : Question) (root : UnitKey) :
    (s.countMiss q).kept? q' root = s.kept? q' root := by
  cases q <;> cases q' <;> rfl

theorem answer_statistics_of_kept {e : Entry} (token : Option Token)
    (h : s.kept? q root = some e) :
    (s.answer q root token).2.statistics = s.statistics + ⟨1, 0, 0⟩ := by
  cases q <;> simp only [answer, statistics]
  all_goals
    rw [Cache.statistics_survey_of_kept h]
    ac_rfl

theorem answer_statistics_of_ok {e : Entry} (h : s.kept? q root = none)
    (hok : (s.answer q root token).1 = .ok e) :
    (s.answer q root token).2.statistics = s.statistics + ⟨0, 1, 1⟩ := by
  have hsurvey := survey_of_answer_ok h hok
  cases q <;> simp only [answer, statistics]
  all_goals
    rw [Cache.statistics_survey_of_answer h hsurvey]
    ac_rfl

/-- A failure leaves nothing behind but its miss. -/
theorem answer_of_failed {err : SurveyError} (h : (s.answer q root token).1 = .error err) :
    (s.answer q root token).2 =
      { s.countMiss q with catalog := (s.answer q root token).2.catalog } := by
  obtain ⟨hkept, herr⟩ := survey_of_answer_error h
  cases q <;> simp only [answer, Cache.survey_of_error hkept herr, countMiss]

/-- A call that asks no question leaves everything but the catalog as it is. -/
theorem call_caches (s : Session) {x : Call} (h : ∀ q root token, x ≠ .ask q root token) :
    s.call x = { s with catalog := (s.call x).catalog } := by
  cases x with
  | ask q root token => exact absurd rfl (h q root token)
  | mayCross root => exact findRoot_caches s root
  | openWalk root token => exact findRoot_caches s root
  | takeFrom w n => rfl
  | cancel t => rfl
  | addTripwire id t => rfl

theorem ask_of_blank {a : Argument} (h : (s.ask q root token).1 = .error (.blankArgument a)) :
    (s.ask q root token).2 = s := by
  rcases ask_cases s q root token with ⟨b, hblank, -⟩ | ⟨-, -, hanswer⟩
  · rw [hblank]
  · rw [hanswer] at h
    rcases (answer_error_cases h).2 with ⟨-, h⟩ | ⟨u, -, h⟩ <;> simp at h

theorem ask_of_failed {err : SurveyError} (h : (s.ask q root token).1 = .error err)
    (herr : ∀ a, err ≠ .blankArgument a) :
    (s.ask q root token).2 =
      { s.countMiss q with catalog := (s.ask q root token).2.catalog } := by
  rcases ask_cases s q root token with ⟨b, hblank, -⟩ | ⟨-, -, hanswer⟩
  · rw [hblank] at h
    exact absurd (Except.error.inj h).symm (herr b)
  · rw [hanswer] at h ⊢
    exact answer_of_failed h

theorem isAdmissible_ask_iff :
    Asked.isAdmissible ⟨q, root, (s.ask q root token).1⟩ = true ↔
      ∀ b, (s.ask q root token).1 ≠ .error (.blankArgument b) := by
  cases hroot : root.isBlank with
  | true => simp [Asked.isAdmissible, hroot, ask_of_blankRoot hroot]
  | false =>
    cases hargument : q.blankArgument? with
    | some a => simp [Asked.isAdmissible, hargument, ask_of_blankArgument hroot hargument]
    | none =>
      rw [ask_eq_answer hroot hargument]
      simp only [Asked.isAdmissible, hroot, hargument, Option.isNone_none, Bool.not_false,
        Bool.and_self, true_iff]
      intro b hblank
      rcases (answer_error_cases hblank).2 with ⟨-, h⟩ | ⟨u, -, h⟩ <;> simp at h

/-- What the session is asked by a call, if anything. -/
def heard (s : Session) : Call → List Asked
  | .ask q root token => [⟨q, root, (s.ask q root token).1⟩]
  | _ => []

/-- The questions among the calls, in their order. -/
def asked (s : Session) : List Call → List Asked
  | [] => []
  | x :: calls => s.heard x ++ asked (s.call x) calls

theorem asked_concat (s : Session) (calls : List Call) (x : Call) :
    s.asked (calls ++ [x]) = s.asked calls ++ (s.after calls).heard x := by
  induction calls generalizing s with
  | nil => simp [asked, after]
  | cons y calls ih => simp [asked, ih, after]

/-- The statistics of the session are those of the questions it was asked, and it keeps an entry
for each key that was answered. -/
structure Settled (asked : List Asked) (s : Session) : Prop where
  counted : s.statistics.hits + s.statistics.misses = asked.countP Asked.isAdmissible
  entries : s.statistics.entries = (Asked.answeredKeys asked).card
  missed : s.statistics.misses = s.statistics.entries + asked.countP Asked.hasFailed
  kept : ∀ q root, (s.kept? q root).isSome = true ↔ (q.key, root) ∈ Asked.answeredKeys asked

namespace Settled

variable {asked : List Asked}

theorem start (p : Program) (config : Config) : Settled [] (start p config) where
  counted := rfl
  entries := rfl
  missed := rfl
  kept q root := by cases q <;> simp [kept?, Session.start, Cache.peek, Cache.find?,
    Asked.answeredKeys]

theorem withCatalog (h : Settled asked s) : Settled asked { s with catalog := c } where
  counted := h.counted
  entries := h.entries
  missed := h.missed
  kept q root := by rw [kept?_withCatalog]; exact h.kept q root

/-- A question that is refused does not count. -/
theorem refuse {a : Argument} (h : Settled asked s)
    (hrefused : Asked.isAdmissible ⟨q, root, .error (.blankArgument a)⟩ = false) :
    Settled (asked ++ [⟨q, root, .error (.blankArgument a)⟩]) s := by
  have hkeys : Asked.answeredKeys (asked ++ [⟨q, root, .error (.blankArgument a)⟩]) =
      Asked.answeredKeys asked := Asked.answeredKeys_concat _ _
  constructor
  · simpa [List.countP_append, hrefused] using h.counted
  · rw [hkeys, h.entries]
  · simpa [List.countP_append, Asked.hasFailed] using h.missed
  · rw [hkeys]
    exact h.kept

/-- The keys behind an answer are those of the entries. -/
theorem kept_answer {e : Entry} (h : Settled asked s) (hok : (s.answer q root token).1 = .ok e)
    (q' : Question) (root' : UnitKey) :
    ((s.answer q root token).2.kept? q' root').isSome = true ↔
      (q'.key, root') ∈ insert (q.key, root) (Asked.answeredKeys asked) := by
  rw [kept?_answer_isSome_iff hok, h.kept, Finset.mem_insert, Prod.mk.injEq,
    Question.alike_iff_key]
  constructor
  · rintro (hold | ⟨rfl, hkey⟩)
    · exact Or.inr hold
    · exact Or.inl ⟨hkey.symm, rfl⟩
  · rintro (⟨hkey, rfl⟩ | hold)
    · exact Or.inr ⟨rfl, hkey.symm⟩
    · exact Or.inl hold

/-- A stored answer is a hit, and its key was answered before. -/
theorem hit {e : Entry} (h : Settled asked s) (hkept : s.kept? q root = some e)
    (hadmissible : Asked.isAdmissible ⟨q, root, .ok e⟩ = true) :
    Settled (asked ++ [⟨q, root, .ok e⟩]) (s.answer q root token).2 := by
  have hknown : (q.key, root) ∈ Asked.answeredKeys asked := (h.kept q root).mp (by simp [hkept])
  have hinsert : Asked.answeredKeys (asked ++ [⟨q, root, .ok e⟩]) = insert (q.key, root) _ :=
    Asked.answeredKeys_concat _ _
  have hstatistics := answer_statistics_of_kept token hkept
  have hcounted := h.counted
  have hmissed := h.missed
  constructor
  · simp [hstatistics, List.countP_append, hadmissible]
    omega
  · simp [hstatistics, hinsert, Finset.insert_eq_of_mem hknown, h.entries]
  · simpa [hstatistics, List.countP_append, Asked.hasFailed] using hmissed
  · rw [hinsert]
    exact h.kept_answer (answer_of_kept hkept).1

/-- A first answer is a miss and a new entry. -/
theorem store {e : Entry} (h : Settled asked s) (hkept : s.kept? q root = none)
    (hok : (s.answer q root token).1 = .ok e)
    (hadmissible : Asked.isAdmissible ⟨q, root, .ok e⟩ = true) :
    Settled (asked ++ [⟨q, root, .ok e⟩]) (s.answer q root token).2 := by
  have hnew : (q.key, root) ∉ Asked.answeredKeys asked := fun hmem => by
    have hsome := (h.kept q root).mpr hmem
    simp [hkept] at hsome
  have hinsert : Asked.answeredKeys (asked ++ [⟨q, root, .ok e⟩]) = insert (q.key, root) _ :=
    Asked.answeredKeys_concat _ _
  have hstatistics := answer_statistics_of_ok hkept hok
  have hcounted := h.counted
  have hmissed := h.missed
  constructor
  · simp [hstatistics, List.countP_append, hadmissible]
    omega
  · simp [hstatistics, hinsert, Finset.card_insert_of_notMem hnew, h.entries]
  · simp [hstatistics, List.countP_append, Asked.hasFailed]
    omega
  · rw [hinsert]
    exact h.kept_answer hok

/-- A failure is a miss. -/
theorem fail {err : SurveyError} (h : Settled asked s)
    (herr : (s.answer q root token).1 = .error err)
    (hadmissible : Asked.isAdmissible ⟨q, root, .error err⟩ = true) :
    Settled (asked ++ [⟨q, root, .error err⟩]) (s.answer q root token).2 := by
  have hfailed : Asked.hasFailed ⟨q, root, .error err⟩ = true := by
    rcases (answer_error_cases herr).2 with ⟨-, rfl⟩ | ⟨u, -, rfl⟩ <;> rfl
  have hkeys : Asked.answeredKeys (asked ++ [⟨q, root, .error err⟩]) =
      Asked.answeredKeys asked := Asked.answeredKeys_concat _ _
  have hcounted := h.counted
  have hmissed := h.missed
  rw [answer_of_failed herr]
  apply withCatalog
  constructor
  · simp [statistics_countMiss, List.countP_append, hadmissible]
    omega
  · simp [statistics_countMiss, hkeys, h.entries]
  · simp [statistics_countMiss, List.countP_append, hfailed]
    omega
  · intro q' root'
    rw [hkeys, kept?_countMiss, h.kept]

/-- One question. -/
theorem ask (h : Settled asked s) (q : Question) (root : UnitKey) (token : Option Token) :
    Settled (asked ++ [⟨q, root, (s.ask q root token).1⟩]) (s.ask q root token).2 := by
  cases hroot : root.isBlank with
  | true =>
    rw [ask_of_blankRoot hroot]
    exact h.refuse (by simp [Asked.isAdmissible, hroot])
  | false =>
    cases hargument : q.blankArgument? with
    | some a =>
      rw [ask_of_blankArgument hroot hargument]
      exact h.refuse (by simp [Asked.isAdmissible, hargument])
    | none =>
      have hadmissible (result : Except SurveyError Entry) :
          Asked.isAdmissible ⟨q, root, result⟩ = true := by
        simp [Asked.isAdmissible, hroot, hargument]
      rw [ask_eq_answer hroot hargument]
      cases hresult : (s.answer q root token).1 with
      | error err => exact h.fail hresult (hadmissible _)
      | ok e =>
        cases hkept : s.kept? q root with
        | none => exact h.store hkept hresult (hadmissible _)
        | some e' =>
          obtain rfl : e' = e := Except.ok.inj ((answer_of_kept hkept).1.symm.trans hresult)
          exact h.hit hkept (hadmissible _)

/-- One call. -/
theorem call (h : Settled asked s) (x : Call) : Settled (asked ++ s.heard x) (s.call x) := by
  cases x with
  | ask q root token => exact h.ask q root token
  | _ =>
    rw [call_caches s (by simp), heard, List.append_nil]
    · exact h.withCatalog
    · simp

end Settled

theorem after_concat (s : Session) (calls : List Call) (x : Call) :
    s.after (calls ++ [x]) = (s.after calls).call x := by
  simp [after]

/-- Any sequence of calls. -/
theorem settled_after (p : Program) (config : Config) (calls : List Call) :
    Settled ((start p config).asked calls) ((start p config).after calls) := by
  induction calls using List.reverseRecOn with
  | nil => exact Settled.start p config
  | append_singleton calls x ih =>
    rw [asked_concat, after_concat]
    exact ih.call x

/-- The questions that are not admissible are those refused for a blank argument. -/
theorem isAdmissible_iff_of_asked {calls : List Call} {a : Asked} (h : a ∈ s.asked calls) :
    a.isAdmissible = true ↔ ∀ b, a.result ≠ .error (.blankArgument b) := by
  induction calls generalizing s with
  | nil => simp [asked] at h
  | cons x calls ih =>
    rcases List.mem_append.mp h with h | h
    · cases x with
      | ask q root token =>
        obtain rfl := List.mem_singleton.mp h
        exact isAdmissible_ask_iff
      | _ => simp [heard] at h
    · exact ih h

/-- The ledger of a session. Hits and misses together count the questions without a blank argument,
the entries are the keys under which some question was answered, and the misses are the entries
together with the questions that failed for an unresolved root or a cancelled token. Of one further
call, a question with a blank argument changes nothing; what is not a question changes nothing but
the catalog; and a question that fails changes, besides the catalog, one miss counter. -/
theorem after_balances (p : Program) (config : Config) (calls : List Call) :
    let s := (start p config).after calls
    let asked := (start p config).asked calls
    s.statistics.hits + s.statistics.misses = asked.countP Asked.isAdmissible ∧
    (∀ a ∈ asked, a.isAdmissible = true ↔ ∀ b, a.result ≠ .error (.blankArgument b)) ∧
    s.statistics.entries = (Asked.answeredKeys asked).card ∧
    s.statistics.misses = s.statistics.entries + asked.countP Asked.hasFailed ∧
    (∀ q root token a, (s.ask q root token).1 = .error (.blankArgument a) →
      s.call (.ask q root token) = s) ∧
    (∀ x : Call, (∀ q root token, x ≠ .ask q root token) →
      s.call x = { s with catalog := (s.call x).catalog }) ∧
    ∀ q root token err, (s.ask q root token).1 = .error err → (∀ a, err ≠ .blankArgument a) →
      s.call (.ask q root token) =
        { s.countMiss q with catalog := (s.call (.ask q root token)).catalog } := by
  intro s asked
  have hsettled : Settled asked s := settled_after p config calls
  refine ⟨hsettled.counted, ?_, hsettled.entries, hsettled.missed, ?_, ?_, ?_⟩
  · exact fun a ha => isAdmissible_iff_of_asked ha
  · exact fun q root token a hblank => ask_of_blank hblank
  · exact fun x hx => call_caches s hx
  · exact fun q root token err herr hblank => ask_of_failed herr hblank

/-- Of four questions to the shapes the first has a blank root, the second a root that is nowhere,
and the last repeats the third. -/
theorem after_balances_shapes :
    let ask (root : UnitKey) : Call := .ask .everything root none
    let nowhere : UnitKey := ⟨"Nowhere", ""⟩
    let calls := [ask ⟨"", ""⟩, ask nowhere, ask Sample.shapesRoot, ask Sample.shapesRoot]
    let s := start Sample.shapes.program
    (s.after calls).statistics = ⟨1, 2, 1⟩ ∧
      s.call (ask ⟨"", ""⟩) = s ∧
      s.call (.openWalk nowhere none) =
        { s with catalog := (s.call (.openWalk nowhere none)).catalog } ∧
      s.call (ask nowhere) =
        { s.countMiss .everything with catalog := (s.call (ask nowhere)).catalog } := by
  intro ask nowhere calls s
  have hroot : Sample.shapesRoot.isBlank = false := by decide
  have hnamed : nowhere.isBlank = false := by decide
  have hnowhere : s.ask .everything nowhere none = s.answer .everything nowhere none :=
    ask_eq_answer hnamed rfl
  have hmissed : (s.ask .everything nowhere none).1 = .error (.unresolved nowhere) := by
    rw [hnowhere]
    exact answer_of_unresolved rfl rfl
  let s₁ := (s.ask .everything nowhere none).2
  have hs₁ : s₁ = { s.countMiss .everything with catalog := s₁.catalog } :=
    ask_of_failed hmissed (by simp)
  have hkept : s₁.kept? .everything Sample.shapesRoot = none := by
    rw [hs₁, kept?_withCatalog, kept?_countMiss]
    rfl
  obtain ⟨u, hfound⟩ : ∃ u, s₁.catalog.program.find? Sample.shapesRoot = some u := by
    simp only [s₁, hnowhere, answer_program]
    exact ⟨_, rfl⟩
  have hsteady : s₁.catalog.Steady none := by simp [Catalog.Steady]
  obtain ⟨us, hsurvey⟩ := survey_of_steady (g := s₁.gate) .everything hfound hsteady rfl
  obtain ⟨e, hok, -⟩ := entry_of_types ((answer_of_missing none hkept).1.trans hsurvey)
  rw [← ask_eq_answer hroot rfl] at hok
  have hagain : ((s₁.ask .everything Sample.shapesRoot).2.ask .everything
      Sample.shapesRoot).1 = .ok e :=
    ask_of_alike none hroot rfl rfl rfl hok
  have hasked : s.asked calls =
      [⟨.everything, ⟨"", ""⟩, .error (.blankArgument .rootUnit)⟩,
       ⟨.everything, nowhere, .error (.unresolved nowhere)⟩,
       ⟨.everything, Sample.shapesRoot, .ok e⟩, ⟨.everything, Sample.shapesRoot, .ok e⟩] := by
    rw [← hmissed]
    nth_rewrite 1 [← hok]
    rw [← hagain]
    rfl
  have hadmissible : (s.asked calls).countP Asked.isAdmissible = 3 := by
    simp [hasked, Asked.isAdmissible, Question.blankArgument?, hroot, hnamed,
      (by decide : UnitKey.isBlank ⟨"", ""⟩ = true)]
  have hanswered : (Asked.answeredKeys (s.asked calls)).card = 1 := by rw [hasked]; rfl
  have hcut : (s.asked calls).countP Asked.hasFailed = 1 := by rw [hasked]; rfl
  obtain ⟨hcounted, -, hentries, hmisses, -⟩ := after_balances Sample.shapes.program {} calls
  obtain ⟨-, -, -, -, hblank, hother, hfailed⟩ := after_balances Sample.shapes.program {} []
  refine ⟨?_, hblank _ _ _ .rootUnit rfl, hother _ (by simp), hfailed _ _ _ _ hmissed (by simp)⟩
  have hlookups : (s.after calls).statistics.hits + (s.after calls).statistics.misses = 3 :=
    hcounted.trans hadmissible
  have hstored : (s.after calls).statistics.entries = 1 := hentries.trans hanswered
  have hmiss : (s.after calls).statistics.misses = 2 := by
    rw [hstored, hcut] at hmisses
    exact hmisses
  have hhit : (s.after calls).statistics.hits = 1 := by omega
  exact Statistics.ext hhit hmiss hstored

end Session

end TypeSurvey
