import TypeSurvey.Proofs.Session.Answers
import TypeSurvey.Proofs.Session.Walks
import TypeSurvey.Proofs.Survey
import TypeSurvey.Proofs.Walk.Lockstep

/-!
# Units that did not consent

Of a unit that a walk turns away nothing is used but that it lacks the marker, and of a unit that it
never meets nothing at all. Whatever such units hold, every question and every walk takes the same
course.
-/
namespace TypeSurvey

variable {p p' : Program} {g : Gate} {q : Question} {root : UnitKey} {token : Option Token}
  {c : Catalog}

theorem survey_rebase (hp : c.program.Filed) (h : c.program.Agree p' g root) (q : Question)
    (token : Option Token) :
    survey g q root token (c.rebase p') =
      ((survey g q root token c).1, (survey g q root token c).2.rebase p') := by
  cases hfound : c.program.find? root with
  | none =>
    have hfound' : (c.rebase p').program.find? root = none := h.rooted.trans hfound
    rw [survey_of_missing hfound, survey_of_missing hfound']
    rfl
  | some u =>
    have hfound' : (c.rebase p').program.find? root = some u := h.rooted.trans hfound
    have hrun := (h.inStep hp hfound token).run hp (c := c.visited root) rfl
    have hvisited : (c.rebase p').visited root = (c.visited root).rebase p' := rfl
    rw [survey_of_found hfound, survey_of_found hfound', hvisited, hrun]

theorem Cache.survey_rebase {α : Type} {cmp : Comparer α} {cache : Cache cmp} {a : α}
    (hp : c.program.Filed) (h : c.program.Agree p' g root) :
    cache.survey g q a root token (c.rebase p') =
      ((cache.survey g q a root token c).1, (cache.survey g q a root token c).2.1,
        (cache.survey g q a root token c).2.2.rebase p') := by
  have hsurvey := TypeSurvey.survey_rebase hp h q token
  cases hpeek : cache.peek a root with
  | some e => rw [survey_of_kept hpeek, survey_of_kept hpeek]
  | none =>
    cases hout : (TypeSurvey.survey g q root token c).1 with
    | error err =>
      have hout' := (congrArg Prod.fst hsurvey).trans hout
      rw [survey_of_error hpeek hout, survey_of_error hpeek hout', hsurvey]
    | ok types =>
      have hout' := (congrArg Prod.fst hsurvey).trans hout
      rw [survey_of_answer hpeek hout, survey_of_answer hpeek hout', hsurvey]

namespace Session

variable {s : Session}

/-- The same session over another program. -/
def rebase (s : Session) (p : Program) : Session := { s with catalog := s.catalog.rebase p }

theorem rebase_start (p p' : Program) (config : Config) :
    (start p config).rebase p' = start p' config :=
  rfl

/-- Questions and walks from `root` take the same course over the program `p'`: they have the same
results, and they leave the same session but for the program. -/
structure Indifferent (s : Session) (p' : Program) (root : UnitKey) : Prop where
  ask : ∀ q token, (s.rebase p').ask q root token =
    ((s.ask q root token).1, (s.ask q root token).2.rebase p')
  openWalk : ∀ token, (s.rebase p').openWalk root token =
    ((s.openWalk root token).1, (s.openWalk root token).2.rebase p')
  takeFrom : ∀ token w s₁, s.openWalk root token = (.ok w, s₁) → ∀ n,
    (s₁.rebase p').takeFrom w n =
      ((s₁.takeFrom w n).1, (s₁.takeFrom w n).2.1, (s₁.takeFrom w n).2.2.rebase p')

theorem answer_rebase (hp : s.catalog.program.Filed) (h : s.catalog.program.Agree p' s.gate root)
    (q : Question) (token : Option Token) :
    (s.rebase p').answer q root token =
      ((s.answer q root token).1, (s.answer q root token).2.rebase p') := by
  cases q <;> simp only [answer, rebase, Cache.survey_rebase hp h]

theorem ask_rebase (hp : s.catalog.program.Filed) (h : s.catalog.program.Agree p' s.gate root)
    (q : Question) (token : Option Token) :
    (s.rebase p').ask q root token =
      ((s.ask q root token).1, (s.ask q root token).2.rebase p') := by
  rcases ask_cases s q root token with ⟨a, hblank, hagain⟩ | ⟨hroot, hargument, hanswer⟩
  · rw [hblank, hagain]
  · rw [hanswer, ask_eq_answer hroot hargument, answer_rebase hp h]

theorem findRoot_rebase (h : p'.find? root = s.catalog.program.find? root) :
    (s.rebase p').findRoot root = ((s.findRoot root).1, (s.findRoot root).2.rebase p') := by
  have hlookup : (s.rebase p').lookup root = ((s.lookup root).1, (s.lookup root).2.rebase p') :=
    Prod.ext h rfl
  unfold findRoot
  split
  · rfl
  · simp only [hlookup]
    split <;> rfl

theorem openWalk_rebase (h : p'.find? root = s.catalog.program.find? root) (token : Option Token) :
    (s.rebase p').openWalk root token =
      ((s.openWalk root token).1, (s.openWalk root token).2.rebase p') := by
  rw [openWalk, openWalk, findRoot_rebase h]
  rfl

theorem indifferent_of_agree (hp : s.catalog.program.Filed)
    (h : s.catalog.program.Agree p' s.gate root) : s.Indifferent p' root where
  ask := ask_rebase hp h
  openWalk := openWalk_rebase h.rooted
  takeFrom token w s₁ hopen n := by
    obtain ⟨u, hfound, rfl, rfl⟩ := openWalk_ok hopen
    have htake := (h.inStep hp hfound token).take hp (c := s.catalog.visited root) rfl n
    simp only [Session.takeFrom, rebase, walkFrom, htake]

/-- Every question and every walk from a root takes the same course over two programs that hold the
same units under the root and under the identities of the units that the walk enters, and agree on
which dependencies of these stand for a unit with the marker. So with crossing disabled only the
root matters, and the order in which units of distinct identities were inserted never does. -/
theorem indifferent_to_bystanders {units : List CodeUnit}
    (hprogram : s.catalog.program = .ofUnits units) (p' : Program) (root : UnitKey) :
    ((Program.ofUnits units).Agree p' s.gate root → s.Indifferent p' root) ∧
    (s.gate.allowsCrossing = false → p'.find? root = (Program.ofUnits units).find? root →
      s.Indifferent p' root) ∧
    ((units.map CodeUnit.id).Nodup → ∀ units', units'.Perm units →
      s.Indifferent (.ofUnits units') root) := by
  have hfiled : s.catalog.program.Filed := hprogram ▸ Program.filed_ofUnits units
  have hagree {p'' : Program} (h : (Program.ofUnits units).Agree p'' s.gate root) :
      s.Indifferent p'' root :=
    indifferent_of_agree hfiled (hprogram ▸ h)
  refine ⟨hagree, fun hdisabled hroot => hagree ?_, fun hdistinct units' hperm => hagree ?_⟩
  · exact .of_disabled (Program.filed_ofUnits units) hdisabled hroot
  · exact .of_find? (Program.find?_ofUnits_perm hperm hdistinct)

/-- The shapes with a vendor that declares nothing and refers back to the root. -/
def otherVendor : Program :=
  Sample.shapes.program.insert (.ofTypes Sample.shapesVendor [] [Sample.shapesRoot])

/-- The root is all that a walk among the shapes enters, and neither vendor has opted in. -/
theorem agree_otherVendor : Sample.shapes.program.Agree otherVendor {} Sample.shapesRoot := by
  obtain ⟨u, hfound, hdeps⟩ : ∃ u, Sample.shapes.program.find? Sample.shapesRoot = some u ∧
      u.dependencies = [Sample.shapesVendor] :=
    ⟨_, rfl, rfl⟩
  obtain ⟨v, hvendor, hclosed⟩ : ∃ v, Sample.shapes.program.find? Sample.shapesVendor = some v ∧
      v.carries ({} : Gate).marker = false :=
    ⟨_, rfl, rfl⟩
  have hother : ((otherVendor.find? Sample.shapesVendor).any fun x =>
      x.carries ({} : Gate).marker) = false := rfl
  have hfiled : Sample.shapes.program.Filed := Program.filed_ofUnits _
  have hscope : ScopeClosed Sample.shapes.program {} ({} : Gate).allowsCrossing u {u} := by
    refine ⟨rfl, fun _ x hx id hid y hy hmarked => ?_⟩
    obtain rfl : x = u := hx
    obtain rfl : id = Sample.shapesVendor := by simpa [hdeps] using hid
    obtain rfl : v = y := Option.some.inj (hvendor.symm.trans hy)
    simp [hclosed] at hmarked
  apply Program.Agree.of_closed hfiled hfound hscope
  · rintro x rfl
    rw [hfiled _ x hfound]
    exact Program.find?_bind_of_ne _ _ (by decide)
  · intro _ x hx id hid
    obtain rfl : x = u := hx
    obtain rfl : id = Sample.shapesVendor := by simpa [hdeps] using hid
    rw [hother, hvendor, Option.any_some, hclosed]

/-- Another vendor or another order of insertion makes no difference to a new session for the
shapes, whether crossing is allowed or not. -/
theorem indifferent_to_bystanders_shapes :
    ∃ units, Sample.shapes.program = .ofUnits units ∧
      (Program.ofUnits units).Agree otherVendor {} Sample.shapesRoot ∧
      (∀ q token, ((start otherVendor).ask q Sample.shapesRoot token).1 =
        ((start (.ofUnits units)).ask q Sample.shapesRoot token).1) ∧
      otherVendor.find? Sample.shapesRoot = (Program.ofUnits units).find? Sample.shapesRoot ∧
      (start (.ofUnits units) { crossing := .disabled }).Indifferent otherVendor
        Sample.shapesRoot ∧
      (units.map CodeUnit.id).Nodup ∧
      (start (.ofUnits units)).Indifferent (.ofUnits units.reverse) Sample.shapesRoot := by
  obtain ⟨units, hunits, hdistinct⟩ :
      ∃ units, Sample.shapes.program = .ofUnits units ∧ (units.map CodeUnit.id).Nodup :=
    ⟨_, rfl, by decide⟩
  have hagree : (Program.ofUnits units).Agree otherVendor {} Sample.shapesRoot :=
    hunits ▸ agree_otherVendor
  let s : Session := start (.ofUnits units)
  let stays : Session := start (.ofUnits units) { crossing := .disabled }
  refine ⟨units, hunits, hagree, ?_, hagree.rooted, ?_, hdistinct, ?_⟩
  · intro q token
    have hindifferent := (indifferent_to_bystanders (s := s) rfl _ _).1 hagree
    rw [← rebase_start (.ofUnits units), hindifferent.ask]
  · exact (indifferent_to_bystanders (s := stays) rfl _ _).2.1 rfl hagree.rooted
  · exact (indifferent_to_bystanders (s := s) rfl otherVendor _).2.2 hdistinct _ units.reverse_perm

end Session

end TypeSurvey
