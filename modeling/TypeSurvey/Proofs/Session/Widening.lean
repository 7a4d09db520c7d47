import TypeSurvey.Proofs.Session.Answers
import TypeSurvey.Proofs.Session.Walks
import TypeSurvey.Proofs.Survey
import TypeSurvey.Proofs.Walk.Widening

/-!
# What a new session returns

Which symbols a question or a walk brings from a root is a matter of sets: they are those of the
selected types in the root's scope. So more references and more annotations of the units bring more
symbols, and in which order they stand, or the units were inserted, makes no difference.
-/
namespace TypeSurvey

/-- What is asked of a new session: a question, or every type by a walk. -/
inductive Query where
  | question (q : Question)
  | walk

namespace Query

def blankArgument? : Query → Option Argument
  | question q => q.blankArgument?
  | walk => none

def selects : Query → TypeDecl → Bool
  | question q, t => q.selects t
  | walk, _ => true

end Query

namespace Session

/-- The symbols of the types in an answer, or of those that come up in some number of items of a
walk. -/
def returned (s : Session) (query : Query) (root : UnitKey) (token : Option Token) :
    Except SurveyError (Set Symbol) :=
  match query with
  | .question q => (s.ask q root token).1.map fun e => {x | x ∈ e.types.map TypeDecl.symbol}
  | .walk =>
    let opened := s.openWalk root token
    opened.1.map fun w =>
      {x | ∃ n t, some (.ok t) ∈ (opened.2.takeFrom w n).1 ∧ t.symbol = x}

variable {p p' : Program} {config : Config} {query : Query} {root : UnitKey} {u : CodeUnit}
  {token : Option Token}

theorem returned_of_found (hroot : root.isBlank = false) (hargument : query.blankArgument? = none)
    (hfound : p.find? root = some u) :
    (start p config).returned query root token =
      .ok (p.symbols (.ofConfig config) root query.selects) := by
  let s : Session := start p config
  have hsteady : s.catalog.Steady token := Catalog.steady_of_tripwires rfl
  have hlive : s.catalog.wasCancelled token = false := by cases token <;> rfl
  obtain ⟨ts, hrun⟩ := Walk.start_run_ok s.gate u s.gate.allowsCrossing root hsteady hlive
  have hsymbols (x : Symbol) : x ∈ p.symbols (.ofConfig config) root query.selects ↔
      ∃ t ∈ ts, query.selects t = true ∧ t.symbol = x :=
    Program.mem_symbols_iff rfl hfound hrun
  cases query with
  | question q =>
    have hkept : s.kept? q root = none := by cases q <;> rfl
    have hanswer : (s.answer q root token).1.map Entry.types = .ok (q.choose ts) :=
      (answer_of_missing token hkept).1.trans (survey_of_run hfound hrun)
    obtain ⟨e, hok, htypes⟩ := entry_of_types hanswer
    rw [returned, ask_eq_answer hroot hargument, hok]
    refine congrArg Except.ok (Set.ext fun x => ?_)
    rw [hsymbols]
    change x ∈ e.types.map TypeDecl.symbol ↔ _
    rw [htypes]
    exact Question.symbol_mem_choose_iff
  | walk =>
    have hmem {t : TypeDecl} := Walk.mem_take_iff_of_run hrun (t := t)
    rw [returned, openWalk_of_found hroot hfound]
    refine congrArg Except.ok (Set.ext fun x => ?_)
    rw [hsymbols]
    constructor
    · rintro ⟨n, t, ht, hx⟩
      exact ⟨t, hmem.mp ⟨n, ht⟩, rfl, hx⟩
    · rintro ⟨t, ht, -, hx⟩
      obtain ⟨n, hn⟩ := hmem.mpr ht
      exact ⟨n, t, hn, hx⟩

theorem returned_of_missing (hroot : root.isBlank = false) (hargument : query.blankArgument? = none)
    (hfound : p.find? root = none) :
    (start p config).returned query root token = .error (.unresolved root) := by
  let s : Session := start p config
  cases query with
  | question q =>
    have hkept : s.kept? q root = none := by cases q <;> rfl
    have hfailed : (survey s.gate q root token s.catalog).1 = .error (.unresolved root) := by
      rw [survey_of_missing hfound]
    rw [returned, ask_eq_answer hroot hargument, answer_of_survey_error hkept hfailed]
    rfl
  | walk =>
    have hmissing : s.catalog.program.find? root = none := hfound
    simp [returned, openWalk, findRoot, lookup, Catalog.lookup, hroot, hmissing, s, Except.map]

theorem returned_of_blankRoot (hroot : root.isBlank = true) :
    (start p config).returned query root token = .error (.blankArgument .rootUnit) := by
  cases query with
  | question q => simp [returned, ask_of_blankRoot hroot, Except.map]
  | walk => simp [returned, openWalk, findRoot, hroot, Except.map]

theorem returned_of_blankArgument {a : Argument} (hroot : root.isBlank = false)
    (hargument : query.blankArgument? = some a) :
    (start p config).returned query root token = .error (.blankArgument a) := by
  cases query with
  | question q => simp [returned, ask_of_blankArgument hroot hargument, Except.map]
  | walk => simp [Query.blankArgument?] at hargument

/-- A wider program gives the same error, or returns the same symbols and maybe others. -/
theorem returned_of_widensTo (h : p.WidensTo p') (hp : p.Filed) (hp' : p'.Filed)
    (config : Config) (query : Query) (root : UnitKey) (token : Option Token) :
    (∃ err, (start p config).returned query root token = .error err ∧
        (start p' config).returned query root token = .error err) ∨
      ∃ xs xs' : Set Symbol, (start p config).returned query root token = .ok xs ∧
        (start p' config).returned query root token = .ok xs' ∧ xs ⊆ xs' := by
  cases hroot : root.isBlank with
  | true => exact Or.inl ⟨_, returned_of_blankRoot hroot, returned_of_blankRoot hroot⟩
  | false =>
    cases hargument : query.blankArgument? with
    | some a =>
      exact Or.inl ⟨_, returned_of_blankArgument hroot hargument,
        returned_of_blankArgument hroot hargument⟩
    | none =>
      cases hfound : p.find? root with
      | none =>
        exact Or.inl ⟨_, returned_of_missing hroot hargument hfound,
          returned_of_missing hroot hargument (h.missing hfound)⟩
      | some u =>
        obtain ⟨u', hfound', -⟩ := h.found hfound
        exact Or.inr ⟨_, _, returned_of_found hroot hargument hfound,
          returned_of_found hroot hargument hfound', h.symbols_subset hp hp'⟩

/-- Programs that widen to each other return the same. -/
theorem returned_eq_of_widensTo (h : p.WidensTo p') (h' : p'.WidensTo p) (hp : p.Filed)
    (hp' : p'.Filed) (config : Config) (query : Query) (root : UnitKey) (token : Option Token) :
    (start p' config).returned query root token = (start p config).returned query root token := by
  rcases returned_of_widensTo h hp hp' config query root token with
    ⟨err, herr, herr'⟩ | ⟨xs, xs', hok, hok', hsub⟩
  · rw [herr, herr']
  · rcases returned_of_widensTo h' hp' hp config query root token with
      ⟨err, -, herr⟩ | ⟨ys, ys', hys, hys', hsub'⟩
    · simp [hok] at herr
    · obtain rfl : ys = xs' := Except.ok.inj (hys.symm.trans hok')
      obtain rfl : ys' = xs := Except.ok.inj (hys'.symm.trans hok)
      rw [hys, hys', hsub.antisymm hsub']

/-- Opting in and adding references is monotone, and order does not matter. If the units of a
program keep their declarations and have at least the references and the annotation names that they
had, a question or a walk gets the same error or at least the same symbols. It gets exactly the same
if references and annotations are rearranged or repeated, or if units of distinct identities are
inserted in another order. -/
theorem returned_mono (units : List CodeUnit) (config : Config) (query : Query) (root : UnitKey)
    (token : Option Token) :
    let returned (units : List CodeUnit) :=
      (start (.ofUnits units) config).returned query root token
    (∀ units', (Program.ofUnits units).WidensTo (.ofUnits units') →
      (∃ err, returned units = .error err ∧ returned units' = .error err) ∨
        ∃ xs xs', returned units = .ok xs ∧ returned units' = .ok xs' ∧ xs ⊆ xs') ∧
    (∀ units', List.Forall₂ CodeUnit.Rearranges units units' →
      returned units' = returned units) ∧
    ((units.map CodeUnit.id).Nodup → ∀ units', units'.Perm units →
      returned units' = returned units) := by
  intro returned
  have hfiled (us : List CodeUnit) : (Program.ofUnits us).Filed := Program.filed_ofUnits us
  refine ⟨fun units' h => ?_, fun units' h => ?_, fun hdistinct units' hperm => ?_⟩
  · exact returned_of_widensTo h (hfiled _) (hfiled _) config query root token
  · apply returned_eq_of_widensTo _ _ (hfiled _) (hfiled _)
    · exact .of_forall₂ (h.imp fun _ _ hu => hu.1)
    · exact .of_forall₂ (h.flip.imp fun _ _ hu => hu.2)
  · have hfind (id : UnitKey) := Program.find?_ofUnits_perm hperm hdistinct id
    apply returned_eq_of_widensTo _ _ (hfiled _) (hfiled _)
    · exact .of_find? hfind
    · exact .of_find? fun id => (hfind id).symm

/-- Among the shapes the vendor opts in, or the root refers to it twice, or the two are inserted the
other way round. -/
theorem returned_mono_shapes :
    ∃ root vendor : CodeUnit, Sample.shapes.program = .ofUnits [root, vendor] ∧
      let vendor' : CodeUnit := { vendor with annotations := [Sample.optIn] }
      let root' : CodeUnit := { root with dependencies := root.dependencies ++ root.dependencies }
      let returned (units : List CodeUnit) :=
        (start (.ofUnits units)).returned .walk Sample.shapesRoot none
      (Program.ofUnits [root, vendor]).WidensTo (.ofUnits [root, vendor']) ∧
      (∃ xs xs', returned [root, vendor] = .ok xs ∧ returned [root, vendor'] = .ok xs' ∧
        xs ⊆ xs') ∧
      List.Forall₂ CodeUnit.Rearranges [root, vendor] [root', vendor] ∧
      returned [root', vendor] = returned [root, vendor] ∧
      ([root, vendor].map CodeUnit.id).Nodup ∧ [vendor, root].Perm [root, vendor] ∧
      returned [vendor, root] = returned [root, vendor] := by
  let root : CodeUnit := .ofTypes Sample.shapesRoot
    [Sample.shape, Sample.circle, Sample.square, Sample.polygon] [Sample.shapesVendor]
  let vendor : CodeUnit := .ofTypes Sample.shapesVendor [Sample.triangle]
  refine ⟨root, vendor, rfl, ?_⟩
  intro vendor' root' returned
  have hwider : vendor.WidensTo vendor' := ⟨rfl, rfl, List.Subset.refl _, List.nil_subset _⟩
  have hrepeated : root.Rearranges root' :=
    ⟨⟨rfl, rfl, List.subset_append_left _ _, List.Subset.refl _⟩,
      ⟨rfl, rfl, List.append_subset.mpr ⟨List.Subset.refl _, List.Subset.refl _⟩,
        List.Subset.refl _⟩⟩
  have hwidens : (Program.ofUnits [root, vendor]).WidensTo (.ofUnits [root, vendor']) :=
    .of_forall₂ (.cons (.refl root) (.cons hwider .nil))
  have hrearranged : List.Forall₂ CodeUnit.Rearranges [root, vendor] [root', vendor] :=
    .cons hrepeated (.cons ⟨.refl vendor, .refl vendor⟩ .nil)
  have hdistinct : ([root, vendor].map CodeUnit.id).Nodup := by decide
  have hperm : [vendor, root].Perm [root, vendor] := .swap root vendor []
  have hok : returned [root, vendor] = .ok _ := returned_of_found (by decide) rfl rfl
  obtain ⟨hmono, hrearranges, hinserted⟩ :=
    returned_mono [root, vendor] {} .walk Sample.shapesRoot none
  refine ⟨hwidens, ?_, hrearranged, hrearranges _ hrearranged, hdistinct, hperm,
    hinserted hdistinct _ hperm⟩
  rcases hmono _ hwidens with ⟨err, herr, -⟩ | hsub
  · exact absurd (hok.symm.trans herr) (by simp)
  · exact hsub

end Session

end TypeSurvey
