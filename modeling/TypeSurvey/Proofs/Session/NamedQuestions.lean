import Mathlib.Data.Set.Defs
import TypeSurvey.Proofs.Program
import TypeSurvey.Proofs.Session.Transparency
import TypeSurvey.Proofs.TypeDecl.LooseNames

/-!
# Questions by name in a used session

A name's key folds each character on its own, but annotations are told by the lowercase of the whole
name. So two spellings may share an entry and select different types, and the one that is asked
first decides what both get.
-/
namespace TypeSurvey

namespace Question

variable {a b : String}

theorem alike_annotatedLike :
    (annotatedLike a).alike (annotatedLike b) = true ↔
      Text.foldChars (Text.trim a).toList = Text.foldChars (Text.trim b).toList := by
  simp [alike, Comparer.caseless, Comparer.ofView]

theorem dot_mem_of_alike (h : (annotatedLike a).alike (annotatedLike b) = true)
    (hdot : '.' ∈ (Text.trim a).toList) : '.' ∈ (Text.trim b).toList := by
  rw [← Text.dot_mem_foldChars, ← alike_annotatedLike.mp h]
  exact Text.dot_mem_foldChars.mpr hdot

theorem blankArgument?_annotatedLike (h : Text.isAllBlank a = false) :
    (annotatedLike a).blankArgument? = none := by
  simp [blankArgument?, h]

theorem isAllBlank_of_alike (h : (annotatedLike a).alike (annotatedLike b) = true)
    (ha : Text.isAllBlank a = true) : Text.isAllBlank b = true := by
  rw [Text.isAllBlank_iff] at ha ⊢
  have hfold := alike_annotatedLike.mp h
  rw [ha] at hfold
  have hnil : (Text.trim b).toList = [] := Text.foldChars_eq_nil.mp hfold.symm
  exact String.toList_eq_nil_iff.mp hnil

/-- Spellings of one key select the same types exactly if they are interchangeable. -/
theorem selects_eq_iff (h : (annotatedLike a).alike (annotatedLike b) = true) :
    (annotatedLike a).selects = (annotatedLike b).selects ↔
      Text.Interchangeable (Text.trim a) (Text.trim b) := by
  have hfold := alike_annotatedLike.mp h
  constructor
  · intro hselects
    by_cases hdot : '.' ∈ (Text.trim a).toList
    · exact Or.inr hdot
    · have hown := TypeDecl.marked_isLooselyAnnotated hdot
      have hsame := congrFun hselects (TypeDecl.marked (Text.trim a))
      simp only [selects] at hsame
      rw [hown] at hsame
      exact Or.inl ((TypeDecl.marked_isLooselyAnnotated_iff hdot hfold).mp hsame.symm)
  · rintro (hlower | hdot)
    · funext t
      simp only [selects, TypeDecl.isLooselyAnnotated, TypeDecl.isLooselyNamed, hlower]
    · funext t
      simp only [selects]
      rw [TypeDecl.isLooselyAnnotated_of_dot hdot,
        TypeDecl.isLooselyAnnotated_of_dot (dot_mem_of_alike h hdot)]

/-- Without a capital sigma, spellings of one key are interchangeable. -/
theorem interchangeable_of_not_mem (h : (annotatedLike a).alike (annotatedLike b) = true)
    (ha : 'Σ' ∉ (Text.trim a).toList) (hb : 'Σ' ∉ (Text.trim b).toList) :
    Text.Interchangeable (Text.trim a) (Text.trim b) := by
  refine Or.inl ?_
  rw [Text.lowerChars_eq_foldChars ha, Text.lowerChars_eq_foldChars hb]
  exact alike_annotatedLike.mp h

end Question

/-- A root without dependencies answers with its own types. -/
theorem fresh_of_lone {p : Program} {root : UnitKey} {u : CodeUnit} (g : Gate) (q : Question)
    (hp : p.Filed) (hfound : p.find? root = some u) (hdeps : u.dependencies = []) :
    Fresh p g q root (q.choose u.root.declared) := by
  let c : Catalog := { program := p }
  have hsteady : c.Steady none := Catalog.steady_of_tripwires rfl
  obtain ⟨ts, hrun⟩ := Walk.start_run_ok g u g.allowsCrossing root hsteady rfl
  have hself : p.find? u.id = some u := hp root u hfound ▸ hfound
  have hcoherent := (Walk.coherent_start hself).advances hp (Walk.run_advances hrun)
  have hentered := hcoherent.entered_of_lone (Walk.run_exhausted hrun rfl) hdeps
  have hlisted : ts = u.root.declared := by
    rw [Walk.start_listed hrun, Walk.promised, hentered]
    simp
  rw [← hlisted]
  exact survey_of_run hfound hrun

namespace Session

variable {config : Config} {a b name : String} {root : UnitKey} {token : Option Token} {e : Entry}

def markedUnit (name : String) : CodeUnit := .ofTypes ⟨"App", ""⟩ [TypeDecl.marked name]

/-- A program of one unit with one type, which is marked with the given name. -/
def markedProgram (name : String) : Program := .ofUnits [markedUnit name]

theorem markedUnit_declared (name : String) :
    (markedUnit name).root.declared = [TypeDecl.marked name] := by
  have hspace : Text.segments (TypeDecl.marked name).space = ["A"] := by
    change Text.segments "A" = ["A"]
    decide
  simp only [markedUnit, CodeUnit.ofTypes, Namespace.ofTypes, List.foldl_cons, List.foldl_nil,
    Namespace.add, hspace, Namespace.place, Namespace.changeChild]
  rfl

theorem fresh_marked (g : Gate) (q : Question) (name : String) :
    Fresh (markedProgram name) g q ⟨"App", ""⟩ (q.choose [TypeDecl.marked name]) := by
  have hfound : (markedProgram name).find? ⟨"App", ""⟩ = some (markedUnit name) := rfl
  rw [← markedUnit_declared]
  exact fresh_of_lone g q (Program.filed_ofUnits _) hfound rfl

theorem ask_marked (config : Config) (name : String) (ha : Text.isAllBlank a = false) :
    ((start (markedProgram name) config).ask (.annotatedLike a) ⟨"App", ""⟩).1.map Entry.types =
      .ok ((Question.annotatedLike a).choose [TypeDecl.marked name]) := by
  have hroot : UnitKey.isBlank ⟨"App", ""⟩ = false := by decide
  have hargument := Question.blankArgument?_annotatedLike ha
  exact ask_start_of_fresh hroot hargument (fresh_marked (.ofConfig config) _ name) none

/-- Asked first, `a` decides what `b` gets. -/
theorem ask_marked_after (config : Config) (name : String) (ha : Text.isAllBlank a = false)
    (hb : Text.isAllBlank b = false)
    (halike : (Question.annotatedLike a).alike (.annotatedLike b) = true) :
    ∃ e, (((start (markedProgram name) config).after
        [.ask (.annotatedLike a) ⟨"App", ""⟩ none]).ask (.annotatedLike b) ⟨"App", ""⟩).1 = .ok e ∧
      e.types = (Question.annotatedLike a).choose [TypeDecl.marked name] := by
  have hroot : UnitKey.isBlank ⟨"App", ""⟩ = false := by decide
  have hqa := Question.blankArgument?_annotatedLike ha
  have hqb := Question.blankArgument?_annotatedLike hb
  obtain ⟨e, hanswer, htypes⟩ := entry_of_types (ask_marked config name ha)
  exact ⟨e, ask_of_alike none hroot hqa hqb halike hanswer, htypes⟩

/-- If `b` gets its own answer behind `a`, then `a` and `b` are interchangeable. -/
theorem interchangeable_of_answers (ha : Text.isAllBlank a = false)
    (halike : (Question.annotatedLike a).alike (.annotatedLike b) = true)
    (h : ∀ e, (((start (markedProgram (Text.trim a))).after
        [.ask (.annotatedLike a) ⟨"App", ""⟩ none]).ask (.annotatedLike b) ⟨"App", ""⟩).1 = .ok e →
      ((start (markedProgram (Text.trim a))).ask (.annotatedLike b) ⟨"App", ""⟩).1.map
        Entry.types = .ok e.types) :
    Text.Interchangeable (Text.trim a) (Text.trim b) := by
  by_cases hdot : '.' ∈ (Text.trim a).toList
  · exact Or.inr hdot
  have hb : Text.isAllBlank b = false := by
    rw [Bool.eq_false_iff]
    intro hb
    have hblank := Question.isAllBlank_of_alike (Question.alike_symm halike) hb
    simp [ha] at hblank
  have hown : (Question.annotatedLike a).selects (TypeDecl.marked (Text.trim a)) = true :=
    TypeDecl.marked_isLooselyAnnotated hdot
  obtain ⟨e, hok, htypes⟩ := ask_marked_after {} (Text.trim a) ha hb halike
  rw [Question.choose_singleton hown] at htypes
  have hsame := (ask_marked {} (Text.trim a) hb).symm.trans (h e hok)
  have hmem : TypeDecl.marked (Text.trim a) ∈
      (Question.annotatedLike b).choose [TypeDecl.marked (Text.trim a)] := by
    rw [Except.ok.inj hsame, htypes]
    exact List.mem_cons_self
  have hselects := (Question.mem_of_mem_choose hmem).2
  have hfold := Question.alike_annotatedLike.mp halike
  exact Or.inl ((TypeDecl.marked_isLooselyAnnotated_iff hdot hfold).mp hselects)

/-- An answer is that of a new session if the spellings of its key that were asked for before, from
the same root, are interchangeable with the one that is asked for now. -/
theorem ask_start_of_interchangeable {p : Program} {calls : List Call} {token' : Option Token}
    (hok : (((start p config).after calls).ask (.annotatedLike name) root token).1 = .ok e)
    (h : ∀ name' token'', .ask (.annotatedLike name') root token'' ∈ calls →
      (Question.annotatedLike name').alike (.annotatedLike name) = true →
      Text.Interchangeable (Text.trim name') (Text.trim name)) :
    ((start p config).ask (.annotatedLike name) root token').1.map Entry.types = .ok e.types := by
  rcases ask_cases ((start p config).after calls) (.annotatedLike name) root token with
    ⟨a, hblank, -⟩ | ⟨hroot, hargument, hanswer⟩
  · simp [hblank] at hok
  · rw [hanswer] at hok
    obtain ⟨q', halike, hfresh, hasked⟩ := (sound_after p config calls).answered hok
    obtain ⟨name', rfl⟩ := Question.eq_annotatedLike_of_alike halike
    have hinterchangeable : Text.Interchangeable (Text.trim name') (Text.trim name) := by
      rcases hasked with heq | ⟨token'', hasked⟩
      · rw [Question.annotatedLike.inj heq]
        exact Or.inl rfl
      · exact h name' token'' hasked halike
    have hselects := (Question.selects_eq_iff halike).mpr hinterchangeable
    exact ask_start_of_fresh hroot hargument (hfresh.congr hselects) token'

/-- Let only certain spellings be asked for in a session. Every answer to a question by name is the
one that a new session gives, whatever was asked before, exactly if spellings of one key are
interchangeable among them. Two spellings of one key select the same types exactly if they are. -/
theorem annotatedLike_transparent_iff (spellings : Set String) :
    ((∀ (p : Program) (config : Config) (calls : List Call) (name : String) (root : UnitKey)
        (token : Option Token) (e : Entry),
      (∀ name' root' token', .ask (.annotatedLike name') root' token' ∈ calls →
        name' ∈ spellings) →
      name ∈ spellings →
      (((start p config).after calls).ask (.annotatedLike name) root token).1 = .ok e →
      ∀ token', ((start p config).ask (.annotatedLike name) root token').1.map Entry.types =
        .ok e.types) ↔
    (∀ a ∈ spellings, ∀ b ∈ spellings,
      Comparer.caseless.same (Text.trim a) (Text.trim b) = true →
      Text.Interchangeable (Text.trim a) (Text.trim b))) ∧
    ∀ a b, Comparer.caseless.same (Text.trim a) (Text.trim b) = true →
      ((∀ t : TypeDecl, t.isLooselyAnnotated (Text.trim a) = t.isLooselyAnnotated (Text.trim b)) ↔
        Text.Interchangeable (Text.trim a) (Text.trim b)) := by
  refine ⟨?_, fun a b halike => ?_⟩
  case refine_2 =>
    rw [← Question.selects_eq_iff halike]
    exact funext_iff.symm
  constructor
  · intro htransparent a ha b hb halike
    by_cases hblank : Text.isAllBlank a = true
    · have hblank' := Question.isAllBlank_of_alike halike hblank
      rw [Text.isAllBlank_iff] at hblank hblank'
      exact Or.inl (by rw [hblank, hblank'])
    · have hnext := htransparent (markedProgram (Text.trim a)) {}
        [.ask (.annotatedLike a) ⟨"App", ""⟩ none] b ⟨"App", ""⟩ none
      have hcalls : ∀ name' root' token', Call.ask (.annotatedLike name') root' token' ∈
          [Call.ask (.annotatedLike a) ⟨"App", ""⟩ none] → name' ∈ spellings := by
        intro name' root' token' hcall
        obtain ⟨hname, -⟩ : name' = a ∧ _ := by simpa using hcall
        exact hname ▸ ha
      apply interchangeable_of_answers (by simpa using hblank) halike
      intro e hok
      exact hnext e hcalls hb hok none
  · intro hspellings p config calls name root token e hcalls hname hok token'
    apply ask_start_of_interchangeable hok
    intro name' token'' hcall halike
    exact hspellings name' (hcalls name' root token'' hcall) name hname halike

/-- `ΟΔΟΣ` and `οδοσ` share a key, but the lowercase of the one ends in `ς`. A type annotated with
the former is found under the latter if that has been asked first, and not found otherwise. -/
theorem annotatedLike_final_sigma :
    Comparer.caseless.same "ΟΔΟΣ" "οδοσ" = true ∧
    (TypeDecl.marked "ΟΔΟΣ").isLooselyAnnotated "ΟΔΟΣ" = true ∧
    (TypeDecl.marked "ΟΔΟΣ").isLooselyAnnotated "οδοσ" = false ∧
    (∃ e, (((start (markedProgram "ΟΔΟΣ")).after
        [.ask (.annotatedLike "ΟΔΟΣ") ⟨"App", ""⟩ none]).ask (.annotatedLike "οδοσ")
          ⟨"App", ""⟩).1 = .ok e ∧
      e.types = [TypeDecl.marked "ΟΔΟΣ"]) ∧
    ((start (markedProgram "ΟΔΟΣ")).ask (.annotatedLike "οδοσ") ⟨"App", ""⟩).1.map Entry.types =
      .ok [] := by
  have hsame : Comparer.caseless.same "ΟΔΟΣ" "οδοσ" = true := by decide +kernel
  have hfound : (TypeDecl.marked "ΟΔΟΣ").isLooselyAnnotated "ΟΔΟΣ" = true := by decide +kernel
  have hmissed : (TypeDecl.marked "ΟΔΟΣ").isLooselyAnnotated "οδοσ" = false := by decide +kernel
  have htrim : Text.trim "ΟΔΟΣ" = "ΟΔΟΣ" := by decide +kernel
  have htrim' : Text.trim "οδοσ" = "οδοσ" := by decide +kernel
  have hselected : (Question.annotatedLike "ΟΔΟΣ").selects (TypeDecl.marked "ΟΔΟΣ") = true := by
    rw [Question.selects, htrim]
    exact hfound
  have hskipped : (Question.annotatedLike "οδοσ").selects (TypeDecl.marked "ΟΔΟΣ") = false := by
    rw [Question.selects, htrim']
    exact hmissed
  have halike : (Question.annotatedLike "ΟΔΟΣ").alike (.annotatedLike "οδοσ") = true := by
    rw [Question.alike, htrim, htrim']
    exact hsame
  refine ⟨hsame, hfound, hmissed, ?_, ?_⟩
  · obtain ⟨e, hok, htypes⟩ := ask_marked_after {} "ΟΔΟΣ" (by decide +kernel) (by decide +kernel)
      halike
    exact ⟨e, hok, htypes.trans (Question.choose_singleton hselected)⟩
  · rw [ask_marked {} "ΟΔΟΣ" (by decide +kernel)]
    simp [Question.choose, firstOfEach, hskipped]

end Session

end TypeSurvey
