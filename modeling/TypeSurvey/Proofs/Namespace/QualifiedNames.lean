import TypeSurvey.Comparer
import TypeSurvey.Proofs.Namespace.Places

/-!
# Places and qualified names

A type's place in the tree comes from the segments of its namespace text, its qualified name from
the text as it stands. The two say the same exactly if the text is well dotted. Types that share a
place and a name are one symbol exactly if they share the text as well.
-/
namespace TypeSurvey

namespace TypeDecl

/-- A type with a name that nests in no other. -/
structure IsTopLevel (t : TypeDecl) : Prop where
  outermost : t.outer = []
  named : t.name ≠ ""

namespace IsTopLevel

variable {t t' : TypeDecl}

theorem qualifiedName_eq (h : t.IsTopLevel) :
    t.qualifiedName = Text.joinNonEmpty [t.space, t.name] := by
  rw [qualifiedName, h.outermost]
  rfl

theorem dotted_path_eq_iff (h : t.IsTopLevel) :
    Text.dotted (t.path ++ [t.name]) = t.qualifiedName ↔ Text.isWellDotted t.space = true := by
  rw [h.qualifiedName_eq]
  exact Text.dotted_segments_eq_iff h.named

/-- With the same name behind it, the text decides the qualified name. -/
theorem symbol_eq_iff (h : t.IsTopLevel) (h' : t'.IsTopLevel) (hname : t'.name = t.name)
    (hunit : t'.unit = t.unit) : t'.symbol = t.symbol ↔ t'.space = t.space := by
  have hsymbol : t'.symbol = t.symbol ↔ t'.qualifiedName = t.qualifiedName := by
    simp [symbol, hunit]
  rw [hsymbol, h.qualifiedName_eq, h'.qualifiedName_eq, hname]
  exact Text.joinNonEmpty_pair_inj h.named

end IsTopLevel

end TypeDecl

namespace Namespace

variable {t t' : TypeDecl}

/-- Two types that are declared in the same namespaces lie together. -/
theorem exists_at_of_path_eq (h : t'.path = t.path) :
    ∃ m, (ofTypes [t, t']).At t.path m ∧ m.types = [t, t'] := by
  obtain ⟨m, hat⟩ := exists_at_path (List.mem_cons_self : t ∈ [t, t'])
  refine ⟨m, hat, ?_⟩
  rw [hat.arranges.ending]
  simp [h]

end Namespace

namespace CodeUnit

/-- Where a type lies in the tree of a unit, the names that lead there and its own name make up its
qualified name exactly if its namespace text is well dotted. Another type of that name there is the
same symbol exactly if its text is the same, so it is if both texts are well dotted. -/
theorem ofTypes_names (id : UnitKey) (types : List TypeDecl) (dependencies : List UnitKey)
    (annotations : List Annotation) :
    let tree := (ofTypes id types dependencies annotations).root
    ∀ path m, tree.At path m → ∀ t ∈ m.types, t.IsTopLevel →
      (Text.dotted (path ++ [t.name]) = t.qualifiedName ↔ Text.isWellDotted t.space = true) ∧
      ∀ t' ∈ m.types, t'.IsTopLevel → t'.name = t.name → t'.unit = t.unit →
        (t'.symbol = t.symbol ↔ t'.space = t.space) ∧
        (Text.isWellDotted t.space = true → Text.isWellDotted t'.space = true →
          t'.symbol = t.symbol) := by
  intro tree path m hat
  have hpath {t : TypeDecl} (ht : t ∈ m.types) : t.path = path := by
    rw [(Namespace.At.arranges hat).ending] at ht
    simpa using (List.mem_filter.mp ht).2
  intro t ht htop
  have hspelled := hpath ht ▸ htop.dotted_path_eq_iff
  refine ⟨hspelled, fun t' ht' htop' hname hunit => ⟨htop.symbol_eq_iff htop' hname hunit, ?_⟩⟩
  intro hwell hwell'
  have hspelled' := hpath ht' ▸ htop'.dotted_path_eq_iff
  rw [hname] at hspelled'
  have hsame : t'.qualifiedName = t.qualifiedName :=
    (hspelled'.mpr hwell').symm.trans (hspelled.mpr hwell)
  simp [TypeDecl.symbol, hsame, hunit]

/-- Two declarations of one type, of which the namespace texts are the same. -/
theorem ofTypes_names_twice :
    let t : TypeDecl := { unit := Sample.app, space := "App.Data", name := "Row" }
    let t' : TypeDecl := { t with kind := .recordKind }
    ∃ m, (ofTypes Sample.app [t, t']).root.At ["App", "Data"] m ∧ m.types = [t, t'] ∧
      Text.dotted ["App", "Data", "Row"] = t.qualifiedName ∧ t'.symbol = t.symbol := by
  intro t t'
  have hpath : t.path = ["App", "Data"] := by decide
  have htop : t.IsTopLevel := ⟨rfl, by decide⟩
  have htop' : t'.IsTopLevel := ⟨rfl, by decide⟩
  have hsame : t'.path = t.path := rfl
  obtain ⟨m, hat, htypes⟩ := Namespace.exists_at_of_path_eq hsame
  rw [hpath] at hat
  have hnames := ofTypes_names Sample.app [t, t'] [] [] _ _ hat t (by simp [htypes]) htop
  refine ⟨m, hat, htypes, hnames.1.mpr (by decide), ?_⟩
  exact (hnames.2 t' (by simp [htypes]) htop' rfl rfl).1.mpr rfl

/-- The second dot adds no namespace, yet it stays in the qualified name. -/
theorem ofTypes_names_doubled_dot :
    let t : TypeDecl := { unit := Sample.app, space := "App.Data", name := "Row" }
    let t' : TypeDecl := { unit := Sample.app, space := "App..Data", name := "Row" }
    ∃ m, (ofTypes Sample.app [t, t']).root.At ["App", "Data"] m ∧ m.types = [t, t'] ∧
      t.IsTopLevel ∧ t'.IsTopLevel ∧
      Text.dotted ["App", "Data", "Row"] = "App.Data.Row" ∧ t'.qualifiedName = "App..Data.Row" ∧
      Comparer.symbol.same t' t = false := by
  intro t t'
  have hpath : t.path = ["App", "Data"] := by decide
  have hpath' : t'.path = ["App", "Data"] := by decide
  obtain ⟨m, hat, htypes⟩ := Namespace.exists_at_of_path_eq (hpath'.trans hpath.symm)
  rw [hpath] at hat
  exact ⟨m, hat, htypes, ⟨rfl, by decide⟩, ⟨rfl, by decide⟩, by decide, by decide, by decide⟩

end CodeUnit

end TypeSurvey
