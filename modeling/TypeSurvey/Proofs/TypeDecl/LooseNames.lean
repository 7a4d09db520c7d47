import Mathlib.Data.List.TakeWhile
import TypeSurvey.Proofs.Text.Lowering
import TypeSurvey.TypeDecl.Marking

/-!
# Loosely named annotations

A name that has a dot finds nothing. One that has none finds every type with an annotation of just
that name, and a name of the same length finds that annotation only if the two have one lowercase.
-/
namespace TypeSurvey

/-- Spellings that select the same types wherever they share a key. -/
def Text.Interchangeable (a b : String) : Prop :=
  lowerChars a.toList = lowerChars b.toList ∨ '.' ∈ a.toList

theorem Text.lastSegment_of_not_mem {name : String} (h : '.' ∉ name.toList) :
    lastSegment name = name := by
  have hall : ∀ c ∈ name.toList.reverse, (c != '.') = true := by
    intro c hc
    rw [bne_iff_ne]
    rintro rfl
    exact h (List.mem_reverse.mp hc)
  rw [lastSegment, List.takeWhile_eq_self_iff.mpr hall, List.reverse_reverse,
    String.ofList_toList]

/-- A type whose one annotation has the given name. -/
def TypeDecl.marked (name : String) : TypeDecl :=
  { unit := ⟨"App", ""⟩, space := "A", name := "T", annotations := [{ name }], row := some 0 }

namespace TypeDecl

variable {a b name : String} {t : TypeDecl}

/-- A simple name has no dot, so no annotation goes by a name that has one. -/
theorem not_isLooselyNamed_of_dot (h : '.' ∈ name.toList) (x : Annotation) :
    isLooselyNamed x name = false := by
  have hactual : '.' ∉ Text.lowerChars x.simpleName.toList := fun hdot =>
    Text.dot_not_mem_lastSegment x.name (Text.dot_mem_lowerChars.mp hdot)
  have hwanted : '.' ∈ Text.lowerChars name.toList := Text.dot_mem_lowerChars.mpr h
  rw [isLooselyNamed, Bool.or_eq_false_iff, decide_eq_false_iff_not, decide_eq_false_iff_not]
  constructor
  · intro heq
    rw [heq] at hactual
    exact hactual hwanted
  · intro heq
    rw [heq] at hactual
    exact hactual (List.mem_append_left _ hwanted)

theorem isLooselyAnnotated_of_dot (h : '.' ∈ name.toList) (t : TypeDecl) :
    t.isLooselyAnnotated name = false := by
  rw [isLooselyAnnotated, List.any_eq_false]
  intro x _
  simp [not_isLooselyNamed_of_dot h x]

theorem marked_isLooselyAnnotated (h : '.' ∉ name.toList) :
    (marked name).isLooselyAnnotated name = true := by
  simp [isLooselyAnnotated, isLooselyNamed, marked, Annotation.simpleName,
    Text.lastSegment_of_not_mem h]

/-- A name of the same length is no shorter form, so only the lowercase itself counts. -/
theorem marked_isLooselyAnnotated_iff_of_length (h : '.' ∉ a.toList)
    (hlength : (Text.lowerChars a.toList).length = (Text.lowerChars b.toList).length) :
    (marked a).isLooselyAnnotated b = true ↔
      Text.lowerChars a.toList = Text.lowerChars b.toList := by
  have hlong : Text.lowerChars a.toList ≠ Text.lowerChars b.toList ++ annotationEnding := by
    intro heq
    rw [heq, List.length_append] at hlength
    have hending : annotationEnding.length = 9 := by decide
    omega
  simp [isLooselyAnnotated, isLooselyNamed, marked, Annotation.simpleName,
    Text.lastSegment_of_not_mem h, hlong]

theorem marked_isLooselyAnnotated_iff (h : '.' ∉ a.toList)
    (hfold : Text.foldChars a.toList = Text.foldChars b.toList) :
    (marked a).isLooselyAnnotated b = true ↔
      Text.lowerChars a.toList = Text.lowerChars b.toList :=
  marked_isLooselyAnnotated_iff_of_length h (Text.length_lowerChars_congr hfold)

end TypeDecl

end TypeSurvey
