import TypeSurvey.Comparer
import TypeSurvey.Proofs.Text.FinalSigma
import TypeSurvey.Proofs.TypeDecl.LooseNames

/-!
# Names in any letter case

A type goes by a name if the simple name of an annotation is that name, with or without the usual
ending, letter case aside. Loose naming lowercases whole texts instead of comparing characters. For
a name in which a sigma ends a word the two differ on some type, and for all other names on none.
-/
namespace TypeSurvey.TypeDecl

open Text

variable {name : String} {t : TypeDecl} {actual wanted : List Char}
  {lower : List Char → List Char}

def GoesBy (t : TypeDecl) (name : String) : Prop :=
  ∃ a ∈ t.annotations, Comparer.caseless.same a.simpleName name = true ∨
    Comparer.caseless.same a.simpleName (name ++ "Attribute") = true

/-- The two come out the same when lowered, or the same up to the usual ending. -/
def Matches (lower : List Char → List Char) (actual wanted : List Char) : Prop :=
  lower actual = lower wanted ∨ lower actual = lower wanted ++ annotationEnding

theorem isLooselyAnnotated_iff_matches : t.isLooselyAnnotated name = true ↔
    ∃ a ∈ t.annotations, Matches lowerChars a.simpleName.toList name.toList := by
  simp [isLooselyAnnotated, isLooselyNamed, Matches]

theorem goesBy_iff_matches : t.GoesBy name ↔
    ∃ a ∈ t.annotations, Matches foldChars a.simpleName.toList name.toList := by
  have hending : foldChars "Attribute".toList = annotationEnding := by decide +kernel
  have hlong : foldChars (name ++ "Attribute").toList =
      foldChars name.toList ++ annotationEnding := by
    rw [String.toList_append, ← hending]
    exact List.flatMap_append
  simp only [GoesBy, Matches, Comparer.caseless, Comparer.ofView, decide_eq_true_eq, hlong]

theorem not_goesBy_of_dot (h : '.' ∈ name.toList) : ¬ t.GoesBy name := by
  rw [goesBy_iff_matches]
  rintro ⟨x, -, hx⟩
  have hactual : '.' ∉ foldChars x.simpleName.toList := fun hdot =>
    dot_not_mem_lastSegment x.name (dot_mem_foldChars.mp hdot)
  have hwanted : '.' ∈ foldChars name.toList := dot_mem_foldChars.mpr h
  rcases hx with heq | heq <;> rw [heq] at hactual
  · exact hactual hwanted
  · exact hactual (List.mem_append_left _ hwanted)

theorem isSigma_annotationEnding : ∀ c ∈ annotationEnding, isSigma c = false := by
  have hnone : annotationEnding.any isSigma = false := by decide
  simpa only [List.any_eq_false, Bool.not_eq_true] using hnone

/-- No match brings a sigma to the end of a word. -/
theorem Matches.not_hasFinalSigma (hmarks : ∀ cs, marks (lower cs) = marks cs)
    (h : Matches lower actual wanted) (hwanted : ¬ HasFinalSigma wanted) :
    ¬ HasFinalSigma actual := by
  have hlower : ¬ HasFinalSigma (lower wanted) := by
    rwa [hasFinalSigma_congr (hmarks wanted)]
  rw [← hasFinalSigma_congr (hmarks actual)]
  rcases h with heq | heq <;> rw [heq]
  · exact hlower
  · exact not_hasFinalSigma_append hlower isSigma_annotationEnding

theorem matches_iff_of_lowerChars_eq (hactual : lowerChars actual = foldChars actual)
    (hwanted : lowerChars wanted = foldChars wanted) :
    Matches lowerChars actual wanted ↔ Matches foldChars actual wanted := by
  rw [Matches, Matches, hactual, hwanted]

theorem matches_iff_of_not_hasFinalSigma (h : ¬ HasFinalSigma wanted) :
    Matches lowerChars actual wanted ↔ Matches foldChars actual wanted := by
  by_cases hactual : HasFinalSigma actual
  · constructor
    · intro hmatch
      exact absurd hactual (hmatch.not_hasFinalSigma marks_lowerChars h)
    · intro hmatch
      exact absurd hactual (hmatch.not_hasFinalSigma marks_foldChars h)
  · exact matches_iff_of_lowerChars_eq (lowerChars_eq_foldChars_of_not_hasFinalSigma hactual)
      (lowerChars_eq_foldChars_of_not_hasFinalSigma h)

/-- Where a name has no dot and a sigma that ends a word, some type tells the two ways apart. -/
theorem exists_disagreement (hdot : '.' ∉ name.toList) (h : HasFinalSigma name.toList) :
    ∃ other, ((marked other).isLooselyAnnotated name = true ↔ ¬ (marked other).GoesBy name) := by
  obtain ⟨ds, hmem, hlength, hdiffer⟩ := h.exists_disagreement
  have hds : (String.ofList ds).toList = ds := String.toList_ofList
  have hplain : '.' ∉ (String.ofList ds).toList := by
    rw [hds]
    intro hmark
    rcases hmem '.' hmark with hname | hsigma
    · exact hdot hname
    · simp [isSigma] at hsigma
  have hfold : (marked (String.ofList ds)).GoesBy name ↔ foldChars ds = foldChars name.toList := by
    have hlong : foldChars ds ≠ foldChars name.toList ++ annotationEnding := by
      intro heq
      have hending : annotationEnding.length = 9 := by decide
      rw [heq, List.length_append] at hlength
      omega
    simp [goesBy_iff_matches, Matches, marked, Annotation.simpleName,
      lastSegment_of_not_mem hplain, hds, hlong]
  have hlower : (marked (String.ofList ds)).isLooselyAnnotated name = true ↔
      lowerChars ds = lowerChars name.toList := by
    rw [marked_isLooselyAnnotated_iff_of_length hplain, hds]
    rw [hds, lowerChars, lowerChars, length_lowerAfter, length_lowerAfter, hlength]
  exact ⟨String.ofList ds, by rw [hlower, hfold, hdiffer]⟩

/-- Loose naming finds the types that go by a name, unless a capital sigma ends a word in the name or
in one of theirs. It finds just those, whatever the type, for the names that have a dot or in which
no sigma of any form ends a word. -/
theorem isLooselyAnnotated_iff_goesBy (name : String) :
    (∀ t : TypeDecl, ¬ EndsWord 'Σ' name.toList →
      (∀ a ∈ t.annotations, ¬ EndsWord 'Σ' a.simpleName.toList) →
      (t.isLooselyAnnotated name = true ↔ t.GoesBy name)) ∧
    ((∀ t : TypeDecl, t.isLooselyAnnotated name = true ↔ t.GoesBy name) ↔
      '.' ∈ name.toList ∨ ¬ HasFinalSigma name.toList) := by
  refine ⟨fun t hname ht => ?_, ⟨fun hall => ?_, ?_⟩⟩
  · rw [isLooselyAnnotated_iff_matches, goesBy_iff_matches]
    refine exists_congr fun a => and_congr_right fun ha => ?_
    exact matches_iff_of_lowerChars_eq (lowerChars_eq_foldChars_of_not_endsWord (ht a ha))
      (lowerChars_eq_foldChars_of_not_endsWord hname)
  · by_cases hdot : '.' ∈ name.toList
    · exact Or.inl hdot
    · refine Or.inr fun hsigma => ?_
      obtain ⟨other, hother⟩ := exists_disagreement hdot hsigma
      rw [hall (marked other)] at hother
      exact iff_not_self hother
  · rintro (hdot | hsigma) t
    · simp [isLooselyAnnotated_of_dot hdot, not_goesBy_of_dot hdot]
    · rw [isLooselyAnnotated_iff_matches, goesBy_iff_matches]
      exact exists_congr fun a => and_congr_right fun _ => matches_iff_of_not_hasFinalSigma hsigma

/-- The capital sigma ends a word in the name and not in the annotation's, which goes on; and a small
sigma there is another letter than a final one. -/
theorem goesBy_final_sigma :
    ((marked "ΟΔΟΣAttribute").GoesBy "ΟΔΟΣ" ∧
      (marked "ΟΔΟΣAttribute").isLooselyAnnotated "ΟΔΟΣ" = false) ∧
    ((marked "ΟΔΟΣ").GoesBy "οδοσ" ∧ (marked "ΟΔΟΣ").isLooselyAnnotated "οδοσ" = false) ∧
    (¬ (marked "ΟΔΟΣ").GoesBy "οδος" ∧ (marked "ΟΔΟΣ").isLooselyAnnotated "οδος" = true) := by
  refine ⟨⟨⟨_, List.mem_cons_self, Or.inr ?_⟩, ?_⟩, ⟨⟨_, List.mem_cons_self, Or.inl ?_⟩, ?_⟩, ?_, ?_⟩
  any_goals decide +kernel
  rintro ⟨a, ha, hname⟩
  obtain rfl := List.mem_singleton.mp ha
  exact absurd hname (by decide +kernel)

end TypeSurvey.TypeDecl
