import TypeSurvey.Proofs.Text.LetterMarks
import TypeSurvey.Proofs.Text.Lowering

/-!
# Sigmas at the end of a word

Lowercasing a whole text goes by its characters as long as no capital sigma ends a word. Where a
sigma of any form does, another text agrees with this one in just one of the two ways.
-/
namespace TypeSurvey.Text

variable {c : Char} {cs ds : List Char}

/-- `c` is there behind a cased character and in front of none. -/
def EndsWord (c : Char) (cs : List Char) : Prop :=
  ∃ front rest, cs = front ++ c :: rest ∧ meetsCased front.reverse = true ∧ meetsCased rest = false

def HasFinalSigma (cs : List Char) : Prop := ∃ c, isSigma c = true ∧ EndsWord c cs

theorem lowerChars_eq_foldChars_of_not_endsWord (h : ¬ EndsWord 'Σ' cs) :
    lowerChars cs = foldChars cs := by
  apply lowerAfter_eq_foldChars
  intro front rest hcs hfront
  rw [List.append_nil] at hfront
  cases hrest : meetsCased rest with
  | true => rfl
  | false => exact absurd ⟨front, rest, hcs, hfront, hrest⟩ h

theorem lowerChars_eq_foldChars_of_not_hasFinalSigma (h : ¬ HasFinalSigma cs) :
    lowerChars cs = foldChars cs :=
  lowerChars_eq_foldChars_of_not_endsWord fun hends => h ⟨'Σ', rfl, hends⟩

/-- The marks of a text tell whether a sigma ends a word. -/
theorem hasFinalSigma_iff_marks : HasFinalSigma cs ↔ ∃ ps m qs, marks cs = ps ++ m :: qs ∧
    m.2 = true ∧ ps.reverse.head?.any (·.1) = true ∧ qs.head?.any (·.1) = false := by
  constructor
  · rintro ⟨c, hc, front, rest, rfl, hfront, hrest⟩
    refine ⟨marks front, (true, true), marks rest, ?_, rfl, ?_, ?_⟩
    · rw [marks_append, marks_cons, marks_sigma hc]
      rfl
    · rwa [meetsCased_eq_marks, marks_reverse] at hfront
    · rwa [meetsCased_eq_marks] at hrest
  · rintro ⟨ps, m, qs, hmarks, hm, hps, hqs⟩
    obtain ⟨kept, kept', hkept, rfl, hkept'⟩ := List.map_eq_append_iff.mp hmarks
    obtain ⟨c, kept'', rfl, rfl, rfl⟩ := List.map_eq_cons_iff.mp hkept'
    obtain ⟨front, back, rfl, rfl, hback⟩ := List.filter_eq_append_iff.mp hkept
    obtain ⟨ignored, rest, rfl, hignored, -, rfl⟩ := List.filter_eq_cons_iff.mp hback
    -- what stands between the mark in front and the sigma is ignored
    have hnone : marks ignored = [] := by
      rw [marks, List.map_eq_nil_iff, List.filter_eq_nil_iff]
      exact hignored
    refine ⟨c, hm, front ++ ignored, rest, by simp, ?_, ?_⟩
    · rw [meetsCased_eq_marks, marks_reverse, marks_append, hnone, List.append_nil]
      exact hps
    · rw [meetsCased_eq_marks]
      exact hqs

theorem hasFinalSigma_congr (h : marks cs = marks ds) : HasFinalSigma cs ↔ HasFinalSigma ds := by
  rw [hasFinalSigma_iff_marks, hasFinalSigma_iff_marks, h]

theorem meetsCased_append (h : meetsCased cs = true) (ds : List Char) :
    meetsCased (cs ++ ds) = true := by
  rw [meetsCased_eq_marks] at h ⊢
  rw [marks_append]
  cases hmarks : marks cs with
  | nil => simp [hmarks] at h
  | cons m ms => simpa [hmarks] using h

/-- What follows a text does not bring a word to its end. -/
theorem not_hasFinalSigma_append (h : ¬ HasFinalSigma cs) (hds : ∀ c ∈ ds, isSigma c = false) :
    ¬ HasFinalSigma (cs ++ ds) := by
  rintro ⟨c, hc, front, rest, hcs, hfront, hrest⟩
  rcases List.append_eq_append_iff.mp hcs with ⟨late, rfl, rfl⟩ | ⟨late, rfl, hlate⟩
  · simp [hds c] at hc
  · cases late with
    | nil =>
      rw [List.nil_append] at hlate
      simp [hds c (hlate ▸ List.mem_cons_self)] at hc
    | cons d late =>
      rw [List.cons_append, List.cons.injEq] at hlate
      obtain ⟨rfl, rfl⟩ := hlate
      cases hmeets : meetsCased late with
      | true => simp [meetsCased_append hmeets ds] at hrest
      | false => exact h ⟨c, hc, front, late, rfl, hfront, hmeets⟩

theorem lowerAfter_congr {before before' : List Char} (h : marks before = marks before')
    (cs : List Char) : lowerAfter before cs = lowerAfter before' cs := by
  induction cs generalizing before before' with
  | nil => rfl
  | cons c cs ih =>
    have hnext : marks (c :: before) = marks (c :: before') := by
      rw [marks_cons, marks_cons c before', h]
    rw [lowerAfter, lowerAfter, ih hnext, meetsCased_congr h]

/-- The lowercase of a beginning depends on the marks of what follows and on nothing else there. -/
theorem exists_lowerAfter_append (before cs ds : List Char) : ∃ lowered, ∀ ds',
    marks ds' = marks ds →
      lowerAfter before (cs ++ ds') = lowered ++ lowerAfter (cs.reverse ++ before) ds' := by
  induction cs generalizing before with
  | nil => exact ⟨[], fun ds' _ => rfl⟩
  | cons c cs ih =>
    obtain ⟨lowered, hlowered⟩ := ih (c :: before)
    refine ⟨(if c = 'Σ' then [if meetsCased before && !meetsCased (cs ++ ds) then 'ς' else 'σ']
      else lowerChar c) ++ lowered, fun ds' hds => ?_⟩
    have hrest : meetsCased (cs ++ ds') = meetsCased (cs ++ ds) :=
      meetsCased_congr (by rw [marks_append, marks_append, hds])
    rw [List.cons_append, lowerAfter, hlowered ds' hds, hrest, List.append_assoc,
      List.reverse_cons, List.append_assoc]
    rfl

theorem lowerChar_of_isSigma (hc : isSigma c = true) :
    lowerChar c = [if c = 'ς' then 'ς' else 'σ'] := by
  simp only [isSigma, Bool.or_eq_true, decide_eq_true_eq] at hc
  rcases hc with (rfl | rfl) | rfl <;> decide +kernel

/-- At the end of a word, lowercasing the whole text only tells a small sigma from the others. -/
theorem exists_lowerChars_sigma {front rest : List Char} (hfront : meetsCased front.reverse = true)
    (hrest : meetsCased rest = false) : ∃ lowered lowered', ∀ c, isSigma c = true →
      lowerChars (front ++ c :: rest) =
        lowered ++ (if c = 'σ' then 'σ' else 'ς') :: lowered' := by
  obtain ⟨lowered, hlowered⟩ := exists_lowerAfter_append [] front ('Σ' :: rest)
  refine ⟨lowered, lowerAfter ('Σ' :: (front.reverse ++ [])) rest, fun c hc => ?_⟩
  have hmarks : marks [c] = marks ['Σ'] := by rw [marks_sigma hc, marks_sigma rfl]
  have hsame : ∀ cs, marks (c :: cs) = marks ('Σ' :: cs) := fun cs => by
    rw [marks_cons, hmarks, ← marks_cons]
  rw [lowerChars, hlowered _ (hsame rest), lowerAfter,
    lowerAfter_congr (hsame (front.reverse ++ [])), List.append_nil, hfront, hrest]
  have hlower := lowerChar_of_isSigma hc
  simp only [isSigma, Bool.or_eq_true, decide_eq_true_eq] at hc
  rcases hc with (rfl | rfl) | rfl
  · rfl
  · rw [if_neg (by decide), hlower]
    rfl
  · rw [if_neg (by decide), hlower]
    rfl

/-- Lowercasing each character on its own only tells a final sigma from the others. -/
theorem foldChars_sigma (front rest : List Char) (hc : isSigma c = true) :
    foldChars (front ++ c :: rest) =
      foldChars front ++ (if c = 'ς' then 'ς' else 'σ') :: foldChars rest := by
  simp [foldChars, lowerChar_of_isSigma hc]

/-- Another sigma in its place makes a text that agrees with this one in one way only. -/
theorem HasFinalSigma.exists_disagreement (h : HasFinalSigma cs) : ∃ ds,
    (∀ c ∈ ds, c ∈ cs ∨ isSigma c = true) ∧ (foldChars ds).length = (foldChars cs).length ∧
      (lowerChars ds = lowerChars cs ↔ foldChars ds ≠ foldChars cs) := by
  obtain ⟨c, hc, front, rest, rfl, hfront, hrest⟩ := h
  obtain ⟨lowered, lowered', hlowered⟩ := exists_lowerChars_sigma hfront hrest
  obtain ⟨d, hd, hdiffer⟩ : ∃ d, isSigma d = true ∧
      ((if d = 'σ' then 'σ' else 'ς') = (if c = 'σ' then 'σ' else 'ς') ↔
        (if d = 'ς' then 'ς' else 'σ') ≠ (if c = 'ς' then 'ς' else 'σ')) := by
    simp only [isSigma, Bool.or_eq_true, decide_eq_true_eq] at hc
    -- a small sigma in place of the capital one, and the capital one in place of the others
    rcases hc with (rfl | rfl) | rfl
    · exact ⟨'σ', by decide⟩
    · exact ⟨'Σ', by decide⟩
    · exact ⟨'Σ', by decide⟩
  refine ⟨front ++ d :: rest, ?_, ?_, ?_⟩
  · intro x hx
    rcases List.mem_append.mp hx with hx | hx
    · exact Or.inl (List.mem_append_left _ hx)
    · rcases List.mem_cons.mp hx with rfl | hx
      · exact Or.inr hd
      · exact Or.inl (List.mem_append_right _ (List.mem_cons_of_mem _ hx))
  · simp [foldChars_sigma front rest hc, foldChars_sigma front rest hd]
  · rw [hlowered c hc, hlowered d hd, foldChars_sigma front rest hc, foldChars_sigma front rest hd]
    simpa using hdiffer

end TypeSurvey.Text
