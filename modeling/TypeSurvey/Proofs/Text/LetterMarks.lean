import TypeSurvey.Text.Lowercase

/-!
# Marks of letters

Whether a sigma ends a word is decided by the characters that are not case-ignorable, and of these
by which are cased and which are a sigma. Lowercasing changes none of that: every character of the
case table and its lowercase are cased and not case-ignorable, and only a sigma becomes a sigma.
-/
namespace TypeSurvey.Text

variable {c : Char} {cs ds : List Char} {n : Nat} {run : CaseRun}

def isSigma (c : Char) : Bool := c = 'Σ' || c = 'σ' || c = 'ς'

/-- Of each character that is not case-ignorable: whether it is cased, and whether it is a sigma. -/
def marks (cs : List Char) : List (Bool × Bool) :=
  (cs.filter (!isCaseIgnorable ·)).map fun c => (isCased c, isSigma c)

/-- The number whose binary digits tell the code points that the ranges hold. -/
def digits (ranges : List (Nat × Nat)) : Nat :=
  ranges.foldr (fun r held => (1 <<< (r.2 + 1 - r.1) - 1) <<< r.1 ||| held) 0

/-- Looking up a digit is one step, however many ranges there are. -/
theorem testBit_digits (ranges : List (Nat × Nat)) (n : Nat) :
    (digits ranges).testBit n = inRanges ranges n := by
  induction ranges with
  | nil => simp [digits, inRanges]
  | cons r ranges ih =>
    have hrange : ((1 <<< (r.2 + 1 - r.1) - 1) <<< r.1).testBit n =
        (decide (r.1 ≤ n) && decide (n ≤ r.2)) := by
      rw [Nat.testBit_shiftLeft, Nat.one_shiftLeft, Nat.testBit_two_pow_sub_one, Bool.eq_iff_iff]
      simp only [Bool.and_eq_true, decide_eq_true_eq]
      omega
    rw [digits, List.foldr_cons, Nat.testBit_or, hrange, ← digits, ih]
    rfl

/-- The place a run maps `n` to. -/
def CaseRun.image (run : CaseRun) (n : Nat) : Nat := ((n : Int) + run.shift).toNat

/-- The runs of the table and the capital letters of ASCII. -/
def capitalRuns : List CaseRun := ⟨0x41, 0x5A, 1, 32⟩ :: lowercaseRuns

/-- The place of a character that is cased and not case-ignorable. -/
def IsLetterCode (n : Nat) : Prop :=
  n.isValidChar ∧ (digits casedRanges).testBit n = true ∧
    (digits caseIgnorableRanges).testBit n = false

instance (n : Nat) : Decidable (IsLetterCode n) :=
  inferInstanceAs (Decidable (n.isValidChar ∧ (digits casedRanges).testBit n = true ∧
    (digits caseIgnorableRanges).testBit n = false))

def sigmaRanges : List (Nat × Nat) := [(0x3A3, 0x3A3), (0x3C2, 0x3C3)]

/-- The case table maps letters to letters, and none but a sigma to a sigma. -/
theorem capitalRuns_letters : ∀ run ∈ capitalRuns, ∀ i < (run.last - run.first) / run.stride + 1,
    let n := run.first + i * run.stride
    IsLetterCode n ∧ IsLetterCode (run.image n) ∧
      (digits sigmaRanges).testBit (run.image n) = (digits sigmaRanges).testBit n := by
  decide +kernel

theorem letters_of_holds (hrun : run ∈ capitalRuns) (hn : run.holds n = true) :
    IsLetterCode n ∧ IsLetterCode (run.image n) ∧
      (digits sigmaRanges).testBit (run.image n) = (digits sigmaRanges).testBit n := by
  simp only [CaseRun.holds, Bool.and_eq_true, decide_eq_true_eq, beq_iff_eq] at hn
  obtain ⟨⟨hfirst, hlast⟩, hstride⟩ := hn
  have hle : (n - run.first) / run.stride ≤ (run.last - run.first) / run.stride :=
    Nat.div_le_div_right (by omega)
  have hplace : run.first + (n - run.first) / run.stride * run.stride = n := by
    rw [Nat.div_mul_cancel (Nat.dvd_of_mod_eq_zero hstride)]
    omega
  have hletters := capitalRuns_letters run hrun _ (Nat.lt_succ_of_le hle)
  rwa [hplace] at hletters

theorem isSigma_eq (c : Char) : isSigma c = (digits sigmaRanges).testBit c.toNat := by
  have heq : ∀ d : Char, c = d ↔ c.toNat = d.toNat := fun d => ⟨congrArg _, Char.toNat_inj.mp⟩
  rw [testBit_digits, Bool.eq_iff_iff]
  simp only [isSigma, Bool.or_eq_true, decide_eq_true_eq, heq, inRanges, sigmaRanges, List.any_cons,
    List.any_nil, Bool.and_eq_true, Bool.or_false]
  simp only [Char.reduceToNat]
  omega

/-- What a character at the place of a letter shows. -/
theorem marks_of_letter (h : IsLetterCode c.toNat) : marks [c] = [(true, isSigma c)] := by
  obtain ⟨-, hcased, hkept⟩ := h
  rw [testBit_digits] at hcased hkept
  have hcased' : isCased c = true := hcased
  have hkept' : isCaseIgnorable c = false := hkept
  simp [marks, hcased', hkept']

/-- A letter that a run holds shows what its image shows. -/
theorem marks_image (hrun : run ∈ capitalRuns) (hc : run.holds c.toNat = true) :
    marks [Char.ofNat (run.image c.toNat)] = marks [c] := by
  obtain ⟨hletter, himage, hsigma⟩ := letters_of_holds hrun hc
  have hcode : (Char.ofNat (run.image c.toNat)).toNat = run.image c.toNat := by
    rw [Char.ofNat, dif_pos himage.1]
    rfl
  have hsame : isSigma (Char.ofNat (run.image c.toNat)) = isSigma c := by
    rw [isSigma_eq, isSigma_eq, hcode, hsigma]
  rw [← hcode] at himage
  rw [marks_of_letter himage, marks_of_letter hletter, hsame]

theorem toLower_ascii : ∀ n < 128, (Char.ofNat n).toLower = Char.ofNat n ∨
    0x41 ≤ n ∧ n ≤ 0x5A ∧ (Char.ofNat n).toLower = Char.ofNat (n + 32) := by
  decide

/-- What lowercasing does to a character. -/
theorem lowerChar_cases (c : Char) : lowerChar c = [c] ∨ c = 'İ' ∨
    ∃ run ∈ capitalRuns, run.holds c.toNat = true ∧
      lowerChar c = [Char.ofNat (run.image c.toNat)] := by
  unfold lowerChar lowerNonAscii
  split
  · rename_i hascii
    have hlower := toLower_ascii c.toNat hascii
    rw [Char.ofNat_toNat] at hlower
    rcases hlower with hsame | ⟨hlow, hhigh, himage⟩
    · exact Or.inl (by rw [hsame])
    · refine Or.inr (Or.inr ⟨_, List.mem_cons_self, ?_, ?_⟩)
      · simp [CaseRun.holds, hlow, hhigh, Nat.mod_one]
      · rw [himage]
        simp only [CaseRun.image]
        congr
  · split
    · rename_i hc
      exact Or.inr (Or.inl hc)
    · split
      · rename_i run hrun
        have hmem := List.mem_of_find?_eq_some hrun
        have hholds := List.find?_some hrun
        exact Or.inr (Or.inr ⟨run, List.mem_cons_of_mem _ hmem, hholds, rfl⟩)
      · exact Or.inl rfl

@[simp]
theorem marks_append (cs ds : List Char) : marks (cs ++ ds) = marks cs ++ marks ds := by
  simp [marks]

theorem marks_cons (c : Char) (cs : List Char) : marks (c :: cs) = marks [c] ++ marks cs :=
  marks_append [c] cs

@[simp]
theorem marks_reverse (cs : List Char) : marks cs.reverse = (marks cs).reverse := by
  simp [marks]

theorem marks_sigma (h : isSigma c = true) : marks [c] = [(true, true)] := by
  simp only [isSigma, Bool.or_eq_true, decide_eq_true_eq] at h
  rcases h with (rfl | rfl) | rfl <;> decide +kernel

theorem marks_lowerChar (c : Char) : marks (lowerChar c) = marks [c] := by
  rcases lowerChar_cases c with hsame | rfl | ⟨run, hrun, hc, himage⟩
  · rw [hsame]
  -- of the two characters that `İ` becomes the second one is case-ignorable
  · decide +kernel
  · rw [himage, marks_image hrun hc]

theorem marks_foldChars (cs : List Char) : marks (foldChars cs) = marks cs := by
  induction cs with
  | nil => rfl
  | cons c cs ih =>
    rw [foldChars, List.flatMap_cons, marks_append, marks_lowerChar, ← foldChars, ih, ← marks_cons]

theorem marks_lowerAfter (before cs : List Char) : marks (lowerAfter before cs) = marks cs := by
  induction cs generalizing before with
  | nil => rfl
  | cons c cs ih =>
    rw [lowerAfter, marks_append, ih, marks_cons c]
    congr 1
    by_cases hc : c = 'Σ'
    · subst hc
      rw [if_pos rfl, marks_sigma (c := 'Σ') rfl]
      split <;> exact marks_sigma rfl
    · rw [if_neg hc, marks_lowerChar]

theorem marks_lowerChars (cs : List Char) : marks (lowerChars cs) = marks cs :=
  marks_lowerAfter [] cs

/-- The first mark tells whether a text meets a cased character first. -/
theorem meetsCased_eq_marks (cs : List Char) : meetsCased cs = (marks cs).head?.any (·.1) := by
  induction cs with
  | nil => rfl
  | cons c cs ih =>
    by_cases hc : isCaseIgnorable c = true
    · have hmarks : marks (c :: cs) = marks cs := by simp [marks, hc]
      rw [hmarks, ← ih, meetsCased, meetsCased, List.dropWhile_cons_of_pos hc]
    · have hmarks : marks (c :: cs) = (isCased c, isSigma c) :: marks cs := by simp [marks, hc]
      rw [hmarks, meetsCased, List.dropWhile_cons_of_neg hc]
      rfl

theorem meetsCased_congr (h : marks cs = marks ds) : meetsCased cs = meetsCased ds := by
  rw [meetsCased_eq_marks, meetsCased_eq_marks, h]

end TypeSurvey.Text
