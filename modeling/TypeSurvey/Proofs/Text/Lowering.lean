import TypeSurvey.Text.Lowercase

/-!
# Lowercase of texts and of characters

Lowercasing a whole text differs from lowercasing its characters one by one at a capital sigma and
nowhere else. Neither changes the length of the other's result, and dots come from dots alone.
-/
namespace TypeSurvey.Text

variable {c : Char} {cs ds before : List Char}

theorem lowerChar_sigma : lowerChar 'Σ' = ['σ'] := by decide +kernel

theorem lowerChar_ne_nil (c : Char) : lowerChar c ≠ [] := by
  unfold lowerChar lowerNonAscii
  repeat' split
  all_goals simp

theorem foldChars_eq_nil : foldChars cs = [] ↔ cs = [] := by
  cases cs with
  | nil => simp [foldChars]
  | cons c cs => simp [foldChars, lowerChar_ne_nil]

theorem length_lowerAfter (before cs : List Char) :
    (lowerAfter before cs).length = (foldChars cs).length := by
  induction cs generalizing before with
  | nil => rfl
  | cons c cs ih =>
    rw [lowerAfter, foldChars, List.flatMap_cons, List.length_append, List.length_append, ih]
    by_cases hc : c = 'Σ'
    · subst hc
      rw [if_pos rfl, lowerChar_sigma]
      rfl
    · rw [if_neg hc]
      rfl

/-- Texts that agree character by character have lowercase forms of one length. -/
theorem length_lowerChars_congr (h : foldChars cs = foldChars ds) :
    (lowerChars cs).length = (lowerChars ds).length := by
  rw [lowerChars, lowerChars, length_lowerAfter, length_lowerAfter, h]

/-- It is enough that no capital sigma ends a word. -/
theorem lowerAfter_eq_foldChars (h : ∀ front rest, cs = front ++ 'Σ' :: rest →
    meetsCased (front.reverse ++ before) = true → meetsCased rest = true) :
    lowerAfter before cs = foldChars cs := by
  induction cs generalizing before with
  | nil => rfl
  | cons c cs ih =>
    have htail : lowerAfter (c :: before) cs = foldChars cs := by
      apply ih
      intro front rest hcs hfront
      exact h (c :: front) rest (by rw [hcs, List.cons_append]) (by simpa using hfront)
    rw [lowerAfter, htail, foldChars, foldChars, List.flatMap_cons]
    congr 1
    by_cases hc : c = 'Σ'
    · subst hc
      rw [if_pos rfl, lowerChar_sigma]
      cases hbefore : meetsCased before with
      | false => rfl
      | true => simp [h [] cs rfl hbefore]
    · rw [if_neg hc]

/-- Without a capital sigma the whole text is its characters. -/
theorem lowerChars_eq_foldChars (h : 'Σ' ∉ cs) : lowerChars cs = foldChars cs :=
  lowerAfter_eq_foldChars fun _ _ hcs => absurd (by simp [hcs]) h

/-- No run of the table ends up at a dot or in front of it. -/
theorem dot_lt_of_mem_lowercaseRuns :
    ∀ run ∈ lowercaseRuns, (46 : Int) < (run.first : Int) + run.shift := by
  decide +kernel

theorem toLower_ne_dot_of_ascii : ∀ n < 128, n ≠ 46 → (Char.ofNat n).toLower ≠ '.' := by
  decide

theorem ofNat_ne_dot {n : Nat} (h : n ≠ 46) : Char.ofNat n ≠ '.' := by
  intro hdot
  by_cases hvalid : n.isValidChar
  · rw [Char.ofNat, dif_pos hvalid] at hdot
    have hn : n = 46 := congrArg Char.toNat hdot
    exact h hn
  · rw [Char.ofNat, dif_neg hvalid] at hdot
    exact absurd hdot (by decide)

theorem dot_not_mem_lowerNonAscii (h : c ≠ '.') : '.' ∉ lowerNonAscii c := by
  unfold lowerNonAscii
  split
  · decide
  · split
    · rename_i run hrun
      have hbound := dot_lt_of_mem_lowercaseRuns run (List.mem_of_find?_eq_some hrun)
      have hholds := List.find?_some hrun
      simp only [CaseRun.holds, Bool.and_eq_true, decide_eq_true_eq] at hholds
      have hne : ((c.toNat : Int) + run.shift).toNat ≠ 46 := by omega
      simpa using (ofNat_ne_dot hne).symm
    · simpa using h.symm

theorem dot_mem_lowerChar : '.' ∈ lowerChar c ↔ c = '.' := by
  constructor
  · intro h
    by_cases hc : c = '.'
    · exact hc
    exfalso
    unfold lowerChar at h
    split at h
    · rename_i hascii
      have hcode : c.toNat ≠ 46 := fun hcode => hc (by rw [← Char.ofNat_toNat c, hcode])
      have hlower := toLower_ne_dot_of_ascii c.toNat hascii hcode
      rw [Char.ofNat_toNat] at hlower
      exact hlower (List.mem_singleton.mp h).symm
    · exact dot_not_mem_lowerNonAscii hc h
  · rintro rfl
    decide

theorem dot_mem_foldChars : '.' ∈ foldChars cs ↔ '.' ∈ cs := by
  simp only [foldChars, List.mem_flatMap, dot_mem_lowerChar]
  constructor
  · rintro ⟨c, hc, rfl⟩
    exact hc
  · intro h
    exact ⟨'.', h, rfl⟩

/-- The lowercase of a text has a dot exactly if the text has one. -/
theorem dot_mem_lowerChars : '.' ∈ lowerChars cs ↔ '.' ∈ cs := by
  suffices hafter : ∀ before, '.' ∈ lowerAfter before cs ↔ '.' ∈ cs from hafter []
  induction cs with
  | nil => simp [lowerAfter]
  | cons c cs ih =>
    intro before
    rw [lowerAfter, List.mem_append, ih, List.mem_cons]
    apply or_congr_left
    by_cases hc : c = 'Σ'
    · subst hc
      rw [if_pos rfl]
      split <;> decide
    · rw [if_neg hc, dot_mem_lowerChar]
      exact eq_comm

end TypeSurvey.Text
