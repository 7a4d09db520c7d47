import TypeSurvey.Proofs.Json.Grammar

/-!
# Reading strings

However a string is written, it is read as its characters, and the reader stops behind its closing
quote.
-/
namespace TypeSurvey.Json

variable {n : Nat} {c : Char} {s cs ds rest : List Char}

theorem hexValue?_of_hexDigit (h : HexDigit n c) : hexValue? c = some n := by
  have hlower : ∀ n < 16, hexValue? n.digitChar = some n := by decide
  have hupper : ∀ n < 16, hexValue? n.digitChar.toUpper = some n := by decide
  cases h with
  | lower small => exact hlower n small
  | upper small => exact hupper n small

theorem exists_of_quad (h : Quad n ds) :
    ∃ i j k l, ds = [i, j, k, l] ∧ quadValue? i j k l = some n := by
  cases h with
  | digits first second third fourth =>
    refine ⟨_, _, _, _, rfl, ?_⟩
    simp [quadValue?, hexValue?_of_hexDigit first, hexValue?_of_hexDigit second,
      hexValue?_of_hexDigit third, hexValue?_of_hexDigit fourth]

/-- A character has no surrogate for its code point. -/
theorem not_isSurrogate (c : Char) :
    isLeadSurrogate c.toNat = false ∧ isTrailSurrogate c.toNat = false := by
  have hvalid : c.toNat < 0xD800 ∨ 0xDFFF < c.toNat ∧ c.toNat < 0x110000 := c.valid
  simp only [isLeadSurrogate, isTrailSurrogate, Bool.and_eq_false_iff, decide_eq_false_iff_not]
  omega

theorem shortEscape?_of_mem {letter : Char} (h : (letter, c) ∈ shortEscapes) :
    shortEscape? letter = some c := by
  have hall : ∀ e ∈ shortEscapes, shortEscape? e.1 = some e.2 := by decide
  exact hall _ h

/-- The two UTF-16 units of a character above U+FFFF are a lead surrogate and a trail surrogate, and
make up the character again. -/
theorem surrogates_of_high (h : 0x10000 ≤ c.toNat) :
    let lead := 0xD800 + (c.toNat - 0x10000) / 0x400
    let trail := 0xDC00 + (c.toNat - 0x10000) % 0x400
    isTrailSurrogate lead = false ∧ isLeadSurrogate lead = true ∧ isTrailSurrogate trail = true ∧
      joinSurrogates lead trail = c := by
  intro lead trail
  have hvalid : c.toNat < 0xD800 ∨ 0xDFFF < c.toNat ∧ c.toNat < 0x110000 := c.valid
  have hjoined : (lead - 0xD800) * 0x400 + (trail - 0xDC00) + 0x10000 = c.toNat := by omega
  refine ⟨?_, ?_, ?_, ?_⟩
  · simp only [isTrailSurrogate, Bool.and_eq_false_iff, decide_eq_false_iff_not]
    omega
  · simp only [isLeadSurrogate, Bool.and_eq_true, decide_eq_true_eq]
    omega
  · simp only [isTrailSurrogate, Bool.and_eq_true, decide_eq_true_eq]
    omega
  · rw [joinSurrogates, hjoined, Char.ofNat_toNat]

theorem readText?_char (h : CharText c cs) (rest : List Char) :
    readText? .wanted (cs ++ rest) = prepend c (readText? .wanted rest) := by
  cases h with
  | plain quote backslash control =>
    have hcontrol : ¬c.toNat < 0x20 := by omega
    simp [readText?, backslash, hcontrol]
  | @short letter escape =>
    have hletter : letter ≠ 'u' := by
      rintro rfl
      simp [shortEscapes] at escape
    simp [readText?, hletter, shortEscape?_of_mem escape]
  | unit digits =>
    obtain ⟨i, j, k, l, rfl, hunit⟩ := exists_of_quad digits
    obtain ⟨hlead, htrail⟩ := not_isSurrogate c
    rw [readText?.eq_def]
    simp [hunit, hlead, htrail]
  | pair high lead trail =>
    obtain ⟨i, j, k, l, rfl, hlead⟩ := exists_of_quad lead
    obtain ⟨i', j', k', l', rfl, htrail⟩ := exists_of_quad trail
    obtain ⟨hone, htwo, hthree, hjoined⟩ := surrogates_of_high high
    simp [readText?, hlead, htrail, hone, htwo, hthree, hjoined]

theorem readText?_of_stringText (h : StringText s cs) (rest : List Char) :
    readText? .wanted (cs ++ rest) = some (s, rest) := by
  induction h with
  | close => rfl
  | char first _ ih => rw [List.append_assoc, readText?_char first, ih, prepend, Option.map_some]

end TypeSurvey.Json
