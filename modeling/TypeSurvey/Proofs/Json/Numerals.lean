import TypeSurvey.Proofs.Json.Grammar

/-!
# Reading numbers

A number is taken apart as it was written, provided that what follows does not go on with it: no
digit, no point and no letter of an exponent. Its value is an integer exactly if it is written as
one that fits 64 bits.
-/
namespace TypeSurvey.Json

variable {t : NumberText} {whole fs ps cs ds rest : List Char} {fraction : Option (List Char)}
  {power : Option (Bool × List Char)}

def NoDigit (rest : List Char) : Prop := ∀ c ∈ rest.head?, c.isDigit = false

/-- No number goes on with this text. -/
structure Ends (rest : List Char) : Prop where
  digit : NoDigit rest
  point : ∀ c ∈ rest.head?, c ≠ '.'
  letter : ∀ c ∈ rest.head?, c ≠ 'e' ∧ c ≠ 'E'

theorem ends_nil : Ends [] := by
  constructor <;> simp [NoDigit]

theorem ends_cons {c : Char} (h : c = ',' ∨ c = ']' ∨ c = '\x7d' ∨ isGap c = true) :
    Ends (c :: rest) := by
  have hc : c.isDigit = false ∧ c ≠ '.' ∧ c ≠ 'e' ∧ c ≠ 'E' := by
    simp only [isGap, Bool.or_eq_true, decide_eq_true_eq] at h
    rcases h with rfl | rfl | rfl | ((rfl | rfl) | rfl) | rfl <;> decide
  constructor <;> simp [NoDigit, hc]

/-- Gaps end a number like what comes behind them. -/
theorem Gap.ends {g : List Char} (h : Gap g) (hrest : Ends rest) : Ends (g ++ rest) := by
  cases g with
  | nil => exact hrest
  | cons c g => exact ends_cons (Or.inr (Or.inr (Or.inr (h c List.mem_cons_self))))

theorem takeDigits_append (h : Digits ds) (hrest : NoDigit rest) :
    takeDigits (ds ++ rest) = (ds, rest) := by
  have hstop : rest.takeWhile Char.isDigit = [] ∧ rest.dropWhile Char.isDigit = rest := by
    cases rest with
    | nil => exact ⟨rfl, rfl⟩
    | cons c rest =>
      have hc : c.isDigit = false := hrest c rfl
      simp [hc]
  rw [takeDigits, List.takeWhile_append_of_pos h.digit, List.dropWhile_append_of_pos h.digit,
    hstop.1, hstop.2, List.append_nil]

theorem scanWhole?_append (h : WholeText whole) (hrest : NoDigit rest) :
    scanWhole? (whole ++ rest) = some (whole, rest) := by
  rw [scanWhole?, takeDigits_append h.toDigits hrest]
  match whole, h with
  | [], h => exact absurd rfl h.nonempty
  | [c], h => simp
  | c :: d :: whole, h =>
    have hc : c ≠ '0' := by
      rintro rfl
      simpa using h.lead rfl
    simp [hc]

theorem scanFraction?_append (h : FractionText fraction fs) (hdigit : NoDigit rest)
    (hpoint : ∀ c ∈ rest.head?, c ≠ '.') : scanFraction? (fs ++ rest) = some (fraction, rest) := by
  cases h with
  | absent =>
    cases rest with
    | nil => rfl
    | cons c rest =>
      have hc : c ≠ '.' := hpoint c rfl
      simp [scanFraction?, hc]
  | @digits ds hfraction =>
    obtain ⟨d, ds, rfl⟩ := List.exists_cons_of_ne_nil hfraction.nonempty
    rw [List.cons_append, scanFraction?, takeDigits_append hfraction hdigit]

theorem scanPower?_append (h : PowerText power ps) (hrest : Ends rest) :
    scanPower? (ps ++ rest) = some (power, rest) := by
  cases h with
  | absent =>
    cases rest with
    | nil => rfl
    | cons c rest =>
      obtain ⟨hlower, hupper⟩ := hrest.letter c rfl
      simp [scanPower?, hlower, hupper]
  | @digits e isNegative sign ds letter signText hpower =>
    obtain ⟨d, ds, rfl⟩ := List.exists_cons_of_ne_nil hpower.nonempty
    have hsign : d ≠ '-' ∧ d ≠ '+' := by
      have hd := hpower.digit d List.mem_cons_self
      constructor <;> rintro rfl <;> simp at hd
    have htake : takeDigits (d :: (ds ++ rest)) = (d :: ds, rest) :=
      takeDigits_append hpower hrest.digit
    have hletter : (e = 'e' || e = 'E') = true := by simpa using letter
    cases signText <;> simp [scanPower?, hletter, hsign, htake]

theorem PowerText.front (h : PowerText power ps) (hrest : Ends rest) :
    NoDigit (ps ++ rest) ∧ ∀ c ∈ (ps ++ rest).head?, c ≠ '.' := by
  cases h with
  | absent => exact ⟨hrest.digit, hrest.point⟩
  | digits letter => rcases letter with rfl | rfl <;> simp [NoDigit]

theorem FractionText.front (h : FractionText fraction fs) (hrest : NoDigit rest) :
    NoDigit (fs ++ rest) := by
  cases h with
  | absent => exact hrest
  | digits => simp [NoDigit]

/-- A number is no sign or a minus, and then a digit. -/
theorem Numeral.front (h : Numeral t cs) :
    ∃ c rest, cs = c :: rest ∧ (c = '-' ∨ c.isDigit = true) := by
  cases h with
  | @parts isNegative whole fs ps _ _ wholeText =>
    obtain ⟨d, ds, rfl⟩ := List.exists_cons_of_ne_nil wholeText.nonempty
    cases isNegative with
    | true => exact ⟨'-', _, rfl, Or.inl rfl⟩
    | false => exact ⟨d, _, rfl, Or.inr (wholeText.digit d List.mem_cons_self)⟩

/-- A number is taken apart as it was written. -/
theorem scan?_append (h : Numeral t cs) (hrest : Ends rest) :
    NumberText.scan? (cs ++ rest) = some (t, rest) := by
  cases h with
  | @parts isNegative whole fs ps _ _ wholeText fractionText powerText =>
    obtain ⟨hdigit, hpoint⟩ := powerText.front hrest
    have hwhole : scanWhole? (whole ++ (fs ++ (ps ++ rest))) = some (whole, fs ++ (ps ++ rest)) :=
      scanWhole?_append wholeText (fractionText.front hdigit)
    have hfraction := scanFraction?_append fractionText hdigit hpoint
    have hpower := scanPower?_append powerText hrest
    cases isNegative with
    | true => simp [NumberText.scan?, hwhole, hfraction, hpower]
    | false =>
      obtain ⟨d, ds, rfl⟩ := List.exists_cons_of_ne_nil wholeText.nonempty
      have hsign : d ≠ '-' := by
        rintro rfl
        simpa using wholeText.digit '-' List.mem_cons_self
      rw [List.cons_append] at hwhole
      simp [NumberText.scan?, hsign, hwhole, hfraction, hpower]

namespace NumberText

variable {n : Int}

/-- The integer that a number is written as. It has no fraction and no exponent, and a zero with a
sign is none. -/
def integer? (t : NumberText) : Option Int :=
  let n := Nat.ofDigitChars 10 t.whole 0
  if t.fraction.isSome || t.power.isSome || (t.isNegative && n = 0) then none
  else some (if t.isNegative then -n else n)

/-- All other numbers are read as doubles. -/
theorem value?_eq_int_iff :
    t.value? = some (.int n) ↔ t.integer? = some n ∧ -0x8000000000000000 ≤ n ∧ n < word := by
  obtain ⟨isNegative, whole, fraction, power⟩ := t
  have hint (p : Prop) [Decidable p] (k : Int) (x? : Option Float) :
      (if p then some (.int k) else x?.map Number.real) = some (.int n) ↔ p ∧ k = n := by
    by_cases hp : p <;> cases x? <;> simp [hp]
  have hwhole : whole.foldl (fun n c => 10 * n + digitValue c) 0 =
      Nat.ofDigitChars 10 whole 0 := rfl
  simp only [value?, integer?, hwhole]
  generalize Nat.ofDigitChars 10 whole 0 = m
  cases fraction <;> cases power <;> cases isNegative <;> simp
  case none.none.false =>
    rw [hint, word]
    omega
  case none.none.true =>
    rw [hint, word]
    omega

end NumberText

end TypeSurvey.Json
