/-!
# Shortest decimal text of a double

A finite double is `mantissa · 2 ^ exponent`. Its shortest decimal is a multiple of the largest
power of ten that has one among the reals that round to the double, and of two such multiples the
nearer, or the even one if both are as near. All arithmetic is on natural numbers.
-/
namespace TypeSurvey.Decimal

/-- The decimal `digits · 10 ^ exponent`. -/
structure Scaled where
  digits : Nat
  exponent : Int
  deriving DecidableEq, Repr

/-- The positive double `mantissa · 2 ^ exponent`; `isLowest` when the gap below it is half the gap
above. -/
structure Binary where
  mantissa : Nat
  exponent : Int
  isLowest : Bool
  deriving DecidableEq, Repr

/-- The mantissa's leading bit, which is not stored. -/
def hiddenBit : Nat := 0x10000000000000

def Binary.ofBits (bits : UInt64) : Binary :=
  let fraction := bits.toNat % hiddenBit
  let biased : Nat := bits.toNat / hiddenBit % 0x800
  if biased = 0 then ⟨fraction, -1074, false⟩
  else ⟨hiddenBit + fraction, Int.ofNat biased - 1075, fraction = 0 && biased > 1⟩

/-- `a · 2 ^ e` in units of `10 ^ k`, as a fraction. -/
def ratio (a : Nat) (e k : Int) : Nat × Nat :=
  (a * Nat.pow 2 e.toNat * Nat.pow 10 (-k).toNat, Nat.pow 2 (-e).toNat * Nat.pow 10 k.toNat)

/-- `d · 10 ^ k` rounds to `b`. The ends of the interval do so when the mantissa is even. -/
def roundsTo (b : Binary) (k : Int) (d : Nat) : Bool :=
  let (low, unit) := ratio (4 * b.mantissa - if b.isLowest then 1 else 2) (b.exponent - 2) k
  let (high, _) := ratio (4 * b.mantissa + 2) (b.exponent - 2) k
  if b.mantissa % 2 = 0 then low ≤ d * unit && d * unit ≤ high
  else low < d * unit && d * unit < high

/-- The integer nearest to a fraction; halfway between two of them it is the even one. -/
def nearest (num den : Nat) : Nat :=
  let below := num / den
  let twice := 2 * (num % den)
  if twice < den || twice = den && below % 2 = 0 then below else below + 1

/-- The multiple of `10 ^ k` nearest to `b` that rounds to it. -/
def onGrid? (b : Binary) (k : Int) : Option Nat :=
  let (num, den) := ratio b.mantissa b.exponent k
  let below := num / den
  match roundsTo b k below, roundsTo b k (below + 1) with
  | true, true => some (nearest num den)
  | true, false => some below
  | false, true => some (below + 1)
  | false, false => none

/-- Tries the grids `10 ^ (low + n)`, …, `10 ^ low`. -/
def coarsest (b : Binary) (low : Int) : Nat → Scaled
  | 0 => ⟨(onGrid? b low).getD 0, low⟩
  | n + 1 =>
    match onGrid? b (low + (n + 1)) with
    | some d => ⟨d, low + (n + 1)⟩
    | none => coarsest b low n

/-- From the largest double's power of ten down to below the smallest one's. -/
def shortest (b : Binary) : Scaled := coarsest b (-345) 655

/-- Where positional text ends and how an exponent is written. -/
structure Format where
  lowestPoint : Int
  highestPoint : Int
  plus : String
  deriving DecidableEq, Repr

def zeros (n : Nat) : String := String.ofList (List.replicate n '0')

def Scaled.render (f : Format) (s : Scaled) : String :=
  let digits := Nat.toDigits 10 s.digits
  let point := (digits.length : Int) + s.exponent
  let text := String.ofList
  if 0 ≤ s.exponent && point ≤ f.highestPoint then text digits ++ zeros s.exponent.toNat ++ ".0"
  else if 0 < point && point ≤ f.highestPoint then
    text (digits.take point.toNat) ++ "." ++ text (digits.drop point.toNat)
  else if f.lowestPoint ≤ point && point ≤ 0 then "0." ++ zeros (-point).toNat ++ text digits
  else
    let lead := text (digits.take 1)
    let tail := if digits.length = 1 then "" else "." ++ text (digits.drop 1)
    let power := point - 1
    lead ++ tail ++ "e" ++ (if power < 0 then "-" else f.plus) ++ toString power.natAbs

/-- Text of a finite double, with the sign of a negative zero. -/
def render (f : Format) (x : Float) : String :=
  let sign := if 0x8000000000000000 ≤ x.toBits.toNat then "-" else ""
  let b := Binary.ofBits x.toBits
  sign ++ if b.mantissa = 0 then "0.0" else (shortest b).render f

end TypeSurvey.Decimal
