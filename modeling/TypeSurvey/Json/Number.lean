/-!
# Numbers in JSON text

`NumberText.scan?` takes the longest number at the front of a text apart. `NumberText.value?` gives
it a value: an integer when it is written as one and fits 64 bits, otherwise a double, and nothing
when it is too large for one.
-/
namespace TypeSurvey.Json

/-- A number as written; `power` is the exponent's sign (true when negative) with its digits. -/
structure NumberText where
  isNegative : Bool
  whole : List Char
  fraction : Option (List Char)
  power : Option (Bool × List Char)
  deriving DecidableEq, Repr

inductive Number where
  | int (n : Int)
  | real (x : Float)

def takeDigits (cs : List Char) : List Char × List Char :=
  (cs.takeWhile Char.isDigit, cs.dropWhile Char.isDigit)

/-- A lone zero, or digits that begin with another one. -/
def scanWhole? (cs : List Char) : Option (List Char × List Char) :=
  match takeDigits cs with
  | ([], _) => none
  | ('0' :: _ :: _, _) => none
  | (digits, rest) => some (digits, rest)

def scanFraction? : List Char → Option (Option (List Char) × List Char)
  | '.' :: rest =>
    match takeDigits rest with
    | ([], _) => none
    | (digits, rest) => some (some digits, rest)
  | cs => some (none, cs)

def scanPower? (cs : List Char) : Option (Option (Bool × List Char) × List Char) :=
  let signed (isNegative : Bool) (rest : List Char) :=
    match takeDigits rest with
    | ([], _) => none
    | (digits, rest) => some (some (isNegative, digits), rest)
  match cs with
  | c :: rest =>
    if c = 'e' || c = 'E' then
      match rest with
      | '-' :: rest => signed true rest
      | '+' :: rest => signed false rest
      | _ => signed false rest
    else some (none, cs)
  | [] => some (none, cs)

namespace NumberText

def scan? (cs : List Char) : Option (NumberText × List Char) := do
  let (isNegative, cs) := match cs with
    | '-' :: rest => (true, rest)
    | _ => (false, cs)
  let (whole, cs) ← scanWhole? cs
  let (fraction, cs) ← scanFraction? cs
  let (power, cs) ← scanPower? cs
  return (⟨isNegative, whole, fraction, power⟩, cs)

def digitValue (c : Char) : Nat := c.toNat - '0'.toNat

/-- The number of sixty-four bit words, `2 ^ 64`. -/
def word : Nat := 0x10000000000000000

/-- Appends digits to `n` while it stays below `2 ^ 64`; the second part is what was left over. -/
def absorb (n : Nat) : List Char → Nat × List Char
  | [] => (n, [])
  | c :: rest =>
    if 10 * n + digitValue c < word then absorb (10 * n + digitValue c) rest else (n, c :: rest)

/-- Divides by powers of ten that are doubles themselves, at most `10 ^ 308` at a time. -/
def scaleDown (x : Float) (n : Nat) : Float :=
  if n ≤ 308 then x / Float.ofScientific 1 false n
  else if x == 0 then x
  else scaleDown (x / 1e308) (n - 308)
termination_by n

/-- `significand · 10 ^ power`, rounded once for each step; nothing when it leaves the range of
doubles. -/
def scale? (significand : Nat) (power : Int) : Option Float :=
  let x := Float.ofNat significand
  if power < 0 then some (scaleDown x (-power).toNat)
  else if 308 < power then if significand = 0 then some x else none
  else
    let scaled := x * Float.ofScientific 1 false power.toNat
    if scaled.isInf then none else some scaled

/-- A sixty-four bit significand keeps the digits that fit; further whole digits only raise the
power of ten, and further digits of the fraction are dropped. -/
def toReal? (t : NumberText) : Option Float := do
  let (lead, extra) := absorb 0 t.whole
  let fraction := t.fraction.getD []
  let (significand, dropped) := absorb lead fraction
  let start : Int := extra.length - (fraction.length - dropped.length : Nat)
  let magnitude ← match t.power with
    | none => scale? significand start
    | some (isNegative, digits) =>
      let power := digits.foldl (fun n c => 10 * n + digitValue c) 0
      if power < 0x80000000 then
        scale? significand (if isNegative then start - power else start + power)
      else if significand = 0 || isNegative then some 0
      else none
  return if t.isNegative then -magnitude else magnitude

/-- Integers lie below `2 ^ 64` and not below `-2 ^ 63`; zero with a sign is a double. -/
def value? (t : NumberText) : Option Number :=
  let n := t.whole.foldl (fun n c => 10 * n + digitValue c) 0
  let isInteger := t.fraction.isNone && t.power.isNone
  if isInteger && !t.isNegative && n < word then some (.int n)
  else if isInteger && t.isNegative && 0 < n && 2 * n ≤ word then some (.int (-n))
  else t.toReal?.map .real

end NumberText

end TypeSurvey.Json
