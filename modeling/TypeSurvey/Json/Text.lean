/-!
# Strings in JSON text

A string is read from behind its opening quote. Escapes by number give UTF-16 units, so a character
above U+FFFF is written as a pair of surrogates.
-/
namespace TypeSurvey.Json

/-- Whether a text's content is wanted, or only its extent. -/
inductive Rigor where
  | wanted
  | skipped
  deriving DecidableEq, Repr

def hexValue? (c : Char) : Option Nat :=
  if '0' ≤ c && c ≤ '9' then some (c.toNat - '0'.toNat)
  else if 'a' ≤ c && c ≤ 'f' then some (c.toNat - 'a'.toNat + 10)
  else if 'A' ≤ c && c ≤ 'F' then some (c.toNat - 'A'.toNat + 10)
  else none

def quadValue? (a b c d : Char) : Option Nat := do
  return (((← hexValue? a) * 16 + (← hexValue? b)) * 16 + (← hexValue? c)) * 16 + (← hexValue? d)

def isLeadSurrogate (n : Nat) : Bool := 0xD800 ≤ n && n ≤ 0xDBFF

def isTrailSurrogate (n : Nat) : Bool := 0xDC00 ≤ n && n ≤ 0xDFFF

def joinSurrogates (lead trail : Nat) : Char :=
  Char.ofNat ((lead - 0xD800) * 0x400 + (trail - 0xDC00) + 0x10000)

def shortEscape? (c : Char) : Option Char :=
  if c = '"' || c = '\\' || c = '/' then some c
  else if c = 'b' then some '\x08'
  else if c = 'f' then some '\x0c'
  else if c = 'n' then some '\n'
  else if c = 'r' then some '\r'
  else if c = 't' then some '\t'
  else none

def prepend (c : Char) (read : Option (List Char × List Char)) : Option (List Char × List Char) :=
  read.map fun (text, rest) => (c :: text, rest)

/-- A surrogate without its partner is refused in a wanted text and passed over in a skipped one. -/
def readText? (rigor : Rigor) : List Char → Option (List Char × List Char)
  | [] => none
  | '"' :: rest => some ([], rest)
  | '\\' :: 'u' :: a :: b :: c :: d :: rest =>
    match quadValue? a b c d, rigor with
    | none, _ => none
    | some _, .skipped => readText? rigor rest
    | some n, .wanted =>
      if isTrailSurrogate n then none
      else if isLeadSurrogate n then
        match rest with
        | '\\' :: 'u' :: a' :: b' :: c' :: d' :: rest =>
          match quadValue? a' b' c' d' with
          | none => none
          | some m =>
            if isTrailSurrogate m then prepend (joinSurrogates n m) (readText? rigor rest) else none
        | _ => none
      else prepend (Char.ofNat n) (readText? rigor rest)
  | '\\' :: c :: rest =>
    match shortEscape? c with
    | none => none
    | some c => prepend c (readText? rigor rest)
  | c :: rest => if c = '\\' || c.toNat < 0x20 then none else prepend c (readText? rigor rest)

end TypeSurvey.Json
