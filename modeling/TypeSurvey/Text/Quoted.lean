import TypeSurvey.Text.PrintTable

/-!
# Quoted text

A quoted text stands between double quotes. Quotes, backslashes and the usual controls have a
two-character escape; a character without a glyph of its own is given by its number in lowercase
hexadecimal.
-/
namespace TypeSurvey.Text

def hexDigits (n : Nat) : List Char := Nat.toDigits 16 n

def isHidden (c : Char) : Bool := inRanges hiddenRanges c.toNat

def quoteChar (c : Char) : List Char :=
  if c = '"' then ['\\', '"']
  else if c = '\\' then ['\\', '\\']
  else if c = '\n' then ['\\', 'n']
  else if c = '\r' then ['\\', 'r']
  else if c = '\t' then ['\\', 't']
  else if c.toNat = 0 then ['\\', '0']
  else if 0x20 ≤ c.toNat && c.toNat < 0x7F then [c]
  else if isHidden c then ['\\', 'u', '\x7b'] ++ hexDigits c.toNat ++ ['\x7d']
  else [c]

def quote (s : String) : String :=
  String.ofList ('"' :: s.toList.flatMap quoteChar ++ ['"'])

end TypeSurvey.Text
