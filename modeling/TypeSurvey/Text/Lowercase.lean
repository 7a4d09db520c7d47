import TypeSurvey.Text.CaseTable

/-!
# Lowercase text

`foldChars` maps each character to its lowercase on its own. `lowerChars` does the same except for a
capital sigma at the end of a word, which becomes the final form `ς`: one that follows a cased
letter and that no cased letter follows, in both directions looking past case-ignorable characters.
-/
namespace TypeSurvey.Text

def lowerNonAscii (c : Char) : List Char :=
  if c = 'İ' then ['i', '\u0307']
  else
    match lowercaseRuns.find? (·.holds c.toNat) with
    | some run => [Char.ofNat ((c.toNat : Int) + run.shift).toNat]
    | none => [c]

def lowerChar (c : Char) : List Char :=
  if c.toNat < 128 then [c.toLower] else lowerNonAscii c

def foldChars (cs : List Char) : List Char := cs.flatMap lowerChar

def isCased (c : Char) : Bool := inRanges casedRanges c.toNat

def isCaseIgnorable (c : Char) : Bool := inRanges caseIgnorableRanges c.toNat

/-- The first character that is not case-ignorable is cased. -/
def meetsCased (cs : List Char) : Bool :=
  match cs.dropWhile isCaseIgnorable with
  | [] => false
  | c :: _ => isCased c

/-- Lowercase of `cs`, where `before` holds the characters in front of it, nearest first. -/
def lowerAfter (before : List Char) : List Char → List Char
  | [] => []
  | c :: rest =>
    (if c = 'Σ' then [if meetsCased before && !meetsCased rest then 'ς' else 'σ'] else lowerChar c)
      ++ lowerAfter (c :: before) rest

def lowerChars (cs : List Char) : List Char := lowerAfter [] cs

end TypeSurvey.Text
