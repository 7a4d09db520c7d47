import TypeSurvey.Json.Number
import TypeSurvey.Json.Text

/-!
# JSON values

`readToken?` reads a scalar whole and a container's opening bracket alone; `readValue?` reads a
whole value whose containers nest at most `depth` deep. Both skip blanks in front and return what
follows.
-/
namespace TypeSurvey.Json

inductive Token where
  | null
  | bool (b : Bool)
  | number (n : Number)
  | text (s : String)
  | openArray
  | openObject

inductive Value where
  | null
  | bool (b : Bool)
  | number (n : Number)
  | text (s : String)
  | array (items : List Value)
  | object (members : List (String × Value))

def isGap (c : Char) : Bool := c = ' ' || c = '\n' || c = '\t' || c = '\r'

def skipGap (cs : List Char) : List Char := cs.dropWhile isGap

/-- In a skipped text a number has no value, and so no range. -/
def readNumber? (rigor : Rigor) (cs : List Char) : Option (Number × List Char) := do
  let (t, rest) ← NumberText.scan? cs
  match rigor with
  | .wanted => return (← t.value?, rest)
  | .skipped => return (.int 0, rest)

def readToken? (rigor : Rigor) (cs : List Char) : Option (Token × List Char) :=
  match skipGap cs with
  | 'n' :: 'u' :: 'l' :: 'l' :: rest => some (.null, rest)
  | 't' :: 'r' :: 'u' :: 'e' :: rest => some (.bool true, rest)
  | 'f' :: 'a' :: 'l' :: 's' :: 'e' :: rest => some (.bool false, rest)
  | '[' :: rest => some (.openArray, rest)
  | '\x7b' :: rest => some (.openObject, rest)
  | '"' :: rest => (readText? rigor rest).map fun (s, rest) => (.text (String.ofList s), rest)
  | cs => (readNumber? rigor cs).map fun (n, rest) => (.number n, rest)

/-- Elements up to the closing bracket, each after the first with a comma in front. `fuel` bounds
their number. -/
def readMore? {α : Type} (close : Char) (read? : List Char → Option (α × List Char)) :
    (fuel : Nat) → List Char → Option (List α × List Char)
  | 0, _ => none
  | fuel + 1, cs =>
    match skipGap cs with
    | [] => none
    | c :: rest =>
      if c = close then some ([], rest)
      else if c = ',' then do
        let (x, rest) ← read? rest
        let (xs, rest) ← readMore? close read? fuel rest
        return (x :: xs, rest)
      else none

def readElements? {α : Type} (close : Char) (read? : List Char → Option (α × List Char))
    (cs : List Char) : Option (List α × List Char) :=
  match skipGap cs with
  | [] => none
  | c :: rest =>
    if c = close then some ([], rest)
    else do
      let (x, rest) ← read? (c :: rest)
      let (xs, rest) ← readMore? close read? rest.length rest
      return (x :: xs, rest)

/-- A member's name with the colon behind it. -/
def readName? (rigor : Rigor) (cs : List Char) : Option (String × List Char) :=
  match readToken? rigor cs with
  | some (.text name, rest) =>
    match skipGap rest with
    | ':' :: rest => some (name, rest)
    | _ => none
  | _ => none

/-- A value whose elements, if it is a container, are read by `element?`; without that no container
is accepted. -/
def readWith? (rigor : Rigor) (element? : Option (List Char → Option (Value × List Char)))
    (cs : List Char) : Option (Value × List Char) :=
  match readToken? rigor cs, element? with
  | none, _ => none
  | some (.null, rest), _ => some (.null, rest)
  | some (.bool b, rest), _ => some (.bool b, rest)
  | some (.number n, rest), _ => some (.number n, rest)
  | some (.text s, rest), _ => some (.text s, rest)
  | some (.openArray, _), none => none
  | some (.openArray, rest), some read? =>
    (readElements? ']' read? rest).map fun (items, rest) => (.array items, rest)
  | some (.openObject, _), none => none
  | some (.openObject, rest), some read? =>
    let readMember? (cs : List Char) := do
      let (name, rest) ← readName? rigor cs
      let (v, rest) ← read? rest
      return ((name, v), rest)
    (readElements? '\x7d' readMember? rest).map fun (members, rest) => (.object members, rest)

def readValue? (rigor : Rigor) : (depth : Nat) → List Char → Option (Value × List Char)
  | 0 => readWith? rigor none
  | depth + 1 => readWith? rigor (some (readValue? rigor depth))

/-- The rest of a text behind a value that is not wanted, however deep it nests. -/
def skipValue? (cs : List Char) : Option (List Char) :=
  (readValue? .skipped cs.length cs).map Prod.snd

end TypeSurvey.Json
