import TypeSurvey.Json.Value

/-!
# The grammar of JSON

A tree is a JSON value as it is written, with its numbers left as they stand. `Written` tells in
which ways a tree can be written: with any gaps between its tokens, any escapes in its strings and
any digits in its numbers. `Tree.value?` is what a tree means where containers may nest so deep.
-/
namespace TypeSurvey.Json

inductive Tree where
  | null
  | bool (b : Bool)
  | number (t : NumberText)
  | text (s : String)
  | array (items : List Tree)
  | object (members : List (String × Tree))

/-- What may stand between two tokens. -/
def Gap (cs : List Char) : Prop := ∀ c ∈ cs, isGap c = true

/-- The letters of the short escapes, each with the character that it stands for. -/
def shortEscapes : List (Char × Char) :=
  [('"', '"'), ('\\', '\\'), ('/', '/'), ('b', '\x08'), ('f', '\x0c'), ('n', '\n'), ('r', '\r'),
   ('t', '\t')]

/-- A digit of base sixteen, its letters in either case. -/
inductive HexDigit : Nat → Char → Prop
  | lower {n : Nat} (small : n < 16) : HexDigit n n.digitChar
  | upper {n : Nat} (small : n < 16) : HexDigit n n.digitChar.toUpper

/-- The four digits of a UTF-16 unit. -/
inductive Quad : Nat → List Char → Prop
  | digits {i j k l : Nat} {a b c d : Char} (first : HexDigit i a) (second : HexDigit j b)
      (third : HexDigit k c) (fourth : HexDigit l d) :
      Quad (((i * 16 + j) * 16 + k) * 16 + l) [a, b, c, d]

/-- The ways to write one character of a string. One above U+FFFF is escaped as two UTF-16 units. -/
inductive CharText (c : Char) : List Char → Prop
  | plain (quote : c ≠ '"') (backslash : c ≠ '\\') (control : 0x20 ≤ c.toNat) : CharText c [c]
  | short {letter : Char} (escape : (letter, c) ∈ shortEscapes) : CharText c ['\\', letter]
  | unit {ds : List Char} (digits : Quad c.toNat ds) : CharText c ('\\' :: 'u' :: ds)
  | pair {ds es : List Char} (high : 0x10000 ≤ c.toNat)
      (lead : Quad (0xD800 + (c.toNat - 0x10000) / 0x400) ds)
      (trail : Quad (0xDC00 + (c.toNat - 0x10000) % 0x400) es) :
      CharText c ('\\' :: 'u' :: ds ++ '\\' :: 'u' :: es)

/-- A string from behind its opening quote, with its closing quote. -/
inductive StringText : List Char → List Char → Prop
  | close : StringText [] ['"']
  | char {c : Char} {s cs ds : List Char} (first : CharText c cs) (rest : StringText s ds) :
      StringText (c :: s) (cs ++ ds)

/-- One digit or more. -/
structure Digits (ds : List Char) : Prop where
  nonempty : ds ≠ []
  digit : ∀ c ∈ ds, c.isDigit = true

/-- A whole part has no zero in front of other digits. -/
structure WholeText (ds : List Char) : Prop extends Digits ds where
  lead : ds.head? = some '0' → ds = ['0']

inductive FractionText : Option (List Char) → List Char → Prop
  | absent : FractionText none []
  | digits {ds : List Char} (fraction : Digits ds) : FractionText (some ds) ('.' :: ds)

/-- The sign of an exponent, and whether it is negative. -/
inductive SignText : Bool → List Char → Prop
  | none : SignText false []
  | plus : SignText false ['+']
  | minus : SignText true ['-']

inductive PowerText : Option (Bool × List Char) → List Char → Prop
  | absent : PowerText none []
  | digits {e : Char} {isNegative : Bool} {sign ds : List Char} (letter : e = 'e' ∨ e = 'E')
      (signText : SignText isNegative sign) (power : Digits ds) :
      PowerText (some (isNegative, ds)) (e :: (sign ++ ds))

/-- A number with its parts. -/
inductive Numeral : NumberText → List Char → Prop
  | parts {isNegative : Bool} {whole fs ps : List Char} {fraction : Option (List Char)}
      {power : Option (Bool × List Char)} (wholeText : WholeText whole)
      (fractionText : FractionText fraction fs) (powerText : PowerText power ps) :
      Numeral ⟨isNegative, whole, fraction, power⟩
        ((if isNegative then ['-'] else []) ++ (whole ++ (fs ++ ps)))

section Containers

variable {α : Type} (R : α → List Char → Prop) (close : Char)

/-- What follows an element: others behind commas, and the closing bracket. -/
inductive Others : List α → List Char → Prop
  | close {g : List Char} (gap : Gap g) : Others [] (g ++ [close])
  | comma {x : α} {xs : List α} {g g' cs ds : List Char} (before : Gap g) (after : Gap g')
      (item : R x cs) (others : Others xs ds) : Others (x :: xs) (g ++ ',' :: (g' ++ (cs ++ ds)))

/-- The elements of a container from behind its opening bracket. -/
inductive Elements : List α → List Char → Prop
  | empty {g : List Char} (gap : Gap g) : Elements [] (g ++ [close])
  | first {x : α} {xs : List α} {g cs ds : List Char} (gap : Gap g) (item : R x cs)
      (others : Others R close xs ds) : Elements (x :: xs) (g ++ (cs ++ ds))

/-- A member of an object. -/
inductive Member : String × α → List Char → Prop
  | pair {name : String} {x : α} {ns g g' cs : List Char} (nameText : StringText name.toList ns)
      (before : Gap g) (after : Gap g') (item : R x cs) :
      Member (name, x) ('"' :: (ns ++ (g ++ ':' :: (g' ++ cs))))

end Containers

/-- The ways to write a tree. -/
inductive Written : Tree → List Char → Prop
  | nullWord : Written .null ['n', 'u', 'l', 'l']
  | trueWord : Written (.bool true) ['t', 'r', 'u', 'e']
  | falseWord : Written (.bool false) ['f', 'a', 'l', 's', 'e']
  | number {t : NumberText} {cs : List Char} (numeral : Numeral t cs) : Written (.number t) cs
  | text {s : String} {cs : List Char} (string : StringText s.toList cs) :
      Written (.text s) ('"' :: cs)
  | array {items : List Tree} {cs : List Char} (elements : Elements Written ']' items cs) :
      Written (.array items) ('[' :: cs)
  | object {members : List (String × Tree)} {cs : List Char}
      (elements : Elements (Member Written) '\x7d' members cs) :
      Written (.object members) ('\x7b' :: cs)

/-- A text that is one value, with gaps around it. -/
inductive Document (v : Tree) (text : String) : Prop
  | whole {g cs g' : List Char} (before : Gap g) (written : Written v cs) (after : Gap g')
      (text_eq : text.toList = g ++ (cs ++ g')) : Document v text

/-- A character that needs no escape. -/
def needsNoEscape (c : Char) : Bool := c ≠ '"' && c ≠ '\\' && 0x20 ≤ c.toNat

theorem StringText.plain {s : List Char} (h : s.all needsNoEscape = true) :
    StringText s (s ++ ['"']) := by
  induction s with
  | nil => exact .close
  | cons c s ih =>
    obtain ⟨hchar, hrest⟩ : needsNoEscape c = true ∧ s.all needsNoEscape = true := by simpa using h
    obtain ⟨⟨hquote, hbackslash⟩, hcontrol⟩ : (c ≠ '"' ∧ c ≠ '\\') ∧ 0x20 ≤ c.toNat := by
      simpa [needsNoEscape] using hchar
    have hstring : StringText (c :: s) ([c] ++ (s ++ ['"'])) :=
      .char (.plain hquote hbackslash hcontrol) (ih hrest)
    exact hstring

theorem gap_nil : Gap [] := fun _ hc => absurd hc List.not_mem_nil

/-- An object with one member, without gaps. -/
theorem Written.single {v : Tree} {name : String} {ns cs : List Char}
    (nameText : StringText name.toList ns) (written : Written v cs) :
    Written (.object [(name, v)]) ('\x7b' :: '"' :: (ns ++ ':' :: (cs ++ ['\x7d']))) := by
  have hmember : Member Written (name, v) ('"' :: (ns ++ ':' :: cs)) :=
    .pair nameText gap_nil gap_nil written
  have helements : Elements (Member Written) '\x7d' [(name, v)] _ :=
    .first gap_nil hmember (.close gap_nil)
  simpa using Written.object helements

theorem document_of_written {v : Tree} {text : String} {cs : List Char} (h : Written v cs)
    (htext : text.toList = cs) : Document v text :=
  ⟨gap_nil, h, gap_nil, by simp [htext]⟩

/-- The value of a tree whose containers nest at most `depth` deep, with all numbers in range. -/
def Tree.value? : (depth : Nat) → Tree → Option Value
  | _, .null => some .null
  | _, .bool b => some (.bool b)
  | _, .number t => t.value?.map .number
  | _, .text s => some (.text s)
  | 0, .array _ => none
  | 0, .object _ => none
  | depth + 1, .array items => (items.mapM (value? depth)).map .array
  | depth + 1, .object members =>
    (members.mapM fun m => (value? depth m.2).map (m.1, ·)).map .object

end TypeSurvey.Json
