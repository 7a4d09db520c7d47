import TypeSurvey.Proofs.Json.Numerals
import TypeSurvey.Proofs.Json.Strings

/-!
# Reading values

However a tree is written, its value is read, and the reader stops behind it. Nothing is read if the
tree has no value, because its containers nest too deep or one of its numbers is too large.
-/
namespace TypeSurvey.Json

variable {c : Char} {g cs ds rest : List Char} {rigor : Rigor}

theorem skipGap_append (h : Gap g) (cs : List Char) : skipGap (g ++ cs) = skipGap cs :=
  List.dropWhile_append_of_pos h

theorem skipGap_cons (h : isGap c = false) (cs : List Char) : skipGap (c :: cs) = c :: cs := by
  simp [skipGap, h]

theorem readToken?_gap (h : Gap g) (cs : List Char) :
    readToken? rigor (g ++ cs) = readToken? rigor cs := by
  rw [readToken?, readToken?, skipGap_append h]

theorem readName?_gap (h : Gap g) (cs : List Char) :
    readName? rigor (g ++ cs) = readName? rigor cs := by
  rw [readName?, readName?, readToken?_gap h]

theorem readWith?_gap (h : Gap g) (element? : Option (List Char → Option (Value × List Char)))
    (cs : List Char) : readWith? rigor element? (g ++ cs) = readWith? rigor element? cs := by
  simp only [readWith?, readToken?_gap h]

theorem readValue?_gap (h : Gap g) (depth : Nat) (cs : List Char) :
    readValue? rigor depth (g ++ cs) = readValue? rigor depth cs := by
  cases depth <;> exact readWith?_gap h _ cs

theorem readToken?_text {s : String} (h : StringText s.toList cs) (rest : List Char) :
    readToken? .wanted ('"' :: (cs ++ rest)) = some (.text s, rest) := by
  have htext := readText?_of_stringText h rest
  rw [readToken?, skipGap_cons (by decide)]
  simp [htext]

/-- No other token begins like a number. -/
theorem Numeral.front_ne {t : NumberText} (h : Numeral t cs) :
    ∃ c cs', cs = c :: cs' ∧ ∀ x : Char, (x = '-' || x.isDigit) = false → c ≠ x := by
  obtain ⟨c, cs, rfl, hc⟩ := h.front
  refine ⟨c, cs, rfl, ?_⟩
  rintro x hx rfl
  simp_all

theorem isGap_eq_false_of_ne (h : ∀ x : Char, (x = '-' || x.isDigit) = false → c ≠ x) :
    isGap c = false := by
  have hspace : c ≠ ' ' := h _ (by decide)
  have hline : c ≠ '\n' := h _ (by decide)
  have htab : c ≠ '\t' := h _ (by decide)
  have hreturn : c ≠ '\r' := h _ (by decide)
  simp [isGap, hspace, hline, htab, hreturn]

theorem readToken?_number {t : NumberText} (h : Numeral t cs) (hrest : Ends rest) :
    readToken? .wanted (cs ++ rest) = t.value?.map fun n => (.number n, rest) := by
  have hscan := scan?_append h hrest
  obtain ⟨c, cs, rfl, hother⟩ := h.front_ne
  have hn : c ≠ 'n' := hother _ (by decide)
  have ht : c ≠ 't' := hother _ (by decide)
  have hf : c ≠ 'f' := hother _ (by decide)
  have harray : c ≠ '[' := hother _ (by decide)
  have hobject : c ≠ '\x7b' := hother _ (by decide)
  have hquote : c ≠ '"' := hother _ (by decide)
  rw [List.cons_append] at hscan ⊢
  simp [readToken?, skipGap_cons (isGap_eq_false_of_ne hother), hn, ht, hf, harray, hobject, hquote,
    readNumber?, hscan]
  cases t.value? <;> rfl

/-- The name of a member is read with its colon. -/
theorem readName?_text {name : String} (h : StringText name.toList cs) (hg : Gap g)
    (rest : List Char) :
    readName? .wanted ('"' :: (cs ++ (g ++ ':' :: rest))) = some (name, rest) := by
  have hcolon : isGap ':' = false := by decide
  simp [readName?, readToken?_text h, skipGap_append hg, skipGap_cons hcolon]

section Containers

variable {α β : Type} {close : Char} {R : α → List Char → Prop} {value? : α → Option β}
  {read? : List Char → Option (β × List Char)} {xs : List α}

/-- The bracket that closes a container. -/
def IsClose (close : Char) : Prop := close = ']' ∨ close = '\x7d'

/-- The reader skips gaps and reads the value of an element, or nothing if it has none. -/
structure Reads (close : Char) (R : α → List Char → Prop) (value? : α → Option β)
    (read? : List Char → Option (β × List Char)) : Prop where
  bracket : IsClose close
  gap : ∀ {g : List Char}, Gap g → ∀ cs, read? (g ++ cs) = read? cs
  item : ∀ {x : α} {cs : List Char}, R x cs → ∀ {rest : List Char}, Ends rest →
    read? (cs ++ rest) = (value? x).map (·, rest)
  front : ∀ {x : α} {cs : List Char}, R x cs →
    ∃ c cs', cs = c :: cs' ∧ isGap c = false ∧ c ≠ close

theorem IsClose.not_gap (h : IsClose close) : isGap close = false := by
  rcases h with rfl | rfl <;> rfl

theorem IsClose.ne_comma (h : IsClose close) : ',' ≠ close := by
  rcases h with rfl | rfl <;> decide

theorem Others.ends (hclose : IsClose close) (h : Others R close xs cs) (rest : List Char) :
    Ends (cs ++ rest) := by
  cases h with
  | close gap =>
    rw [List.append_assoc]
    apply gap.ends
    rcases hclose with rfl | rfl <;> exact ends_cons (by simp)
  | comma before =>
    rw [List.append_assoc]
    exact before.ends (ends_cons (Or.inl rfl))

theorem Others.length_lt (h : Others R close xs cs) : xs.length < cs.length := by
  induction h with
  | close => simp
  | comma _ _ _ _ ih =>
    simp only [List.length_cons, List.length_append]
    omega

/-- An element is read, and then the others behind it. -/
theorem bind_read_cons {x : α} (more? : List Char → Option (List β × List Char))
    (hitem : read? cs = (value? x).map (·, ds))
    (hothers : more? ds = (xs.mapM value?).map (·, rest)) :
    ((read? cs).bind fun y => (more? y.2).bind fun ys => some (y.1 :: ys.1, ys.2)) =
      ((x :: xs).mapM value?).map (·, rest) := by
  rw [hitem, List.mapM_cons]
  cases hx : value? x with
  | none => rfl
  | some y =>
    simp only [Option.map_some, Option.bind_some, hothers]
    cases xs.mapM value? <;> rfl

theorem readMore?_others (hread : Reads close R value? read?) (h : Others R close xs cs)
    (rest : List Char) {fuel : Nat} (hfuel : xs.length < fuel) :
    readMore? close read? fuel (cs ++ rest) = (xs.mapM value?).map (·, rest) := by
  induction h generalizing fuel with
  | close gap =>
    obtain ⟨fuel, rfl⟩ := Nat.exists_eq_add_of_lt hfuel
    rw [List.append_assoc]
    simp [readMore?, skipGap_append gap, skipGap_cons hread.bracket.not_gap]
  | @comma x xs g g' cs ds before after item others ih =>
    obtain ⟨fuel, rfl⟩ := Nat.exists_eq_add_of_lt hfuel
    have hcomma : isGap ',' = false := by decide
    have hitem : read? (g' ++ (cs ++ (ds ++ rest))) = (value? x).map (·, ds ++ rest) := by
      rw [hread.gap after]
      exact hread.item item (others.ends hread.bracket rest)
    have hothers : readMore? close read? ((x :: xs).length + fuel) (ds ++ rest) =
        (xs.mapM value?).map (·, rest) := ih (by simp only [List.length_cons]; omega)
    rw [← bind_read_cons (readMore? close read? ((x :: xs).length + fuel)) hitem hothers]
    simp [readMore?, skipGap_append before, skipGap_cons hcomma, hread.bracket.ne_comma]

theorem readElements?_elements (hread : Reads close R value? read?) (h : Elements R close xs cs)
    (rest : List Char) :
    readElements? close read? (cs ++ rest) = (xs.mapM value?).map (·, rest) := by
  cases h with
  | empty gap =>
    rw [List.append_assoc]
    simp [readElements?, skipGap_append gap, skipGap_cons hread.bracket.not_gap]
  | @first x xs g cs ds gap item others =>
    obtain ⟨c, cs, rfl, hgap, hclose⟩ := hread.front item
    have hitem := hread.item item (others.ends hread.bracket rest)
    have hfuel : xs.length < (ds ++ rest).length := by
      rw [List.length_append]
      exact Nat.lt_add_right _ others.length_lt
    rw [← bind_read_cons (fun cs => readMore? close read? cs.length cs) hitem
      (readMore?_others hread others rest hfuel)]
    simp [readElements?, skipGap_append gap, skipGap_cons hgap, hclose]

end Containers

theorem Written.front {v : Tree} (h : Written v cs) :
    ∃ c cs', cs = c :: cs' ∧ isGap c = false ∧ c ≠ ']' := by
  cases h with
  | nullWord | trueWord | falseWord | text | array | object => exact ⟨_, _, rfl, rfl, by decide⟩
  | number numeral =>
    obtain ⟨c, cs, rfl, hother⟩ := numeral.front_ne
    exact ⟨c, cs, rfl, isGap_eq_false_of_ne hother, hother _ (by decide)⟩

/-- A member is read, its name first and then its value. -/
def readMember? (read? : List Char → Option (Value × List Char)) (cs : List Char) :
    Option ((String × Value) × List Char) := do
  let (name, rest) ← readName? .wanted cs
  let (v, rest) ← read? rest
  return ((name, v), rest)

/-- What reads the items of an array reads the values of the members of an object. -/
theorem Reads.member {value? : Tree → Option Value} {read? : List Char → Option (Value × List Char)}
    (h : Reads ']' Written value? read?) :
    Reads '\x7d' (Member Written) (fun m => (value? m.2).map (m.1, ·)) (readMember? read?) where
  bracket := Or.inr rfl
  gap hg cs := by rw [readMember?, readMember?, readName?_gap hg]
  item := by
    rintro ⟨name, v⟩ _ ⟨nameText, before, after, item⟩ rest hrest
    have hname := readName?_text nameText before
    simp only [readMember?, List.cons_append, List.append_assoc, hname, Option.bind_eq_bind,
      Option.bind_some, h.gap after, h.item item hrest]
    cases value? v <;> rfl
  front := by
    rintro _ _ ⟨nameText, before, after, item⟩
    exact ⟨_, _, rfl, rfl, by decide⟩

theorem reads_item (depth : Nat)
    (h : ∀ {v : Tree} {cs rest : List Char}, Written v cs → Ends rest →
      readValue? .wanted depth (cs ++ rest) = (v.value? depth).map (·, rest)) :
    Reads ']' Written (Tree.value? depth) (readValue? .wanted depth) where
  bracket := Or.inl rfl
  gap hg cs := readValue?_gap hg depth cs
  item hwritten _ hrest := h hwritten hrest
  front hwritten := hwritten.front

/-- However a tree is written, its value is read. -/
theorem readValue?_written {v : Tree} (h : Written v cs) (hrest : Ends rest) (depth : Nat) :
    readValue? .wanted depth (cs ++ rest) = (v.value? depth).map (·, rest) := by
  -- what a container holds is read one level less deep, by the same reader
  induction depth using Nat.strongRecOn generalizing v cs rest with
  | ind depth ih =>
    cases h with
    | nullWord | trueWord | falseWord => cases depth <;> rfl
    | text string =>
      have htoken := readToken?_text string rest
      cases depth <;> simp [readValue?, readWith?, htoken, Tree.value?]
    | @number t cs numeral =>
      have htoken := readToken?_number numeral hrest
      cases depth <;> cases hvalue : t.value? <;>
        simp [readValue?, readWith?, htoken, Tree.value?, hvalue]
    | @array items cs elements =>
      have htoken : readToken? .wanted ('[' :: (cs ++ rest)) = some (.openArray, cs ++ rest) := rfl
      cases depth with
      | zero => rfl
      | succ depth =>
        have hread := reads_item depth fun h hrest => ih depth (Nat.lt_succ_self depth) h hrest
        simp only [readValue?, readWith?, List.cons_append, htoken, Tree.value?, Option.map_map,
          readElements?_elements hread elements]
        rfl
    | @object members cs elements =>
      have htoken : readToken? .wanted ('\x7b' :: (cs ++ rest)) =
          some (.openObject, cs ++ rest) := rfl
      cases depth with
      | zero => rfl
      | succ depth =>
        have hread := reads_item depth fun h hrest => ih depth (Nat.lt_succ_self depth) h hrest
        have hmembers := readElements?_elements hread.member elements rest
        simp only [readValue?, readWith?, List.cons_append, htoken, Tree.value?, Option.map_map]
        exact (congrArg (Option.map _) hmembers).trans (Option.map_map _ _ _)

end TypeSurvey.Json
