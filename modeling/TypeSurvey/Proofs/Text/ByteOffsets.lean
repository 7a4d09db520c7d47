import Mathlib.Data.String.Basic
import TypeSurvey.Text.AsciiCase

/-!
# Cutting a text at a byte offset

A text can be cut at a byte offset only where a character begins or the text ends. Texts that are
the same up to the case of ASCII letters take the same number of bytes, so a lead can be found by
its bytes as well as by its characters.
-/
namespace TypeSurvey.Text

open String (utf8Len)

/-- What stands before and behind the offset, unless it lies inside a character or beyond the end. -/
def cutAtByte? : Nat → List Char → Option (List Char × List Char)
  | 0, cs => some ([], cs)
  | _ + 1, [] => none
  | n + 1, c :: cs =>
    if c.utf8Size ≤ n + 1 then
      (cutAtByte? (n + 1 - c.utf8Size) cs).map fun cut => (c :: cut.1, cut.2)
    else none

variable {n : Nat} {front back lead cs ds : List Char}

theorem cutAtByte?_append (front back : List Char) :
    cutAtByte? (utf8Len front) (front ++ back) = some (front, back) := by
  induction front with
  | nil => simp [cutAtByte?]
  | cons c front ih =>
    have hne : utf8Len (c :: front) ≠ 0 := by
      rw [Ne, String.utf8Len_eq_zero]
      exact List.cons_ne_nil c front
    obtain ⟨n, hn⟩ := Nat.exists_eq_succ_of_ne_zero hne
    have hlen : utf8Len front + c.utf8Size = n + 1 := by rw [← String.utf8Len_cons, hn]
    have hfits : c.utf8Size ≤ n + 1 := by omega
    have hrest : n + 1 - c.utf8Size = utf8Len front := by omega
    rw [hn, List.cons_append, cutAtByte?, if_pos hfits, hrest, ih]
    rfl

/-- The two parts make up the text, and the first one ends at the offset. -/
theorem eq_of_cutAtByte? (h : cutAtByte? n cs = some (front, back)) :
    cs = front ++ back ∧ utf8Len front = n := by
  induction cs generalizing n front with
  | nil =>
    cases n with
    | zero => simp_all [cutAtByte?]
    | succ n => simp [cutAtByte?] at h
  | cons c cs ih =>
    cases n with
    | zero => simp_all [cutAtByte?]
    | succ n =>
      rw [cutAtByte?] at h
      split at h
      · rename_i hfits
        obtain ⟨⟨front', back'⟩, hcut, hparts⟩ := Option.map_eq_some_iff.mp h
        obtain ⟨rfl, rfl⟩ := Prod.mk.inj hparts
        obtain ⟨rfl, hlen⟩ := ih hcut
        refine ⟨rfl, ?_⟩
        rw [String.utf8Len_cons, hlen]
        omega
      · simp at h

theorem utf8Size_toLower_ascii : ∀ n < 128,
    (Char.ofNat n).toLower.utf8Size = (Char.ofNat n).utf8Size := by
  decide

theorem utf8Size_toLower (c : Char) : c.toLower.utf8Size = c.utf8Size := by
  by_cases hascii : c.toNat < 128
  · have h := utf8Size_toLower_ascii c.toNat hascii
    rwa [Char.ofNat_toNat] at h
  · have hsame : c.toLower = c := by
      apply dif_neg
      rintro ⟨-, hupper⟩
      have : c.toNat ≤ 'Z'.toNat := hupper
      have : 'Z'.toNat = 90 := rfl
      omega
    rw [hsame]

theorem utf8Len_map_toLower (cs : List Char) : utf8Len (cs.map Char.toLower) = utf8Len cs := by
  induction cs with
  | nil => rfl
  | cons c cs ih => simp [ih, utf8Size_toLower]

theorem utf8Len_eq_of_sameUpToAsciiCase (h : sameUpToAsciiCase cs ds = true) :
    utf8Len cs = utf8Len ds := by
  have hmap : cs.map Char.toLower = ds.map Char.toLower := by simpa [sameUpToAsciiCase] using h
  rw [← utf8Len_map_toLower, hmap, utf8Len_map_toLower]

/-- A lead is found by its bytes exactly if it is found by its characters, and the same is left. -/
theorem dropLead?_eq_cutAtByte? (lead cs : List Char) :
    dropLead? lead cs =
      (cutAtByte? (utf8Len lead) cs).bind fun cut =>
        if sameUpToAsciiCase cut.1 lead then some cut.2 else none := by
  by_cases hlead : sameUpToAsciiCase (cs.take lead.length) lead = true
  · have hcut := cutAtByte?_append (cs.take lead.length) (cs.drop lead.length)
    rw [List.take_append_drop, utf8Len_eq_of_sameUpToAsciiCase hlead] at hcut
    simp [dropLead?, hcut, hlead]
  · have hnone : dropLead? lead cs = none := by simp [dropLead?, hlead]
    rw [hnone]
    cases hcut : cutAtByte? (utf8Len lead) cs with
    | none => rfl
    | some cut =>
      obtain ⟨rfl, -⟩ := eq_of_cutAtByte? hcut
      -- a front that is the lead has the lead's number of characters too
      have hfront : sameUpToAsciiCase cut.1 lead = false := by
        rw [Bool.eq_false_iff]
        intro hsame
        have hlength : cut.1.length = lead.length := by
          simpa [sameUpToAsciiCase] using congrArg List.length (eq_of_beq hsame)
        rw [← hlength, List.take_left] at hlead
        exact hlead hsame
      simp [hfront]

end TypeSurvey.Text
