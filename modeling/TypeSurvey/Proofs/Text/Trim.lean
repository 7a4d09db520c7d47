import Mathlib.Data.List.DropRight
import TypeSurvey.Text.Blank

/-!
# Trimmed texts

A trimmed text has no blank character at either end, so trimming it once more changes nothing.
-/
namespace TypeSurvey.Text

theorem trimChars_eq (cs : List Char) :
    trimChars cs = (cs.dropWhile isBlank).rdropWhile isBlank := rfl

/-- Dropping blanks at the end leaves no blank in front. -/
theorem dropWhile_trimChars (cs : List Char) :
    (trimChars cs).dropWhile isBlank = trimChars cs := by
  rw [List.dropWhile_eq_self_iff]
  intro hlength
  have hstart : trimChars cs <+: cs.dropWhile isBlank := List.rdropWhile_prefix _ _
  have hne : cs.dropWhile isBlank ≠ [] := by
    intro hnil
    simp [trimChars, hnil] at hlength
  have hhead : (trimChars cs)[0] = (cs.dropWhile isBlank).head hne := by
    rw [List.head_eq_getElem]
    exact hstart.getElem hlength
  rw [hhead]
  simp [List.head_dropWhile_not]

theorem trimChars_trimChars (cs : List Char) : trimChars (trimChars cs) = trimChars cs := by
  rw [trimChars_eq (trimChars cs), dropWhile_trimChars, trimChars_eq]
  exact List.rdropWhile_idempotent _ _

/-- A text without blanks is left as it is. -/
theorem trimChars_eq_self {cs : List Char} (h : ∀ c ∈ cs, isBlank c = false) :
    trimChars cs = cs := by
  have hfront : cs.dropWhile isBlank = cs := by
    rw [List.dropWhile_eq_self_iff]
    intro hlength
    simp [h]
  have hback : cs.rdropWhile isBlank = cs := by
    rw [List.rdropWhile_eq_self_iff]
    intro hne
    simp [h]
  rw [trimChars_eq, hfront, hback]

/-- Only blank characters are dropped. -/
theorem mem_trimChars_iff {c : Char} {cs : List Char} (h : isBlank c = false) :
    c ∈ trimChars cs ↔ c ∈ cs := by
  have hkept (ds : List Char) : c ∈ ds.dropWhile isBlank ↔ c ∈ ds := by
    constructor
    · intro hc
      exact (List.dropWhile_suffix isBlank).mem hc
    · intro hc
      rw [← List.takeWhile_append_dropWhile (p := isBlank) (l := ds)] at hc
      rcases List.mem_append.mp hc with hfront | hrest
      · have hblank := List.mem_takeWhile_imp hfront
        simp [h] at hblank
      · exact hrest
  rw [trimChars, List.mem_reverse, hkept, List.mem_reverse, hkept]

@[simp] theorem trim_trim (s : String) : trim (trim s) = trim s := by
  simp [trim, trimChars_trimChars]

/-- A text is blank exactly if nothing remains of it. -/
theorem isAllBlank_iff {s : String} : isAllBlank s = true ↔ trim s = "" := by
  rw [isAllBlank, trim, List.isEmpty_iff, ← String.toList_inj, String.toList_ofList]
  rfl

@[simp] theorem isAllBlank_trim (s : String) : isAllBlank (trim s) = isAllBlank s := by
  rw [Bool.eq_iff_iff, isAllBlank_iff, isAllBlank_iff, trim_trim]

end TypeSurvey.Text
