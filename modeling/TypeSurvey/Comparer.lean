import TypeSurvey.Text.Lowercase
import TypeSurvey.TypeDecl

/-!
# Comparers

A comparer says when two parameters of a question count as the same, and gives every parameter a
digest that equal ones share.
-/
namespace TypeSurvey

structure Comparer (α : Type) where
  same : α → α → Bool
  digest : α → List Nat
  same_refl : ∀ a, same a a
  same_symm : ∀ a b, same a b → same b a
  same_trans : ∀ a b c, same a b → same b c → same a c
  digest_eq : ∀ a b, same a b → digest a = digest b

namespace Comparer

/-- Parameters with the same view are the same. -/
def ofView {α β : Type} [DecidableEq β] (view : α → β) (digest : β → List Nat) : Comparer α where
  same a b := view a = view b
  digest a := digest (view a)
  same_refl a := by simp
  same_symm a b := by simp; exact Eq.symm
  same_trans a b c := by simp; exact Eq.trans
  digest_eq a b := by simp; exact fun h => h ▸ rfl

/-- The code points of a text and a closing 255. -/
def textDigest (cs : List Char) : List Nat := cs.map Char.toNat ++ [0xFF]

def symbolDigest (s : Symbol) : List Nat :=
  textDigest s.name.toList ++ textDigest s.unit.name.toList ++ textDigest s.unit.version.toList

/-- Copies of one type are the same. -/
def symbol : Comparer TypeDecl := ofView TypeDecl.symbol symbolDigest

/-- Each character is folded on its own. -/
def caseless : Comparer String := ofView (fun s => Text.foldChars s.toList) textDigest

/-- For the question that has no parameter but the root. -/
def rootOnly : Comparer Unit := ofView id fun _ => []

end Comparer

end TypeSurvey
