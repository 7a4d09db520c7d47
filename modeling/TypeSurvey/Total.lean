/-!
# Totals over lists
-/
namespace TypeSurvey

/-- The sizes of a list's elements taken together. -/
def total {α : Type} (size : α → Nat) : List α → Nat
  | [] => 0
  | a :: rest => size a + total size rest

variable {α β : Type}

@[simp] theorem total_nil (size : α → Nat) : total size [] = 0 := rfl

@[simp] theorem total_cons (size : α → Nat) (a : α) (rest : List α) :
    total size (a :: rest) = size a + total size rest := rfl

@[simp] theorem total_append (size : α → Nat) (as bs : List α) :
    total size (as ++ bs) = total size as + total size bs := by
  induction as with
  | nil => simp
  | cons a as ih => simp [ih, Nat.add_assoc]

@[simp] theorem total_map (size : β → Nat) (f : α → β) (as : List α) :
    total size (as.map f) = total (fun a => size (f a)) as := by
  induction as with
  | nil => rfl
  | cons a as ih => simp [ih]

end TypeSurvey
