/-!
# Cache statistics
-/
namespace TypeSurvey

structure Statistics where
  hits : Nat := 0
  misses : Nat := 0
  entries : Nat := 0
  deriving DecidableEq, Repr

namespace Statistics

def add (a b : Statistics) : Statistics :=
  ⟨a.hits + b.hits, a.misses + b.misses, a.entries + b.entries⟩

instance : Add Statistics := ⟨add⟩

@[simp] theorem hits_add (a b : Statistics) : (a + b).hits = a.hits + b.hits := rfl

@[simp] theorem misses_add (a b : Statistics) : (a + b).misses = a.misses + b.misses := rfl

@[simp] theorem entries_add (a b : Statistics) : (a + b).entries = a.entries + b.entries := rfl

theorem ext {a b : Statistics} (hits : a.hits = b.hits) (misses : a.misses = b.misses)
    (entries : a.entries = b.entries) : a = b := by
  cases a; cases b; simp_all

instance : Std.Associative fun a b : Statistics => a + b where
  assoc a b c := by apply ext <;> exact Nat.add_assoc ..

instance : Std.Commutative fun a b : Statistics => a + b where
  comm a b := by apply ext <;> exact Nat.add_comm ..

/-- The share of hits; zero when nothing has been asked. -/
def hitRatio (s : Statistics) : Float :=
  if s.hits + s.misses = 0 then 0 else Float.ofNat s.hits / Float.ofNat (s.hits + s.misses)

end Statistics

end TypeSurvey
