import TypeSurvey.TypeDecl

/-!
# Lineage of a type

The bases of a type form a chain; its capabilities are its own, those of each base, and the
capabilities of those. Types are told apart by symbol, so a chain ends where a symbol comes back,
and a capability counts once.
-/
namespace TypeSurvey.TypeDecl

/-- The bases as declared, nearest first. -/
def bases : TypeDecl → List TypeDecl
  | { base := some b, .. } => b :: bases b
  | { base := none, .. } => []

/-- The part of a list in front of the first symbol that was there before. -/
def beforeRepeat (seen : List Symbol) : List TypeDecl → List TypeDecl
  | [] => []
  | t :: rest => if t.symbol ∈ seen then [] else t :: beforeRepeat (t.symbol :: seen) rest

/-- The type itself is not part of its chain. -/
def ancestors (t : TypeDecl) : List TypeDecl := beforeRepeat [] t.bases

mutual

/-- One more than the capability references behind a declaration. -/
def conformance : TypeDecl → Nat
  | { capabilities, .. } => 1 + conformanceAll capabilities

def conformanceAll : List TypeDecl → Nat
  | [] => 0
  | t :: rest => conformance t + conformanceAll rest

end

theorem conformance_eq (t : TypeDecl) : t.conformance = 1 + conformanceAll t.capabilities := by
  cases t; rw [conformance]

theorem conformanceAll_append (ts us : List TypeDecl) :
    conformanceAll (ts ++ us) = conformanceAll ts + conformanceAll us := by
  induction ts with
  | nil => simp [conformanceAll]
  | cons t ts ih => simp [conformanceAll, ih, Nat.add_assoc]

/-- Depth first through the capabilities of `pending`, leaving out symbols that are `seen`. -/
def visit (seen : List Symbol) : List TypeDecl → List TypeDecl
  | [] => []
  | t :: rest =>
    if t.symbol ∈ seen then visit seen rest
    else t :: visit (t.symbol :: seen) (t.capabilities ++ rest)
termination_by pending => conformanceAll pending
decreasing_by
  all_goals simp only [conformanceAll, conformanceAll_append, conformance_eq]; omega

def capabilityClosure (t : TypeDecl) : List TypeDecl :=
  visit [] (t.capabilities ++ t.ancestors.flatMap capabilities)

def isSubtypeOf (t base : TypeDecl) : Bool :=
  t.ancestors.any (fun b => b.symbol = base.symbol) ||
    t.capabilityClosure.any fun c => c.symbol = base.symbol

/-- Abstract types and the base itself are left out. -/
def isConcreteSubtypeOf (t base : TypeDecl) : Bool :=
  !t.isAbstract && t.symbol ≠ base.symbol && t.isSubtypeOf base

end TypeSurvey.TypeDecl
