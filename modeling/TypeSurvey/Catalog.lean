import TypeSurvey.Program

/-!
# The program as surveys consult it

A catalog answers which unit an identity stands for, keeps a log of what was asked, and knows which
tokens have been cancelled. A tripwire cancels its token whenever its unit is asked for.
-/
namespace TypeSurvey

/-- A flag that ends surveys early. Holders of one token see one flag. -/
structure Token where
  serial : Nat
  deriving DecidableEq, Repr

/-- `log` has the latest lookup first. -/
structure Catalog where
  program : Program := {}
  log : List UnitKey := []
  issued : Nat := 0
  cancelled : List Token := []
  tripwires : List (UnitKey × Token) := []

namespace Catalog

/-- A token that was not in use before. -/
def issue (c : Catalog) : Token × Catalog := (⟨c.issued⟩, { c with issued := c.issued + 1 })

def cancel (c : Catalog) (t : Token) : Catalog := { c with cancelled := t :: c.cancelled }

/-- Without a token nobody can cancel. -/
def wasCancelled (c : Catalog) : Option Token → Bool
  | some t => t ∈ c.cancelled
  | none => false

def addTripwire (c : Catalog) (id : UnitKey) (t : Token) : Catalog :=
  { c with tripwires := (id, t) :: c.tripwires }

/-- Tokens that a lookup of `id` cancels. -/
def tripped (c : Catalog) (id : UnitKey) : List Token :=
  (c.tripwires.filter fun wire => wire.1 = id).map Prod.snd

/-- The catalog after one lookup of `id`. -/
def visited (c : Catalog) (id : UnitKey) : Catalog :=
  { c with log := id :: c.log, cancelled := c.tripped id ++ c.cancelled }

def lookup (c : Catalog) (id : UnitKey) : Option CodeUnit × Catalog :=
  (c.program.find? id, c.visited id)

def lookupCount (c : Catalog) : Nat := c.log.length

def lookupCountOf (c : Catalog) (id : UnitKey) : Nat := c.log.count id

def clearLog (c : Catalog) : Catalog := { c with log := [] }

/-- From now on `id` stands for `u`, or for nothing. -/
def rebind (c : Catalog) (id : UnitKey) : Option CodeUnit → Catalog
  | some u => { c with program := c.program.bind id u }
  | none => { c with program := c.program.unbind id }

end Catalog

end TypeSurvey
