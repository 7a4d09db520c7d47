import TypeSurvey.Cache.Statistics
import TypeSurvey.Comparer
import TypeSurvey.Question

/-!
# Caches of answers

A cache keeps one entry for each key, a question's parameter with its root. The computation for a
missing key may itself use the cache, so the key is looked at again before a result is stored: the
entry that came first stays.
-/
namespace TypeSurvey

structure Cache.Key (α : Type) where
  kind : QuestionKind
  parameter : α
  root : UnitKey

namespace Cache.Key

variable {α : Type}

def same (cmp : Comparer α) (a b : Cache.Key α) : Bool :=
  a.kind = b.kind && a.root = b.root && cmp.same a.parameter b.parameter

def kindDigest : QuestionKind → Nat
  | .everything => 0
  | .subtypes => 1
  | .annotated => 2
  | .named => 3

def digest (cmp : Comparer α) (k : Cache.Key α) : List Nat :=
  kindDigest k.kind :: Comparer.textDigest k.root.name.toList ++
    Comparer.textDigest k.root.version.toList ++ cmp.digest k.parameter

/-- `parameterText` writes the parameter. -/
def summary (parameterText : α → String) (k : Cache.Key α) : String :=
  Text.recordText "CacheKey"
    [Text.field "kind" k.kind.name,
     Text.field "parameter" (parameterText k.parameter),
     Text.field "root" k.root.summary]

end Cache.Key

/-- A stored result. Its kind and serial number tell it from every other entry of a session. -/
structure Entry where
  kind : QuestionKind
  serial : Nat
  types : List TypeDecl

namespace Entry

def isSame (a b : Entry) : Bool := a.kind = b.kind && a.serial = b.serial

def names (e : Entry) : List String := e.types.map TypeDecl.qualifiedName

def summary (e : Entry) : String := Text.listingText (e.names.map Text.quote)

end Entry

def Statistics.summary (s : Statistics) (kind : QuestionKind) : String :=
  Text.recordText "QueryCache"
    [Text.field "kind" kind.name,
     Text.field "entries" (toString s.entries),
     Text.field "hits" (toString s.hits),
     Text.field "misses" (toString s.misses)]

/-- `stored` has the oldest entry first. -/
structure Cache {α : Type} (cmp : Comparer α) where
  kind : QuestionKind
  stored : List (Cache.Key α × Entry) := []
  hits : Nat := 0
  misses : Nat := 0

namespace Cache

variable {α : Type} {cmp : Comparer α}

def size (c : Cache cmp) : Nat := c.stored.length

def find? (c : Cache cmp) (k : Key α) : Option Entry :=
  (c.stored.find? fun pair => pair.1.same cmp k).map Prod.snd

/-- Neither a hit nor a miss. -/
def peek (c : Cache cmp) (parameter : α) (root : UnitKey) : Option Entry :=
  c.find? ⟨c.kind, parameter, root⟩

def countHit (c : Cache cmp) : Cache cmp := { c with hits := c.hits + 1 }

def countMiss (c : Cache cmp) : Cache cmp := { c with misses := c.misses + 1 }

/-- The entry for `k` afterwards, which is the one that was there if any was. -/
def store (c : Cache cmp) (k : Key α) (types : List TypeDecl) : Entry × Cache cmp :=
  match c.find? k with
  | some e => (e, c)
  | none =>
    let e : Entry := ⟨c.kind, c.size, types⟩
    (e, { c with stored := c.stored ++ [(k, e)] })

/-- The entry stored for a parameter and root, or else the result of `compute`, which has the cache
and a state of its own at hand. A computation that fails stores nothing. -/
def fetch {σ : Type}
    (compute : Cache cmp → σ → Except SurveyError (List TypeDecl) × Cache cmp × σ)
    (c : Cache cmp) (s : σ) (parameter : α) (root : UnitKey) :
    Except SurveyError Entry × Cache cmp × σ :=
  let k : Key α := ⟨c.kind, parameter, root⟩
  match c.find? k with
  | some e => (.ok e, c.countHit, s)
  | none =>
    let computed := compute c.countMiss s
    match computed.1 with
    | .error e => (.error e, computed.2)
    | .ok types =>
      let stored := computed.2.1.store k types
      (.ok stored.1, stored.2, computed.2.2)

def statistics (c : Cache cmp) : Statistics := ⟨c.hits, c.misses, c.size⟩

def summary (c : Cache cmp) : String := c.statistics.summary c.kind

end Cache

end TypeSurvey
