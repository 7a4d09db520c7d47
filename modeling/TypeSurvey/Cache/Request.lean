import TypeSurvey.Cache

/-!
# Nested requests to a cache

A request is a tree: the computation of a missing entry first performs further requests on the same
cache, to any depth, and then has its outcome. Answers form a tree of the same shape, cut where no
computation was needed.
-/
namespace TypeSurvey

inductive Request (α : Type) where
  | observe
  | peek (parameter : α) (root : UnitKey)
  | demand (parameter : α) (root : UnitKey) (inner : List (Request α))
    (outcome : Except SurveyError (List TypeDecl))

inductive Answer where
  | observed (statistics : Statistics)
  | peeked (found : Option Entry)
  | demanded (result : Except SurveyError Entry) (inner : Option (List Answer))

namespace Cache

variable {α : Type} {cmp : Comparer α}

mutual

def perform : Request α → Cache cmp → Answer × Cache cmp
  | .observe, c => (.observed c.statistics, c)
  | .peek parameter root, c => (.peeked (c.peek parameter root), c)
  | .demand parameter root inner outcome, c =>
    let compute (c : Cache cmp) (_ : Option (List Answer)) :=
      let done := performAll inner c
      (outcome, done.2, some done.1)
    let fetched := c.fetch compute none parameter root
    (.demanded fetched.1 fetched.2.2, fetched.2.1)

def performAll : List (Request α) → Cache cmp → List Answer × Cache cmp
  | [], c => ([], c)
  | r :: rest, c =>
    let first := perform r c
    let others := performAll rest first.2
    (first.1 :: others.1, others.2)

end

end Cache

end TypeSurvey
