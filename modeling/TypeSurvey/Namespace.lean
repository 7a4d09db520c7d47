import TypeSurvey.TypeDecl

/-!
# Namespace trees

A namespace holds the types declared directly in it and further namespaces. A type is placed at the
path that its namespace text spells, level by level, and levels that are missing are added behind
the others.
-/
namespace TypeSurvey

structure Namespace where
  name : String
  children : List Namespace := []
  types : List TypeDecl := []

namespace Namespace

/-- Applies `change` to the first child called `name`, or to a new one behind the others. -/
def changeChild (name : String) (change : Namespace → Namespace) : List Namespace → List Namespace
  | [] => [change { name }]
  | child :: rest =>
    if child.name = name then change child :: rest else child :: changeChild name change rest

def place (t : TypeDecl) : List String → Namespace → Namespace
  | [], n => { n with types := n.types ++ [t] }
  | head :: path, n => { n with children := changeChild head (place t path) n.children }

/-- Nothing between two dots is no level. -/
def add (n : Namespace) (t : TypeDecl) : Namespace := n.place t (Text.segments t.space)

def ofTypes (types : List TypeDecl) : Namespace := types.foldl add { name := "" }

/-- One namespace of a tree: how deep it lies, its name and its own types. -/
structure Level where
  depth : Nat
  name : String
  types : List TypeDecl

mutual

/-- The tree in preorder, with `depth` at its root. -/
def levels (depth : Nat) : Namespace → List Level
  | ⟨name, children, types⟩ => ⟨depth, name, types⟩ :: levelsAll (depth + 1) children

def levelsAll (depth : Nat) : List Namespace → List Level
  | [] => []
  | n :: rest => levels depth n ++ levelsAll depth rest

end

mutual

/-- Every type of the tree in declaration order: a namespace's own types, each with what nests in
it, come before those of the namespaces in it. -/
def declared : Namespace → List TypeDecl
  | ⟨_, children, types⟩ => TypeDecl.preorderAll types ++ declaredAll children

def declaredAll : List Namespace → List TypeDecl
  | [] => []
  | n :: rest => declared n ++ declaredAll rest

end

end Namespace

end TypeSurvey
