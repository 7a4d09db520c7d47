import TypeSurvey.Annotation
import TypeSurvey.Total
import TypeSurvey.UnitKey

/-!
# Type declarations

A declaration holds its base type, its capabilities and its nested types as declarations of their
own, so one type may be present in several copies. Copies share their `Symbol`, the qualified name
together with the owning unit.
-/
namespace TypeSurvey

inductive DeclKind where
  | classKind
  | structKind
  | interfaceKind
  | enumKind
  | recordKind
  deriving DecidableEq, Repr

def DeclKind.name : DeclKind → String
  | .classKind => "Class"
  | .structKind => "Struct"
  | .interfaceKind => "Interface"
  | .enumKind => "Enum"
  | .recordKind => "Record"

inductive Modifier where
  | abstractType
  | sealedType
  | staticType
  | partialType
  deriving DecidableEq, Repr

namespace Modifier

def all : List Modifier := [abstractType, sealedType, staticType, partialType]

def name : Modifier → String
  | abstractType => "ABSTRACT"
  | sealedType => "SEALED"
  | staticType => "STATIC"
  | partialType => "PARTIAL"

def bit : Modifier → Nat
  | abstractType => 1
  | sealedType => 2
  | staticType => 4
  | partialType => 8

end Modifier

/-- `outer` lists the containing types, outermost first. `row` is the place of the declaration in
the table it was read from and tells copies of one type apart. -/
structure TypeDecl where
  unit : UnitKey
  space : String
  name : String
  outer : List String := []
  kind : DeclKind := .classKind
  modifiers : List Modifier := []
  base : Option TypeDecl := none
  capabilities : List TypeDecl := []
  annotations : List Annotation := []
  nested : List TypeDecl := []
  row : Option Nat := none

structure Symbol where
  name : String
  unit : UnitKey
  deriving DecidableEq, Repr

namespace TypeDecl

def qualifiedName (t : TypeDecl) : String := Text.joinNonEmpty (t.space :: t.outer ++ [t.name])

def symbol (t : TypeDecl) : Symbol := ⟨t.qualifiedName, t.unit⟩

/-- Each modifier once, however often and in whatever order it was written. -/
def modifierSet (t : TypeDecl) : List Modifier := Modifier.all.filter fun m => m ∈ t.modifiers

def modifierBits (t : TypeDecl) : Nat := total Modifier.bit t.modifierSet

/-- An interface is abstract without saying so. -/
def isAbstract (t : TypeDecl) : Bool := t.kind = .interfaceKind || .abstractType ∈ t.modifiers

mutual

/-- A declaration and all that nest in it, each before its own nested types. -/
def preorder : TypeDecl → List TypeDecl
  | ⟨unit, space, name, outer, kind, modifiers, base, capabilities, annotations, nested, row⟩ =>
    ⟨unit, space, name, outer, kind, modifiers, base, capabilities, annotations, nested, row⟩ ::
      preorderAll nested

def preorderAll : List TypeDecl → List TypeDecl
  | [] => []
  | t :: rest => preorder t ++ preorderAll rest

end

def modifierText (t : TypeDecl) : String :=
  if t.modifierSet.isEmpty then "0x0" else " | ".intercalate (t.modifierSet.map Modifier.name)

def summary (t : TypeDecl) : String :=
  Text.recordText "TypeDescriptor"
    [Text.field "name" (Text.quote t.qualifiedName),
     Text.field "unit" t.unit.summary,
     Text.field "kind" t.kind.name,
     Text.field "modifiers" ("TypeModifiers(" ++ t.modifierText ++ ")"),
     Text.field "base" (match t.base with
       | some b => "Some(" ++ Text.quote b.qualifiedName ++ ")"
       | none => "None")]

end TypeDecl

end TypeSurvey
