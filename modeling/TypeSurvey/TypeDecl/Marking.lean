import TypeSurvey.Text.Lowercase
import TypeSurvey.TypeDecl

/-!
# Annotated types

A type is found by an annotation exactly, through the qualified name of the annotation's type, or
loosely, through a simple name in any letter case and with or without its usual ending.
-/
namespace TypeSurvey.TypeDecl

def isAnnotatedWith (t annotationType : TypeDecl) : Bool :=
  t.annotations.any fun a => a.name = annotationType.qualifiedName

/-- The usual ending of an annotation's name, in lowercase. -/
def annotationEnding : List Char := "attribute".toList

def isLooselyNamed (a : Annotation) (name : String) : Bool :=
  let wanted := Text.lowerChars name.toList
  let actual := Text.lowerChars a.simpleName.toList
  actual = wanted || actual = wanted ++ annotationEnding

def isLooselyAnnotated (t : TypeDecl) (name : String) : Bool :=
  t.annotations.any fun a => isLooselyNamed a name

end TypeSurvey.TypeDecl
