import TypeSurvey.SurveyError
import TypeSurvey.TypeDecl.Lineage
import TypeSurvey.TypeDecl.Marking

/-!
# Questions to a program

There are four kinds of question: every type, the concrete subtypes of a base, the types annotated
with a given annotation type, and the types with an annotation of roughly a given name.
-/
namespace TypeSurvey

inductive QuestionKind where
  | everything
  | subtypes
  | annotated
  | named
  deriving DecidableEq, Repr

def QuestionKind.name : QuestionKind → String
  | everything => "AllTypes"
  | subtypes => "DerivedTypes"
  | annotated => "AnnotatedTypes"
  | named => "AnnotationName"

inductive Question where
  | everything
  | subtypesOf (base : TypeDecl)
  | annotatedWith (annotationType : TypeDecl)
  | annotatedLike (name : String)

namespace Question

/-- The parameter that is blank, if one is. -/
def blankArgument? : Question → Option Argument
  | everything => none
  | subtypesOf base => if Text.isAllBlank base.qualifiedName then some .baseType else none
  | annotatedWith t => if Text.isAllBlank t.qualifiedName then some .annotationType else none
  | annotatedLike name => if Text.isAllBlank name then some .annotationName else none

/-- Whether a type is part of the answer. Blanks around a name make no difference. -/
def selects : Question → TypeDecl → Bool
  | everything, _ => true
  | subtypesOf base, t => t.isConcreteSubtypeOf base
  | annotatedWith annotationType, t => t.isAnnotatedWith annotationType
  | annotatedLike name, t => t.isLooselyAnnotated (Text.trim name)

end Question

end TypeSurvey
