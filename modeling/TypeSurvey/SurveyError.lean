import TypeSurvey.UnitKey

/-!
# Errors of a survey

A survey that finds nothing is no error: an error says that a question cannot be answered at all.
-/
namespace TypeSurvey

inductive Argument where
  | rootUnit
  | annotationName
  | baseType
  | annotationType
  deriving DecidableEq, Repr

namespace Argument

def name : Argument → String
  | rootUnit => "root"
  | annotationName => "name"
  | baseType => "base"
  | annotationType => "annotation_type"

def blankReason : Argument → String
  | rootUnit => "unit name is empty"
  | annotationName => "annotation name is empty"
  | baseType => "type has no qualified name"
  | annotationType => "type has no qualified name"

end Argument

inductive SurveyError where
  | blankArgument (argument : Argument)
  | unresolved (root : UnitKey)
  | noSession (root : UnitKey)
  | cancelled
  deriving DecidableEq, Repr

namespace SurveyError

def message : SurveyError → String
  | blankArgument a => "invalid argument `" ++ a.name ++ "`: " ++ a.blankReason
  | unresolved root => "unit `" ++ root.display ++ "` is not part of the program model"
  | noSession root => "type discovery is not available for unit `" ++ root.display ++ "`"
  | cancelled => "type discovery was cancelled"

/-- No session serves the root, as opposed to one that cannot answer. -/
def isNoSession : SurveyError → Bool
  | noSession _ => true
  | _ => false

end SurveyError

end TypeSurvey
