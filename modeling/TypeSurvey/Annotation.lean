import TypeSurvey.Text.Dotted
import TypeSurvey.Text.Quoted
import TypeSurvey.Text.Record

/-!
# Annotations

An annotation names the type that declares it. A survey looks only at that name; the arguments are
kept as they are.
-/
namespace TypeSurvey

structure Annotation where
  name : String
  arguments : List String := []
  deriving DecidableEq, Repr

namespace Annotation

def simpleName (a : Annotation) : String := Text.lastSegment a.name

def summary (a : Annotation) : String :=
  Text.recordText "Annotation"
    [Text.field "name" (Text.quote a.name),
     Text.field "arguments" (Text.listingText (a.arguments.map Text.quote))]

end Annotation

end TypeSurvey
