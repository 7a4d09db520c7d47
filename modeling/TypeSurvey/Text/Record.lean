/-!
# Records and listings on one line

The one-line form of a value: a name with its fields in braces, or the elements in brackets.
-/
namespace TypeSurvey.Text

def field (name value : String) : String := name ++ ": " ++ value

def recordText (name : String) (fields : List String) : String :=
  name ++ " \x7b " ++ String.intercalate ", " fields ++ " \x7d"

def listingText (elements : List String) : String :=
  "[" ++ String.intercalate ", " elements ++ "]"

end TypeSurvey.Text
