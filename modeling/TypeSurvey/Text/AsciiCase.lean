/-!
# Comparison up to the case of ASCII letters

Only the letters `A` to `Z` have a second spelling here; every other character is compared as it
stands.
-/
namespace TypeSurvey.Text

def sameUpToAsciiCase (a b : List Char) : Bool :=
  a.map Char.toLower == b.map Char.toLower

/-- The rest of `cs` after `lead`, if `cs` begins with it up to case. -/
def dropLead? (lead cs : List Char) : Option (List Char) :=
  if sameUpToAsciiCase (cs.take lead.length) lead then some (cs.drop lead.length) else none

end TypeSurvey.Text
