import TypeSurvey.Text.AsciiCase
import TypeSurvey.Text.Blank

/-!
# The crossing setting

Whether a survey may leave its root unit. The setting is an opt-out: only a text that says `false`
or `0` disables crossing, and whatever else is written leaves it on.
-/
namespace TypeSurvey

inductive Crossing where
  | unset
  | enabled
  | disabled
  deriving DecidableEq, Repr

namespace Crossing

def allows : Crossing → Bool
  | unset => true
  | enabled => true
  | disabled => false

/-- Blanks around the text and the case of ASCII letters make no difference. -/
def ofText (raw : String) : Crossing :=
  let value := Text.trimChars raw.toList
  if value.isEmpty then unset
  else if Text.sameUpToAsciiCase value ['f', 'a', 'l', 's', 'e'] || value = ['0'] then disabled
  else enabled

def name : Crossing → String
  | unset => "Unset"
  | enabled => "Enabled"
  | disabled => "Disabled"

end Crossing

end TypeSurvey
