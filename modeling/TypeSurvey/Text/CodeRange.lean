/-!
# Ranges of code points
-/
namespace TypeSurvey.Text

/-- Some range holds `n`, both ends included. -/
def inRanges (ranges : List (Nat × Nat)) (n : Nat) : Bool :=
  ranges.any fun (first, last) => first ≤ n && n ≤ last

end TypeSurvey.Text
