import TypeSurvey.Question
import TypeSurvey.Walk.Run

/-!
# Surveys

A survey answers a question by a walk from the root: it keeps the types that the question selects,
in the order of the walk, and of several declarations with one symbol the first.
-/
namespace TypeSurvey

/-- The first declaration of each symbol that is not `seen`. -/
def firstOfEach (seen : List Symbol) : List TypeDecl → List TypeDecl
  | [] => []
  | t :: rest =>
    if t.symbol ∈ seen then firstOfEach seen rest
    else t :: firstOfEach (t.symbol :: seen) rest

def Question.choose (q : Question) (types : List TypeDecl) : List TypeDecl :=
  firstOfEach [] (types.filter q.selects)

def survey (gate : Gate) (q : Question) (root : UnitKey) (token : Option Token) (c : Catalog) :
    Except SurveyError (List TypeDecl) × Catalog :=
  let found := c.lookup root
  match found.1 with
  | none => (.error (.unresolved root), found.2)
  | some u =>
    let walked := (Walk.start gate u gate.allowsCrossing token).run found.2
    (walked.1.map q.choose, walked.2.2)

end TypeSurvey
