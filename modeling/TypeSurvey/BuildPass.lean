import TypeSurvey.Registry
import TypeSurvey.Session

/-!
# Build passes

The sessions of one build and the registry that finds them. A session that is replaced or removed
stays as it is and only cannot be found any longer.
-/
namespace TypeSurvey

structure BuildPass where
  sessions : List Session
  registry : Registry := {}

namespace BuildPass

/-- The session that serves `root`, with its place. -/
def serving (b : BuildPass) (root : UnitKey) : Except SurveyError (Nat × Session) :=
  match b.registry.get root with
  | .error e => .error e
  | .ok i =>
    match b.sessions[i]? with
    | some s => .ok (i, s)
    | none => .error (.noSession root)

/-- Asks the session that serves `key`; the others stay as they are. -/
def ask (b : BuildPass) (key : UnitKey) (q : Question) (root : UnitKey) :
    Except SurveyError Entry × BuildPass :=
  match b.serving key with
  | .error e => (.error e, b)
  | .ok (i, s) => ((s.ask q root).1, { b with sessions := b.sessions.set i (s.ask q root).2 })

def statistics (b : BuildPass) (root : UnitKey) : Except SurveyError Statistics :=
  (b.serving root).map fun found => found.2.statistics

end BuildPass

end TypeSurvey
