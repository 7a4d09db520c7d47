import TypeSurvey.Cache
import TypeSurvey.Survey

/-!
# Sessions

A session answers questions about one program under one configuration. Each answer is computed once
and kept: the same question asked again from the same root gets the entry that is stored. A survey
that fails leaves nothing behind but its miss.
-/
namespace TypeSurvey

/-- A survey whose answer the cache keeps under `parameter`. The survey itself does not use the
cache. -/
def Cache.survey {α : Type} {cmp : Comparer α} (cache : Cache cmp) (gate : Gate) (q : Question)
    (parameter : α) (root : UnitKey) (token : Option Token) (c : Catalog) :
    Except SurveyError Entry × Cache cmp × Catalog :=
  let compute (cache : Cache cmp) (c : Catalog) :=
    let surveyed := TypeSurvey.survey gate q root token c
    (surveyed.1, cache, surveyed.2)
  cache.fetch compute c parameter root

structure Session where
  gate : Gate
  catalog : Catalog
  everything : Cache Comparer.rootOnly := { kind := .everything }
  subtypes : Cache Comparer.symbol := { kind := .subtypes }
  annotated : Cache Comparer.symbol := { kind := .annotated }
  named : Cache Comparer.caseless := { kind := .named }

namespace Session

def start (program : Program) (config : Config := {}) : Session :=
  { gate := .ofConfig config, catalog := { program } }

/-- The answer to a question whose arguments are not blank. -/
def answer (s : Session) (q : Question) (root : UnitKey) (token : Option Token) :
    Except SurveyError Entry × Session :=
  match q with
  | .everything =>
    let r := s.everything.survey s.gate q () root token s.catalog
    (r.1, { s with everything := r.2.1, catalog := r.2.2 })
  | .subtypesOf base =>
    let r := s.subtypes.survey s.gate q base root token s.catalog
    (r.1, { s with subtypes := r.2.1, catalog := r.2.2 })
  | .annotatedWith t =>
    let r := s.annotated.survey s.gate q t root token s.catalog
    (r.1, { s with annotated := r.2.1, catalog := r.2.2 })
  | .annotatedLike name =>
    let r := s.named.survey s.gate q (Text.trim name) root token s.catalog
    (r.1, { s with named := r.2.1, catalog := r.2.2 })

/-- A blank root is reported before a blank parameter, and both before anything is looked up. -/
def ask (s : Session) (q : Question) (root : UnitKey) (token : Option Token := none) :
    Except SurveyError Entry × Session :=
  if root.isBlank then (.error (.blankArgument .rootUnit), s)
  else
    match q.blankArgument? with
    | some argument => (.error (.blankArgument argument), s)
    | none => s.answer q root token

def lookup (s : Session) (id : UnitKey) : Option CodeUnit × Session :=
  ((s.catalog.lookup id).1, { s with catalog := (s.catalog.lookup id).2 })

def findRoot (s : Session) (root : UnitKey) : Except SurveyError CodeUnit × Session :=
  if root.isBlank then (.error (.blankArgument .rootUnit), s)
  else
    let found := s.lookup root
    match found.1 with
    | some u => (.ok u, found.2)
    | none => (.error (.unresolved root), found.2)

/-- Whether surveys from `root` may leave it. -/
def mayCross (s : Session) (root : UnitKey) : Except SurveyError Bool × Session :=
  let found := s.findRoot root
  (found.1.map fun _ => s.gate.allowsCrossing, found.2)

/-- A walk over every type, in which no cache takes part. -/
def openWalk (s : Session) (root : UnitKey) (token : Option Token := none) :
    Except SurveyError Walk × Session :=
  let found := s.findRoot root
  (found.1.map fun u => .start s.gate u s.gate.allowsCrossing token, found.2)

/-- Up to `n` items of a walk over this session's program. -/
def takeFrom (s : Session) (w : Walk) (n : Nat) :
    List (Option (Except SurveyError TypeDecl)) × Walk × Session :=
  let taken := w.take s.catalog n
  (taken.1, taken.2.1, { s with catalog := taken.2.2 })

def statistics (s : Session) : Statistics :=
  s.everything.statistics + s.subtypes.statistics + s.annotated.statistics + s.named.statistics

def summary (s : Session) : String :=
  Text.recordText "TypeDiscovery"
    [Text.field "gate" s.gate.summary,
     Text.field "all_types" s.everything.summary,
     Text.field "derived" s.subtypes.summary,
     Text.field "annotated" s.annotated.summary,
     Text.field "named" s.named.summary]

end Session

end TypeSurvey
