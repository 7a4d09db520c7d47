import TypeSurvey.Annotation
import TypeSurvey.BuildPass
import TypeSurvey.Cache
import TypeSurvey.Cache.Request
import TypeSurvey.Cache.Statistics
import TypeSurvey.Catalog
import TypeSurvey.CodeUnit
import TypeSurvey.Comparer
import TypeSurvey.Config
import TypeSurvey.Config.Metadata
import TypeSurvey.Crossing
import TypeSurvey.Decimal.Shortest
import TypeSurvey.Gate
import TypeSurvey.Json.Number
import TypeSurvey.Json.Text
import TypeSurvey.Json.Value
import TypeSurvey.Namespace
import TypeSurvey.Program
import TypeSurvey.Proofs.Cache.History
import TypeSurvey.Proofs.Cache.Store
import TypeSurvey.Proofs.Cache.Surveys
import TypeSurvey.Proofs.Catalog
import TypeSurvey.Proofs.Program
import TypeSurvey.Proofs.Session.Answers
import TypeSurvey.Proofs.Session.Bystanders
import TypeSurvey.Proofs.Session.Calls
import TypeSurvey.Proofs.Session.ColdQuestions
import TypeSurvey.Proofs.Session.Lookups
import TypeSurvey.Proofs.Session.NamedQuestions
import TypeSurvey.Proofs.Session.Transparency
import TypeSurvey.Proofs.Session.Walks
import TypeSurvey.Proofs.Survey
import TypeSurvey.Proofs.Text.Lowering
import TypeSurvey.Proofs.Text.Trim
import TypeSurvey.Proofs.TypeDecl.LooseNames
import TypeSurvey.Proofs.Walk.Cut
import TypeSurvey.Proofs.Walk.Frontier
import TypeSurvey.Proofs.Walk.Listing
import TypeSurvey.Proofs.Walk.Lockstep
import TypeSurvey.Proofs.Walk.Route
import TypeSurvey.Proofs.Walk.Runs
import TypeSurvey.Proofs.Walk.Scope
import TypeSurvey.Proofs.Walk.Turn
import TypeSurvey.Proofs.Walk.Unwatched
import TypeSurvey.Question
import TypeSurvey.Registry
import TypeSurvey.Sample
import TypeSurvey.Session
import TypeSurvey.Survey
import TypeSurvey.SurveyError
import TypeSurvey.Text.AsciiCase
import TypeSurvey.Text.Blank
import TypeSurvey.Text.CaseTable
import TypeSurvey.Text.CodeRange
import TypeSurvey.Text.Dotted
import TypeSurvey.Text.Lowercase
import TypeSurvey.Text.PrintTable
import TypeSurvey.Text.Quoted
import TypeSurvey.Text.Record
import TypeSurvey.Total
import TypeSurvey.TypeDecl
import TypeSurvey.TypeDecl.Lineage
import TypeSurvey.TypeDecl.Marking
import TypeSurvey.UnitKey
import TypeSurvey.Walk
import TypeSurvey.Walk.Run
import TypeSurvey.Walk.Weight
import TypeSurvey.Proofs.Cache.Accounts
import TypeSurvey.Proofs.Session.Ledger
import TypeSurvey.Proofs.Walk.Widening
import TypeSurvey.Proofs.Config.Properties
import TypeSurvey.Proofs.Session.Widening
import TypeSurvey.Proofs.Session.Settings
import TypeSurvey.Proofs.TypeDecl.Lineage
import TypeSurvey.Proofs.TypeDecl.Subtyping
import TypeSurvey.Proofs.Text.LetterMarks
import TypeSurvey.Proofs.Text.FinalSigma
import TypeSurvey.Proofs.TypeDecl.CaselessNames
import TypeSurvey.Proofs.Registry
import TypeSurvey.Proofs.BuildPass
import TypeSurvey.Proofs.Config.Reading
import TypeSurvey.Proofs.Namespace.Growth
import TypeSurvey.Proofs.Namespace.Places
import TypeSurvey.Proofs.Namespace.QualifiedNames
import TypeSurvey.Proofs.Text.ByteOffsets
import TypeSurvey.Proofs.Text.Dotted
import TypeSurvey.Proofs.Walk.Logbook
import TypeSurvey.Proofs.Walk.Order
import TypeSurvey.Proofs.Json.Grammar
import TypeSurvey.Proofs.Json.Strings
import TypeSurvey.Proofs.Json.Numerals
import TypeSurvey.Proofs.Json.Reading
import TypeSurvey.Proofs.Config.Metadata
import TypeSurvey.Proofs.Config.Settings
import TypeSurvey.Proofs.Config.Markers
import TypeSurvey.Proofs.Session.DottedNames
import TypeSurvey.Proofs.TypeDecl.Capabilities
import TypeSurvey.Proofs.Walk.Bounds
