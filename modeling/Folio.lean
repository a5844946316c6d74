import Folio.Backend.Basic
import Folio.Backend.DocumentStore
import Folio.Backend.Provider
import Folio.Browser.Snapshot
import Folio.Browser.State
import Folio.Browser.View
import Folio.Cache.Fingerprint
import Folio.Cache.Pages
import Folio.Character.Blank
import Folio.Character.Decimal
import Folio.Character.Fold
import Folio.Character.Lower
import Folio.Character.Name
import Folio.Character.Printable
import Folio.Character.Range
import Folio.Character.Title
import Folio.Character.Word
import Folio.Collection.Aggregate
import Folio.Collection.Answer
import Folio.Collection.Basic
import Folio.Collection.Filter
import Folio.Collection.Rank
import Folio.Collection.Score
import Folio.Collection.Sort
import Folio.Debounce.Basic
import Folio.Debounce.Timeline
import Folio.Digest.Sha256
import Folio.Discovery
import Folio.Envelope
import Folio.Failure
import Folio.Fault
import Folio.Filter.Attribute
import Folio.Filter.Coercion
import Folio.Filter.Fault
import Folio.Filter.FieldType
import Folio.Filter.Given
import Folio.Filter.Operand
import Folio.Filter.Operator
import Folio.Filter.Predicate
import Folio.History.Archive
import Folio.History.Entry
import Folio.History.Log
import Folio.Intake.Checked
import Folio.Intake.Numeral
import Folio.Intake.Readers
import Folio.Intent
import Folio.Json.Reader
import Folio.Json.Writer
import Folio.Limit
import Folio.Named
import Folio.Number.Decimal
import Folio.Number.Magnitude
import Folio.Number.Nearest
import Folio.Number.Reading
import Folio.Ordered
import Folio.Paging
import Folio.Query.Compile
import Folio.Query.Config
import Folio.Query.Rank
import Folio.Query.Request
import Folio.Query.RowKey
import Folio.Session.Basic
import Folio.Session.Change
import Folio.Session.Command
import Folio.Session.Connect
import Folio.Session.Load
import Folio.Session.Pause
import Folio.Session.Perform
import Folio.Session.Remember
import Folio.Session.Run
import Folio.Session.Write
import Folio.Settings
import Folio.Text.Glob
import Folio.Text.Hex
import Folio.Text.Pattern.Basic
import Folio.Text.Pattern.Marks
import Folio.Text.Pattern.Matcher
import Folio.Text.Pattern.Reader
import Folio.Text.Pattern.Source
import Folio.Text.Pattern.Steps
import Folio.Text.Quoted
import Folio.Text.Token
import Folio.Text.Words
import Folio.Value.Basic
import Folio.Value.Finite
import Folio.Value.Order
import Folio.Value.Same
import Folio.Value.Text
import Folio.Web.Page
import Folio.Web.Route
import Folio.Proofs.Keys
import Folio.Proofs.Answers
import Folio.Proofs.Backends
import Folio.Proofs.Background
import Folio.Proofs.DecimalTexts
import Folio.Proofs.ShortestDecimals
import Folio.Proofs.QuotedTexts
import Folio.Proofs.FieldOrder
import Folio.Proofs.CanonicalTexts
import Folio.Proofs.PageTexts
import Folio.Proofs.Fingerprints
import Folio.Proofs.KeyOrder
import Folio.Proofs.ActionCourse
import Folio.Proofs.Adrift
import Folio.Proofs.FirstPages
import Folio.Proofs.RankedPages
import Folio.Proofs.Reloads
import Folio.Proofs.StaleAnswers
import Folio.Proofs.OpenLoads
import Folio.Proofs.CurrentViews
import Folio.Proofs.Cursors
import Folio.Proofs.SameRequests
import Folio.Proofs.RecalledPages
import Folio.Proofs.SamePages
import Folio.Proofs.Operations
import Folio.Proofs.Customs
import Folio.Proofs.UnheldLoads
import Folio.Proofs.KeptPages
import Folio.Proofs.GivenPages
import Folio.Proofs.Switches
import Folio.Proofs.Retyping
import Folio.Proofs.FailedLoads
import Folio.Proofs.FailedActions
import Folio.Proofs.FiledStores
import Folio.Proofs.KnownNumbers
import Folio.Proofs.ExactActions
import Folio.Proofs.ExactNumbers
import Folio.Proofs.CountedLoads
import Folio.Proofs.TimedEdits
import Folio.Proofs.Times
import Folio.Proofs.SearchBursts
import Folio.Proofs.RunJournals
import Folio.Proofs.UndisturbedCalls
import Folio.Proofs.FilterMeanings
import Folio.Proofs.OppositeFilters
import Folio.Proofs.Deletions
import Folio.Proofs.LoadCustoms
import Folio.Proofs.Mutations
import Folio.Proofs.HistoryRuns
import Folio.Proofs.RecentFilters
import Folio.Proofs.SavedFilters
import Folio.Proofs.UnansweredCalls
import Folio.Proofs.ToldAttributes
import Folio.Proofs.LearningLoads
import Folio.Proofs.LearningActions
import Folio.Proofs.AttributePlaces
import Folio.Proofs.Places
import Folio.Proofs.Visits
import Folio.Proofs.LearnedSessions
import Folio.Proofs.OneLoad
import Folio.Proofs.Doings
import Folio.Proofs.OneOperation
import Folio.Proofs.Strides
import Folio.Proofs.Effects
import Folio.Proofs.ShownFailures
import Folio.Proofs.Aggregations
import Folio.Proofs.MadeFilters
import Folio.Proofs.UnitFactors
import Folio.Proofs.RankTrees
import Folio.Proofs.GlobTexts
import Folio.Proofs.SubstringFilters
import Folio.Proofs.UntoldAttributes
import Folio.Proofs.ForwardWalks
import Folio.Proofs.NumericSorting
import Folio.Proofs.RefusedRows
import Folio.Proofs.GroupedCounts
import Folio.Proofs.NearestFloats
import Folio.Proofs.AttributeStatistics
import Folio.Proofs.SchemaFlags
import Folio.Proofs.NullFindings
import Folio.Proofs.LastingFilters
import Folio.Proofs.Remembering
import Folio.Proofs.SavedCourse
import Folio.Proofs.FirstLoads
import Folio.Proofs.AppliedFilters
import Folio.Proofs.SmallLetters
import Folio.Proofs.Phrases
import Folio.Proofs.Numerals
import Folio.Proofs.TypedInputs
import Folio.Proofs.ListedInputs
