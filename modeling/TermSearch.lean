import TermSearch.Assoc
import TermSearch.Calendar.CivilTime
import TermSearch.Calendar.DateReader
import TermSearch.Calendar.DateReading
import TermSearch.Calendar.DateToken
import TermSearch.Calendar.DateWords
import TermSearch.Calendar.Iso
import TermSearch.Calendar.WrittenDate
import TermSearch.CommandLine.Clock
import TermSearch.CommandLine.Command
import TermSearch.CommandLine.Grammar
import TermSearch.CommandLine.Loading
import TermSearch.CommandLine.Program
import TermSearch.CommandLine.Workspace
import TermSearch.Decimal.Binary64
import TermSearch.Decimal.Numeral
import TermSearch.Decimal.Shortest
import TermSearch.Decimal.Significant
import TermSearch.Document.Base64
import TermSearch.Document.Json.Printer
import TermSearch.Document.Json.Reader
import TermSearch.Document.Literal
import TermSearch.Document.Value
import TermSearch.Document.Yaml.BlockText
import TermSearch.Document.Yaml.Construction
import TermSearch.Document.Yaml.Directive
import TermSearch.Document.Yaml.Error
import TermSearch.Document.Yaml.Graph
import TermSearch.Document.Yaml.MergedEntries
import TermSearch.Document.Yaml.NodeReader
import TermSearch.Document.Yaml.Numeral
import TermSearch.Document.Yaml.Place
import TermSearch.Document.Yaml.PlainForm
import TermSearch.Document.Yaml.PlainText
import TermSearch.Document.Yaml.PlainValue
import TermSearch.Document.Yaml.QuotedText
import TermSearch.Document.Yaml.Reader
import TermSearch.Document.Yaml.Tag
import TermSearch.Document.Yaml.TagText
import TermSearch.Document.Yaml.TokenStream
import TermSearch.Document.Yaml.WrittenTime
import TermSearch.File.Path
import TermSearch.Log.Output
import TermSearch.Main
import TermSearch.Order
import TermSearch.Query.Evaluation
import TermSearch.Query.Expansion
import TermSearch.Query.Field
import TermSearch.Query.Pattern
import TermSearch.Query.Plan
import TermSearch.Query.Predicate
import TermSearch.Query.Search
import TermSearch.Query.Term
import TermSearch.Record.Basic
import TermSearch.Record.Import
import TermSearch.Record.Metadata
import TermSearch.Report.Hits
import TermSearch.Report.Plan
import TermSearch.Report.Predicate
import TermSearch.Report.Results
import TermSearch.Route.Pages
import TermSearch.Route.PercentCode
import TermSearch.Route.Request
import TermSearch.Service.Search
import TermSearch.Settings.Basic
import TermSearch.Settings.Checks
import TermSearch.Settings.Document
import TermSearch.Settings.Error
import TermSearch.Settings.Layering
import TermSearch.Settings.Reading
import TermSearch.Sql.Compile
import TermSearch.Sql.Expr
import TermSearch.Sql.Like
import TermSearch.Sql.Select
import TermSearch.Store.Connection
import TermSearch.Store.Snapshot
import TermSearch.Store.Tables
import TermSearch.Store.Transaction
import TermSearch.Text.Blank
import TermSearch.Text.Case
import TermSearch.Text.CaseTable
import TermSearch.Text.CharSet
import TermSearch.Text.ControlSequence
import TermSearch.Text.Integer
import TermSearch.Text.Letter
import TermSearch.Text.Quoted
import TermSearch.Text.Raw
import TermSearch.Text.Space
import TermSearch.Text.Split
import TermSearch.Text.Unassigned
import TermSearch.Text.Utf8
import TermSearch.Text.Width
import TermSearch.Proofs.Occurrence
import TermSearch.Proofs.LikeMeaning
import TermSearch.Proofs.QueryMeaning
import TermSearch.Proofs.LegiblePlan
import TermSearch.Proofs.CompiledCondition
import TermSearch.Proofs.KeptTime
import TermSearch.Proofs.KeyOrder
import TermSearch.Proofs.SaveHistory
import TermSearch.Proofs.SelectMeaning
import TermSearch.Proofs.MatchingHits
import TermSearch.Proofs.HitOrder
import TermSearch.Proofs.ConditionReading
import TermSearch.Proofs.ConditionText
import TermSearch.Proofs.StatementText
import TermSearch.Proofs.StatementReading
import TermSearch.Proofs.SelectText
import TermSearch.Proofs.StatementAnswer
import TermSearch.Proofs.HiddenRecords
import TermSearch.Proofs.ModeNesting
import TermSearch.Proofs.PlanShape
import TermSearch.Proofs.RegroupedMetadata
import TermSearch.Proofs.StoreRun
import TermSearch.Proofs.CalendarDate
import TermSearch.Proofs.ReadableTime
import TermSearch.Proofs.HeldRows
import TermSearch.Proofs.RefusedBatch
import TermSearch.Proofs.KeptRecords
import TermSearch.Proofs.ReadableRecords
import TermSearch.Proofs.QueryCode
import TermSearch.Proofs.AcceptedSettings
import TermSearch.Proofs.RuleMatching
import TermSearch.Proofs.RedirectedQuery
import TermSearch.Proofs.DamagedSubterm
import TermSearch.Proofs.ExclusionMarker
import TermSearch.Proofs.JoinedQueries
import TermSearch.Proofs.HitPages
import TermSearch.Proofs.RankBounds
import TermSearch.Proofs.SavedImports
import TermSearch.Proofs.LoadedFile
import TermSearch.Proofs.TermPatterns
import TermSearch.Proofs.GrownRecord
import TermSearch.Proofs.WidenedFields
import TermSearch.Proofs.FoundHits
import TermSearch.Proofs.WidthRuns
import TermSearch.Proofs.TermCuts
import TermSearch.Proofs.LoadedPages
import TermSearch.Proofs.AddressForm
import TermSearch.Proofs.SentStatements
import TermSearch.Proofs.ImportedItems
import TermSearch.Proofs.LayeredEntries
import TermSearch.Proofs.WrittenSettings
import TermSearch.Proofs.PageLookup
import TermSearch.Proofs.ForeignValues
import TermSearch.Proofs.LeafPolarity
import TermSearch.Proofs.RankingLeaves
import TermSearch.Proofs.RequestText
import TermSearch.Proofs.ResolvedRequest
import TermSearch.Proofs.PredicateViews
