import ScriptLint.Arity
import ScriptLint.AritySet
import ScriptLint.Cache.Catalog
import ScriptLint.Cache.Directory
import ScriptLint.Cache.Entry
import ScriptLint.Cache.Headers
import ScriptLint.Cache.Store
import ScriptLint.Calendar.Date
import ScriptLint.Calendar.HttpDate
import ScriptLint.Calendar.Instant
import ScriptLint.Calendar.Reading
import ScriptLint.Calendar.Timestamp
import ScriptLint.Command.Check
import ScriptLint.Command.Outcome
import ScriptLint.Command.Run
import ScriptLint.Command.Show
import ScriptLint.Command.Update
import ScriptLint.CommandLine.Form
import ScriptLint.CommandLine.Invocation
import ScriptLint.CommandLine.Reading
import ScriptLint.Diagnostic.Basic
import ScriptLint.Diagnostic.Encoding
import ScriptLint.Diagnostic.Report
import ScriptLint.Docs.Error
import ScriptLint.Docs.Freshness
import ScriptLint.Docs.Layout
import ScriptLint.Docs.Maintenance
import ScriptLint.Docs.Page
import ScriptLint.Docs.ResponseHeaders
import ScriptLint.Docs.Signature
import ScriptLint.Docs.SignaturePage
import ScriptLint.Docs.Site
import ScriptLint.EditDistance
import ScriptLint.FileError
import ScriptLint.Files.CacheAccess
import ScriptLint.Files.Path
import ScriptLint.Files.Tree
import ScriptLint.Ignore.Glob
import ScriptLint.Ignore.Levels
import ScriptLint.Ignore.Pattern
import ScriptLint.Ignore.Personal
import ScriptLint.Ignore.Rules
import ScriptLint.Json.Basic
import ScriptLint.Json.Decoder
import ScriptLint.Json.Parser
import ScriptLint.Json.Printer
import ScriptLint.LineIndex
import ScriptLint.Lint.Engine
import ScriptLint.Lint.Rule
import ScriptLint.Lint.Settings
import ScriptLint.Main
import ScriptLint.Markup.Construction.Body
import ScriptLint.Markup.Construction.Builder
import ScriptLint.Markup.Construction.Foreign
import ScriptLint.Markup.Construction.Formatting
import ScriptLint.Markup.Construction.Head
import ScriptLint.Markup.Construction.Rules
import ScriptLint.Markup.Construction.Table
import ScriptLint.Markup.Element
import ScriptLint.Markup.Lexer
import ScriptLint.Markup.Parser
import ScriptLint.Markup.Reference
import ScriptLint.Markup.ReferenceNames
import ScriptLint.Markup.Selector.Basic
import ScriptLint.Markup.Selector.Reading
import ScriptLint.Markup.Token
import ScriptLint.Markup.Traversal
import ScriptLint.Markup.Tree
import ScriptLint.MethodTable
import ScriptLint.Project
import ScriptLint.Proofs.Cache.CatalogLookUp
import ScriptLint.Proofs.Cache.Directives
import ScriptLint.Proofs.Cache.EntryText
import ScriptLint.Proofs.Cache.Lifetimes
import ScriptLint.Proofs.Cache.LookUpSteps
import ScriptLint.Proofs.Cache.SharedCatalog
import ScriptLint.Proofs.Cache.StoreFrame
import ScriptLint.Proofs.Cache.WrittenEntries
import ScriptLint.Proofs.Calendar.DateForms
import ScriptLint.Proofs.Calendar.Dates
import ScriptLint.Proofs.Calendar.ElapsedTime
import ScriptLint.Proofs.Calendar.Timestamps
import ScriptLint.Proofs.Calendar.WrittenDates
import ScriptLint.Proofs.Command.ArityListings
import ScriptLint.Proofs.Command.ReportFormats
import ScriptLint.Proofs.Command.ShownMethods
import ScriptLint.Proofs.Diagnostic.EncodedDiagnostics
import ScriptLint.Proofs.Diagnostic.RenderedDiagnostics
import ScriptLint.Proofs.Docs.Convergence
import ScriptLint.Proofs.Docs.DecidingHeaders
import ScriptLint.Proofs.Docs.MaintenanceHistory
import ScriptLint.Proofs.Docs.PageConstruction
import ScriptLint.Proofs.Docs.ParsedTables
import ScriptLint.Proofs.Docs.RefreshEffects
import ScriptLint.Proofs.Docs.RefreshFrame
import ScriptLint.Proofs.Docs.RenderedPages
import ScriptLint.Proofs.Docs.RequestProtocol
import ScriptLint.Proofs.Docs.RespacedText
import ScriptLint.Proofs.Docs.SavedEntries
import ScriptLint.Proofs.Docs.ShownSignatures
import ScriptLint.Proofs.Docs.SignatureSearch
import ScriptLint.Proofs.Docs.SignatureText
import ScriptLint.Proofs.Docs.SpacedWords
import ScriptLint.Proofs.Docs.Staleness
import ScriptLint.Proofs.Docs.UpdateIsolation
import ScriptLint.Proofs.Files.EnteredDirectories
import ScriptLint.Proofs.Files.PathParts
import ScriptLint.Proofs.Files.PathsAbove
import ScriptLint.Proofs.Json.DecodedRecord
import ScriptLint.Proofs.Json.WrittenText
import ScriptLint.Proofs.Json.WrittenValue
import ScriptLint.Proofs.Lint.CatalogUses
import ScriptLint.Proofs.Lint.CheckOrder
import ScriptLint.Proofs.Lint.ConsultedTables
import ScriptLint.Proofs.Lint.DocumentedCalls
import ScriptLint.Proofs.Lint.Readiness
import ScriptLint.Proofs.Lint.RuleLevels
import ScriptLint.Proofs.Lint.RuleLists
import ScriptLint.Proofs.Lint.StandingRules
import ScriptLint.Proofs.Markup.ClassSelection
import ScriptLint.Proofs.Markup.TableConstruction
import ScriptLint.Proofs.Markup.TokenReading
import ScriptLint.Proofs.Script.Anchors
import ScriptLint.Proofs.Script.ArgumentCounts
import ScriptLint.Proofs.Script.ArgumentLists
import ScriptLint.Proofs.Script.ArgumentRanges
import ScriptLint.Proofs.Script.CallScan
import ScriptLint.Proofs.Script.DividedScripts
import ScriptLint.Proofs.Script.FoundScripts
import ScriptLint.Proofs.Script.LineBisection
import ScriptLint.Proofs.Script.LinePositions
import ScriptLint.Proofs.Script.LineStarts
import ScriptLint.Proofs.Script.MatchingParentheses
import ScriptLint.Proofs.Script.UnorderedPaths
import ScriptLint.Proofs.Script.WrittenCalls
import ScriptLint.Proofs.Settings.NearestSettings
import ScriptLint.Proofs.Settings.PageAddresses
import ScriptLint.Proofs.Suggestion.BestSuggestions
import ScriptLint.Proofs.Suggestion.ComparableScores
import ScriptLint.Proofs.Suggestion.ContainedNames
import ScriptLint.Proofs.Suggestion.LeastEdits
import ScriptLint.Proofs.Suggestion.Ranking
import ScriptLint.Proofs.Table.ChangedTables
import ScriptLint.Proofs.Table.Contents
import ScriptLint.Proofs.Table.Merging
import ScriptLint.Proofs.Table.Rebuilding
import ScriptLint.Proofs.Text.ByteOrder
import ScriptLint.Proofs.Text.Digits
import ScriptLint.Proofs.Text.Divisions
import ScriptLint.Proofs.Text.SingleBytes
import ScriptLint.Proofs.Web.AddressHosts
import ScriptLint.Registry
import ScriptLint.Script.Call
import ScriptLint.Script.Discovery
import ScriptLint.Settings.Basic
import ScriptLint.Settings.CacheLocation
import ScriptLint.Settings.Decoder
import ScriptLint.Settings.Loading
import ScriptLint.Suggestion
import ScriptLint.Text.Blank
import ScriptLint.Text.CodePoints
import ScriptLint.Text.Decimal
import ScriptLint.Text.LowerCase
import ScriptLint.Text.Utf8
import ScriptLint.Text.WordChar
import ScriptLint.Toml.Basic
import ScriptLint.Toml.Reader
import ScriptLint.Toml.Scalar
import ScriptLint.Web.Address
import ScriptLint.Web.Site
