import FacetSearch.Aggregation.Basic
import FacetSearch.Aggregation.Codec
import FacetSearch.Aggregation.Plan
import FacetSearch.Aggregation.Properties
import FacetSearch.Aggregation.Ranges
import FacetSearch.CommandLine.Arguments
import FacetSearch.CommandLine.Command
import FacetSearch.CommandLine.Execute
import FacetSearch.Decimal.Binary
import FacetSearch.Decimal.Scan
import FacetSearch.Decimal.Shortest
import FacetSearch.Document.BulkSummary
import FacetSearch.Document.Indexer
import FacetSearch.Document.Lines
import FacetSearch.Domain.Direction
import FacetSearch.Domain.Joining
import FacetSearch.Domain.Mapping
import FacetSearch.Domain.Name
import FacetSearch.Domain.Punycode
import FacetSearch.Engine.Call
import FacetSearch.Engine.Memory
import FacetSearch.Engine.Program
import FacetSearch.Error
import FacetSearch.File
import FacetSearch.FileStore
import FacetSearch.Filter
import FacetSearch.Http.Answer
import FacetSearch.Http.Client
import FacetSearch.Http.Request
import FacetSearch.Http.Wire
import FacetSearch.Index.Manager
import FacetSearch.Index.Mapping
import FacetSearch.Index.Settings
import FacetSearch.Json.Basic
import FacetSearch.Json.Decode
import FacetSearch.Json.Literal
import FacetSearch.Json.Printer
import FacetSearch.Json.Raw
import FacetSearch.Json.Reader
import FacetSearch.Main
import FacetSearch.Proofs.FaultyBatch
import FacetSearch.Proofs.FilterQuery
import FacetSearch.Proofs.ProgramRun
import FacetSearch.Query.Basic
import FacetSearch.Query.Codec
import FacetSearch.Query.Meaning
import FacetSearch.Response.Basic
import FacetSearch.Response.Codec
import FacetSearch.Results
import FacetSearch.ResultsText
import FacetSearch.Search.Query
import FacetSearch.Search.Searcher
import FacetSearch.Service
import FacetSearch.Settings.Basic
import FacetSearch.Settings.File
import FacetSearch.Source
import FacetSearch.StringMap
import FacetSearch.Text.Base64
import FacetSearch.Text.Blank
import FacetSearch.Text.CharTable
import FacetSearch.Text.Composition
import FacetSearch.Text.Decomposition
import FacetSearch.Text.Hex
import FacetSearch.Text.LetterCase
import FacetSearch.Text.LowerCase
import FacetSearch.Text.Mark
import FacetSearch.Text.Utf8
import FacetSearch.Toml.Basic
import FacetSearch.Toml.Decode
import FacetSearch.Toml.Reader
import FacetSearch.Toml.Scalar
import FacetSearch.Toml.Text
import FacetSearch.Url.Basic
import FacetSearch.Url.Host
import FacetSearch.Url.Percent
import FacetSearch.Url.Reader
import FacetSearch.Proofs.Script
import FacetSearch.Proofs.Trail
import FacetSearch.Proofs.IndexSetup
import FacetSearch.Proofs.StringMapLookup
import FacetSearch.Proofs.BulkAcknowledgement
import FacetSearch.Proofs.FaithfulStore
import FacetSearch.Proofs.Reindexing
import FacetSearch.Proofs.SteadyEngine
import FacetSearch.Proofs.TrailEvents
import FacetSearch.Proofs.IndexTurn
import FacetSearch.Proofs.IndexHistory
import FacetSearch.Proofs.OctetOrder
import FacetSearch.Proofs.TextTokens
import FacetSearch.Proofs.RangeGrammar
import FacetSearch.Proofs.PropertyRoots
import FacetSearch.Proofs.PropertyGrammar
import FacetSearch.Proofs.MemoryReply
import FacetSearch.Proofs.StringMapOrder
import FacetSearch.Proofs.JsonValues
import FacetSearch.Proofs.ResponseDecoding
import FacetSearch.Proofs.Normalization
import FacetSearch.Proofs.RecognizedContent
import FacetSearch.Proofs.UnrecognizedMembers
import FacetSearch.Proofs.NormalResults
import FacetSearch.Proofs.NestedPlans
import FacetSearch.Proofs.SearchCalls
import FacetSearch.Proofs.QueryConjunction
import FacetSearch.Proofs.FieldPlans
import FacetSearch.Proofs.PlanNames
import FacetSearch.Proofs.DecimalText
import FacetSearch.Proofs.BulkFraming
import FacetSearch.Proofs.DocumentAddress
import FacetSearch.Proofs.WrittenRecords
import FacetSearch.Proofs.BinaryWidening
import FacetSearch.Proofs.QueryForms
import FacetSearch.Proofs.RequestForms
import FacetSearch.Proofs.ResponseForms
import FacetSearch.Proofs.RootIndependence
import FacetSearch.Proofs.AnswerClassification
import FacetSearch.Proofs.AnalyzedFields
import FacetSearch.Proofs.GroupedQueries
import FacetSearch.Proofs.InputDocuments
import FacetSearch.Proofs.NumberLiterals
import FacetSearch.Proofs.JsonReading
import FacetSearch.Proofs.CreationBody
import FacetSearch.Proofs.SourceTexts
import FacetSearch.Proofs.FailureReasons
import FacetSearch.Proofs.Suggestions
import FacetSearch.Proofs.NearestMagnitude
import FacetSearch.Proofs.DecimalGrammar
import FacetSearch.Proofs.RangeKeys
import FacetSearch.Proofs.LowerCaseText
import FacetSearch.Proofs.CleanedTexts
import FacetSearch.Proofs.QuotedStrings
import FacetSearch.Proofs.WrittenValues
import FacetSearch.Proofs.WrittenSections
import FacetSearch.Proofs.BoundedIntegers
import FacetSearch.Proofs.SavedSettings
import FacetSearch.Proofs.MappingFiles
