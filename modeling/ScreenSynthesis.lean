import ScreenSynthesis.Annotation
import ScreenSynthesis.Binder
import ScreenSynthesis.Binding
import ScreenSynthesis.Bodies
import ScreenSynthesis.Bundle
import ScreenSynthesis.Call
import ScreenSynthesis.Candidate
import ScreenSynthesis.Codec.Declarations
import ScreenSynthesis.Codec.Decoder
import ScreenSynthesis.Codec.Error
import ScreenSynthesis.Codec.Fields
import ScreenSynthesis.Codec.Results
import ScreenSynthesis.Codec.Values
import ScreenSynthesis.CommandLine.Arguments
import ScreenSynthesis.CommandLine.EnvironmentValue
import ScreenSynthesis.CommandLine.Files
import ScreenSynthesis.CommandLine.Report
import ScreenSynthesis.CommandLine.Run
import ScreenSynthesis.CommandLine.Settings
import ScreenSynthesis.Config
import ScreenSynthesis.Controller
import ScreenSynthesis.Decimal.Shortest
import ScreenSynthesis.Declaration
import ScreenSynthesis.Diagnostic
import ScreenSynthesis.Error
import ScreenSynthesis.Execution
import ScreenSynthesis.Fault
import ScreenSynthesis.Json.Basic
import ScreenSynthesis.Json.Document
import ScreenSynthesis.Json.Number
import ScreenSynthesis.Json.Numeral
import ScreenSynthesis.Json.Printer
import ScreenSynthesis.Json.Reader
import ScreenSynthesis.Json.Token
import ScreenSynthesis.Lineage
import ScreenSynthesis.Main
import ScreenSynthesis.Marker
import ScreenSynthesis.Name
import ScreenSynthesis.Proofs.BareArguments
import ScreenSynthesis.Proofs.BindingExactness
import ScreenSynthesis.Proofs.BindingNames
import ScreenSynthesis.Proofs.BindingReads
import ScreenSynthesis.Proofs.CandidateScan
import ScreenSynthesis.Proofs.CandidateTables
import ScreenSynthesis.Proofs.ConfigurationNoninterference
import ScreenSynthesis.Proofs.ContainerNames
import ScreenSynthesis.Proofs.DeclarationLocality
import ScreenSynthesis.Proofs.ExecutorErrors
import ScreenSynthesis.Proofs.FailureIsolation
import ScreenSynthesis.Proofs.FillExactness
import ScreenSynthesis.Proofs.LayoutBinding
import ScreenSynthesis.Proofs.LineageMemory
import ScreenSynthesis.Proofs.LineageReachability
import ScreenSynthesis.Proofs.Lookup
import ScreenSynthesis.Proofs.MarkerArguments
import ScreenSynthesis.Proofs.MarkerOrder
import ScreenSynthesis.Proofs.NameIndex
import ScreenSynthesis.Proofs.PrintedReports
import ScreenSynthesis.Proofs.RenderOutcome
import ScreenSynthesis.Proofs.RenderedBlocks
import ScreenSynthesis.Proofs.RenderedComments
import ScreenSynthesis.Proofs.RenderedText
import ScreenSynthesis.Proofs.RenderedTypes
import ScreenSynthesis.Proofs.RequestWords
import ScreenSynthesis.Proofs.RunReports
import ScreenSynthesis.Proofs.ScreenKeys
import ScreenSynthesis.Proofs.ScreenMembers
import ScreenSynthesis.Proofs.ScreenRoundTrip
import ScreenSynthesis.Proofs.SessionCalls
import ScreenSynthesis.Proofs.SessionReachability
import ScreenSynthesis.Proofs.SessionSymbols
import ScreenSynthesis.Proofs.SessionValidation
import ScreenSynthesis.Proofs.SymbolMerge
import ScreenSynthesis.Proofs.SymbolTableCoherence
import ScreenSynthesis.Proofs.SymbolTableHistory
import ScreenSynthesis.Proofs.UnitFormat
import ScreenSynthesis.Proofs.ValidationExactness
import ScreenSynthesis.Proofs.ValueFormat
import ScreenSynthesis.Proofs.ViewSearch
import ScreenSynthesis.Rendering.Identifier
import ScreenSynthesis.Rendering.Item
import ScreenSynthesis.Rendering.Source
import ScreenSynthesis.Rendering.Token
import ScreenSynthesis.Result
import ScreenSynthesis.Session
import ScreenSynthesis.SortedMap
import ScreenSynthesis.Stubs
import ScreenSynthesis.Symbol
import ScreenSynthesis.Text.GraphemeExtend
import ScreenSynthesis.Text.IdentifierContinue
import ScreenSynthesis.Text.IdentifierStart
import ScreenSynthesis.Text.Printable
import ScreenSynthesis.Text.Quoted
import ScreenSynthesis.Text.Ranges
import ScreenSynthesis.Text.Split
import ScreenSynthesis.Text.UpperCase
import ScreenSynthesis.Text.WhiteSpace
import ScreenSynthesis.TypeGraph
import ScreenSynthesis.Unit
import ScreenSynthesis.Validation
import ScreenSynthesis.View
import ScreenSynthesis.Yaml.BlockScalar
import ScreenSynthesis.Yaml.Flow
import ScreenSynthesis.Yaml.Line
import ScreenSynthesis.Yaml.Reader
import ScreenSynthesis.Yaml.Scalar
