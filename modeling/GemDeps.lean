import GemDeps.Code.Arguments
import GemDeps.Code.Block
import GemDeps.Code.Call
import GemDeps.Code.Comment
import GemDeps.Code.Quoted
import GemDeps.Code.Value
import GemDeps.Code.Zone
import GemDeps.CommandLine.Arguments
import GemDeps.CommandLine.Program
import GemDeps.Files.Error
import GemDeps.Files.Path
import GemDeps.Files.Storage
import GemDeps.Files.Tree
import GemDeps.Json.Basic
import GemDeps.Json.Datum
import GemDeps.Json.Escape
import GemDeps.Json.Fields
import GemDeps.Json.Number
import GemDeps.Json.Parser
import GemDeps.Json.Printer
import GemDeps.Json.Token
import GemDeps.Main
import GemDeps.Manifest.Document
import GemDeps.Manifest.Gemfile
import GemDeps.Manifest.Gemspec
import GemDeps.Manifest.Json
import GemDeps.Manifest.Kind
import GemDeps.Manifest.Reader
import GemDeps.Manifest.Statement
import GemDeps.Manifest.Version
import GemDeps.Number.Shortest
import GemDeps.Proofs.AddedDependency
import GemDeps.Proofs.AddedGem
import GemDeps.Proofs.AddedLines
import GemDeps.Proofs.AddedScope
import GemDeps.Proofs.AddedVersion
import GemDeps.Proofs.Arguments
import GemDeps.Proofs.AtomicRequests
import GemDeps.Proofs.Blanks
import GemDeps.Proofs.BlockDepth
import GemDeps.Proofs.BufferRuns
import GemDeps.Proofs.ByteCuts
import GemDeps.Proofs.ByteScans
import GemDeps.Proofs.ByteSlices
import GemDeps.Proofs.CarriedOptions
import GemDeps.Proofs.CheckedEdits
import GemDeps.Proofs.CheckedLines
import GemDeps.Proofs.CheckedManifests
import GemDeps.Proofs.CheckedStatements
import GemDeps.Proofs.CheckedValues
import GemDeps.Proofs.Continuation
import GemDeps.Proofs.DeclaredLines
import GemDeps.Proofs.DeclaredNames
import GemDeps.Proofs.DocumentJson
import GemDeps.Proofs.EditOrder
import GemDeps.Proofs.EditRuns
import GemDeps.Proofs.EditedLine
import GemDeps.Proofs.EditedNames
import GemDeps.Proofs.FileTrees
import GemDeps.Proofs.Frame
import GemDeps.Proofs.GroupMarks
import GemDeps.Proofs.GroupedGems
import GemDeps.Proofs.InsertedLines
import GemDeps.Proofs.Interpolation
import GemDeps.Proofs.JsonRecords
import GemDeps.Proofs.JsonStrings
import GemDeps.Proofs.Keywords
import GemDeps.Proofs.LineReadings
import GemDeps.Proofs.Lines
import GemDeps.Proofs.Literals
import GemDeps.Proofs.NestedSpans
import GemDeps.Proofs.OpaqueStrings
import GemDeps.Proofs.OpenBlocks
import GemDeps.Proofs.ParenthesizedCalls
import GemDeps.Proofs.PinAlgebra
import GemDeps.Proofs.PinnedDocument
import GemDeps.Proofs.PinnedRequirement
import GemDeps.Proofs.ReaderRun
import GemDeps.Proofs.Reading
import GemDeps.Proofs.RepeatedPin
import GemDeps.Proofs.ReproducedLines
import GemDeps.Proofs.Requests
import GemDeps.Proofs.Requirement
import GemDeps.Proofs.Slots
import GemDeps.Proofs.SniffedKind
import GemDeps.Proofs.Spans
import GemDeps.Proofs.SplitArguments
import GemDeps.Proofs.Statements
import GemDeps.Proofs.UnclosedArguments
import GemDeps.Proofs.Unions
import GemDeps.Proofs.Validated
import GemDeps.Proofs.VersionArguments
import GemDeps.Proofs.VersionLines
import GemDeps.Proofs.VersionRuns
import GemDeps.Proofs.WellFormedDocuments
import GemDeps.Proofs.WrittenArguments
import GemDeps.Proofs.WrittenJson
import GemDeps.Proofs.WrittenLines
import GemDeps.Proofs.WrittenStatements
import GemDeps.Revision.Addition
import GemDeps.Revision.Basic
import GemDeps.Revision.LineBuffer
import GemDeps.Revision.Location
import GemDeps.Revision.Pin
import GemDeps.Revision.VersionArguments
import GemDeps.Spelling.Operator
import GemDeps.Spelling.Origin
import GemDeps.Spelling.Quote
import GemDeps.Spelling.Statement
import GemDeps.Text.Basic
import GemDeps.Text.Blank
import GemDeps.Text.Composition
import GemDeps.Text.Decimal
import GemDeps.Text.Digit
import GemDeps.Text.Direction
import GemDeps.Text.Hexadecimal
import GemDeps.Text.Joining
import GemDeps.Text.Lines
import GemDeps.Text.Mark
import GemDeps.Text.Shown
import GemDeps.Text.Table
import GemDeps.Text.Unassigned
import GemDeps.Text.Word
import GemDeps.Toml.Document
import GemDeps.Toml.Quoted
import GemDeps.Toml.Scalar
import GemDeps.Toml.Value
import GemDeps.Url.Address
import GemDeps.Url.Domain
import GemDeps.Url.Label
import GemDeps.Url.Mapping
import GemDeps.Url.Parser
import GemDeps.Url.Punycode
import GemDeps.Workspace.Configuration
import GemDeps.Workspace.ConfigurationFile
import GemDeps.Workspace.Error
import GemDeps.Workspace.Form
import GemDeps.Workspace.Request
import GemDeps.Workspace.Response
import GemDeps.Workspace.Session
import GemDeps.Workspace.Shape
import GemDeps.Workspace.Validation
