import Downstream.Analysis.Basic
import Downstream.Analysis.Run
import Downstream.CommandLine.Arguments
import Downstream.CommandLine.Command
import Downstream.CommandLine.Grammar
import Downstream.CommandLine.Run
import Downstream.Config.Basic
import Downstream.Config.Document
import Downstream.Config.Load
import Downstream.Dependency
import Downstream.Exclusion
import Downstream.Extraction
import Downstream.Failure
import Downstream.FileSystem.Basic
import Downstream.FileSystem.Listing
import Downstream.FileSystem.PathText
import Downstream.FileSystem.Problem
import Downstream.Glob
import Downstream.Idiom.Basic
import Downstream.Idiom.Cursor
import Downstream.Idiom.Statement
import Downstream.Idiom.Windowed
import Downstream.Json.Basic
import Downstream.Json.Encoding
import Downstream.Json.Parser
import Downstream.Json.Printer
import Downstream.Language
import Downstream.Log
import Downstream.Main
import Downstream.Naming
import Downstream.Number.Binary64
import Downstream.Number.Decimal
import Downstream.Number.Integer
import Downstream.Number.Shortest
import Downstream.Proofs.Analysis.Agreement
import Downstream.Proofs.Analysis.Failures
import Downstream.Proofs.Analysis.Inert
import Downstream.Proofs.Analysis.Limit
import Downstream.Proofs.Analysis.OneType
import Downstream.Proofs.Analysis.Provenance
import Downstream.Proofs.Analysis.Reordering
import Downstream.Proofs.Analysis.Run
import Downstream.Proofs.Analysis.Words
import Downstream.Proofs.CommandLine.Arguments
import Downstream.Proofs.CommandLine.Run
import Downstream.Proofs.Config.Basic
import Downstream.Proofs.Config.Escapes
import Downstream.Proofs.Config.Usable
import Downstream.Proofs.Dependency
import Downstream.Proofs.Dependency.Reading
import Downstream.Proofs.Except
import Downstream.Proofs.Exclusion
import Downstream.Proofs.Exclusion.Spans
import Downstream.Proofs.Extraction
import Downstream.Proofs.Extraction.Pool
import Downstream.Proofs.Failure
import Downstream.Proofs.FileSystem.Order
import Downstream.Proofs.FileSystem.Tree
import Downstream.Proofs.FileSystem.Write
import Downstream.Proofs.FrontEnds
import Downstream.Proofs.Idiom.Apart
import Downstream.Proofs.Idiom.Cursor
import Downstream.Proofs.Idiom.Located
import Downstream.Proofs.Idiom.Matches
import Downstream.Proofs.Idiom.Nearest
import Downstream.Proofs.Idiom.Occurrences
import Downstream.Proofs.Idiom.Span
import Downstream.Proofs.Idiom.Windowed
import Downstream.Proofs.Json.Halves
import Downstream.Proofs.Json.ReadBack
import Downstream.Proofs.Json.Strings
import Downstream.Proofs.Language
import Downstream.Proofs.Log
import Downstream.Proofs.Log.Failing
import Downstream.Proofs.Naming
import Downstream.Proofs.Report
import Downstream.Proofs.Report.Reading
import Downstream.Proofs.Resolution
import Downstream.Proofs.Resolution.Leading
import Downstream.Proofs.Scan.Agreement
import Downstream.Proofs.Scan.Basic
import Downstream.Proofs.Scan.Excluded
import Downstream.Proofs.Scan.Kept
import Downstream.Proofs.Scan.Narrowing
import Downstream.Proofs.Scan.Records
import Downstream.Proofs.Scan.Resubmission
import Downstream.Proofs.Scan.Upload
import Downstream.Proofs.Scan.Walk
import Downstream.Proofs.Selection
import Downstream.Proofs.Selection.LetterCase
import Downstream.Proofs.Selection.Ranking
import Downstream.Proofs.Selection.Registry
import Downstream.Proofs.Service.Respond
import Downstream.Proofs.ServiceName
import Downstream.Proofs.Text.Bytes
import Downstream.Proofs.Text.Fields
import Downstream.Proofs.Text.Halves
import Downstream.Proofs.Text.LetterCase
import Downstream.Proofs.Text.LowerCase
import Downstream.Proofs.Text.Points
import Downstream.Proofs.Workspace
import Downstream.Proofs.Yaml.Grammar
import Downstream.Proofs.Yaml.Lexer
import Downstream.Proofs.Yaml.Refusal
import Downstream.Proofs.Yaml.Values
import Downstream.Report
import Downstream.Resolution
import Downstream.Root
import Downstream.Scan.Basic
import Downstream.Scan.Upload
import Downstream.Scan.Walk
import Downstream.Selection.Basic
import Downstream.Selection.Registry
import Downstream.Selection.Score
import Downstream.Service.Body
import Downstream.Service.Respond
import Downstream.Service.Target
import Downstream.ServiceName
import Downstream.SourceFile
import Downstream.Text.Alphanumeric
import Downstream.Text.Blank
import Downstream.Text.CaseRuns
import Downstream.Text.Cased
import Downstream.Text.CodeRange
import Downstream.Text.DecimalDigit
import Downstream.Text.Encoding
import Downstream.Text.Half
import Downstream.Text.Hex
import Downstream.Text.LowerCase
import Downstream.Text.Points
import Downstream.Text.Printable
import Downstream.Text.Quoted
import Downstream.Text.Search
import Downstream.Workspace
import Downstream.Yaml.Base64
import Downstream.Yaml.Complaint
import Downstream.Yaml.Event
import Downstream.Yaml.Failure
import Downstream.Yaml.Node
import Downstream.Yaml.Number
import Downstream.Yaml.Place
import Downstream.Yaml.PlainType
import Downstream.Yaml.Timestamp
import Downstream.Yaml.Token.Basic
import Downstream.Yaml.Token.Block
import Downstream.Yaml.Token.Lexer
import Downstream.Yaml.Token.Plain
import Downstream.Yaml.Token.Quoted
import Downstream.Yaml.Token.Tag
import Downstream.Yaml.Value
