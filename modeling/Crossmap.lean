import Crossmap.CommandLine.Arguments
import Crossmap.CommandLine.Options
import Crossmap.CommandLine.Run
import Crossmap.Conversion.Convert
import Crossmap.Conversion.Ident
import Crossmap.Conversion.Phase
import Crossmap.Conversion.Plan
import Crossmap.Conversion.Resolve
import Crossmap.Conversion.Run
import Crossmap.Conversion.Settings
import Crossmap.Conversion.Supervised
import Crossmap.Conversion.Trace
import Crossmap.Delimited.Directory
import Crossmap.Delimited.Table
import Crossmap.Delimited.Text
import Crossmap.Dict
import Crossmap.Document.Basic
import Crossmap.Files.Documents
import Crossmap.Files.Tree
import Crossmap.Findings.Models
import Crossmap.Findings.Records
import Crossmap.Findings.Rows
import Crossmap.Json.Printer
import Crossmap.Json.Reader
import Crossmap.Json.Source
import Crossmap.Json.Value
import Crossmap.Json.View
import Crossmap.Main
import Crossmap.Mapping.Codec
import Crossmap.Mapping.Grammar
import Crossmap.Mapping.Lexeme
import Crossmap.Mapping.Model
import Crossmap.Mapping.SyntaxError
import Crossmap.Mapping.Token
import Crossmap.Mapping.TokenReader
import Crossmap.Number.Binary64
import Crossmap.Number.Decimal
import Crossmap.Number.Shortest
import Crossmap.Record.Basic
import Crossmap.Record.Codec
import Crossmap.Schema.Basic
import Crossmap.Schema.Codec
import Crossmap.Sql.Statement
import Crossmap.Sql.Store
import Crossmap.Table.Access
import Crossmap.Table.Memory
import Crossmap.Table.Row
import Crossmap.Table.Watched
import Crossmap.Text.Blank
import Crossmap.Text.Cased
import Crossmap.Text.Hexadecimal
import Crossmap.Text.Lowercase
import Crossmap.Text.Printable
import Crossmap.Text.Ranges
import Crossmap.Text.Split
import Crossmap.Text.Unseen
import Crossmap.Text.Utf8
import Crossmap.Toml.Node
import Crossmap.Toml.Reader
import Crossmap.Toml.Scalar
import Crossmap.Yaml.Node
import Crossmap.Yaml.Place
import Crossmap.Yaml.Reader
import Crossmap.Yaml.Scalar
import Crossmap.Yaml.Token
import Crossmap.Proofs.Conversion.RoundTrip
import Crossmap.Proofs.Conversion.UndeclaredMaps
import Crossmap.Proofs.Mapping.Rendering
import Crossmap.Proofs.Conversion.Delivery
import Crossmap.Proofs.Conversion.Reading
import Crossmap.Proofs.Conversion.Recoding
import Crossmap.Proofs.Conversion.Filtering
import Crossmap.Proofs.Delimited.Records
import Crossmap.Proofs.Text.Utf8
import Crossmap.Proofs.Delimited.Tables
import Crossmap.Proofs.Delimited.Directory
import Crossmap.Proofs.Delimited.Replacement
import Crossmap.Proofs.Delimited.RoundTrip
import Crossmap.Proofs.Conversion.Tracing
import Crossmap.Proofs.Sql.Names
import Crossmap.Proofs.Sql.Batches
import Crossmap.Proofs.Sql.Selection
import Crossmap.Proofs.Conversion.Supervision
import Crossmap.Proofs.Conversion.Telling
import Crossmap.Proofs.Conversion.Answers
import Crossmap.Proofs.Conversion.RunPairs
import Crossmap.Proofs.Json.Grammar
import Crossmap.Proofs.Conversion.PlannedCalls
import Crossmap.Proofs.Conversion.Gates
import Crossmap.Proofs.Conversion.FreshIdents
import Crossmap.Proofs.Json.Printing
import Crossmap.Proofs.Json.Codecs
import Crossmap.Proofs.Mapping.Documents
import Crossmap.Proofs.Schema.Documents
import Crossmap.Proofs.Conversion.Documents
import Crossmap.Proofs.Conversion.ColumnCase
import Crossmap.Proofs.Conversion.DeclarationOrder
import Crossmap.Proofs.Conversion.Lookups
import Crossmap.Proofs.Mapping.Concatenation
import Crossmap.Proofs.Conversion.CodesAndPaths
import Crossmap.Proofs.Conversion.TraceContents
import Crossmap.Proofs.Conversion.Fields
import Crossmap.Proofs.Conversion.IdentCells
import Crossmap.Proofs.Findings.Models
import Crossmap.Proofs.Findings.Records
import Crossmap.Proofs.Conversion.Dependence
import Crossmap.Proofs.Findings.Rows
import Crossmap.Proofs.Mapping.Trivia
import Crossmap.Proofs.Mapping.Scanning
import Crossmap.Proofs.Mapping.Layouts
import Crossmap.Proofs.Mapping.Lookahead
import Crossmap.Proofs.Mapping.Prediction
import Crossmap.Proofs.Mapping.ClausePrediction
import Crossmap.Proofs.Mapping.Sentences
import Crossmap.Proofs.Mapping.ModelPrediction
import Crossmap.Proofs.Mapping.Offences
import Crossmap.Proofs.Files.Destinations
import Crossmap.Proofs.Delimited.Confinement
import Crossmap.Proofs.Conversion.InertClauses
import Crossmap.Proofs.Conversion.RowStarts
import Crossmap.Proofs.Conversion.IdentHistory
import Crossmap.Proofs.Text.Lines
import Crossmap.Proofs.Conversion.TraceLines
import Crossmap.Proofs.CommandLine.TraceFiles
import Crossmap.Proofs.Mapping.Rounds
import Crossmap.Proofs.Mapping.Scanner
import Crossmap.Proofs.Mapping.ScanRounds
import Crossmap.Proofs.Mapping.TapeReader
import Crossmap.Proofs.Mapping.TapeLaws
import Crossmap.Proofs.Mapping.TapeClauses
import Crossmap.Proofs.Mapping.TapeModels
