import ToolSchema.AddressBook
import ToolSchema.Command.Args
import ToolSchema.Command.Log
import ToolSchema.Command.Run
import ToolSchema.Comment.Basic
import ToolSchema.Comment.Codec
import ToolSchema.Comment.Parser
import ToolSchema.Comment.TypeList
import ToolSchema.Convert.Assembly
import ToolSchema.Convert.Batch
import ToolSchema.Convert.Config
import ToolSchema.Convert.Diagnostics
import ToolSchema.Convert.Documentation
import ToolSchema.Convert.Report
import ToolSchema.Convert.Shape
import ToolSchema.Convert.Trace
import ToolSchema.Declaration.Attribute
import ToolSchema.Declaration.Describe
import ToolSchema.Declaration.Token
import ToolSchema.Declaration.Token.Lexer
import ToolSchema.Declaration.Token.Literal
import ToolSchema.Declaration.TypeForm
import ToolSchema.Json.Basic
import ToolSchema.Json.Decoder
import ToolSchema.Json.Fault
import ToolSchema.Json.Printer
import ToolSchema.Json.Reader
import ToolSchema.Json.Scanner
import ToolSchema.Json.Skip
import ToolSchema.Main
import ToolSchema.Manifest
import ToolSchema.Number.Basic
import ToolSchema.Number.Binary64
import ToolSchema.Number.Shortest
import ToolSchema.Schema.Codec
import ToolSchema.Schema.JsonType
import ToolSchema.Schema.Tool
import ToolSchema.Source.Disk
import ToolSchema.Source.DocIndex
import ToolSchema.Source.FileDocs
import ToolSchema.Source.Location
import ToolSchema.Source.Path
import ToolSchema.Tag.Codec
import ToolSchema.Tag.Count
import ToolSchema.Tag.Error
import ToolSchema.Tag.Kind
import ToolSchema.Tag.Parsed
import ToolSchema.Tag.Payload
import ToolSchema.Tag.Values
import ToolSchema.Target.Basic
import ToolSchema.Target.Codec
import ToolSchema.Text.Blank
import ToolSchema.Text.Casing
import ToolSchema.Text.Casing.Table
import ToolSchema.Text.Identifier
import ToolSchema.Text.Lines
import ToolSchema.Text.Pieces
import ToolSchema.Text.Printable
import ToolSchema.Text.Quoted
import ToolSchema.Text.UnicodeName
import ToolSchema.Text.UnicodeName.Table
import ToolSchema.Proofs.Convert.Assembly
import ToolSchema.Proofs.Convert.Policy
import ToolSchema.Proofs.Schema.Tool
import ToolSchema.Proofs.Convert.Documentation
import ToolSchema.Proofs.Convert.Report
import ToolSchema.Proofs.Convert.Warnings
import ToolSchema.Proofs.Convert.LastSaid
import ToolSchema.Proofs.Text.Trim
import ToolSchema.Proofs.Text.Lines
import ToolSchema.Proofs.Comment.Outline
import ToolSchema.Proofs.Json.Scanner
import ToolSchema.Proofs.Json.Reader
import ToolSchema.Proofs.Json.Members
import ToolSchema.Proofs.Tag.Payload
import ToolSchema.Proofs.Comment.TagLine
import ToolSchema.Proofs.Schema.JsonType
import ToolSchema.Proofs.Convert.Written
import ToolSchema.Proofs.Tag.Grammar
import ToolSchema.Proofs.Tag.TagText
import ToolSchema.Proofs.Convert.WellFormed
import ToolSchema.Proofs.Convert.Faults
import ToolSchema.Proofs.Convert.Merge
import ToolSchema.Proofs.Source.SourceLine
import ToolSchema.Proofs.Source.Scan
import ToolSchema.Proofs.Source.Documented
import ToolSchema.Proofs.Convert.Routes
import ToolSchema.Proofs.Json.Restores
import ToolSchema.Proofs.Schema.RoundTrip
import ToolSchema.Proofs.Target.RoundTrip
import ToolSchema.Proofs.Convert.Asked
import ToolSchema.Proofs.Convert.Session
import ToolSchema.Proofs.Manifest
import ToolSchema.Proofs.Convert.TakenUp
import ToolSchema.Proofs.Command.Log
import ToolSchema.Proofs.Source.Window
import ToolSchema.Proofs.Source.Attributed
import ToolSchema.Proofs.Comment.TypeExpr
import ToolSchema.Proofs.Comment.Paragraph
import ToolSchema.Proofs.Comment.Place
import ToolSchema.Proofs.Comment.Body
import ToolSchema.Proofs.Comment.Spelling
import ToolSchema.Proofs.Source.Layout
import ToolSchema.Proofs.Tag.Count
import ToolSchema.Proofs.Tag.Brackets
import ToolSchema.Proofs.Tag.Values
import ToolSchema.Proofs.Declaration.Capture
import ToolSchema.Proofs.Declaration.Naming
import ToolSchema.Proofs.Target.Relative
import ToolSchema.Proofs.Schema.Repeated
import ToolSchema.Proofs.Comment.Normal
import ToolSchema.Proofs.Source.LineNumber
