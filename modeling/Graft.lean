import Graft.Command
import Graft.Command.Apply
import Graft.Command.Arguments
import Graft.Command.Report
import Graft.Command.Step
import Graft.Data
import Graft.Data.Calendar
import Graft.Data.Checksum
import Graft.Data.Decimal
import Graft.Data.Double
import Graft.Data.Json.Number
import Graft.Data.Json.Read
import Graft.Data.Json.Write
import Graft.Data.Toml.Quoted
import Graft.Data.Toml.Read
import Graft.Data.Toml.Scalar
import Graft.Data.Toml.Table
import Graft.Diff
import Graft.Diff.Changed
import Graft.Diff.Hunk
import Graft.Disk
import Graft.Edit
import Graft.Edit.Digest
import Graft.Guard
import Graft.Helper
import Graft.Helper.Outline
import Graft.Main
import Graft.Overlay
import Graft.Path
import Graft.Pattern
import Graft.Pattern.Data
import Graft.Plan
import Graft.Position
import Graft.Property
import Graft.Recipe
import Graft.Recipe.Apply
import Graft.Recipe.Check
import Graft.Recipe.Read
import Graft.Script
import Graft.Script.Data
import Graft.Script.Parser
import Graft.Shell.Account
import Graft.Shell.Arithmetic
import Graft.Shell.Builtin
import Graft.Shell.Bytes
import Graft.Shell.Call
import Graft.Shell.Compound
import Graft.Shell.Expand
import Graft.Shell.Fields
import Graft.Shell.Format
import Graft.Shell.Glob
import Graft.Shell.Host
import Graft.Shell.Job
import Graft.Shell.Launch
import Graft.Shell.Mode
import Graft.Shell.Read
import Graft.Shell.Regex
import Graft.Shell.Regex.Replace
import Graft.Shell.Regex.Search
import Graft.Shell.Run
import Graft.Shell.Runner
import Graft.Shell.Script
import Graft.Shell.Signal
import Graft.Shell.State
import Graft.Shell.Test
import Graft.Shell.Tool
import Graft.Shell.Tool.Awk
import Graft.Shell.Tool.Awk.Machine
import Graft.Shell.Tool.Awk.Parse
import Graft.Shell.Tool.Awk.Program
import Graft.Shell.Tool.Awk.Run
import Graft.Shell.Tool.Awk.Table
import Graft.Shell.Tool.Awk.Token
import Graft.Shell.Tool.Awk.Value
import Graft.Shell.Tool.Basic
import Graft.Shell.Tool.Blocks
import Graft.Shell.Tool.Columns
import Graft.Shell.Tool.Compare
import Graft.Shell.Tool.Digest
import Graft.Shell.Tool.Dump
import Graft.Shell.Tool.Expr
import Graft.Shell.Tool.File
import Graft.Shell.Tool.Find
import Graft.Shell.Tool.Grep
import Graft.Shell.Tool.Listing
import Graft.Shell.Tool.Number
import Graft.Shell.Tool.Order
import Graft.Shell.Tool.Permission
import Graft.Shell.Tool.Pieces
import Graft.Shell.Tool.Sed
import Graft.Shell.Tool.Sed.Script
import Graft.Shell.Tool.System
import Graft.Shell.Tool.Text
import Graft.Shell.Tool.Transfer
import Graft.Shell.Tool.Xargs
import Graft.Span
import Graft.Text
import Graft.Text.Blank
import Graft.Text.CharSet
import Graft.Text.Letter
import Graft.Text.Numeral
import Graft.Text.Printable
import Graft.Text.Quoted
import Graft.Token
import Graft.Token.Literal
import Graft.Token.Scan
import Graft.Tree
import Graft.Tree.Build
import Graft.Proofs.Grammar
import Graft.Proofs.Grammar.Run
import Graft.Proofs.Grammar.Accept
import Graft.Proofs.Grammar.Unique
import Graft.Proofs.Lexeme
import Graft.Proofs.Text
import Graft.Proofs.Layout
import Graft.Proofs.Shape
import Graft.Proofs.Spans
import Graft.Proofs.Landing
import Graft.Proofs.Lexeme.Follow
import Graft.Proofs.Lexeme.Seam
import Graft.Proofs.Grammar.Move
import Graft.Proofs.Grammar.Insert
import Graft.Proofs.Reading
import Graft.Proofs.Rendering
import Graft.Proofs.Injection
import Graft.Proofs.Scan
import Graft.Proofs.Path
import Graft.Proofs.Walk
import Graft.Proofs.Place
import Graft.Proofs.Guard
import Graft.Proofs.Overlay
import Graft.Proofs.Commit
import Graft.Proofs.Confinement
import Graft.Proofs.Spelling
import Graft.Proofs.Contents
import Graft.Proofs.Atomicity
import Graft.Proofs.Checking
import Graft.Proofs.Isolation
import Graft.Proofs.Delivery
import Graft.Proofs.Consent
import Graft.Proofs.Outline
import Graft.Proofs.Seek
import Graft.Proofs.Margin
import Graft.Proofs.Lines
import Graft.Proofs.Settle
import Graft.Proofs.Batch
import Graft.Proofs.Rediscovery
import Graft.Proofs.Replacement
import Graft.Proofs.Conversion
import Graft.Proofs.Trail
import Graft.Proofs.Selection
import Graft.Proofs.Lexeme.Frame
import Graft.Proofs.Break
import Graft.Proofs.Twin
import Graft.Proofs.Quotation
import Graft.Proofs.Lexeme.Return
import Graft.Proofs.Lexeme.Counterpart
import Graft.Proofs.LineEnd
import Graft.Proofs.Position
