import ColumnSelect.Catalog
import ColumnSelect.Command.Answer
import ColumnSelect.Command.Arguments
import ColumnSelect.Command.Error
import ColumnSelect.Command.Request
import ColumnSelect.Command.Run
import ColumnSelect.Config
import ColumnSelect.Decimal.Shortest
import ColumnSelect.Error
import ColumnSelect.Expr.Basic
import ColumnSelect.Expr.Eval
import ColumnSelect.Expr.Printer
import ColumnSelect.Flaw
import ColumnSelect.Json.Fault
import ColumnSelect.Json.Number
import ColumnSelect.Json.Reader
import ColumnSelect.Json.Standard
import ColumnSelect.Json.Text
import ColumnSelect.Json.Value
import ColumnSelect.Log.Event
import ColumnSelect.Log.Record
import ColumnSelect.Log.Scope
import ColumnSelect.Main
import ColumnSelect.Mapping
import ColumnSelect.Mapping.Json
import ColumnSelect.Matcher.Arguments
import ColumnSelect.Matcher.Basic
import ColumnSelect.Matcher.Call
import ColumnSelect.Pattern.Basic
import ColumnSelect.Pattern.Bracket
import ColumnSelect.Pattern.Cost
import ColumnSelect.Pattern.Engine
import ColumnSelect.Pattern.Escape
import ColumnSelect.Pattern.Fault
import ColumnSelect.Pattern.Flags
import ColumnSelect.Pattern.Match
import ColumnSelect.Pattern.Parser
import ColumnSelect.Pattern.Standard
import ColumnSelect.Selection.Explain
import ColumnSelect.Selection.Json
import ColumnSelect.Selection.Rename
import ColumnSelect.Selection.Resolution
import ColumnSelect.Term.Parser
import ColumnSelect.Text.Hexadecimal
import ColumnSelect.Text.Identifier
import ColumnSelect.Text.Position
import ColumnSelect.Text.Quoted
import ColumnSelect.Token
import ColumnSelect.Token.Lexer
import ColumnSelect.Unicode.Age
import ColumnSelect.Unicode.BinaryProperty
import ColumnSelect.Unicode.Blank
import ColumnSelect.Unicode.Casing
import ColumnSelect.Unicode.Category
import ColumnSelect.Unicode.CodeSet
import ColumnSelect.Unicode.Folding
import ColumnSelect.Unicode.Letter
import ColumnSelect.Unicode.Property
import ColumnSelect.Unicode.Script
import ColumnSelect.Unicode.ScriptExtension
import ColumnSelect.Unicode.Segmentation
import ColumnSelect.Value
import ColumnSelect.Proofs.Outcome
import ColumnSelect.Proofs.Selection.Resolution
import ColumnSelect.Proofs.Term.Grammar
import ColumnSelect.Proofs.Term.Parser
import ColumnSelect.Proofs.Text.Decimal
import ColumnSelect.Proofs.Text.Identifier
import ColumnSelect.Proofs.Token.Lexer
import ColumnSelect.Proofs.Token.Printer
import ColumnSelect.Proofs.Expr.Every
import ColumnSelect.Proofs.Expr.Printer
import ColumnSelect.Proofs.Term.Derivation
import ColumnSelect.Proofs.Term.RoundTrip
import ColumnSelect.Proofs.Expr.Depth
import ColumnSelect.Proofs.Expr.Eval
import ColumnSelect.Proofs.Selection.Order
import ColumnSelect.Proofs.Selection.Fault
import ColumnSelect.Proofs.Expr.Meaning
import ColumnSelect.Proofs.Term.Meaning
import ColumnSelect.Proofs.Catalog
import ColumnSelect.Proofs.Selection.Options
import ColumnSelect.Proofs.Selection.Rename
import ColumnSelect.Proofs.Selection.Sources
import ColumnSelect.Proofs.Selection.Agreement
import ColumnSelect.Proofs.Term.Nesting
import ColumnSelect.Proofs.Selection.Complement
import ColumnSelect.Proofs.Selection.Projection
import ColumnSelect.Proofs.Selection.Replay
import ColumnSelect.Proofs.Command.Explain
import ColumnSelect.Proofs.Selection.Trace
import ColumnSelect.Proofs.Log.Session
import ColumnSelect.Proofs.Command.Answer
import ColumnSelect.Proofs.Command.Log
import ColumnSelect.Proofs.Json.Text
import ColumnSelect.Proofs.Json.Value
import ColumnSelect.Proofs.Command.Run
import ColumnSelect.Proofs.Selection.Policy
import ColumnSelect.Proofs.Selection.ListTerm
import ColumnSelect.Proofs.Matcher.Arguments
import ColumnSelect.Proofs.Matcher.Case
import ColumnSelect.Proofs.Selection.Inverse
import ColumnSelect.Proofs.Selection.Append
import ColumnSelect.Proofs.KeyOrder
import ColumnSelect.Proofs.Log.Record
import ColumnSelect.Proofs.Token.Cut
import ColumnSelect.Proofs.Expr.Sign
import ColumnSelect.Proofs.Term.Sign
import ColumnSelect.Proofs.Term.Joined
import ColumnSelect.Proofs.Matcher.NumRange
import ColumnSelect.Proofs.Json.Object
import ColumnSelect.Proofs.Config
import ColumnSelect.Proofs.Mapping
import ColumnSelect.Proofs.Command.Data
import ColumnSelect.Proofs.Expr.Walk
import ColumnSelect.Proofs.Expr.Range
import ColumnSelect.Proofs.Expr.Negation
import ColumnSelect.Proofs.Unicode.Length
import ColumnSelect.Proofs.Matcher.Suffix
import ColumnSelect.Proofs.Token.Layout
import ColumnSelect.Proofs.Text.Position
import ColumnSelect.Proofs.Token.Fault
import ColumnSelect.Proofs.Term.Fault
import ColumnSelect.Proofs.Selection.Lookup
