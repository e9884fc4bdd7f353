import DataBinding.Command.Data
import DataBinding.Command.Error
import DataBinding.Command.Run
import DataBinding.Config.Basic
import DataBinding.Config.Json
import DataBinding.Config.Symbols
import DataBinding.Decimal.Binary
import DataBinding.Decimal.Layout
import DataBinding.Decimal.Reader
import DataBinding.Decimal.Shortest
import DataBinding.Dict
import DataBinding.Eval.Basic
import DataBinding.Eval.Documents
import DataBinding.Eval.Error
import DataBinding.Eval.Global
import DataBinding.Eval.Native
import DataBinding.Eval.Run
import DataBinding.Expr.Basic
import DataBinding.Expr.Compare
import DataBinding.Expr.Operator
import DataBinding.Expr.Parse
import DataBinding.Expr.ParseError
import DataBinding.Expr.Print
import DataBinding.Expr.Rebuild
import DataBinding.Json.Basic
import DataBinding.Json.Form
import DataBinding.Link.Basic
import DataBinding.Link.Linked
import DataBinding.Link.Reads
import DataBinding.Link.Resolve
import DataBinding.Link.Stages
import DataBinding.Link.Watchers
import DataBinding.Main
import DataBinding.Method.Array
import DataBinding.Method.Basic
import DataBinding.Method.Find
import DataBinding.Method.Text
import DataBinding.Program.Basic
import DataBinding.Program.Run
import DataBinding.Regex.Basic
import DataBinding.Regex.Bracket
import DataBinding.Regex.Escape
import DataBinding.Regex.Footprint
import DataBinding.Regex.Machine
import DataBinding.Regex.Normal
import DataBinding.Regex.Parse
import DataBinding.Regex.Property
import DataBinding.Regex.Replace
import DataBinding.Regex.Search
import DataBinding.Template.Basic
import DataBinding.Text.Percent
import DataBinding.Text.Search
import DataBinding.Text.Visible
import DataBinding.Token.Basic
import DataBinding.Token.Error
import DataBinding.Token.Scan
import DataBinding.Token.Tokenize
import DataBinding.Unicode.Break
import DataBinding.Unicode.CaseMap
import DataBinding.Unicode.CaseTable
import DataBinding.Unicode.Category
import DataBinding.Unicode.Category.Letter
import DataBinding.Unicode.Category.Mark
import DataBinding.Unicode.Category.Number
import DataBinding.Unicode.Category.Other
import DataBinding.Unicode.Category.Punctuation
import DataBinding.Unicode.Category.Symbol
import DataBinding.Unicode.CodeSet
import DataBinding.Unicode.Contributory
import DataBinding.Unicode.Edition
import DataBinding.Unicode.Known
import DataBinding.Unicode.Property
import DataBinding.Unicode.Script
import DataBinding.Unicode.ScriptExtension
import DataBinding.Unicode.Trait
import DataBinding.Value.Basic
import DataBinding.Value.Entries
import DataBinding.Value.Equality
import DataBinding.Value.Json
import DataBinding.Value.Member
import DataBinding.Value.Numeral
import DataBinding.Value.Operate
import DataBinding.Value.Text
import DataBinding.Proofs.Config.Recognition
import DataBinding.Proofs.Grammar.Spelling
import DataBinding.Proofs.Grammar.Steps
import DataBinding.Proofs.Grammar.Sound
import DataBinding.Proofs.Grammar.Complete
import DataBinding.Proofs.Grammar.Stages
import DataBinding.Proofs.Grammar.Whole
import DataBinding.Proofs.Grammar.Nesting
import DataBinding.Proofs.Link.Idempotent
import DataBinding.Proofs.Likeness.Run
import DataBinding.Proofs.Likeness.Method
import DataBinding.Proofs.Likeness.Builtin
import DataBinding.Proofs.Likeness.Call
import DataBinding.Proofs.Likeness.Guard
import DataBinding.Proofs.Likeness.Documents
import DataBinding.Proofs.Likeness.Watched
import DataBinding.Proofs.Program.Parts
import DataBinding.Proofs.Program.Watchers
import DataBinding.Proofs.Likeness.Closed
import DataBinding.Proofs.Program.Closed
import DataBinding.Proofs.Likeness.Reading
import DataBinding.Proofs.Likeness.Sight
import DataBinding.Proofs.Likeness.Scope
import DataBinding.Proofs.Link.Meaning
import DataBinding.Proofs.Link.Capture
import DataBinding.Proofs.Printing.Local
import DataBinding.Proofs.Token.Scans
import DataBinding.Proofs.Printing.Leaf
import DataBinding.Proofs.Printing.Pieces
import DataBinding.Proofs.Token.Steps
import DataBinding.Proofs.Token.Strings
import DataBinding.Proofs.Grammar.Places
import DataBinding.Proofs.Token.Cover
import DataBinding.Proofs.Token.Layout
import DataBinding.Proofs.Printing.Tree
import DataBinding.Proofs.Printing.Total
import DataBinding.Proofs.Printing.Phrases
import DataBinding.Proofs.Printing.Text
import DataBinding.Proofs.Printing.Source
import DataBinding.Proofs.Printing.Linked
import DataBinding.Proofs.Printing.Leaves
import DataBinding.Proofs.Program.Parameters
import DataBinding.Proofs.Template.Sum
import DataBinding.Proofs.Template.Render
import DataBinding.Proofs.Template.Extract
import DataBinding.Proofs.Link.Sums
import DataBinding.Proofs.Template.Span
import DataBinding.Proofs.Template.Embed
import DataBinding.Proofs.Template.Join
import DataBinding.Proofs.Grammar.Grouping
import DataBinding.Proofs.Link.Callees
import DataBinding.Proofs.Link.Parens
import DataBinding.Proofs.Link.Unknown
import DataBinding.Proofs.Program.Dependencies
import DataBinding.Proofs.Value.Identity
import DataBinding.Proofs.Json.Reading
import DataBinding.Proofs.Command.Data
import DataBinding.Proofs.Command.Paths
import DataBinding.Proofs.Printing.Embedded
import DataBinding.Proofs.Program.Pipelines
import DataBinding.Proofs.Link.Order
import DataBinding.Proofs.Program.Order
import DataBinding.Proofs.Template.Watchers
import DataBinding.Proofs.Program.Printed
import DataBinding.Proofs.Value.Equality
import DataBinding.Proofs.Text.Percent
import DataBinding.Proofs.Decimal.Integers
import DataBinding.Proofs.Method.Searches
import DataBinding.Proofs.Decimal.Digits
import DataBinding.Proofs.Value.Keys
import DataBinding.Proofs.Value.Normal
import DataBinding.Proofs.Decimal.Exact
import DataBinding.Proofs.Text.Places
import DataBinding.Proofs.Text.Bytes
import DataBinding.Proofs.Method.Texts
import DataBinding.Proofs.Method.Parts
import DataBinding.Proofs.Json.Written
import DataBinding.Proofs.Config.Written
import DataBinding.Proofs.Token.Faults
import DataBinding.Proofs.Expr.Children
import DataBinding.Proofs.Expr.Paths
import DataBinding.Proofs.Grammar.Descent
import DataBinding.Proofs.Grammar.Taking
import DataBinding.Proofs.Grammar.Ending
import DataBinding.Proofs.Decimal.Number
import DataBinding.Proofs.Value.Numeral
import DataBinding.Proofs.Value.Scan
