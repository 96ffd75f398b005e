import Trigger.Cache
import Trigger.CommandLine.Arguments
import Trigger.CommandLine.Run
import Trigger.Compile
import Trigger.Config.Basic
import Trigger.Config.Reader
import Trigger.Config.Schema
import Trigger.Config.Setup
import Trigger.Config.Standard
import Trigger.Decimal.Exact
import Trigger.Decimal.Numeral
import Trigger.Decimal.Rounded
import Trigger.Decimal.Shortest
import Trigger.Engine
import Trigger.Eval.Basic
import Trigger.Eval.Effect
import Trigger.Eval.Frame
import Trigger.Eval.Standard
import Trigger.Evaluator
import Trigger.Event
import Trigger.Expr.Check
import Trigger.Expr.Connective
import Trigger.Expr.Reader
import Trigger.Fault
import Trigger.Function.Builtin
import Trigger.Function.Global
import Trigger.Function.Method
import Trigger.Json.Reader
import Trigger.Json.Writer
import Trigger.Log.Basic
import Trigger.Log.Logger
import Trigger.Log.Template
import Trigger.Log.Time
import Trigger.Main
import Trigger.Operator
import Trigger.Pattern.Basic
import Trigger.Pattern.Cache
import Trigger.Pattern.Match
import Trigger.Pattern.Reader
import Trigger.Pattern.WholeWord
import Trigger.Query
import Trigger.Records.Find
import Trigger.Records.Standard
import Trigger.Records.Table
import Trigger.Scope
import Trigger.Similarity
import Trigger.Story
import Trigger.Text.Case
import Trigger.Text.CaseTables
import Trigger.Text.Digit
import Trigger.Text.Printable
import Trigger.Text.Quoted
import Trigger.Text.Ranges
import Trigger.Text.Search
import Trigger.Text.Space
import Trigger.Text.Utf8
import Trigger.Text.Word
import Trigger.Token.Basic
import Trigger.Token.Reader
import Trigger.Toml.Basic
import Trigger.Toml.Reader
import Trigger.Value.Arithmetic
import Trigger.Value.Basic
import Trigger.Value.Equality
import Trigger.Value.Fields
import Trigger.Value.Language
import Trigger.Value.Member
import Trigger.Value.Number
import Trigger.Value.Standard
import Trigger.Value.Text
import Trigger.Proofs.Grammar.Basic
import Trigger.Proofs.Grammar.Soundness
import Trigger.Proofs.Grammar.Completeness
import Trigger.Proofs.Grammar.Text
import Trigger.Proofs.Printing.Basic
import Trigger.Proofs.Printing.Tokens
import Trigger.Proofs.Printing.RoundTrip
import Trigger.Proofs.Outcome
import Trigger.Proofs.Renumbering.InStep
import Trigger.Proofs.Renumbering.Value
import Trigger.Proofs.Renumbering.Accord
import Trigger.Proofs.Renumbering.Runtime
import Trigger.Proofs.Renumbering.Members
import Trigger.Proofs.Renumbering.Function
import Trigger.Proofs.Renumbering.Method
import Trigger.Proofs.Renumbering.Evaluation
import Trigger.Proofs.Renumbering.Scopes
import Trigger.Proofs.Renumbering.Standard
import Trigger.Proofs.Session.Basic
import Trigger.Proofs.Session.InStep
import Trigger.Proofs.Session.Cache
import Trigger.Proofs.Session.Engine
import Trigger.Proofs.Session.Transparency
import Trigger.Proofs.Session.Reached
import Trigger.Proofs.Mention.Basic
import Trigger.Proofs.Mention.Influence
import Trigger.Proofs.Cache.History
import Trigger.Proofs.Lexing.Seam
import Trigger.Proofs.Composition.Basic
import Trigger.Proofs.Validity.Basic
import Trigger.Proofs.Session.Validity
import Trigger.Proofs.CommandLine.Result
import Trigger.Proofs.Effects.Growth
import Trigger.Proofs.Selection.Onward
import Trigger.Proofs.Selection.Verdict
import Trigger.Proofs.Selection.Determined
import Trigger.Proofs.Selection.Algebra
import Trigger.Proofs.Selection.Rows
import Trigger.Proofs.Lexing.Row
import Trigger.Proofs.Lexing.Placement
import Trigger.Proofs.Grammar.Placement
import Trigger.Proofs.Lookup.Agreement
import Trigger.Proofs.EditDistance.Alignment
import Trigger.Proofs.EditDistance.Table
import Trigger.Proofs.Running
import Trigger.Proofs.WholeWord.Source
import Trigger.Proofs.WholeWord.Matching
import Trigger.Proofs.WholeWord.Sequence
import Trigger.Proofs.WholeWord.Near
import Trigger.Proofs.Refusal.Regex
import Trigger.Proofs.Decimal.Bits
import Trigger.Proofs.Decimal.Rounding
import Trigger.Proofs.Decimal.Positions
import Trigger.Proofs.Decimal.Numerals
import Trigger.Proofs.Decimal.Shortest
import Trigger.Proofs.Decimal.Readback
import Trigger.Proofs.Lookup.Path
import Trigger.Proofs.Lookup.LeftSide
import Trigger.Proofs.Terms.Lowercase
import Trigger.Proofs.Lookup.Absence
import Trigger.Proofs.Decimal.Order
import Trigger.Proofs.Decimal.Ratio
import Trigger.Proofs.EditDistance.BestMatch
import Trigger.Proofs.Callback.Text
import Trigger.Proofs.Callback.Refusal
import Trigger.Proofs.Callback.Item
import Trigger.Proofs.Callback.Method
import Trigger.Proofs.Evaluation.Chain
import Trigger.Proofs.Grammar.Respelling
import Trigger.Proofs.Composition.PatternLiteral
import Trigger.Proofs.Pattern.Runs
import Trigger.Proofs.Story.Matching
import Trigger.Proofs.Story.Notes
import Trigger.Proofs.Story.Extract
import Trigger.Proofs.Story.Survival
import Trigger.Proofs.Text.Search
import Trigger.Proofs.Decimal.Nearest
import Trigger.Proofs.Comparison.Integers
import Trigger.Proofs.Methods.Search
import Trigger.Proofs.Methods.Pieces
import Trigger.Proofs.Selection.Sources
import Trigger.Proofs.WholeWord.Agreement
import Trigger.Proofs.Decimal.Complement
import Trigger.Proofs.Text.WordRuns
import Trigger.Proofs.EditDistance.Extremes
import Trigger.Proofs.EditDistance.Window
import Trigger.Proofs.Lookup.Entries
import Trigger.Proofs.Comparison.Symmetry
import Trigger.Proofs.Attributes.Hidden
import Trigger.Proofs.Json.Strings
import Trigger.Proofs.Json.Numbers
import Trigger.Proofs.Json.Readback
import Trigger.Proofs.Json.Plain
import Trigger.Proofs.Json.Undefined
import Trigger.Proofs.Log.Line
import Trigger.Proofs.Log.Standard
import Trigger.Proofs.Text.Utf8
import Trigger.Proofs.Config.Schema
import Trigger.Proofs.Config.Setup
import Trigger.Proofs.Text.Trim
import Trigger.Proofs.Toml.Cut
import Trigger.Proofs.Toml.Numbers
import Trigger.Proofs.Toml.Strings
import Trigger.Proofs.Toml.Values
import Trigger.Proofs.Toml.Lines
import Trigger.Proofs.Config.Fence
