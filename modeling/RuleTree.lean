import RuleTree.Binary64.Basic
import RuleTree.Binary64.Rounding
import RuleTree.Binary64.Shortest
import RuleTree.Binary64.Text
import RuleTree.Cli.Arguments
import RuleTree.Cli.Console
import RuleTree.Cli.Folder
import RuleTree.Cli.Pass
import RuleTree.Compile.Basic
import RuleTree.Compile.Event
import RuleTree.Compile.Field
import RuleTree.Connective
import RuleTree.Contract
import RuleTree.Definition.Reader
import RuleTree.Definition.Writer
import RuleTree.FieldTest
import RuleTree.FieldValue
import RuleTree.Group
import RuleTree.Json.Cursor
import RuleTree.Json.Decode
import RuleTree.Json.Document
import RuleTree.Json.Fault
import RuleTree.Json.Node
import RuleTree.Json.Numeral
import RuleTree.Json.Path
import RuleTree.Json.Skip
import RuleTree.Json.Text
import RuleTree.Json.Writer
import RuleTree.Main
import RuleTree.Number
import RuleTree.Operator
import RuleTree.Pattern.Basic
import RuleTree.Pattern.Bracket
import RuleTree.Pattern.Error
import RuleTree.Pattern.Escape
import RuleTree.Pattern.Expr
import RuleTree.Pattern.Meaning
import RuleTree.Pattern.Nesting
import RuleTree.Pattern.Opening
import RuleTree.Pattern.Parser
import RuleTree.Pattern.Property
import RuleTree.Pattern.Reader
import RuleTree.Pattern.Repetition
import RuleTree.Pattern.Size
import RuleTree.Pattern.Syntax
import RuleTree.Predicate.Basic
import RuleTree.Predicate.Collection
import RuleTree.Predicate.Shared
import RuleTree.Proofs.Binary64.Monotone
import RuleTree.Proofs.Cli.Concatenation
import RuleTree.Proofs.Cli.Console
import RuleTree.Proofs.Cli.FixedLayout
import RuleTree.Proofs.Cli.Layouts
import RuleTree.Proofs.Cli.Lines
import RuleTree.Proofs.Cli.Numbering
import RuleTree.Proofs.Cli.Pass
import RuleTree.Proofs.Cli.Rerun
import RuleTree.Proofs.Compile.Field
import RuleTree.Proofs.Compile.Refusal
import RuleTree.Proofs.Compile.Soundness
import RuleTree.Proofs.Definition.Decoding
import RuleTree.Proofs.Definition.Document
import RuleTree.Proofs.Definition.Legible
import RuleTree.Proofs.Definition.Loading
import RuleTree.Proofs.Definition.Reload
import RuleTree.Proofs.Definition.RoundTrip
import RuleTree.Proofs.Definition.Saving
import RuleTree.Proofs.Definition.Schema
import RuleTree.Proofs.Definition.Sorting
import RuleTree.Proofs.Definition.Streaming
import RuleTree.Proofs.FieldTest.Comparable
import RuleTree.Proofs.FieldTest.Complement
import RuleTree.Proofs.FieldTest.Integers
import RuleTree.Proofs.FieldTest.Outside
import RuleTree.Proofs.FieldTest.Preparation
import RuleTree.Proofs.FieldTest.Reversed
import RuleTree.Proofs.FieldTest.Texts
import RuleTree.Proofs.FieldTest.Unary
import RuleTree.Proofs.FieldTest.Unordered
import RuleTree.Proofs.Json.Accepted
import RuleTree.Proofs.Json.Cursor
import RuleTree.Proofs.Json.Kept
import RuleTree.Proofs.Json.Nodes
import RuleTree.Proofs.Json.Numeral
import RuleTree.Proofs.Json.Path
import RuleTree.Proofs.Json.Pretty
import RuleTree.Proofs.Json.Reading
import RuleTree.Proofs.Json.Scanning
import RuleTree.Proofs.Json.Spelling
import RuleTree.Proofs.Json.Text
import RuleTree.Proofs.Number.Comparison
import RuleTree.Proofs.Number.Exact
import RuleTree.Proofs.Number.Order
import RuleTree.Proofs.Predicate.Collection
import RuleTree.Proofs.Predicate.Expression
import RuleTree.Proofs.Text.Bytes
import RuleTree.Proofs.Tree.Calls
import RuleTree.Proofs.Tree.Display
import RuleTree.Proofs.Tree.Duality
import RuleTree.Proofs.Tree.Evaluation
import RuleTree.Proofs.Tree.Formula
import RuleTree.Proofs.Tree.Grammar
import RuleTree.Proofs.Tree.Leading
import RuleTree.Proofs.Tree.Mixed
import RuleTree.Proofs.Tree.Monotone
import RuleTree.Proofs.Tree.Places
import RuleTree.Proofs.Tree.Refold
import RuleTree.Proofs.Tree.Rewriting
import RuleTree.Proofs.Tree.Shape
import RuleTree.Proofs.Tree.Steps
import RuleTree.Rule.Basic
import RuleTree.Rule.Error
import RuleTree.Rule.Operand
import RuleTree.Schema
import RuleTree.Text.Blank
import RuleTree.Text.Quoted
import RuleTree.Text.Search
import RuleTree.Timestamp
import RuleTree.Unicode.Age
import RuleTree.Unicode.ByteRanges
import RuleTree.Unicode.CaseFolding
import RuleTree.Unicode.Category
import RuleTree.Unicode.CodeRanges
import RuleTree.Unicode.Property
import RuleTree.Unicode.Script
import RuleTree.Unicode.ScriptExtension
import RuleTree.Unicode.Segmentation
