import SqlCompose.Binding
import SqlCompose.Built
import SqlCompose.Built.Positional
import SqlCompose.Calendar.Date
import SqlCompose.Calendar.DateTime
import SqlCompose.Calendar.Reader
import SqlCompose.Condition.Basic
import SqlCompose.Condition.Json
import SqlCompose.Config.Basic
import SqlCompose.Config.Environment
import SqlCompose.Connection.Basic
import SqlCompose.Connection.Query
import SqlCompose.Connection.Registry
import SqlCompose.Dialect.Basic
import SqlCompose.Dialect.PseudoSyntax
import SqlCompose.Dialect.Quoting
import SqlCompose.Error
import SqlCompose.Expression
import SqlCompose.Fragment.Basic
import SqlCompose.Fragment.Like
import SqlCompose.Fragment.Lookup
import SqlCompose.Fragment.Membership
import SqlCompose.Fragment.Query
import SqlCompose.Json.Basic
import SqlCompose.Json.Numeral
import SqlCompose.Json.Printer
import SqlCompose.Json.Reader
import SqlCompose.Json.Token
import SqlCompose.Lookup.Basic
import SqlCompose.Lookup.Pattern
import SqlCompose.Number.Digits
import SqlCompose.Number.Double
import SqlCompose.Number.DoubleText
import SqlCompose.Number.Shortest
import SqlCompose.Operator
import SqlCompose.OrderedMap
import SqlCompose.Params
import SqlCompose.Query.Basic
import SqlCompose.Query.Fluent
import SqlCompose.Query.ListText
import SqlCompose.Query.Supplied
import SqlCompose.Regex.Basic
import SqlCompose.Regex.CharSet
import SqlCompose.Regex.Reader
import SqlCompose.Schema.Catalog
import SqlCompose.Schema.Column
import SqlCompose.Schema.ColumnType
import SqlCompose.Schema.Table
import SqlCompose.Statement
import SqlCompose.Text.Ascii
import SqlCompose.Text.Blank
import SqlCompose.Text.Boundary
import SqlCompose.Text.CaseFold
import SqlCompose.Text.ScriptDigit
import SqlCompose.Text.Split
import SqlCompose.Text.Word
import SqlCompose.Toml.Basic
import SqlCompose.Toml.Reader
import SqlCompose.Toml.Scalar
import SqlCompose.Trace
import SqlCompose.Value
import SqlCompose.Value.Json
import SqlCompose.Regex.Automaton
import SqlCompose.Regex.ByteSequence
import SqlCompose.Regex.Memo
import SqlCompose.Regex.Memory
import SqlCompose.Proofs.Binding.Fresh
import SqlCompose.Proofs.Binding.Write
import SqlCompose.Proofs.Fragment.Effects
import SqlCompose.Proofs.Supplied.Basic
import SqlCompose.Proofs.Supplied.Fragment
import SqlCompose.Proofs.Draft
import SqlCompose.Proofs.Modes
import SqlCompose.Proofs.Overriding
import SqlCompose.Proofs.Outline.Basic
import SqlCompose.Proofs.Outline.Fragment
import SqlCompose.Proofs.Outline.Query
import SqlCompose.Proofs.Outline.Write
import SqlCompose.Proofs.Reading.Token
import SqlCompose.Proofs.Reading.Formula
import SqlCompose.Proofs.Reading.Truth
import SqlCompose.Proofs.Reading.Precedence
import SqlCompose.Proofs.Reading.Spelling
import SqlCompose.Proofs.Reading.Value
import SqlCompose.Proofs.Reading.Fragment
import SqlCompose.Proofs.Reading.Predicate
import SqlCompose.Proofs.Reading.Leaf
import SqlCompose.Proofs.Reading.Lookup
import SqlCompose.Proofs.Reading.Condition
import SqlCompose.Proofs.Reading.Group
import SqlCompose.Proofs.Reading.Grouping
import SqlCompose.Proofs.Reading.Name
import SqlCompose.Proofs.Reading.Meaning
import SqlCompose.Proofs.Woven.Basic
import SqlCompose.Proofs.Woven.Fragment
import SqlCompose.Proofs.Woven.Query
import SqlCompose.Proofs.Placeholders
import SqlCompose.Proofs.PseudoSyntax.Reference
import SqlCompose.Proofs.PseudoSyntax.Sent
import SqlCompose.Proofs.Filter.Connective
import SqlCompose.Proofs.Filter.Selection
import SqlCompose.Proofs.Filter.Kept
import SqlCompose.Proofs.Filter.Clause
import SqlCompose.Proofs.Filter.Membership
import SqlCompose.Proofs.Filter.Meaning
import SqlCompose.Proofs.Filter.Silent
import SqlCompose.Proofs.Refusal.Part
import SqlCompose.Proofs.Refusal.Query
import SqlCompose.Proofs.Bound.Basic
import SqlCompose.Proofs.Bound.Fragment
import SqlCompose.Proofs.Bound.Query
import SqlCompose.Proofs.Bound.Write
import SqlCompose.Proofs.Truth.Predicate
import SqlCompose.Proofs.Truth.Fragment
import SqlCompose.Proofs.Truth.Membership
import SqlCompose.Proofs.Truth.Rows
import SqlCompose.Proofs.Truth.Forms
import SqlCompose.Proofs.Truth.Values
import SqlCompose.Proofs.Truth.Lists
import SqlCompose.Proofs.Operators
import SqlCompose.Proofs.Fragment.Blank
import SqlCompose.Proofs.Fragment.Trim
import SqlCompose.Proofs.Compound.Basic
import SqlCompose.Proofs.Compound.Query
import SqlCompose.Proofs.Compound.Union
import SqlCompose.Proofs.Compound.Structure
import SqlCompose.Proofs.Positional.Split
import SqlCompose.Proofs.Positional.Ending
import SqlCompose.Proofs.Positional.Marked
import SqlCompose.Proofs.Positional.Engine
import SqlCompose.Proofs.Filter.Joined
import SqlCompose.Proofs.Filter.Calls
import SqlCompose.Proofs.Quoting.Literal
import SqlCompose.Proofs.Quoting.Segment
import SqlCompose.Proofs.Quoting.Kept
import SqlCompose.Proofs.Quoting.Identifier
import SqlCompose.Proofs.PseudoSyntax.Written
import SqlCompose.Proofs.ListText.Ordering
import SqlCompose.Proofs.ListText.Part
import SqlCompose.Proofs.Fragment.Around
import SqlCompose.Proofs.ListText.Selection
import SqlCompose.Proofs.ListText.Table
import SqlCompose.Proofs.PseudoSyntax.Table
import SqlCompose.Proofs.Like.Matching
import SqlCompose.Proofs.Like.Literal
import SqlCompose.Proofs.Like.Sets
import SqlCompose.Proofs.Schema.Integer
import SqlCompose.Proofs.Binding.Batch
import SqlCompose.Proofs.Schema.Setting
import SqlCompose.Proofs.Schema.TextDefault
import SqlCompose.Proofs.Schema.Key
import SqlCompose.Proofs.Schema.Reference
import SqlCompose.Proofs.Interpolation.Replace
import SqlCompose.Proofs.Interpolation.Token
import SqlCompose.Proofs.Interpolation.Report
import SqlCompose.Proofs.Number.Numeral
import SqlCompose.Proofs.Schema.Cast
import SqlCompose.Proofs.Schema.Inline
import SqlCompose.Proofs.Json.Grammar
import SqlCompose.Proofs.Json.Reading
import SqlCompose.Proofs.Json.Refusal
import SqlCompose.Proofs.Json.Literal
import SqlCompose.Proofs.Number.Nearest
import SqlCompose.Proofs.Number.Shortest
import SqlCompose.Proofs.Json.Integer
import SqlCompose.Proofs.OrderMap
import SqlCompose.Proofs.Aggregate.Ink
import SqlCompose.Proofs.Aggregate.Shape
import SqlCompose.Proofs.Aggregate.Rows
import SqlCompose.Proofs.Aggregate.Paging
import SqlCompose.Proofs.Lookup.Key
import SqlCompose.Proofs.Calendar.Form
import SqlCompose.Proofs.Calendar.Text
import SqlCompose.Proofs.Json.Scalar
import SqlCompose.Proofs.Value.RoundTrip
import SqlCompose.Proofs.Config.Expansion
import SqlCompose.Proofs.Binding.Search
import SqlCompose.Proofs.Binding.Text
import SqlCompose.Proofs.ListText.Comma
import SqlCompose.Proofs.Text.Blank
import SqlCompose.Proofs.Text.Split
import SqlCompose.Proofs.Text.Truncation
