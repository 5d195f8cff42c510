import TableGateway.Calendar.Basic
import TableGateway.Calendar.Fraction
import TableGateway.Calendar.Reader
import TableGateway.Calendar.Text
import TableGateway.Condition.Basic
import TableGateway.Condition.Operator
import TableGateway.Condition.Predicate
import TableGateway.Constraint.Basic
import TableGateway.Constraint.Check
import TableGateway.Failure
import TableGateway.Gateway.Config
import TableGateway.Gateway.Dispatch
import TableGateway.Gateway.Program
import TableGateway.Gateway.Session
import TableGateway.Gateway.Table
import TableGateway.Json.Basic
import TableGateway.Json.Number
import TableGateway.Json.Reader
import TableGateway.Json.Text
import TableGateway.Key.Resolve
import TableGateway.MySql.Cell
import TableGateway.MySql.Column
import TableGateway.MySql.Connection
import TableGateway.Notice
import TableGateway.Numeric.Binary64
import TableGateway.Numeric.Decimal
import TableGateway.Numeric.Digits
import TableGateway.Numeric.Scientific
import TableGateway.Numeric.Shortest
import TableGateway.OrderedMap
import TableGateway.Paging
import TableGateway.Pattern.CharSet
import TableGateway.Pattern.Class
import TableGateway.Pattern.Escape
import TableGateway.Pattern.Flags
import TableGateway.Pattern.Group
import TableGateway.Pattern.Matcher
import TableGateway.Pattern.Names
import TableGateway.Pattern.Reader
import TableGateway.Pattern.Syntax
import TableGateway.Proofs.Gateway.Operation
import TableGateway.Proofs.Gateway.Refusal
import TableGateway.Proofs.Gateway.Run
import TableGateway.Proofs.ReadBack.Clause
import TableGateway.Proofs.ReadBack.Literal
import TableGateway.Proofs.ReadBack.Number
import TableGateway.Proofs.ReadBack.Numeral
import TableGateway.Proofs.ReadBack.Quoted
import TableGateway.Proofs.ReadBack.Scan
import TableGateway.Proofs.ReadBack.Statement
import TableGateway.Row
import TableGateway.Settings.Error
import TableGateway.Settings.Reader
import TableGateway.Sql.Clause
import TableGateway.Sql.Literal
import TableGateway.Sql.Statement
import TableGateway.Text.Blank
import TableGateway.Text.Listing
import TableGateway.Text.Parts
import TableGateway.Text.Slice
import TableGateway.Text.Substitute
import TableGateway.Text.Utf8
import TableGateway.Text.Character
import TableGateway.Unicode.CaseFold
import TableGateway.Unicode.Category
import TableGateway.Unicode.Property
import TableGateway.Unicode.Runs
import TableGateway.Unicode.Script
import TableGateway.Unicode.ScriptExtension
import TableGateway.Url.Address
import TableGateway.Url.Host
import TableGateway.Url.Percent
import TableGateway.Uuid
import TableGateway.Value.Basic
import TableGateway.Value.IntegerType
import TableGateway.Value.Native
import TableGateway.Value.Text
import TableGateway.Proofs.Gateway.Dispatch
import TableGateway.Proofs.Gateway.Replace
import TableGateway.Proofs.Gateway.Reply
import TableGateway.Proofs.Gateway.Answer
import TableGateway.Proofs.Gateway.Callback
import TableGateway.Proofs.Gateway.EveryRow
import TableGateway.Proofs.Gateway.ByKey
import TableGateway.Proofs.Key.Resolution
import TableGateway.Proofs.Gateway.History
import TableGateway.Proofs.Key.Matching
import TableGateway.Proofs.Condition.Views
import TableGateway.Proofs.Condition.Precedence
import TableGateway.Proofs.Gateway.FirstRow
import TableGateway.Proofs.Condition.Parts
import TableGateway.Proofs.Paging.SingleRow
import TableGateway.Proofs.Text.Word
import TableGateway.Proofs.Template.Names
import TableGateway.Proofs.Template.Filling
import TableGateway.Proofs.Condition.Spelling
import TableGateway.Proofs.Constraint.Rules
import TableGateway.Proofs.Constraint.Merging
import TableGateway.Proofs.Constraint.Numericality
import TableGateway.Proofs.Row.Columns
import TableGateway.Proofs.Value.Integer
import TableGateway.Proofs.Pattern.Matching
import TableGateway.Proofs.Value.RoundTrip
import TableGateway.Proofs.Pattern.Front
import TableGateway.Proofs.Pattern.Pieces
import TableGateway.Proofs.Pattern.Brackets
import TableGateway.Proofs.Pattern.Anchors
import TableGateway.Proofs.Constraint.Format
import TableGateway.Proofs.Text.Substitution
import TableGateway.Proofs.Text.Shortening
import TableGateway.Proofs.MySql.Line
import TableGateway.Proofs.Calendar.Fraction
import TableGateway.Proofs.ReadBack.Calendar
