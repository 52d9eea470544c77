import BoundSql.Text.Blank
import BoundSql.Text.LetterCase
import BoundSql.Text.Word
import BoundSql.Text.Printable
import BoundSql.Text.Quoted
import BoundSql.Text.Digits
import BoundSql.Text.Hex
import BoundSql.Binary.Spelling
import BoundSql.Binary.Literal
import BoundSql.Decimal.Literal
import BoundSql.Decimal.Double
import BoundSql.Calendar.Instant
import BoundSql.Uuid
import BoundSql.Json.Printer
import BoundSql.Json.Reader
import BoundSql.Ident
import BoundSql.Value.Coerce
import BoundSql.Fragment
import BoundSql.Fragment.Builder
import BoundSql.Error
import BoundSql.TableFunction
import BoundSql.AdHoc
import BoundSql.DynamicRow
import BoundSql.Entity.Update
import BoundSql.Wire.Cell
import BoundSql.Task
import BoundSql.Guard.Marker
import BoundSql.Guard.Evaluation
import BoundSql.Guard.DeleteGuard
import BoundSql.Session.Transaction
import BoundSql.Session.Catalog
import BoundSql.Session.EntityCall
import BoundSql.Config.Document
import BoundSql.Proofs.Result
import BoundSql.Proofs.Json.Fields
import BoundSql.Proofs.Task
import BoundSql.Proofs.Value.Truth
import BoundSql.Proofs.Guard.StatementStart
import BoundSql.Proofs.Guard.Asking
import BoundSql.Proofs.Guard.Evaluation
import BoundSql.Proofs.Session.Connection
import BoundSql.Proofs.Guard.Deletion
import BoundSql.Proofs.Guard.Marker
import BoundSql.Proofs.Guard.Question
import BoundSql.Proofs.Fragment.Wording
import BoundSql.Proofs.Fragment.Symbol
import BoundSql.Proofs.Clause.Wording
import BoundSql.Proofs.Clause.Reading
import BoundSql.Proofs.Clause.Text
import BoundSql.Proofs.Filter.Operand
import BoundSql.Proofs.Filter.Survival
import BoundSql.Proofs.Statement.Built
import BoundSql.Proofs.Filter.Listing
import BoundSql.Proofs.Filter.Counting
import BoundSql.Proofs.Filter.Confinement
import BoundSql.Proofs.AdHoc
import BoundSql.Proofs.Entity.Wording
import BoundSql.Proofs.Statement.Numbering
import BoundSql.Proofs.Statement.Independence
import BoundSql.Proofs.Filter.Total
import BoundSql.Proofs.Entity.Plan
import BoundSql.Proofs.Entity.Modification
import BoundSql.Proofs.Entity.Columns
import BoundSql.Proofs.Entity.Stored
import BoundSql.Proofs.Entity.Contention
import BoundSql.Proofs.Entity.SoftDeletion
import BoundSql.Proofs.Session.FirstRow
import BoundSql.Proofs.Entity.Requirement
import BoundSql.Proofs.Entity.Restriction
import BoundSql.Proofs.Statement.Picking
import BoundSql.Proofs.Value.Family
import BoundSql.Proofs.Filter.Typing
import BoundSql.Proofs.Text.Numeral
import BoundSql.Proofs.Text.Hex
import BoundSql.Proofs.Calendar.Civil
import BoundSql.Proofs.Calendar.Reading
import BoundSql.Proofs.Calendar.Instant
import BoundSql.Proofs.Decimal.Reading
import BoundSql.Proofs.Uuid
import BoundSql.Proofs.DynamicRow
import BoundSql.Proofs.Value.Reading
import BoundSql.Proofs.Wire.Bytes
import BoundSql.Proofs.Wire.Timestamp
import BoundSql.Proofs.Wire.Cell
import BoundSql.Proofs.Number.Rounding
import BoundSql.Proofs.Binary.Double
import BoundSql.Proofs.Binary.Spelling
import BoundSql.Proofs.Json.Number
import BoundSql.Proofs.Value.Number
import BoundSql.Proofs.Guard.Parameter
import BoundSql.Proofs.Decimal.Rounding
import BoundSql.Proofs.Decimal.Numeral
import BoundSql.Proofs.Decimal.Shift
import BoundSql.Proofs.Value.Numeral
import BoundSql.Proofs.Binary.Integer
import BoundSql.Proofs.Value.Narrowing
import BoundSql.Proofs.Value.Widening
import BoundSql.Proofs.Calendar.Colon
import BoundSql.Proofs.Value.Temporal
import BoundSql.Proofs.Text.Trim
import BoundSql.Proofs.ColumnType
import BoundSql.Proofs.Guard.Lexeme
import BoundSql.Proofs.Guard.Boundary
import BoundSql.Proofs.Guard.Region
import BoundSql.Proofs.Guard.Rewriting
import BoundSql.Proofs.FieldBag
import BoundSql.Proofs.Entity.Respelling
import BoundSql.Proofs.Entity.Insertion
import BoundSql.Proofs.Entity.Declaration
import BoundSql.Proofs.Entity.Property
import BoundSql.Proofs.Entity.Refusal
import BoundSql.Proofs.Session.Updating
import BoundSql.Proofs.Entity.RestrictionText
import BoundSql.Proofs.Filter.Agreement
import BoundSql.Proofs.Clause.Search
import BoundSql.Proofs.Filter.Paging
import BoundSql.Proofs.Filter.JsonForm
import BoundSql.Proofs.Statement.FieldBagText
import BoundSql.Proofs.Filter.Arguments
import BoundSql.Proofs.Session.Signature
import BoundSql.Guard.Scan
import BoundSql.Proofs.Fragment.Builder
import BoundSql.Proofs.Fragment.Construction
import BoundSql.Proofs.Guard.Octet
import BoundSql.Proofs.Ident.Pattern
import BoundSql.Proofs.Guard.Scan
import BoundSql.Proofs.Guard.Token
