import SealedRows.Bytes
import SealedRows.Cipher.Aes
import SealedRows.Cipher.Algorithm
import SealedRows.Cipher.Des
import SealedRows.Cipher.Keystream
import SealedRows.Codec
import SealedRows.Codec.Column
import SealedRows.Codec.Layout
import SealedRows.Condition
import SealedRows.Condition.Builder
import SealedRows.Condition.Parser
import SealedRows.Condition.Token
import SealedRows.Database
import SealedRows.Decimal
import SealedRows.Double
import SealedRows.Double.Shortest
import SealedRows.Fault
import SealedRows.Heap
import SealedRows.KeyRing
import SealedRows.Kind
import SealedRows.Moment
import SealedRows.Numeral
import SealedRows.RecordType
import SealedRows.RecordType.WrittenType
import SealedRows.Reference
import SealedRows.Reference.Shelf
import SealedRows.Report
import SealedRows.Row
import SealedRows.Row.Writing
import SealedRows.Schema
import SealedRows.Schema.Build
import SealedRows.Schema.Registry
import SealedRows.Session
import SealedRows.Session.Aggregate
import SealedRows.Session.Join
import SealedRows.Session.Read
import SealedRows.Session.Table
import SealedRows.Session.Write
import SealedRows.Settings
import SealedRows.Settings.Source
import SealedRows.Sql.Clause
import SealedRows.Sql.Join
import SealedRows.Sql.Statement
import SealedRows.Text
import SealedRows.Text.Blank
import SealedRows.Text.Capital
import SealedRows.Text.Digit
import SealedRows.Text.Escape
import SealedRows.Text.Printable
import SealedRows.Text.Quoted
import SealedRows.Text.Utf16
import SealedRows.Value
import SealedRows.Value.Conversion
import SealedRows.Value.Display
import SealedRows.Value.Equality
import SealedRows.Value.Fault
import SealedRows.Value.Order
import SealedRows.Proofs.Double.Rounding
import SealedRows.Proofs.Double.Single
import SealedRows.Proofs.Double.Overflow
import SealedRows.Proofs.Cipher.Keystream
import SealedRows.Proofs.Codec.Layout
import SealedRows.Proofs.Codec.Legible
import SealedRows.Proofs.Codec.Canonical
import SealedRows.Proofs.Codec.Stored
import SealedRows.Proofs.Codec.Represented
import SealedRows.Proofs.Codec.Image
import SealedRows.Proofs.Codec.Transparent
import SealedRows.Proofs.Condition.Predicate
import SealedRows.Proofs.Lookup
import SealedRows.Proofs.Reference.Graph
import SealedRows.Proofs.Row.Decoded
import SealedRows.Proofs.Row.Joined
import SealedRows.Proofs.Row.Misread
import SealedRows.Proofs.Row.Overwritten
import SealedRows.Proofs.Schema.Rules
import SealedRows.Proofs.Schema.Columns
import SealedRows.Proofs.Schema.Valid
import SealedRows.Proofs.Schema.Faulty
import SealedRows.Proofs.Schema.History
import SealedRows.Proofs.Sql.Meaning
import SealedRows.Proofs.Sql.Answerable
import SealedRows.Proofs.Sql.Sorting
import SealedRows.Proofs.Reference.Steps
import SealedRows.Proofs.Schema.Keys
import SealedRows.Proofs.Schema.Reachable
import SealedRows.Proofs.Reference.Typed
import SealedRows.Proofs.Session.Fetched
import SealedRows.Proofs.Sql.Discreet
import SealedRows.Proofs.Session.Calls
import SealedRows.Proofs.Session.Discreet
import SealedRows.Proofs.Session.Dangling
import SealedRows.Proofs.Session.Made
import SealedRows.Proofs.Session.Referenced
import SealedRows.Proofs.Schema.TableKeys
import SealedRows.Proofs.Session.Shared
import SealedRows.Proofs.Sql.Filled
import SealedRows.Proofs.Sql.Fills
import SealedRows.Proofs.Session.Intent
import SealedRows.Proofs.Session.Opens
import SealedRows.Proofs.Session.Fulfilled
import SealedRows.Proofs.Session.Independent
import SealedRows.Proofs.Sql.Unmarked
import SealedRows.Proofs.Session.Placed
import SealedRows.Proofs.Cipher.Des
import SealedRows.Proofs.Cipher.Aes
import SealedRows.Proofs.Cipher.Stream
import SealedRows.Proofs.Cipher.Collision
import SealedRows.Proofs.KeyRing
import SealedRows.Proofs.Session.KeyHistory
import SealedRows.Proofs.Session.OneTable
import SealedRows.Proofs.Session.Extremes
import SealedRows.Proofs.Codec.EqualLayouts
import SealedRows.Proofs.Session.Lookups
import SealedRows.Proofs.Condition.Written
import SealedRows.Proofs.Condition.Unreadable
import SealedRows.Proofs.Codec.Breakdown
import SealedRows.Proofs.Sql.Breakdown
import SealedRows.Proofs.Session.Blamed
import SealedRows.Proofs.Condition.Backslash
import SealedRows.Proofs.Session.SelfJoined
import SealedRows.Proofs.Row.Selected
import SealedRows.Proofs.Row.Recorded
import SealedRows.Proofs.Session.Attributed
import SealedRows.Proofs.Session.Complete
import SealedRows.Proofs.Schema.Inserted
import SealedRows.Proofs.Session.AllOrNothing
import SealedRows.Proofs.Double.Neighbourhood
import SealedRows.Proofs.Double.Shortest
import SealedRows.Proofs.Double.Written
import SealedRows.Proofs.Sql.Literal
import SealedRows.Proofs.Sql.Definition
import SealedRows.Proofs.Sql.Constraint
import SealedRows.Proofs.Row.Defaulted
import SealedRows.Proofs.Session.Structure
import SealedRows.Proofs.Row.Filling
import SealedRows.Proofs.Codec.StorageClass
import SealedRows.Proofs.Condition.Longest
import SealedRows.Proofs.Condition.Lossless
import SealedRows.Proofs.Sql.Enclosed
