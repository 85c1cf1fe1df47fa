import Polystore.Compile
import Polystore.Connection.Scripted
import Polystore.Migration.Manager
import Polystore.Request
import Polystore.Sync.Document
import Polystore.Value.Pattern
import Polystore.Proofs.Outcome
import Polystore.Proofs.Sql.Column
import Polystore.Proofs.Sql.Placeholder
import Polystore.Proofs.Sql.Condition
import Polystore.Proofs.Sql.Numbering
import Polystore.Proofs.Filter.Meaning
import Polystore.Proofs.Sql.Denotation
import Polystore.Proofs.Migration.Undo
import Polystore.Proofs.Default.Backslash
import Polystore.Proofs.Plan.Convergence
import Polystore.Proofs.Sync.Relational
import Polystore.Proofs.Filter.Reading
import Polystore.Proofs.Sql.Alike
import Polystore.Proofs.Document.Building
import Polystore.Proofs.Document.Readback
import Polystore.Proofs.Document.Place
import Polystore.Proofs.Document.Meaning
import Polystore.Proofs.Document.Conjunction
import Polystore.Proofs.Update.Placement
import Polystore.Proofs.Sql.Item
import Polystore.Proofs.Update.Native
import Polystore.Proofs.Default.Literal
import Polystore.Proofs.Default.Special
import Polystore.Proofs.Ddl.Creation
import Polystore.Proofs.Sync.Continuation
import Polystore.Proofs.Sync.Reading
import Polystore.Proofs.Sync.Unwritten
import Polystore.Proofs.Sync.Absent
import Polystore.Proofs.Migration.Creation
import Polystore.Proofs.Compile.Refusal
import Polystore.Proofs.Migration.Rollback
import Polystore.Proofs.Sql.Pattern
import Polystore.Proofs.Sql.Raising
import Polystore.Proofs.Statement.Decomposition
import Polystore.Proofs.Update.Readback
import Polystore.Proofs.Connection.Cursor
import Polystore.Proofs.Introspect
import Polystore.Proofs.Connection.Client
import Polystore.Proofs.Filter.Grammar
import Polystore.Proofs.Update.Implicit
import Polystore.Proofs.Identifier
import Polystore.Proofs.Statement.Table
import Polystore.Proofs.Filter.Depth
import Polystore.Proofs.Migration.Bookkeeping
import Polystore.Proofs.Sync.Stopping
import Polystore.Proofs.Migration.Draining
import Polystore.Proofs.Filter.Typing
import Polystore.Proofs.Compile.Spelling
import Polystore.Proofs.Ddl.JsonDefault
import Polystore.Proofs.Migration.Registration
import Polystore.Proofs.Plan.Generated
import Polystore.Proofs.Plan.Naming
import Polystore.Proofs.Query
import Polystore.Proofs.Sql.Escaping
import Polystore.Proofs.Statement.Quoting
