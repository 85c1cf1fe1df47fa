import Polystore.Connection.Collections
import Polystore.Entries
import Polystore.Text.Search

/-!
# Scripted stores

Stores in memory that answer by a script, for trying out programs: a relational one that knows the
catalog of some tables and a migration history, and a document store that knows the names of its
collections. Both refuse what their script says, and record every call.
-/

namespace Polystore.Scripted

/-- A call that a relational store has received. -/
inductive Call where
  | statement (sql : String) (parameters : Option (List Value))
  | close
  deriving Repr

/-- The catalog rows of a table. -/
structure CatalogTable where
  columns : List Row := []
  indexes : List Row := []
  deriving Repr

/-- Statements that contain a text are refused. -/
structure RefusalRule where
  text : String
  message : String
  /-- The refusal is an introspection error. -/
  introspection : Bool := false
  deriving Repr

/-- The state of a scripted relational store. -/
structure Store where
  tables : Entries String CatalogTable := []
  history : List Row := []
  refusals : List RefusalRule := []
  /-- No cursor can be opened, with this message. -/
  cursorRefusal : Option String := none
  /-- The result of the statement that ran last. -/
  result : Option (List Row) := none
  calls : List Call := []
  deriving Repr

/-- The columns of the migration history, as statements list them. -/
def historyColumns : String :=
  "name, timestamp, batch, executed_at"

/-- The statement queries the catalog of PostgreSQL or MySQL. -/
def isCatalogQuery (sql : String) : Bool :=
  Text.contains sql "information_schema." || Text.contains sql "pg_indexes"

/-- The statement records a migration. -/
def isHistoryInsert (sql : String) : Bool :=
  Text.startsWith sql "INSERT INTO " && Text.contains sql ("(" ++ historyColumns ++ ")")

/-- A time in universal time, written with its offset. -/
def isUniversalTime (v : Value) : Bool :=
  match v with
  | .str s =>
    match DateTime.ofText? s.toList with
    | some t => s.toList[10]? == some 'T' && t.offset == some 0 &&
        ("+00:00".toList.reverse).isPrefixOf s.toList.reverse
    | none => false
  | _ => false

/-- The parameters of a recorded migration, without the time of the run. -/
def masked (sql : String) (parameters : Option (List Value)) : Option (List Value) :=
  match parameters with
  | some (a :: b :: c :: time :: rest) =>
    if isHistoryInsert sql && isUniversalTime time then some (a :: b :: c :: .str "NOW" :: rest)
    else parameters
  | _ => parameters

/-- The name in the parentheses and quotes of a pragma. -/
def pragmaTable? (sql : String) : Option String :=
  if Text.startsWith sql "PRAGMA " then
    (Text.after? ['(', '"'] sql.toList).map fun cs => String.ofList (cs.takeWhile (· != '"'))
  else none

/-- The table that a catalog query asks about. -/
def catalogTable? (sql : String) (parameters : Option (List Value)) : Option String :=
  if isCatalogQuery sql then (((parameters.getD []).getLast?).bind Value.text?).getD ""
  else pragmaTable? sql

/-- The order of two cells: numbers by value, texts by code points. A decimal has no order with a
not-a-number, and other cells have one only if they are the same. -/
def cellOrder (a b : Value) : Except Error Ordering :=
  match a.number?, b.number? with
  | some s, some t =>
    if (a.isDecimal || b.isDecimal) && (s.isNaN || t.isNaN) then throw (.fault .signaling)
    else pure (if s.sameNumber t then .eq else if s.less t then .lt else .gt)
  | _, _ =>
    match a.text?, b.text? with
    | some m, some n => pure (compare m n)
    | _, _ =>
      if a.sameKey b then pure .eq else throw (.fault (.unordered a.className b.className))

/-- The cells of a row that decide when it is read: its timestamp, then its name. -/
def orderCells : Row → Except Error (Value × Value)
  | name :: time :: _ => pure (time, name)
  | _ => throw (.fault .missingColumn)

/-- A row is read before another one. -/
def readsBefore (a b : Value × Value) : Except Error Bool := do
  match ← cellOrder a.1 b.1 with
  | .lt => pure true
  | .gt => pure false
  | .eq => (cellOrder a.2 b.2).map (· == .lt)

/-- Puts a row in front of the first one that it is read before. -/
def insertRow (row : (Value × Value) × Row) :
    List ((Value × Value) × Row) → Except Error (List ((Value × Value) × Row))
  | [] => pure [row]
  | r :: rs => do
    if ← readsBefore row.1 r.1 then pure (row :: r :: rs) else (insertRow row rs).map (r :: ·)

/-- The rows of the history in the order in which they are read. -/
def inOrder (rows : List Row) : Except Error (List Row) := do
  let keyed ← rows.mapM fun row => (orderCells row).map (·, row)
  let sorted ← keyed.foldlM (fun acc row => insertRow row acc) []
  pure (sorted.map (·.2))

/-- The row names the migration of a parameter. -/
def names (parameter : Option Value) (row : Row) : Bool :=
  match parameter, row with
  | some p, name :: _ => p.sameKey name
  | _, _ => false

namespace Store

/-- The rows of the catalog for a query about a table. -/
def catalogRows (s : Store) (sql table : String) : List Row :=
  let t := (s.tables.get? table).getD {}
  if Text.contains sql "information_schema.columns" || Text.contains sql "table_info" then t.columns
  else t.indexes

/-- The store after a statement that it accepts; a history whose rows have no order is not read. -/
def perform (s : Store) (sql : String) (parameters : Option (List Value)) : Except Error Store :=
  match catalogTable? sql parameters with
  | some table => pure { s with result := some (s.catalogRows sql table) }
  | none =>
    if Text.startsWith sql ("SELECT " ++ historyColumns ++ " FROM ") then
      (inOrder s.history).map fun rows => { s with result := some rows }
    else if isHistoryInsert sql then
      pure { s with history := s.history ++ [parameters.getD []], result := none }
    else if Text.startsWith sql "DELETE FROM " && Text.contains sql " WHERE name = " then
      let parameter := (parameters.getD []).head?
      pure { s with history := s.history.filter fun row => !names parameter row, result := none }
    else if Text.startsWith sql "SELECT " then
      pure { s with result := some [[.int 1, .str "row"]] }
    else pure { s with result := none }

/-- The first rule that refuses a statement. -/
def refusal? (s : Store) (sql : String) : Option Error :=
  (s.refusals.find? fun r => Text.contains sql r.text).map fun r =>
    if r.introspection then .raised .introspection r.message "" none else .refused r.message

/-- Receives a statement: records it, then refuses or performs it. -/
def receive (s : Store) (sql : String) (parameters : Option (List Value)) :
    Except Error Unit × Store :=
  let sql := if isCatalogQuery sql then Text.squeeze sql else sql
  let parameters := masked sql parameters
  let s := { s with calls := s.calls ++ [.statement sql parameters], result := none }
  match s.refusal? sql with
  | some e => (.error e, s)
  | none =>
    match s.perform sql parameters with
    | .ok s => (.ok (), s)
    | .error e => (.error e, s)

/-- Opens a cursor. -/
def openCursor (s : Store) : Except Error Unit × Store :=
  match s.cursorRefusal with
  | some m => (.error (.refused m), s)
  | none => (.ok (), { s with result := none })

end Store

/-- The behaviour of a scripted relational store. -/
def connection : Connection Store where
  openCursor := Store.openCursor
  execute := fun sql parameters s => s.receive sql parameters
  fetch := fun s => (.ok s.result, s)
  closeCursor := fun s => (.ok (), { s with calls := s.calls ++ [.close] })
  query := fun sql s => s.receive sql none

/-- A call that a document store has received. -/
inductive CollectionCall where
  | listNames
  | create (collection : String)
  | drop (collection : String)
  | createIndex (collection : String) (fields : List (String × Int)) (unique : Value)
      (name : Option String)
  deriving Repr

/-- The name of a call's method, by which scripts refuse it. -/
def CollectionCall.method : CollectionCall → String
  | listNames => "list_collection_names"
  | create _ => "create_collection"
  | drop _ => "drop_collection"
  | createIndex .. => "create_index"

/-- The state of a scripted document store. -/
structure Collections where
  names : List String := []
  /-- Refused methods with their messages. -/
  refusals : List (String × String) := []
  calls : List CollectionCall := []
  deriving Repr

namespace Collections

/-- Receives a call: records it, then refuses it or goes on. -/
def receive {α : Type} (s : Collections) (call : CollectionCall)
    (perform : Collections → α × Collections) : Except Error α × Collections :=
  let s := { s with calls := s.calls ++ [call] }
  match s.refusals.find? fun r => r.1 == call.method with
  | some r => (.error (.refused r.2), s)
  | none => let (a, s) := perform s; (.ok a, s)

end Collections

/-- The behaviour of a scripted document store. -/
def documentStore : DocumentStore Collections where
  listNames := fun s => s.receive .listNames fun s => (s.names, s)
  create := fun n s => s.receive (.create n) fun s => ((), { s with names := s.names ++ [n] })
  drop := fun n s => s.receive (.drop n) fun s =>
    ((), { s with names := s.names.filter (· != n) })
  createIndex := fun n fields unique name s =>
    s.receive (.createIndex n fields unique name) fun s => ((), s)

end Polystore.Scripted
