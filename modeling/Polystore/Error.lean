import Polystore.Error.Compilation
import Polystore.Error.Fault
import Polystore.Error.Kind
import Polystore.Error.Schema

/-!
# Errors

Every way in which this library refuses, by cause. An error has a `kind?` within a hierarchy
(`Kind.lineage`), a `message` that is safe to show to a user, a `detail` for logs, and possibly a
`cause?` that it wraps.
-/

namespace Polystore

/-- Everything that can go wrong. -/
inductive Error where
  | name (fault : NameFault)
  | unsupported (fault : UnsupportedFault)
  | filter (fault : FilterFault)
  | tooDeep (depth limit : Int)
  | update (fault : UpdateFault)
  | schema (fault : SchemaFault)
  | deferredDefault (value : Value)
  /-- A statement that builds or rebuilds a table was refused. -/
  | tableNotSynced (table : String) (cause : Error)
  /-- A collection could not be rebuilt. -/
  | collectionNotSynced (collection : String) (cause : Error)
  | catalog (query : CatalogQuery) (cause : Error)
  /-- A table name that cannot be written into a catalog query. -/
  | catalogName (table : String)
  | duplicateMigration (migration : String)
  | notApplied (migration : String)
  | step (direction : Direction) (migration : String) (cause : Error)
  /-- The store refused with a message of its own. -/
  | refused (message : String)
  | fault (fault : Fault)
  /-- An error that a caller raises with texts of its own. -/
  | raised (kind : Kind) (message details : String) (cause : Option String)
  deriving Repr

namespace Error

/-- The kind of an error; a store's refusal and a fault have none. -/
def kind? : Error → Option Kind
  | name _ => some .invalidName
  | unsupported _ => some .unsupported
  | filter _ => some .invalidFilter
  | tooDeep .. => some .tooDeep
  | update _ => some .invalidUpdate
  | schema _ => some .invalidSchema
  | deferredDefault _ => some .unresolvedDefault
  | tableNotSynced .. => some .sync
  | collectionNotSynced .. => some .sync
  | catalog .. => some .introspection
  | catalogName _ => some .introspection
  | duplicateMigration _ => some .migration
  | notApplied _ => some .migration
  | step .. => some .migration
  | refused _ => none
  | fault _ => none
  | raised k .. => some k

/-- The text for users. -/
def message : Error → String
  | name f => f.message
  | unsupported f => f.message
  | filter f => f.message
  | tooDeep .. => "maximum filter nesting depth exceeded"
  | update f => f.message
  | schema f => f.message
  | deferredDefault _ => "deferred default cannot be rendered"
  | tableNotSynced .. => "schema synchronization failed"
  | collectionNotSynced .. => "schema synchronization failed"
  | catalog q _ => "failed to introspect table: " ++ Text.literal q.table
  | catalogName t => "invalid table name: " ++ Text.literal t
  | duplicateMigration _ => "migration failed"
  | notApplied _ => "migration failed"
  | step .. => "migration failed"
  | refused m => m
  | fault f => f.message
  | raised _ m .. => m

/-- The text for logs. -/
def detail : Error → String
  | name f => f.detail
  | unsupported f => f.detail
  | filter f => f.detail
  | tooDeep depth limit => "depth " ++ toString depth ++ " exceeds limit " ++ toString limit
  | update f => f.detail
  | schema f => f.detail
  | deferredDefault v => "callable default " ++ v.shown ++ " must be resolved at write time"
  | tableNotSynced t e => "DDL for table '" ++ t ++ "' failed: " ++ e.message
  | collectionNotSynced c e => "recreating collection '" ++ c ++ "' failed: " ++ e.message
  | catalog q e => q.subject ++ " failed: " ++ e.message
  | catalogName t =>
    "table name " ++ Text.literal t ++ " does not match pattern ^[a-zA-Z_][a-zA-Z0-9_]*$"
  | duplicateMigration m => "duplicate migration name " ++ Text.literal m
  | notApplied m => "migration " ++ Text.literal m ++ " has not been applied"
  | step d m e => d.name ++ " step of " ++ Text.literal m ++ " failed: " ++ e.message
  | refused m => m
  | fault f => f.message
  | raised _ m details _ => if details = "" then m else details

/-- The error that an error wraps. -/
def cause? : Error → Option Error
  | schema (.notEncodable _ c) => some (.fault c)
  | tableNotSynced _ e => some e
  | collectionNotSynced _ e => some e
  | catalog _ e => some e
  | step _ _ e => some e
  | raised _ _ _ (some m) => some (.refused m)
  | _ => none

/-- An error whose text shows values. If one of them has a whole number of too many digits, the text
cannot be written, and that is the error. -/
def showing (values : List Value) (e : Error) : Error :=
  if values.all Value.isShowable then e else .fault (.tooManyDigits none)

theorem showing_of_isShowable {values : List Value} (h : ∀ v ∈ values, v.isShowable = true) (e : Error) :
    showing values e = e :=
  if_pos (List.all_eq_true.2 h)

theorem showing_of_not_isShowable {values : List Value} {v : Value} (hv : v ∈ values)
    (h : v.isShowable = false) (e : Error) : showing values e = .fault (.tooManyDigits none) :=
  if_neg fun hall => Bool.noConfusion (h.symm.trans (List.all_eq_true.1 hall v hv))

/-- An error of a kind is one of that kind or of a narrower one. -/
def isA (e : Error) (k : Kind) : Bool :=
  match e.kind? with
  | some k' => k'.lineage.contains k
  | none => false

end Error

end Polystore
