import Polystore.Introspect
import Polystore.Proofs.Action

/-!
# Reading catalogs

What holds between the states before and after a table is read, from what holds for the requests that
reading makes: statements on one cursor for PostgreSQL and MySQL, and for SQLite queries on cursors of the
connection's.
-/

namespace Polystore.Introspect

open Polystore.Action (Moves)

variable {σ : Type} {c : Connection σ} {R R' : σ → σ → Prop} [IsPreorder σ R]

/-- The statements through which SQLite's catalog is read. -/
def IsPragma (sql : String) : Prop :=
  ∃ table, sql = "PRAGMA table_info(\"" ++ table ++ "\")" ∨
    sql = "PRAGMA index_list(\"" ++ table ++ "\")"

theorem moves_catalogRows {sql : String} {parameters : List Value}
    (hexecute : (Action.step (c.execute sql (some parameters))).Moves R)
    (hfetch : (Action.step c.fetch).Moves R) : (catalogRows c sql parameters).Moves R :=
  hexecute.bind fun _ => hfetch.bind fun rows => .lift (.ok (rows.getD []))

theorem moves_fromCatalog {columnsQuery indexesQuery : String} {parameters : List Value}
    (hcursor : ∀ body : Action σ ExistingTable, body.Moves R → (c.withCursor body).Moves R')
    (hcolumns : (catalogRows c columnsQuery parameters).Moves R)
    (hindexes : (catalogRows c indexesQuery parameters).Moves R) :
    (fromCatalog c columnsQuery indexesQuery parameters).Moves R' := by
  refine hcursor _ (hcolumns.bind fun rows => ?_)
  split
  · exact .lift (.ok ExistingTable.absent)
  · exact (Moves.lift _).bind fun columns => hindexes.bind fun indexRows =>
      (Moves.lift _).bind fun indexes =>
        .lift (.ok ({ present := true, columns, indexes } : ExistingTable))

theorem moves_queryRows {sql : String} (hquery : (Action.step (c.query sql)).Moves R)
    (hfetch : (Action.step c.fetch).Moves R) : (queryRows c sql).Moves R :=
  hquery.bind fun _ => hfetch.bind fun rows => .lift (.ok (rows.getD []))

theorem moves_pragmaRows (hquery : ∀ sql, IsPragma sql → (queryRows c sql).Moves R)
    (table : String) : (pragmaRows c table).Moves R := by
  refine (hquery _ ⟨table, .inl rfl⟩).bind fun rows => ?_
  split
  · exact .lift (.ok ([], []))
  · exact (hquery _ ⟨table, .inr rfl⟩).bind fun indexRows => .lift (.ok (rows, indexRows))

theorem moves_sqlite (hquery : ∀ sql, IsPragma sql → (queryRows c sql).Moves R)
    (table : String) : (sqlite c table).Moves R := by
  have hrows : ∀ rows indexRows : List Row, (do
      if rows.isEmpty then pure .absent
      else
        let columns ← Action.lift (rows.mapM pragmaColumn)
        let indexes ← Action.lift (indexNames 1 indexRows)
        pure { present := true, columns, indexes } : Action σ ExistingTable).Moves R := by
    intro rows indexRows
    split
    · exact .lift (.ok ExistingTable.absent)
    · exact (Moves.lift _).bind fun columns => (Moves.lift _).bind fun indexes =>
        .lift (.ok ({ present := true, columns, indexes } : ExistingTable))
  have hread := ((moves_pragmaRows hquery table).mapError (.catalog (.pragma table))).bind
    fun rows => hrows rows.1 rows.2
  unfold sqlite
  split
  · exact (Moves.lift (.error (.catalogName table))).bind fun _ => hread
  · exact (Moves.lift (.ok ())).bind fun _ => hread

end Polystore.Introspect
