import Polystore.Migration.History
import Polystore.Proofs.Outcome

/-!
# The statements of the migration history

The history is read, extended and cut by three statements, which are spelled out here. Whenever the
table of the history can be created, these are the statements that are sent (`select_eq`, `insert_eq`
and `delete_eq`).
-/

namespace Polystore.History

variable {d : SqlDialect} {table quoted : String}

/-- The placeholder with a number. -/
def placeholder (d : SqlDialect) (number : Nat) : String :=
  d.placeholders.placeholder number

/-- The columns of the history, as statements list them. -/
def columnList : String :=
  "name, timestamp, batch, executed_at"

/-- The statement that reads the history of a quoted table. -/
def selectText (quoted : String) : String :=
  "SELECT " ++ columnList ++ " FROM " ++ quoted ++ " WHERE " ++ "1=1" ++
    " ORDER BY timestamp ASC, name ASC"

/-- The statement that adds a record to the history. -/
def insertText (d : SqlDialect) (quoted : String) : String :=
  "INSERT INTO " ++ quoted ++ " (" ++ columnList ++ ") VALUES (" ++
    (placeholder d 1 ++ ", " ++ placeholder d 2 ++ ", " ++ placeholder d 3 ++ ", " ++
      placeholder d 4) ++ ")"

/-- The statement that takes the record of a name out of the history. -/
def deleteText (d : SqlDialect) (quoted : String) : String :=
  "DELETE FROM " ++ quoted ++ " WHERE " ++ ("name = " ++ placeholder d 1)

/-- The cells of a record. -/
def cells (r : MigrationRecord) : List Value :=
  [.str r.name, .int r.timestamp, .int r.batch, r.executedAt]

theorem quote_of_createTable {shape : TableShape} {sql : String}
    (h : Ddl.createTable d shape = .ok sql) : ∃ quoted, d.quote shape.name = .ok quoted := by
  unfold Ddl.createTable at h
  obtain ⟨_, -, h⟩ := bind_eq_ok.1 h
  obtain ⟨_, -, h⟩ := bind_eq_ok.1 h
  obtain ⟨quoted, hquoted, -⟩ := bind_eq_ok.1 h
  obtain ⟨_, -, hquoted⟩ := bind_eq_ok.1 hquoted
  exact ⟨quoted, hquoted⟩

theorem renderField_column {column : String}
    (h : column ∈ ["name", "timestamp", "batch", "executed_at"]) :
    d.renderField column = .ok column := by
  obtain ⟨engine, placeholders, schemaName, database⟩ := d
  simp only [List.mem_cons, List.not_mem_nil, or_false] at h
  rcases h with rfl | rfl | rfl | rfl
  all_goals cases engine <;> rfl

theorem renderName_column {column : String}
    (h : column ∈ ["name", "timestamp", "batch", "executed_at"]) :
    d.renderName (.str column) = .ok column :=
  renderField_column h

/-! ### Reading -/

theorem normalizeProjection_readOptions :
    Query.normalizeProjection readOptions.select =
      .ok [⟨.str "name", true⟩, ⟨.str "timestamp", true⟩, ⟨.str "batch", true⟩,
        ⟨.str "executed_at", true⟩] := by
  have hnames : Query.markedNames "name timestamp batch executed_at" =
      [("name", false), ("timestamp", false), ("batch", false), ("executed_at", false)] := by
    decide +kernel
  have htruthy : readOptions.select.truthy = true := by decide
  have htext : readOptions.select.text? = some "name timestamp batch executed_at" := rfl
  simp only [Query.normalizeProjection, htruthy, htext, hnames]
  rfl

theorem columns_readOptions :
    Statement.columns d readOptions.select = .ok columnList := by
  rw [Statement.columns, normalizeProjection_readOptions]
  show (List.mapM (fun e : Query.ProjectionEntry => d.renderName e.field)
    [⟨.str "name", true⟩, ⟨.str "timestamp", true⟩, ⟨.str "batch", true⟩,
      ⟨.str "executed_at", true⟩] >>= _) = _
  simp only [List.mapM_cons, List.mapM_nil]
  rw [renderName_column (by simp), renderName_column (by simp), renderName_column (by simp),
    renderName_column (by simp)]
  rfl

theorem sortEntry_ascending {name : String} (h : name ≠ "") :
    Query.sortEntry [.str name, .int 1] = .ok ⟨.str name, false⟩ := by
  have htruthy : Value.truthy (.str name) = true := by simpa [Value.truthy] using h
  have hdirection : Value.isOneOf [1, -1] (.int 1) = .ok true := by
    have hone : ([1, -1] : List Int).any (fun n => Value.isInt n (.int 1)) = true := by
      decide +kernel
    exact congrArg Except.ok hone
  have hsign : Value.isInt (-1) (.int 1) = false := by decide +kernel
  simp only [Query.sortEntry, htruthy, hdirection, hsign]
  rfl

theorem normalizeSort_readOptions :
    Query.normalizeSort readOptions.sort =
      .ok [⟨.str "timestamp", false⟩, ⟨.str "name", false⟩] := by
  have hpairs : Query.sortPairs readOptions.sort =
      .ok [[.str "timestamp", .int 1], [.str "name", .int 1]] := rfl
  rw [Query.normalizeSort, hpairs]
  show List.mapM Query.sortEntry _ = _
  simp only [List.mapM_cons, List.mapM_nil]
  rw [sortEntry_ascending (by decide), sortEntry_ascending (by decide)]
  rfl

theorem orderBy_readOptions :
    Statement.orderBy d readOptions.sort = .ok " ORDER BY timestamp ASC, name ASC" := by
  rw [Statement.orderBy, normalizeSort_readOptions]
  show (List.mapM (Statement.orderTerm d) [⟨.str "timestamp", false⟩, ⟨.str "name", false⟩] >>= _) =
    _
  simp only [List.mapM_cons, List.mapM_nil, Statement.orderTerm]
  rw [renderName_column (by simp), renderName_column (by simp)]
  rfl

theorem select_eq (h : d.quote table = .ok quoted) :
    Request.select table .null (.sql d) readOptions =
      .ok { sql := selectText quoted, parameters := [] } := by
  have hfilter : Statement.compileFilter { dialect := d } .null =
      .ok ("1=1", { dialect := d }) := rfl
  rw [Request.select, Statement.select, hfilter, columns_readOptions, h, orderBy_readOptions]
  show Except.ok (Sql.Compiled.mk ("SELECT " ++ columnList ++ " FROM " ++ quoted ++ " WHERE " ++
    "1=1" ++ " ORDER BY timestamp ASC, name ASC" ++ "") []) = _
  rw [String.append_empty]
  rfl

/-! ### Writing -/

theorem insert_eq (h : d.quote table = .ok quoted) (r : MigrationRecord) :
    Request.insert table (.map [(.str "name", .str r.name), (.str "timestamp", .int r.timestamp),
        (.str "batch", .int r.batch), (.str "executed_at", r.executedAt)]) (.sql d) =
      .ok { sql := insertText d quoted, parameters := cells r } := by
  have hvalues : (Sql.Compiler.values { dialect := d } (cells r)).1 =
      placeholder d 1 ++ ", " ++ placeholder d 2 ++ ", " ++ placeholder d 3 ++ ", " ++
        placeholder d 4 := by
    simp [Sql.Compiler.values, Sql.Compiler.write, cells, Sql.Fragment.joinWith,
      Sql.Fragment.render, Sql.Compiler.next, placeholder, String.append_assoc]
  have hcolumns : List.mapM (fun e : Value × Value => d.renderName e.1)
      [(.str "name", .str r.name), (.str "timestamp", .int r.timestamp),
        (.str "batch", .int r.batch), (.str "executed_at", r.executedAt)] =
      .ok ["name", "timestamp", "batch", "executed_at"] := by
    simp only [List.mapM_cons, List.mapM_nil]
    rw [renderName_column (by simp), renderName_column (by simp), renderName_column (by simp),
      renderName_column (by simp)]
    rfl
  have hlist : ", ".intercalate ["name", "timestamp", "batch", "executed_at"] = columnList := rfl
  rw [Request.insert, Statement.insert]
  show (List.mapM (fun e : Value × Value => d.renderName e.1) _ >>= _) = _
  rw [hcolumns]
  show (d.quote table >>= _) = _
  rw [h]
  show Except.ok (Sql.Compiled.mk ("INSERT INTO " ++ quoted ++ " (" ++
    ", ".intercalate ["name", "timestamp", "batch", "executed_at"] ++ ") VALUES (" ++
      (Sql.Compiler.values { dialect := d } (cells r)).1 ++ ")") (cells r)) = _
  rw [hlist, hvalues]
  rfl

theorem condition_column {column : String}
    (h : column ∈ ["name", "timestamp", "batch", "executed_at"]) {v : Value}
    (hv : v.isNull = false) :
    Sql.condition d [.leaf { field := .plain column, operator := .eq, value := v }] =
      .ok (.both [.compare column .eq v]) := by
  have htest : Sql.leafTest d { field := .plain column, operator := .eq, value := v } =
      .ok (.compare column .eq v) := by
    simp only [Sql.leafTest, Name.text, renderField_column h, Sql.comparison?, Sql.comparisonTest, hv]
    rfl
  simp only [Sql.condition, Sql.nodeTests, Sql.nodeTest, htest]
  rfl

theorem delete_eq (h : d.quote table = .ok quoted) (name : String) :
    Request.delete table (.map [(.str "name", .str name)]) (.sql d) =
      .ok { sql := deleteText d quoted, parameters := [.str name] } := by
  have hread : Filter.read (.map [(.str "name", .str name)]) =
      .ok [.leaf { field := .plain "name", operator := .eq, value := .str name }] := by
    with_unfolding_all rfl
  have hfilter : Statement.compileFilter { dialect := d } (.map [(.str "name", .str name)]) =
      .ok ("name = " ++ placeholder d 1, { dialect := d, parameters := [.str name] }) := by
    have hcondition : Sql.condition d
        [.leaf { field := .plain "name", operator := .eq, value := .str name }] = _ :=
      condition_column (by simp) rfl
    have htext : Sql.Compiler.condition { dialect := d }
        [.leaf { field := .plain "name", operator := .eq, value := .str name }] =
        (.ok ("name = " ++ placeholder d 1), { dialect := d, parameters := [.str name] }) := by
      rw [Sql.Compiler.condition, hcondition]
      show (Except.ok ("name" ++ " " ++ "=" ++ " " ++ (placeholder d 1 ++ "")),
        Sql.Compiler.mk d 1 [.str name]) = _
      rw [String.append_empty]
      rfl
    simp only [Statement.compileFilter, hread]
    show (Sql.Compiler.condition { dialect := d } _).1 >>= _ = _
    rw [htext]
    rfl
  rw [Request.delete, Statement.delete, hfilter, h]
  rfl

end Polystore.History
