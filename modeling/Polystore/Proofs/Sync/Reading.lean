import Polystore.Proofs.Introspect
import Polystore.Proofs.Sync.Rendering

/-!
# Reading a table

Which statements a connection receives between two of its states, and that none of them defines, drops
or alters a table while the catalog is read.

Main statements: `Action.Reads.table` and `runFrom_existingTable`. Every statement of a change is one that
reading never sends (`Ddl.isDdl_of_render`), and a store that records what it receives has recorded none
(`WithoutDdl.filter_received`).
-/

namespace Polystore

variable {σ α β : Type} {c : Connection σ}

/-! ### Statements that define tables -/

/-- The word at the start of a statement, in upper case. -/
def leadingVerb (sql : String) : List Char :=
  (sql.toList.takeWhile Char.isAlpha).map Char.toUpper

/-- The verbs of SQL's data definition language. -/
def definitionVerbs : List (List Char) :=
  ["CREATE".toList, "DROP".toList, "ALTER".toList, "RENAME".toList, "TRUNCATE".toList]

/-- A statement of the data definition language. -/
def isDdl (sql : String) : Bool :=
  definitionVerbs.contains (leadingVerb sql)

namespace Ddl

variable {d : SqlDialect} {table : String} {change : Change} {statements : List String}

theorem isDdl_createTable {shape : TableShape} {sql : String} (h : createTable d shape = .ok sql) :
    isDdl sql = true := by
  obtain ⟨key, -, h⟩ := bind_eq_ok.1 h
  obtain ⟨columns, -, h⟩ := bind_eq_ok.1 h
  obtain ⟨name, -, h⟩ := bind_eq_ok.1 h
  obtain rfl := pure_eq_ok.1 h
  simp [isDdl, leadingVerb, definitionVerbs]

theorem isDdl_of_render (h : render d table change = .ok statements) :
    ∀ sql ∈ statements, isDdl sql = true := by
  cases change with
  | createTable shape =>
    obtain ⟨sql, hcreate, h⟩ := bind_eq_ok.1 h
    obtain rfl := pure_eq_ok.1 h
    exact List.forall_mem_singleton.2 (isDdl_createTable hcreate)
  | recreateTable shape =>
    obtain ⟨drop, hdrop, h⟩ := bind_eq_ok.1 h
    obtain ⟨create, hcreate, h⟩ := bind_eq_ok.1 h
    obtain rfl := pure_eq_ok.1 h
    obtain ⟨name, -, hdrop⟩ := bind_eq_ok.1 hdrop
    obtain rfl := pure_eq_ok.1 hdrop
    refine List.forall_mem_cons.2 ⟨?_, List.forall_mem_singleton.2 (isDdl_createTable hcreate)⟩
    simp [isDdl, leadingVerb, definitionVerbs]
  | addColumn name f =>
    obtain ⟨sql, hadd, h⟩ := bind_eq_ok.1 h
    obtain rfl := pure_eq_ok.1 h
    obtain ⟨definition, -, hadd⟩ := bind_eq_ok.1 hadd
    obtain ⟨target, -, hadd⟩ := bind_eq_ok.1 hadd
    obtain rfl := pure_eq_ok.1 hadd
    refine List.forall_mem_singleton.2 ?_
    simp [isDdl, leadingVerb, definitionVerbs]
  | createIndex name fields unique =>
    obtain ⟨sql, hcreate, h⟩ := bind_eq_ok.1 h
    obtain rfl := pure_eq_ok.1 h
    obtain ⟨index, -, hcreate⟩ := bind_eq_ok.1 hcreate
    obtain ⟨target, -, hcreate⟩ := bind_eq_ok.1 hcreate
    obtain ⟨columns, -, hcreate⟩ := bind_eq_ok.1 hcreate
    obtain rfl := pure_eq_ok.1 hcreate
    refine List.forall_mem_singleton.2 ?_
    cases unique.truthy <;> simp [isDdl, leadingVerb, definitionVerbs]

end Ddl

/-! ### Statements that are received -/

/-- The statements that a connection receives between two of its states, in order. -/
inductive Sent (c : Connection σ) : σ → List String → σ → Prop where
  | nil (x : σ) : Sent c x [] x
  | openCursor {x y : σ} {sent : List String} (hrest : Sent c (c.openCursor x).2 sent y) :
      Sent c x sent y
  | execute {x y : σ} {sent : List String} (sql : String) (parameters : Option (List Value))
      (hrest : Sent c (c.execute sql parameters x).2 sent y) : Sent c x (sql :: sent) y
  | fetch {x y : σ} {sent : List String} (hrest : Sent c (c.fetch x).2 sent y) : Sent c x sent y
  | closeCursor {x y : σ} {sent : List String} (hrest : Sent c (c.closeCursor x).2 sent y) :
      Sent c x sent y
  | query {x y : σ} {sent : List String} (sql : String) (hrest : Sent c (c.query sql x).2 sent y) :
      Sent c x (sql :: sent) y

theorem Sent.append {x y z : σ} {sent more : List String} (h : Sent c x sent y)
    (h' : Sent c y more z) : Sent c x (sent ++ more) z := by
  induction h with
  | nil => exact h'
  | openCursor _ ih => exact .openCursor (ih h')
  | execute sql parameters _ ih => exact .execute sql parameters (ih h')
  | fetch _ ih => exact .fetch (ih h')
  | closeCursor _ ih => exact .closeCursor (ih h')
  | query sql _ ih => exact .query sql (ih h')

/-- A connection whose states hold the statements that it has received. -/
structure Records (c : Connection σ) (received : σ → List String) : Prop where
  openCursor (x : σ) : received (c.openCursor x).2 = received x
  execute (sql : String) (parameters : Option (List Value)) (x : σ) :
    received (c.execute sql parameters x).2 = received x ++ [sql]
  fetch (x : σ) : received (c.fetch x).2 = received x
  closeCursor (x : σ) : received (c.closeCursor x).2 = received x
  query (sql : String) (x : σ) : received (c.query sql x).2 = received x ++ [sql]

theorem Sent.received_eq {received : σ → List String} (hrecords : Records c received) {x y : σ}
    {sent : List String} (h : Sent c x sent y) : received y = received x ++ sent := by
  induction h with
  | nil => exact (List.append_nil _).symm
  | openCursor _ ih => rw [ih, hrecords.openCursor]
  | execute sql parameters _ ih => rw [ih, hrecords.execute, List.append_assoc, List.singleton_append]
  | fetch _ ih => rw [ih, hrecords.fetch]
  | closeCursor _ ih => rw [ih, hrecords.closeCursor]
  | query sql _ ih => rw [ih, hrecords.query, List.append_assoc, List.singleton_append]

/-- Between two states of a connection, no statement of the data definition language is sent. -/
def WithoutDdl (c : Connection σ) (x y : σ) : Prop :=
  ∃ sent, Sent c x sent y ∧ ∀ sql ∈ sent, isDdl sql = false

namespace WithoutDdl

variable {x y z : σ}

theorem refl (x : σ) : WithoutDdl c x x :=
  ⟨[], .nil x, List.forall_mem_nil _⟩

theorem trans (h : WithoutDdl c x y) (h' : WithoutDdl c y z) : WithoutDdl c x z := by
  obtain ⟨sent, hsent, hnone⟩ := h
  obtain ⟨more, hmore, hnone'⟩ := h'
  exact ⟨sent ++ more, hsent.append hmore, List.forall_mem_append.2 ⟨hnone, hnone'⟩⟩

instance : IsPreorder σ (WithoutDdl c) where
  refl := refl
  trans _ _ _ := trans

theorem filter_received {received : σ → List String} (hrecords : Records c received)
    (h : WithoutDdl c x y) : (received y).filter isDdl = (received x).filter isDdl := by
  obtain ⟨sent, hsent, hnone⟩ := h
  have hsent' : sent.filter isDdl = [] :=
    List.filter_eq_nil_iff.2 fun sql hsql => Bool.eq_false_iff.1 (hnone sql hsql)
  rw [hsent.received_eq hrecords, List.filter_append, hsent', List.append_nil]

end WithoutDdl

/-! ### Programs that only read -/

/-- A program that sends no statement of the data definition language. -/
def Action.Reads (c : Connection σ) (a : Action σ α) : Prop :=
  ∀ s, WithoutDdl c s.state (a.runFrom s).2.state

namespace Action.Reads

theorem lift (r : Except Error α) : (Action.lift r : Action σ α).Reads c :=
  Moves.lift r

theorem bind {a : Action σ α} {f : α → Action σ β} (h : a.Reads c) (hf : ∀ v, (f v).Reads c) :
    (a >>= f).Reads c :=
  Moves.bind h hf

theorem attempt {a : Action σ α} (h : a.Reads c) : a.attempt.Reads c :=
  h

theorem mapError {a : Action σ α} (f : Error → Error) (h : a.Reads c) : (a.mapError f).Reads c :=
  Moves.mapError f h

theorem execute {sql : String} (hsql : isDdl sql = false) (parameters : Option (List Value)) :
    (Action.step (c.execute sql parameters)).Reads c :=
  fun _ => ⟨[sql], .execute sql parameters (.nil _), List.forall_mem_singleton.2 hsql⟩

theorem fetch : (Action.step c.fetch).Reads c :=
  fun _ => ⟨[], .fetch (.nil _), List.forall_mem_nil _⟩

theorem query {sql : String} (hsql : isDdl sql = false) : (Action.step (c.query sql)).Reads c :=
  fun _ => ⟨[sql], .query sql (.nil _), List.forall_mem_singleton.2 hsql⟩

theorem withCursor {body : Action σ α} (h : body.Reads c) : (c.withCursor body).Reads c := by
  have hopen : (Action.step c.openCursor).Reads c :=
    fun _ => ⟨[], .openCursor (.nil _), List.forall_mem_nil _⟩
  have hclose : (Action.step c.closeCursor).Reads c :=
    fun _ => ⟨[], .closeCursor (.nil _), List.forall_mem_nil _⟩
  exact hopen.bind fun _ => h.attempt.bind fun outcome => hclose.bind fun _ => lift outcome

/-! ### Catalogs -/

theorem catalogRows {sql : String} (hsql : isDdl sql = false) (parameters : List Value) :
    (Introspect.catalogRows c sql parameters).Reads c :=
  Introspect.moves_catalogRows (execute hsql _) fetch

theorem fromCatalog {columnsQuery indexesQuery : String} (hcolumns : isDdl columnsQuery = false)
    (hindexes : isDdl indexesQuery = false) (parameters : List Value) :
    (Introspect.fromCatalog c columnsQuery indexesQuery parameters).Reads c :=
  Introspect.moves_fromCatalog (fun _ => withCursor) (catalogRows hcolumns parameters)
    (catalogRows hindexes parameters)

theorem postgres (table schema : String) : (Introspect.postgres c table schema).Reads c := by
  refine mapError _ (fromCatalog ?_ ?_ _)
  · simp [isDdl, leadingVerb, definitionVerbs]
  · simp [isDdl, leadingVerb, definitionVerbs]

theorem mysql (table : String) (database : Option String) :
    (Introspect.mysql c table database).Reads c := by
  refine mapError _ (fromCatalog ?_ ?_ _)
  · simp [isDdl, leadingVerb, definitionVerbs]
  · simp [isDdl, leadingVerb, definitionVerbs]

theorem sqlite (table : String) : (Introspect.sqlite c table).Reads c := by
  refine Introspect.moves_sqlite (fun sql hsql => Introspect.moves_queryRows (query ?_) fetch) table
  obtain ⟨name, rfl | rfl⟩ := hsql
  · simp [isDdl, leadingVerb, definitionVerbs]
  · simp [isDdl, leadingVerb, definitionVerbs]

theorem table (d : SqlDialect) (name : String) : (Introspect.table c d name).Reads c := by
  unfold Introspect.table
  split
  · exact postgres name d.schemaName
  · exact mysql name d.database
  · exact sqlite name

end Action.Reads

/-! ### The table as it is known -/

namespace Sync

/-- The table that a synchronization starts from: one that cannot be read counts as absent. -/
def known : Except Error ExistingTable → ExistingTable
  | .ok existing => existing
  | .error _ => .absent

/-- The warning about a table that cannot be read. -/
def readWarnings (table : String) : Except Error ExistingTable → List Warning
  | .ok _ => []
  | .error e => [readFailure table e]

theorem runFrom_existingTable {d : SqlDialect} {table : String} {s s₀ : Session σ}
    {outcome : Except Error ExistingTable}
    (hread : (Introspect.table c d table).runFrom s = (outcome, s₀))
    (hknown : ∀ e, outcome = .error e → e.isA .introspection = true) :
    (existingTable c d table {}).runFrom s =
      (.ok (known outcome, { warnings := readWarnings table outcome }),
        { s₀ with log := s₀.log ++ (readWarnings table outcome).map Warning.entry }) := by
  have hattempt := Action.runFrom_attempt (Introspect.table c d table) s
  rw [hread] at hattempt
  unfold existingTable
  rw [Action.runFrom_bind_ok hattempt]
  cases outcome with
  | ok existing =>
    simp only [known, readWarnings, List.map_nil, List.append_nil]
    rfl
  | error e =>
    simp only [hknown e rfl, if_true]
    rw [Action.runFrom_bind_ok (runFrom_warn ..)]
    rfl

end Sync

end Polystore
