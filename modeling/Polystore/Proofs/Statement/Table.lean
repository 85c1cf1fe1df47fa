import Polystore.Change
import Polystore.Proofs.Refusal
import Polystore.Proofs.Sql.Column
import Polystore.Proofs.Statement.Decomposition

/-!
# The tables of statements

Which tables a statement can be written for. The definition statements validate the names of their tables;
those that read and write rows only quote them, and are written for every name that can be quoted.

Main statement: `statements_name_tables`.
-/

namespace Polystore

/-! ### What names decide -/

/-- A computation that gives a result. -/
def Succeeds {α : Type} (x : Except Error α) : Prop :=
  ∃ a, x = .ok a

/-- A computation that is decided by names and by something else. -/
structure Decided {α : Type} (rest taken : Prop) (given : α → Prop) (x : Except Error α) : Prop where
  succeeds_iff : Succeeds x ↔ rest ∧ taken
  /-- Where the rest is fine, nothing but names is refused. -/
  refuses : rest → RefusesNames x
  gives : ∀ a, x = .ok a → given a

namespace Decided

variable {α β : Type} {rest rest' taken taken' : Prop} {given : α → Prop} {given' : β → Prop}
  {x : Except Error α} {f : α → Except Error β}

theorem pure {a : α} (h : given a) : Decided True True given (Pure.pure a : Except Error α) where
  succeeds_iff := iff_of_true ⟨a, rfl⟩ ⟨trivial, trivial⟩
  refuses _ := .ok a
  gives _ ha := pure_eq_ok.1 ha ▸ h

theorem step {rest : α → Prop} (h : ∀ a, Decided (rest a) taken given' (f a)) :
    Decided (∃ a, x = .ok a ∧ rest a) taken given' (x >>= f) where
  succeeds_iff := by
    constructor
    · rintro ⟨b, hb⟩
      obtain ⟨a, ha, hb⟩ := bind_eq_ok.1 hb
      obtain ⟨hrest, htaken⟩ := (h a).succeeds_iff.1 ⟨b, hb⟩
      exact ⟨⟨a, ha, hrest⟩, htaken⟩
    · rintro ⟨⟨a, ha, hrest⟩, htaken⟩
      obtain ⟨b, hb⟩ := (h a).succeeds_iff.2 ⟨hrest, htaken⟩
      exact ⟨b, bind_eq_ok.2 ⟨a, ha, hb⟩⟩
  refuses := by
    rintro ⟨a, rfl, hrest⟩
    exact (h a).refuses hrest
  gives b hb := by
    obtain ⟨a, -, hb⟩ := bind_eq_ok.1 hb
    exact (h a).gives b hb

theorem bind (hx : Decided rest taken given x) (h : ∀ a, given a → Decided rest' taken' given' (f a)) :
    Decided (rest ∧ rest') (taken ∧ taken') given' (x >>= f) where
  succeeds_iff := by
    constructor
    · rintro ⟨b, hb⟩
      obtain ⟨a, ha, hb⟩ := bind_eq_ok.1 hb
      obtain ⟨hrest, htaken⟩ := hx.succeeds_iff.1 ⟨a, ha⟩
      obtain ⟨hrest', htaken'⟩ := (h a (hx.gives a ha)).succeeds_iff.1 ⟨b, hb⟩
      exact ⟨⟨hrest, hrest'⟩, htaken, htaken'⟩
    · rintro ⟨⟨hrest, hrest'⟩, htaken, htaken'⟩
      obtain ⟨a, ha⟩ := hx.succeeds_iff.2 ⟨hrest, htaken⟩
      obtain ⟨b, hb⟩ := (h a (hx.gives a ha)).succeeds_iff.2 ⟨hrest', htaken'⟩
      exact ⟨b, bind_eq_ok.2 ⟨a, ha, hb⟩⟩
  refuses := fun ⟨hrest, hrest'⟩ => (hx.refuses hrest).bind fun a ha => (h a (hx.gives a ha)).refuses hrest'
  gives b hb := by
    obtain ⟨a, ha, hb⟩ := bind_eq_ok.1 hb
    exact (h a (hx.gives a ha)).gives b hb

theorem map (h : Decided rest taken given x) {g : α → β} (hg : ∀ a, given a → given' (g a)) :
    Decided rest taken given' (x.map g) where
  succeeds_iff := by
    rw [← h.succeeds_iff]
    cases x <;> simp [Succeeds, Except.map]
  refuses hrest := (h.refuses hrest).map g
  gives b hb := by
    obtain ⟨a, ha, rfl⟩ := map_eq_ok.1 hb
    exact hg a (h.gives a ha)

theorem congr (h : Decided rest taken given x) (hrest : rest ↔ rest') (htaken : taken ↔ taken') :
    Decided rest' taken' given x := by
  rwa [← propext hrest, ← propext htaken]

theorem imp {given' : α → Prop} (h : Decided rest taken given x) (hgiven : ∀ a, given a → given' a) :
    Decided rest taken given' x where
  succeeds_iff := h.succeeds_iff
  refuses := h.refuses
  gives a ha := hgiven a (h.gives a ha)

end Decided

/-! ### Names in statements -/

namespace SqlDialect

variable {d : SqlDialect} {table text : String}

/-- The quoted form of a name. -/
def quotedForm (d : SqlDialect) (name : String) : String :=
  String.ofList (Identifier.quoted d.engine.quoteMark name.toList)

/-- A text holds the quoted form of a name. -/
def Names (d : SqlDialect) (name text : String) : Prop :=
  ∃ before after, text = before ++ d.quotedForm name ++ after

theorem names_quotedForm (d : SqlDialect) (name : String) : d.Names name (d.quotedForm name) :=
  ⟨"", "", by simp⟩

theorem Names.before (h : d.Names table text) (more : String) : d.Names table (text ++ more) := by
  obtain ⟨before, after, rfl⟩ := h
  exact ⟨before, after ++ more, by simp only [String.append_assoc]⟩

theorem Names.after (h : d.Names table text) (more : String) : d.Names table (more ++ text) := by
  obtain ⟨before, after, rfl⟩ := h
  exact ⟨more ++ before, after, by simp only [String.append_assoc]⟩

theorem decided_validateName (d : SqlDialect) (table : String) :
    Decided True (d.validateName table = .ok ()) (fun _ => True) (d.validateName table) where
  succeeds_iff := by
    rw [true_and]
    exact ⟨fun ⟨_, h⟩ => h, fun h => ⟨(), h⟩⟩
  refuses _ := .validate _ _
  gives _ _ := trivial

theorem decided_quote (d : SqlDialect) (table : String) :
    Decided True (Char.ofNat 0 ∉ table.toList) (d.Names table) (d.quote table) where
  succeeds_iff := by
    simp only [Succeeds, quote_eq_ok, true_and]
    exact ⟨fun ⟨_, h, _⟩ => h, fun h => ⟨_, h, rfl⟩⟩
  refuses _ := (RefusesNames.checkNoNull _ _).bind fun _ _ => .ok _
  gives text h := by
    rw [← (quote_eq_ok.1 h).2]
    exact names_quotedForm d table

theorem decided_quoteValid (d : SqlDialect) (table : String) :
    Decided True (d.validateName table = .ok ()) (d.Names table) (d.quoteValid table) where
  succeeds_iff := by
    simp only [Succeeds, quoteValid_eq_ok, true_and]
    exact ⟨fun ⟨_, h, _⟩ => h, fun h => ⟨_, h, rfl⟩⟩
  refuses _ := .quoteValid d table
  gives text h := by
    rw [← (quoteValid_eq_ok.1 h).2]
    exact names_quotedForm d table

end SqlDialect

/-! ### Reading and writing rows -/

namespace Statement

variable (table : String) (filter : Value) (d : SqlDialect)

theorem decided_select (options : Query.Options) :
    Decided (Succeeds (compileFilter { dialect := d } filter) ∧ Succeeds (columns d options.select) ∧
        Succeeds (orderBy d options.sort) ∧ Succeeds (page d.engine options.limit options.skip))
      (Char.ofNat 0 ∉ table.toList) (fun s => d.Names table s.sql) (select table filter d options) := by
  unfold select
  refine Decided.congr (.step fun p => .step fun columns => .bind (d.decided_quote table)
    fun source hsource => .step fun order => .step fun page => .pure ?_) (by simp [Succeeds])
    (and_iff_left trivial)
  exact ((((hsource.after _).before _).before _).before _).before _

theorem decided_count : Decided (Succeeds (compileFilter { dialect := d } filter))
    (Char.ofNat 0 ∉ table.toList) (fun s => d.Names table s.sql) (count table filter d) := by
  unfold count
  refine Decided.congr (.step fun p => .bind (d.decided_quote table) fun source hsource => .pure ?_)
    (by simp [Succeeds]) (and_iff_left trivial)
  exact ((hsource.after _).before _).before _

theorem decided_update (change : Value) :
    Decided (∃ u, setClause d 1 change = .ok u ∧
        Succeeds (conditionClause d (1 + u.parameters.length) filter none false))
      (Char.ofNat 0 ∉ table.toList) (fun s => d.Names table s.sql) (update table filter change d) := by
  rw [update_eq]
  refine Decided.congr (.step fun u => .step fun w => .bind (d.decided_quote table)
    fun target htarget => .pure ?_) (by simp [Succeeds]) (and_iff_left trivial)
  exact ((((htarget.after _).before _).before _).before _).before _

theorem decided_delete : Decided (Succeeds (compileFilter { dialect := d } filter))
    (Char.ofNat 0 ∉ table.toList) (fun s => d.Names table s.sql) (delete table filter d) := by
  unfold delete
  refine Decided.congr (.step fun p => .bind (d.decided_quote table) fun target htarget => .pure ?_)
    (by simp [Succeeds]) (and_iff_left trivial)
  exact ((htarget.after _).before _).before _

theorem decided_insert (document : Value) :
    Decided (∃ es, columnValues document = .ok es ∧ Succeeds (es.mapM fun e => d.renderName e.1))
      (Char.ofNat 0 ∉ table.toList) (fun s => d.Names table s.sql) (insert table document d) := by
  unfold insert
  refine Decided.congr (.step fun es => .step fun columns => .bind (d.decided_quote table)
    fun target htarget => .pure ?_) (by simp [Succeeds]) (and_iff_left trivial)
  exact (((((htarget.after _).before _).before _).before _).before _).before _

end Statement

/-! ### Defining tables -/

namespace Ddl

variable (d : SqlDialect) (table : String)

theorem decided_createTable (shape : TableShape) :
    Decided (Succeeds (impliedKey d shape) ∧
        Succeeds (shape.fields.mapM (declaredColumn d shape.primaryKey)))
      (d.validateName table = .ok ()) (d.Names table) (createTable d { shape with name := table }) := by
  have hkey : impliedKey d { shape with name := table } = impliedKey d shape := rfl
  unfold createTable
  rw [hkey]
  refine Decided.congr (.step fun key => .step fun columns => .bind (d.decided_quoteValid table)
    fun target htarget => .pure ?_) (by simp [Succeeds]) (and_iff_left trivial)
  exact (((htarget.after _).before _).before _).before _

theorem decided_addColumn (name : String) (f : Field) : Decided (Succeeds (columnDefinition d name f true))
    (d.validateName table = .ok ()) (d.Names table) (addColumn d table name f) := by
  unfold addColumn
  refine Decided.congr (.step fun definition => .bind (d.decided_quoteValid table)
    fun target htarget => .pure ?_) (by simp [Succeeds]) (and_iff_left trivial)
  exact ((htarget.after _).before _).before _

theorem decided_createIndex (name : String) (fields : List (String × Int)) (unique : Bool) :
    Decided (Succeeds (d.quoteValid name) ∧ Succeeds (fields.mapM (indexField d)))
      (d.validateName table = .ok ()) (d.Names table) (createIndex d table name fields unique) := by
  unfold createIndex
  refine Decided.congr (.step fun index => .bind (d.decided_quoteValid table)
    fun target htarget => .step fun columns => .pure ?_) (by simp [Succeeds]) (and_iff_left trivial)
  exact (((htarget.after _).before _).before _).before _

theorem decided_dropTable :
    Decided True (d.validateName table = .ok ()) (d.Names table) (dropTable d table) := by
  unfold dropTable
  refine Decided.congr (.bind (d.decided_quoteValid table) fun target htarget => .pure ?_)
    (and_iff_left trivial) (and_iff_left trivial)
  exact (htarget.after _).before _

theorem decided_renameTable (new : String) :
    Decided True (d.validateName table = .ok () ∧ d.validateName new = .ok ())
      (fun s => d.Names table s ∧ d.Names new s) (renameTable d table new) := by
  have hclean : ∀ name, d.validateName name = .ok () → Char.ofNat 0 ∉ name.toList :=
    fun _ => SqlDialect.not_mem_nul_of_validateName
  unfold renameTable
  refine Decided.congr (.bind (d.decided_validateName table) fun _ _ =>
    .bind (d.decided_validateName new) fun _ _ => .bind (d.decided_quote table) fun first hfirst =>
      .bind (d.decided_quote new) fun second hsecond => .pure ?_) (by simp) ?_
  · cases d.engine with
    | mysql => exact ⟨((hfirst.after _).before _).before _, hsecond.after _⟩
    | _ => exact ⟨((hfirst.after _).before _).before _, hsecond.after _⟩
  · have := hclean table
    have := hclean new
    tauto

theorem decided_dropIndex (name : String) :
    Decided (Succeeds (d.validateName name) ∧ Succeeds (d.quote name)) (d.validateName table = .ok ())
      (fun s => d.engine = .mysql → d.Names table s) (dropIndex d table name) := by
  unfold dropIndex
  refine Decided.congr (.bind (d.decided_validateName table) fun _ _ => .step fun _ =>
    .step fun index => .bind (d.decided_quote table) fun target htarget => .pure ?_)
    (by simp [Succeeds]) ?_
  · intro hmysql
    simp only [hmysql]
    exact htarget.after _
  · have hclean : d.validateName table = .ok () → Char.ofNat 0 ∉ table.toList :=
      SqlDialect.not_mem_nul_of_validateName
    tauto

theorem decided_recreateTable (shape : TableShape) (name : String) :
    Decided (Succeeds (impliedKey d shape) ∧
        Succeeds (shape.fields.mapM (declaredColumn d shape.primaryKey)))
      (d.validateName table = .ok () ∧ d.validateName name = .ok ())
      (fun texts => (∃ s ∈ texts, d.Names table s) ∧ ∃ s ∈ texts, d.Names name s)
      (render d table (.recreateTable { shape with name })) := by
  unfold render
  refine Decided.congr (.bind (decided_dropTable d table) fun drop hdrop =>
    .bind (decided_createTable d name shape) fun create hcreate => .pure ?_) (by simp) (by simp)
  exact ⟨⟨drop, by simp, hdrop⟩, create, by simp, hcreate⟩

theorem decided_dropColumn (column : String) : Decided (Succeeds (d.renderField column))
    (d.validateName table = .ok ()) (d.Names table) (dropColumn d table column) := by
  unfold dropColumn
  refine Decided.congr (.bind (d.decided_quoteValid table) fun target htarget =>
    .step fun column => .pure ?_) (by simp [Succeeds]) (and_iff_left trivial)
  exact ((htarget.after _).before _).before _

theorem decided_renameColumn (old new : String) :
    Decided (Succeeds (d.renderField old) ∧ Succeeds (d.renderField new))
      (d.validateName table = .ok ()) (d.Names table) (renameColumn d table old new) := by
  unfold renameColumn
  refine Decided.congr (.bind (d.decided_quoteValid table) fun target htarget =>
    .step fun old => .step fun new => .pure ?_) (by simp [Succeeds]) (and_iff_left trivial)
  exact ((((htarget.after _).before _).before _).before _).before _

end Ddl

/-! ### Builders -/

/-- A call that writes statements, with its arguments. -/
inductive Builder where
  | select (table : String) (filter : Value) (options : Query.Options)
  | count (table : String) (filter : Value)
  | update (table : String) (filter change : Value)
  | delete (table : String) (filter : Value)
  | insert (table : String) (document : Value)
  | createTable (shape : TableShape)
  | addColumn (table name : String) (field : Field)
  | createIndex (table name : String) (fields : List (String × Int)) (unique : Bool)
  | dropTable (table : String)
  | renameTable (old new : String)
  | dropIndex (table name : String)
  | dropColumn (table column : String)
  | renameColumn (table old new : String)
  | change (table : String) (change : Change)

namespace Builder

/-- The statements of a call. -/
def statements (d : SqlDialect) : Builder → Except Error (List String)
  | select table filter options => (Statement.select table filter d options).map fun s => [s.sql]
  | count table filter => (Statement.count table filter d).map fun s => [s.sql]
  | update table filter set => (Statement.update table filter set d).map fun s => [s.sql]
  | delete table filter => (Statement.delete table filter d).map fun s => [s.sql]
  | insert table document => (Statement.insert table document d).map fun s => [s.sql]
  | createTable shape => (Ddl.createTable d shape).map fun s => [s]
  | addColumn table name field => (Ddl.addColumn d table name field).map fun s => [s]
  | createIndex table name fields unique =>
    (Ddl.createIndex d table name fields unique).map fun s => [s]
  | dropTable table => (Ddl.dropTable d table).map fun s => [s]
  | renameTable old new => (Ddl.renameTable d old new).map fun s => [s]
  | dropIndex table name => (Ddl.dropIndex d table name).map fun s => [s]
  | dropColumn table column => (Ddl.dropColumn d table column).map fun s => [s]
  | renameColumn table old new => (Ddl.renameColumn d table old new).map fun s => [s]
  | change table c => Ddl.render d table c

/-- The tables that a call is about. -/
def tables : Builder → List String
  | select table _ _ => [table]
  | count table _ => [table]
  | update table _ _ => [table]
  | delete table _ => [table]
  | insert table _ => [table]
  | createTable shape => [shape.name]
  | addColumn table _ _ => [table]
  | createIndex table _ _ _ => [table]
  | dropTable table => [table]
  | renameTable old new => [old, new]
  | dropIndex table _ => [table]
  | dropColumn table _ => [table]
  | renameColumn table _ _ => [table]
  | change _ (.createTable shape) => [shape.name]
  | change table (.recreateTable shape) => [table, shape.name]
  | change table _ => [table]

/-- The same call about other tables. -/
def rename (f : String → String) : Builder → Builder
  | select table filter options => select (f table) filter options
  | count table filter => count (f table) filter
  | update table filter set => update (f table) filter set
  | delete table filter => delete (f table) filter
  | insert table document => insert (f table) document
  | createTable shape => createTable { shape with name := f shape.name }
  | addColumn table name field => addColumn (f table) name field
  | createIndex table name fields unique => createIndex (f table) name fields unique
  | dropTable table => dropTable (f table)
  | renameTable old new => renameTable (f old) (f new)
  | dropIndex table name => dropIndex (f table) name
  | dropColumn table column => dropColumn (f table) column
  | renameColumn table old new => renameColumn (f table) old new
  | change table (.createTable shape) => change (f table) (.createTable { shape with name := f shape.name })
  | change table (.recreateTable shape) =>
    change (f table) (.recreateTable { shape with name := f shape.name })
  | change table c => change (f table) c

/-- The call defines tables, columns or indexes. -/
def defines : Builder → Bool
  | select .. => false
  | count .. => false
  | update .. => false
  | delete .. => false
  | insert .. => false
  | _ => true

/-- The tables that a call takes: valid names where it defines, and names that can be quoted where it
reads or writes rows. -/
def Takes (b : Builder) (d : SqlDialect) (table : String) : Prop :=
  if b.defines then d.validateName table = .ok () else Char.ofNat 0 ∉ table.toList

/-- A call is complete if it is written for some tables. -/
def Complete (d : SqlDialect) (b : Builder) : Prop :=
  ∃ f texts, (b.rename f).statements d = .ok texts

/-- The statements of a call name its tables, but for the engines that drop an index by its name alone. -/
def NamesTables (d : SqlDialect) : Builder → Prop
  | dropIndex .. => d.engine = .mysql
  | _ => True

theorem rename_id (b : Builder) : b.rename id = b := by
  cases b with
  | change table c => cases c <;> rfl
  | _ => rfl

section Decided

variable {α : Type} {rest taken : Prop} {given : α → Prop} {x : Except Error α} {d : SqlDialect}
  {table : String}

theorem decided_single (b : Builder) (f : String → String) (text : α → String) (hb : b.tables = [table])
    (hx : (b.rename f).statements d = x.map fun a => [text a]) (h : Decided rest taken given x)
    (htaken : taken ↔ b.Takes d (f table))
    (hnames : ∀ a, given a → b.NamesTables d → d.Names (f table) (text a)) :
    Decided rest (∀ t ∈ b.tables, b.Takes d (f t))
      (fun texts => b.NamesTables d → ∀ t ∈ b.tables, ∃ s ∈ texts, d.Names (f t) s)
      ((b.rename f).statements d) := by
  rw [hb, hx]
  simp only [List.forall_mem_singleton]
  refine (h.map fun a ha hb => ?_).congr Iff.rfl htaken
  exact ⟨text a, List.mem_singleton_self _, hnames a ha hb⟩

end Decided

/-- Whatever the tables of a call are, its statements are decided by their names and by what does not
depend on them. -/
theorem exists_decided (d : SqlDialect) (b : Builder) : ∃ rest, ∀ f : String → String,
    Decided rest (∀ t ∈ b.tables, b.Takes d (f t))
      (fun texts => b.NamesTables d → ∀ t ∈ b.tables, ∃ s ∈ texts, d.Names (f t) s)
      ((b.rename f).statements d) := by
  have hone : ∀ {x : Except Error String}, (do pure [← x]) = x.map fun s => [s] := by
    intro x
    cases x <;> rfl
  -- The rest comes before the new names, so that it is the same for all of them.
  cases b with
  | select table filter options =>
    exact ⟨_, fun f => decided_single _ f _ rfl rfl
      (Statement.decided_select (f table) filter d options) Iff.rfl fun _ h _ => h⟩
  | count table filter =>
    exact ⟨_, fun f => decided_single _ f _ rfl rfl
      (Statement.decided_count (f table) filter d) Iff.rfl fun _ h _ => h⟩
  | update table filter set =>
    exact ⟨_, fun f => decided_single _ f _ rfl rfl
      (Statement.decided_update (f table) filter d set) Iff.rfl fun _ h _ => h⟩
  | delete table filter =>
    exact ⟨_, fun f => decided_single _ f _ rfl rfl
      (Statement.decided_delete (f table) filter d) Iff.rfl fun _ h _ => h⟩
  | insert table document =>
    exact ⟨_, fun f => decided_single _ f _ rfl rfl
      (Statement.decided_insert (f table) d document) Iff.rfl fun _ h _ => h⟩
  | createTable shape =>
    exact ⟨_, fun f => decided_single _ f _ rfl rfl
      (Ddl.decided_createTable d (f shape.name) shape) Iff.rfl fun _ h _ => h⟩
  | addColumn table name field =>
    exact ⟨_, fun f => decided_single _ f _ rfl rfl
      (Ddl.decided_addColumn d (f table) name field) Iff.rfl fun _ h _ => h⟩
  | createIndex table name fields unique =>
    exact ⟨_, fun f => decided_single _ f _ rfl rfl
      (Ddl.decided_createIndex d (f table) name fields unique) Iff.rfl fun _ h _ => h⟩
  | dropTable table =>
    exact ⟨_, fun f => decided_single _ f _ rfl rfl
      (Ddl.decided_dropTable d (f table)) Iff.rfl fun _ h _ => h⟩
  | dropIndex table name =>
    exact ⟨_, fun f => decided_single _ f _ rfl rfl
      (Ddl.decided_dropIndex d (f table) name) Iff.rfl fun _ h => h⟩
  | dropColumn table column =>
    exact ⟨_, fun f => decided_single _ f _ rfl rfl
      (Ddl.decided_dropColumn d (f table) column) Iff.rfl fun _ h _ => h⟩
  | renameColumn table old new =>
    exact ⟨_, fun f => decided_single _ f _ rfl rfl
      (Ddl.decided_renameColumn d (f table) old new) Iff.rfl fun _ h _ => h⟩
  | renameTable old new =>
    refine ⟨_, fun f => ((Ddl.decided_renameTable d (f old) (f new)).map ?_).congr Iff.rfl ?_⟩
    · intro s hs _
      simpa [tables] using hs
    · simp [tables, Takes, defines]
  | change table c =>
    cases c with
    | createTable shape =>
      exact ⟨_, fun f => decided_single _ f _ rfl hone
        (Ddl.decided_createTable d (f shape.name) shape) Iff.rfl fun _ h _ => h⟩
    | recreateTable shape =>
      refine ⟨_, fun f =>
        ((Ddl.decided_recreateTable d (f table) shape (f shape.name)).imp ?_).congr Iff.rfl ?_⟩
      · intro texts hnames _
        simpa [tables] using hnames
      · simp [tables, Takes, defines]
    | addColumn name field =>
      exact ⟨_, fun f => decided_single _ f _ rfl hone
        (Ddl.decided_addColumn d (f table) name field) Iff.rfl fun _ h _ => h⟩
    | createIndex name fields unique =>
      exact ⟨_, fun f => decided_single _ f _ rfl hone
        (Ddl.decided_createIndex d (f table) name fields unique.truthy) Iff.rfl fun _ h _ => h⟩

theorem takes_plain (d : SqlDialect) (b : Builder) : b.Takes d "t" := by
  unfold Takes
  split
  · cases hengine : d.engine <;> simp only [SqlDialect.validateName, hengine] <;> rfl
  · decide

theorem decided_statements (d : SqlDialect) (b : Builder) :
    Decided (b.Complete d) (∀ t ∈ b.tables, b.Takes d t)
      (fun texts => b.NamesTables d → ∀ t ∈ b.tables, ∃ s ∈ texts, d.Names t s) (b.statements d) := by
  obtain ⟨rest, h⟩ := exists_decided d b
  have hcomplete : rest ↔ b.Complete d := by
    constructor
    · intro hrest
      -- Every dialect takes this table, whatever the call is.
      have htakes : ∀ t ∈ b.tables, b.Takes d ((fun _ => "t") t) := fun _ _ => takes_plain d b
      obtain ⟨texts, htexts⟩ := (h fun _ => "t").succeeds_iff.2 ⟨hrest, htakes⟩
      exact ⟨_, texts, htexts⟩
    · rintro ⟨f, texts, htexts⟩
      exact ((h f).succeeds_iff.1 ⟨texts, htexts⟩).1
  have hself := h id
  rw [rename_id] at hself
  exact hself.congr hcomplete Iff.rfl

theorem takes_of_defines {d : SqlDialect} {b : Builder} (h : b.defines = true) (table : String) :
    b.Takes d table ↔ d.validateName table = .ok () := by
  rw [Takes, if_pos h]

theorem takes_of_not_defines {d : SqlDialect} {b : Builder} (h : b.defines = false) (table : String) :
    b.Takes d table ↔ Char.ofNat 0 ∉ table.toList := by
  rw [Takes, if_neg (by simp [h])]

theorem exists_tables_eq {b : Builder} (h : b.defines = false) : ∃ table, b.tables = [table] := by
  cases b with
  | select table => exact ⟨table, rfl⟩
  | count table => exact ⟨table, rfl⟩
  | update table => exact ⟨table, rfl⟩
  | delete table => exact ⟨table, rfl⟩
  | insert table => exact ⟨table, rfl⟩
  | _ => cases h

/-- A complete call is written exactly if it takes its tables, and is refused for a name otherwise. What is
written names the tables of the call: for a definition these are valid, and where rows are read or written
exactly if every table that can be quoted is. -/
theorem statements_name_tables (d : SqlDialect) (b : Builder) :
    (Succeeds (b.statements d) ↔ b.Complete d ∧ ∀ t ∈ b.tables, b.Takes d t) ∧
    (b.Complete d → ∀ e, b.statements d = .error e → e.kind? = some .invalidName) ∧
    (∀ texts, b.statements d = .ok texts → b.NamesTables d → ∀ t ∈ b.tables, ∃ s ∈ texts, d.Names t s) ∧
    (b.defines = true → ∀ texts, b.statements d = .ok texts →
      ∀ t ∈ b.tables, d.validateName t = .ok ()) ∧
    (b.defines = false →
      ((∀ texts, b.statements d = .ok texts → ∀ t ∈ b.tables, d.validateName t = .ok ()) ↔
        (b.Complete d → ∀ t ∈ b.tables, Char.ofNat 0 ∉ t.toList → d.validateName t = .ok ()))) := by
  have h := decided_statements d b
  refine ⟨h.succeeds_iff, fun hcomplete e he => ?_, h.gives, fun hdefines texts htexts t ht => ?_,
    fun hdefines => ⟨fun hvalid hcomplete t ht hclean => ?_, fun hvalid texts htexts t ht => ?_⟩⟩
  · obtain ⟨fault, rfl⟩ := h.refuses hcomplete e he
    rfl
  · exact (takes_of_defines hdefines t).1 ((h.succeeds_iff.1 ⟨texts, htexts⟩).2 t ht)
  · obtain ⟨table, htables⟩ := exists_tables_eq hdefines
    have htakes : ∀ t ∈ b.tables, b.Takes d t := by
      rw [htables, List.mem_singleton] at ht
      subst ht
      rw [htables]
      exact List.forall_mem_singleton.2 ((takes_of_not_defines hdefines t).2 hclean)
    obtain ⟨texts, htexts⟩ := h.succeeds_iff.2 ⟨hcomplete, htakes⟩
    exact hvalid texts htexts t ht
  · obtain ⟨hcomplete, htakes⟩ := h.succeeds_iff.1 ⟨texts, htexts⟩
    exact hvalid hcomplete t ht ((takes_of_not_defines hdefines t).1 (htakes t ht))

theorem statements_countUnnamed : (count "" .null).statements { engine := .sqlite } =
    .ok ["SELECT COUNT(*) AS count FROM \"\" WHERE 1=1"] := by
  with_unfolding_all rfl

/-- The rows of a table without a name are counted, but it is not dropped. -/
theorem statements_name_tables_of_unnamed :
    let d : SqlDialect := { engine := .sqlite }
    let sql := "SELECT COUNT(*) AS count FROM \"\" WHERE 1=1"
    (count "" .null).statements d = .ok [sql] ∧
    (∀ t ∈ (count "" .null).tables, ∃ s ∈ [sql], d.Names t s) ∧
    (dropTable "").Complete d ∧ (dropTable "").statements d = .error (.name .empty) ∧
    (Error.name .empty).kind? = some .invalidName ∧
    (dropTable "t").statements d = .ok ["DROP TABLE IF EXISTS \"t\""] ∧
    ∀ t ∈ (dropTable "t").tables, d.validateName t = .ok () := by
  intro d sql
  have hdropped : (dropTable "t").statements d = .ok ["DROP TABLE IF EXISTS \"t\""] := rfl
  have hcomplete : (dropTable "").Complete d := ⟨fun _ => "t", _, hdropped⟩
  have hrefused : (dropTable "").statements d = .error (.name .empty) := rfl
  obtain ⟨-, -, hnames, -⟩ := statements_name_tables d (count "" .null)
  obtain ⟨-, hkind, -⟩ := statements_name_tables d (dropTable "")
  obtain ⟨-, -, -, hvalid, -⟩ := statements_name_tables d (dropTable "t")
  exact ⟨statements_countUnnamed, hnames _ statements_countUnnamed trivial, hcomplete, hrefused,
    hkind hcomplete _ hrefused, hdropped, hvalid rfl _ hdropped⟩

/-- Not every statement names valid tables. -/
theorem not_statements_name_tables_of_unnamed :
    ¬∀ (d : SqlDialect) (b : Builder) texts, b.statements d = .ok texts →
      ∀ t ∈ b.tables, d.validateName t = .ok () := by
  intro h
  cases h _ _ _ statements_countUnnamed "" (List.mem_singleton_self _)

end Builder

end Polystore
