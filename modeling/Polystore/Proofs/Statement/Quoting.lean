import Polystore.Proofs.Sql.Item
import Polystore.Proofs.Statement.Table

/-!
# The names in statements

A quoted name is read back exactly, whatever follows it but another quote character. A statement with the
names of its tables and indexes left out is a template, which does not depend on them: filling it changes
nothing but what is read at their places.

Main statement: `quoted_names_read_back`.
-/

namespace Polystore

open Identifier (quoted unquote)

/-! ### Quoted names -/

namespace SqlDialect

variable {d : SqlDialect} {a b : String}

theorem unquote_quotedForm (d : SqlDialect) (name : String) {rest : List Char}
    (h : rest.head? ≠ some d.engine.quoteMark) :
    unquote d.engine.quoteMark ((d.quotedForm name).toList ++ rest) = some (name.toList, rest) := by
  rw [quotedForm, String.toList_ofList, Identifier.unquote_quoted _ _ _ h]

theorem quotedForm_injective (h : d.quotedForm a = d.quotedForm b) : a = b := by
  have hend : ([] : List Char).head? ≠ some d.engine.quoteMark := by simp
  have ha := unquote_quotedForm d a hend
  rw [h, unquote_quotedForm d b hend] at ha
  exact String.toList_injective (Prod.mk.inj (Option.some.inj ha)).1.symm

end SqlDialect

/-! ### Reading across names -/

namespace Sql

/-- The item of a quoted name. -/
def nameItem (engine : Engine) (name : String) : Item :=
  .lexeme (.quoted engine.quoteMark false name.toList .ending)

/-- Nothing is being read any more behind a text, so that what follows starts a lexeme of its own. -/
def Settled (engine : Engine) (s : String) : Prop :=
  (scan engine .blank s.toList).2 = .blank

/-- A blank or a comma behind a text ends what is being read. -/
def Stoppable (engine : Engine) (s : String) : Prop :=
  (scan engine .blank s.toList).2.Stops engine

section Reading

variable {engine : Engine} {s t : String}

theorem scan_append (l : Lexeme) (cs ds : List Char) :
    (scan engine l (cs ++ ds)).2 = (scan engine (scan engine l cs).2 ds).2 := by
  induction cs generalizing l with
  | nil => rfl
  | cons c cs ih =>
    rw [List.cons_append, scan, scan]
    cases l.continue? engine c with
    | some l => exact ih l
    | none => exact ih (Lexeme.start engine c)

/-- Behind a settled text reading starts afresh. -/
theorem scan_of_settled (h : Settled engine s) (t : String) :
    (scan engine .blank (s ++ t).toList).2 = (scan engine .blank t.toList).2 := by
  rw [String.toList_append, scan_append, h]

/-- Reading starts afresh too where a blank or a comma stops what is being read. -/
theorem scan_of_stoppable (h : Stoppable engine s) {c : Char} (hc : c = ' ' ∨ c = ',')
    (ht : t.toList.head? = some c) :
    (scan engine .blank (s ++ t).toList).2 = (scan engine .blank t.toList).2 := by
  obtain ⟨rest, hrest⟩ := List.head?_eq_some_iff.1 ht
  have hstop := h c (hc.imp_right .inl)
  rw [String.toList_append, scan_append, hrest, scan, hstop, scan]
  rfl

theorem textItems_append (h : Settled engine s) (t : String) :
    textItems engine (s ++ t) = textItems engine s ++ textItems engine t := by
  have hs : textItems engine s = (scan engine .blank s.toList).1 := by
    rw [textItems, chars, ← List.append_nil (s.toList.map _), itemsFrom_chars, h]
    exact List.append_nil _
  rw [hs, textItems, chars_append, chars, itemsFrom_chars, h]
  rfl

theorem textItems_quoted (name : String) (h : t.toList.head? ≠ some engine.quoteMark) :
    textItems engine (String.ofList (quoted engine.quoteMark name.toList) ++ t) =
      nameItem engine name :: textItems engine t := by
  have hread := scan_of_readChars (readChars_quoted engine name.toList)
  rw [textItems, textItems, chars_append, chars, String.toList_ofList, itemsFrom_chars, hread, chars]
  cases ht : t.toList with
  | nil => rfl
  | cons c cs =>
    have hc : c ≠ engine.quoteMark := by
      rintro rfl
      exact h (by rw [ht]; rfl)
    have hends : (Lexeme.quoted engine.quoteMark false name.toList .ending).continue? engine c =
        none := if_neg hc
    exact itemsFrom_of_continue?_eq_none hends _

theorem stoppable_renderField {d : SqlDialect} {name column : String}
    (h : d.renderField name = .ok column) : Stoppable d.engine column := by
  unfold Stoppable
  obtain ⟨hform, ⟨-, rfl⟩ | ⟨-, rfl⟩⟩ := SqlDialect.renderField_eq_ok h
  · have hplain : ∀ stem, Identifier.isPlain stem = true →
        (scan d.engine .blank stem).2 = .word stem := by
      intro stem hstem
      obtain ⟨c, rest, rfl, hc, hrest⟩ := Identifier.eq_cons_of_isPlain hstem
      have hword : scan d.engine (.word [c]) rest = ([], .word ([c] ++ rest)) :=
        scan_of_readChars (readChars_word [c] hrest)
      simp only [scan, Lexeme.continue?, start_of_isStart hc, hword]
      rfl
    rcases Identifier.matchesForm_iff.1 hform with hstem | ⟨stem, hstem, hfeed⟩
    · rw [hplain _ hstem]
      exact stops_word _
    · -- A line feed behind a name is a blank.
      rw [hfeed, scan_append, hplain _ hstem, scan, Lexeme.continue?, if_neg (by decide),
        if_neg (by simp)]
      exact stops_blank
  · rw [String.toList_ofList, scan_of_readChars (readChars_quoted _ _)]
    exact stops_quoted (by cases d.engine <;> decide) _ _

theorem stoppable_intercalate {ss : List String} (hne : ss ≠ []) (h : ∀ s ∈ ss, Stoppable engine s) :
    Stoppable engine (", ".intercalate ss) := by
  have hcomma : Settled engine ", " := by
    cases engine <;> rfl
  induction ss with
  | nil => exact absurd rfl hne
  | cons s ss ih =>
    obtain ⟨hs, hss⟩ := List.forall_mem_cons.1 h
    cases ss with
    | nil => simpa using hs
    | cons t ss =>
      have hhead : (", " ++ ", ".intercalate (t :: ss)).toList.head? = some ',' := by
        rw [String.toList_append]
        rfl
      rw [String.intercalate_cons_cons, String.append_assoc]
      unfold Stoppable
      rw [scan_of_stoppable hs (.inr rfl) hhead, scan_of_settled hcomma]
      exact ih (by simp) hss

end Reading

end Sql

open Sql (Item Settled Stoppable nameItem textItems)

/-! ### Templates -/

/-- What a name in a statement is the name of, with the name that a call gives it. -/
inductive Referent where
  | table (name : String)
  | index (name : String)

/-- The name that a call gives. -/
def Referent.given : Referent → String
  | table name => name
  | index name => name

/-- A statement with the names of its tables and indexes left out. -/
inductive Template where
  | text (s : String)
  /-- A text, what is named behind it, and how the statement goes on. -/
  | name (before : String) (referent : Referent) (rest : Template)

namespace Template

/-- What is named, in text order. -/
def referents : Template → List Referent
  | text _ => []
  | name _ p rest => p :: rest.referents

/-- The statement with names in their places. -/
def write (d : SqlDialect) (r : Referent → String) : Template → String
  | text s => s
  | name s p rest => s ++ (d.quotedForm (r p) ++ rest.write d r)

/-- The items of the texts, and one item for each name. -/
def items (engine : Engine) (r : Referent → String) : Template → List Item
  | text s => textItems engine s
  | name s p rest => textItems engine s ++ nameItem engine (r p) :: rest.items engine r

/-- Reading a quoted name at each place gives the name and leaves the rest of the statement. -/
def ReadsNames (d : SqlDialect) (r : Referent → String) : Template → Prop
  | text _ => True
  | name _ p rest =>
    unquote d.engine.quoteMark ((d.quotedForm (r p)).toList ++ (rest.write d r).toList) =
        some ((r p).toList, (rest.write d r).toList) ∧
      rest.ReadsNames d r

/-- A template goes on with a blank, or ends. -/
def Resumes : Template → Prop
  | text s => s = "" ∨ s.toList.head? = some ' '
  | name s _ _ => s.toList.head? = some ' '

/-- Names stand apart: in front of each nothing is being read, and a blank or the end is behind it. -/
def Apart (engine : Engine) : Template → Prop
  | text _ => True
  | name s _ rest => Settled engine s ∧ rest.Resumes ∧ rest.Apart engine

variable {d : SqlDialect} {t : Template}

theorem Resumes.head?_write (h : t.Resumes) (r : Referent → String) :
    (t.write d r).toList.head? ≠ some d.engine.quoteMark := by
  have hmark : ' ' ≠ d.engine.quoteMark := by cases d.engine <;> decide
  cases t with
  | text s =>
    rcases h with rfl | hs
    · simp [write]
    · rw [write, hs]
      simpa using hmark
  | name s p rest =>
    have hs : s.toList.head? = some ' ' := h
    rw [write, String.toList_append, List.head?_append, hs]
    simpa using hmark

theorem Apart.textItems_write (h : t.Apart d.engine) (r : Referent → String) :
    textItems d.engine (t.write d r) = t.items d.engine r := by
  induction t with
  | text s => rfl
  | name s p rest ih =>
    obtain ⟨hsettled, hresumes, hrest⟩ := h
    rw [write, Sql.textItems_append hsettled, SqlDialect.quotedForm,
      Sql.textItems_quoted _ (hresumes.head?_write r), ih hrest, items]

theorem Apart.readsNames (h : t.Apart d.engine) (r : Referent → String) : t.ReadsNames d r := by
  induction t with
  | text s => trivial
  | name s p rest ih =>
    obtain ⟨-, hresumes, hrest⟩ := h
    exact ⟨d.unquote_quotedForm _ (hresumes.head?_write r), ih hrest⟩

end Template

/-! ### Filling templates -/

/-- What a computation gives is, whatever the names are, one template filled with them. -/
def Fills {α : Type} (d : SqlDialect) (referents : List Referent) (text : α → String)
    (x : (Referent → String) → Except Error α) : Prop :=
  ∃ t : Template, ∀ r a, x r = .ok a →
    text a = t.write d r ∧ t.referents = referents ∧ t.Apart d.engine

namespace Fills

variable {α β : Type} {d : SqlDialect} {referents : List Referent} {text : α → String}

theorem step {x : Except Error β} {f : β → (Referent → String) → Except Error α}
    (h : ∀ b, x = .ok b → Fills d referents text (f b)) :
    Fills d referents text fun r => x >>= fun b => f b r := by
  cases x with
  | error e => exact ⟨.text "", nofun⟩
  | ok b => exact h b rfl

theorem known {x : (Referent → String) → Except Error β} {v : (Referent → String) → β}
    {f : β → (Referent → String) → Except Error α} (hx : ∀ r b, x r = .ok b → v r = b)
    (h : Fills d referents text fun r => f (v r) r) :
    Fills d referents text fun r => x r >>= fun b => f b r := by
  obtain ⟨t, ht⟩ := h
  refine ⟨t, fun r a hbind => ?_⟩
  obtain ⟨b, hb, ha⟩ := bind_eq_ok.1 hbind
  obtain rfl := hx r b hb
  exact ht r a ha

theorem quote (p : Referent) {f : String → (Referent → String) → Except Error α}
    (h : Fills d referents text fun r => f (d.quotedForm (r p)) r) :
    Fills d referents text fun r => d.quote (r p) >>= fun s => f s r :=
  known (fun _ _ hs => (SqlDialect.quote_eq_ok.1 hs).2) h

theorem validate (p : Referent) {f : Unit → (Referent → String) → Except Error α}
    (h : Fills d referents text (f ())) :
    Fills d referents text fun r => d.validateName (r p) >>= fun u => f u r :=
  known (fun _ _ _ => rfl) h

theorem quoteValid (p : Referent) {f : String → (Referent → String) → Except Error α}
    (h : Fills d referents text fun r => f (d.quotedForm (r p)) r) :
    Fills d referents text fun r => d.quoteValid (r p) >>= fun s => f s r :=
  known (fun _ _ hs => (SqlDialect.quoteValid_eq_ok.1 hs).2) h

theorem pure {f : (Referent → String) → α} (t : Template) (hwrite : ∀ r, text (f r) = t.write d r)
    (hreferents : t.referents = referents) (hapart : t.Apart d.engine) :
    Fills d referents text fun r => Pure.pure (f r) := by
  refine ⟨t, fun r a hx => ?_⟩
  obtain rfl := pure_eq_ok.1 hx
  exact ⟨hwrite r, hreferents, hapart⟩

theorem one (before after : String) {p : Referent} {f : (Referent → String) → α}
    (hwrite : ∀ r, text (f r) = before ++ d.quotedForm (r p) ++ after)
    (hbefore : Settled d.engine before) (hafter : (Template.text after).Resumes) :
    Fills d [p] text fun r => Pure.pure (f r) := by
  refine .pure (.name before p (.text after)) (fun r => ?_) rfl ⟨hbefore, hafter, trivial⟩
  rw [hwrite, String.append_assoc]
  rfl

theorem two (before between after : String) {p q : Referent} {f : (Referent → String) → α}
    (hwrite : ∀ r, text (f r) =
      before ++ d.quotedForm (r p) ++ between ++ d.quotedForm (r q) ++ after)
    (hbefore : Settled d.engine before) (hbetween : between.toList.head? = some ' ')
    (hsettled : Settled d.engine between) (hafter : (Template.text after).Resumes) :
    Fills d [p, q] text fun r => Pure.pure (f r) := by
  refine .pure (.name before p (.name between q (.text after))) (fun r => ?_) rfl
    ⟨hbefore, hbetween, hsettled, hafter, trivial⟩
  simp only [hwrite, Template.write, String.append_assoc]

end Fills

/-! ### Statements -/

theorem head?_append_of_blank {s : String} (h : s.toList.head? = some ' ') (t : String) :
    (s ++ t).toList.head? = some ' ' := by
  rw [String.toList_append, List.head?_append, h]
  rfl

namespace Statement

variable {d : SqlDialect}

theorem stoppable_columns {projection : Value} {text : String} (h : columns d projection = .ok text) :
    Stoppable d.engine text := by
  obtain ⟨entries, -, h⟩ := bind_eq_ok.1 h
  obtain ⟨names, hnames, h⟩ := bind_eq_ok.1 h
  obtain rfl := pure_eq_ok.1 h
  have hstoppable : ∀ s ∈ names, Stoppable d.engine s := by
    intro s hs
    obtain ⟨e, -, he⟩ := exists_left_of_forall₂ (mapM_eq_ok.1 hnames) hs
    unfold SqlDialect.renderName at he
    cases hfield : e.field.text? with
    | none =>
      rw [hfield] at he
      exact absurd he throw_ne_ok
    | some name =>
      rw [hfield] at he
      exact Sql.stoppable_renderField he
  split_ifs with hempty
  · have hstar : Sql.scan d.engine .blank "*".toList = ([], .symbol ['*']) := by
      cases d.engine <;> rfl
    unfold Stoppable
    rw [hstar]
    exact Sql.stops_symbol _
  · exact Sql.stoppable_intercalate (by simpa using hempty) hstoppable

theorem fills_select (table : String) (filter : Value) (options : Query.Options) :
    Fills d [.table table] Sql.Compiled.sql fun r => select (r (.table table)) filter d options := by
  unfold select
  refine .step fun p _ => .step fun columns hcolumns => .quote _ (.step fun order _ => .step fun page _ => ?_)
  refine .one ("SELECT " ++ columns ++ " FROM ") (" WHERE " ++ p.1 ++ order ++ page) (fun r => ?_) ?_
    (.inr ?_)
  · simp only [String.append_assoc]
  · -- The columns in front of the table may be quoted names themselves.
    have hselect : Settled d.engine "SELECT " := by
      cases d.engine <;> rfl
    have hfrom : Settled d.engine " FROM " := by
      cases d.engine <;> rfl
    unfold Settled
    rw [String.append_assoc, Sql.scan_of_settled hselect,
      Sql.scan_of_stoppable (stoppable_columns hcolumns) (.inl rfl) rfl, hfrom]
  · exact head?_append_of_blank (head?_append_of_blank (head?_append_of_blank rfl _) _) _

theorem fills_count (table : String) (filter : Value) :
    Fills d [.table table] Sql.Compiled.sql fun r => count (r (.table table)) filter d := by
  unfold count
  refine .step fun p _ => .quote _ ?_
  refine .one "SELECT COUNT(*) AS count FROM " (" WHERE " ++ p.1) (fun r => ?_)
    (by cases d.engine <;> rfl) (.inr (head?_append_of_blank rfl _))
  simp only [String.append_assoc]

theorem fills_update (table : String) (filter change : Value) :
    Fills d [.table table] Sql.Compiled.sql fun r => update (r (.table table)) filter change d := by
  simp only [update_eq]
  refine .step fun u _ => .step fun w _ => .quote _ ?_
  refine .one "UPDATE " (" SET " ++ (u.sql ++ " WHERE " ++ w.sql)) (fun r => ?_)
    (by cases d.engine <;> rfl) (.inr (head?_append_of_blank rfl _))
  simp only [joined, String.append_assoc]

theorem fills_delete (table : String) (filter : Value) :
    Fills d [.table table] Sql.Compiled.sql fun r => delete (r (.table table)) filter d := by
  unfold delete
  refine .step fun p _ => .quote _ ?_
  refine .one "DELETE FROM " (" WHERE " ++ p.1) (fun r => ?_)
    (by cases d.engine <;> rfl) (.inr (head?_append_of_blank rfl _))
  simp only [String.append_assoc]

theorem fills_insert (table : String) (document : Value) :
    Fills d [.table table] Sql.Compiled.sql fun r => insert (r (.table table)) document d := by
  unfold insert
  refine .step fun es _ => .step fun columns _ => .quote _ ?_
  refine .one "INSERT INTO " (" (" ++ (", ".intercalate columns ++ ") VALUES (" ++
      (({ dialect := d } : Sql.Compiler).values (es.map (·.2))).1 ++ ")"))
    (fun r => ?_) (by cases d.engine <;> rfl) (.inr (head?_append_of_blank rfl _))
  simp only [String.append_assoc]
  rfl

end Statement

namespace Ddl

variable {d : SqlDialect}

theorem fills_createTable (shape : TableShape) :
    Fills d [.table shape.name] id
      fun r => createTable d { shape with name := r (.table shape.name) } := by
  -- Neither the primary key nor the columns depend on the name of the table.
  have hcreate : ∀ name, createTable d { shape with name } = (do
      let key ← impliedKey d shape
      let columns ← shape.fields.mapM (declaredColumn d shape.primaryKey)
      let table ← d.quoteValid name
      pure ("CREATE TABLE IF NOT EXISTS " ++ table ++ " (" ++ ", ".intercalate (key ++ columns) ++
        ")")) := fun _ => rfl
  simp only [hcreate]
  refine .step fun key _ => .step fun columns _ => .quoteValid _ ?_
  refine .one "CREATE TABLE IF NOT EXISTS " (" (" ++ (", ".intercalate (key ++ columns) ++ ")"))
    (fun r => ?_) (by cases d.engine <;> rfl) (.inr (head?_append_of_blank rfl _))
  simp only [id, String.append_assoc]

theorem fills_addColumn (table name : String) (f : Field) :
    Fills d [.table table] id fun r => addColumn d (r (.table table)) name f := by
  unfold addColumn
  refine .step fun definition _ => .quoteValid _ ?_
  refine .one "ALTER TABLE " (" ADD COLUMN " ++ definition) (fun r => ?_)
    (by cases d.engine <;> rfl) (.inr (head?_append_of_blank rfl _))
  simp only [id, String.append_assoc]

theorem fills_createIndex (table name : String) (fields : List (String × Int)) (unique : Bool) :
    Fills d [.index name, .table table] id
      fun r => createIndex d (r (.table table)) (r (.index name)) fields unique := by
  unfold createIndex
  refine .quoteValid _ (.quoteValid _ (.step fun columns _ => ?_))
  refine .two ((if unique then "CREATE UNIQUE INDEX " else "CREATE INDEX ") ++
      (if d.engine.hasConditionalIndex then "IF NOT EXISTS " else ""))
    " ON " (" (" ++ (", ".intercalate columns ++ ")")) (fun r => ?_) ?_ rfl
    (by cases d.engine <;> rfl) (.inr (head?_append_of_blank rfl _))
  · simp only [id, String.append_assoc]
  · cases unique <;> cases d.engine <;> rfl

theorem fills_dropTable (table : String) :
    Fills d [.table table] id fun r => dropTable d (r (.table table)) := by
  unfold dropTable
  refine .quoteValid _ (.one "DROP TABLE IF EXISTS " d.engine.dropTableSuffix (fun r => rfl) ?_ ?_)
  · cases d.engine <;> rfl
  · cases d.engine <;> simp [Template.Resumes, Engine.dropTableSuffix]

theorem fills_renameTable (old new : String) :
    Fills d [.table old, .table new] id
      fun r => renameTable d (r (.table old)) (r (.table new)) := by
  unfold renameTable
  refine .validate _ (.validate _ (.quote _ (.quote _ ?_)))
  cases hengine : d.engine with
  | mysql =>
    refine .two "RENAME TABLE " " TO " "" (fun r => ?_) (by rw [hengine]; rfl) rfl
      (by rw [hengine]; rfl) (.inl rfl)
    simp only [id, String.append_empty]
  | _ =>
    refine .two "ALTER TABLE " " RENAME TO " "" (fun r => ?_) (by rw [hengine]; rfl) rfl
      (by rw [hengine]; rfl) (.inl rfl)
    simp only [id, String.append_empty]

/-- What an index is dropped by: its name, and on MySQL that of its table too. -/
def droppedIndex (engine : Engine) (table name : String) : List Referent :=
  match engine with
  | .mysql => [.index name, .table table]
  | _ => [.index name]

theorem fills_dropIndex (table name : String) :
    Fills d (droppedIndex d.engine table name) id
      fun r => dropIndex d (r (.table table)) (r (.index name)) := by
  unfold dropIndex droppedIndex
  refine .validate _ (.validate _ (.quote _ (.quote _ ?_)))
  cases hengine : d.engine with
  | mysql =>
    refine .two "DROP INDEX " " ON " "" (fun r => ?_) (by rw [hengine]; rfl) rfl
      (by rw [hengine]; rfl) (.inl rfl)
    simp only [id, String.append_empty]
  | _ =>
    refine .one "DROP INDEX IF EXISTS " "" (fun r => ?_) (by rw [hengine]; rfl) (.inl rfl)
    simp only [id, String.append_empty]

theorem fills_dropColumn (table column : String) :
    Fills d [.table table] id fun r => dropColumn d (r (.table table)) column := by
  unfold dropColumn
  refine .quoteValid _ (.step fun column _ => ?_)
  refine .one "ALTER TABLE " (" DROP COLUMN " ++ column) (fun r => ?_)
    (by cases d.engine <;> rfl) (.inr (head?_append_of_blank rfl _))
  simp only [id, String.append_assoc]

theorem fills_renameColumn (table old new : String) :
    Fills d [.table table] id fun r => renameColumn d (r (.table table)) old new := by
  unfold renameColumn
  refine .quoteValid _ (.step fun old _ => .step fun new _ => ?_)
  refine .one "ALTER TABLE " (" RENAME COLUMN " ++ (old ++ " TO " ++ new)) (fun r => ?_)
    (by cases d.engine <;> rfl) (.inr (head?_append_of_blank rfl _))
  simp only [id, String.append_assoc]

end Ddl

/-! ### Calls -/

namespace Builder

/-- The same call about another index. -/
def reindex (g : String → String) : Builder → Builder
  | createIndex table name fields unique => createIndex table (g name) fields unique
  | dropIndex table name => dropIndex table (g name)
  | change table (.createIndex name fields unique) =>
    change table (.createIndex (g name) fields unique)
  | b => b

/-- The same call about other tables and another index; with the names that it gives, the call itself. -/
def fill (r : Referent → String) (b : Builder) : Builder :=
  (b.rename fun t => r (.table t)).reindex fun n => r (.index n)

theorem fill_given (b : Builder) : b.fill Referent.given = b := by
  cases b with
  | change table c => cases c <;> rfl
  | _ => rfl

/-- The tables and indexes that the statements of a call name, in text order. -/
def referents (engine : Engine) : Builder → List Referent
  | createIndex table name _ _ => [.index name, .table table]
  | dropIndex table name => Ddl.droppedIndex engine table name
  | change table (.createIndex name _ _) => [.index name, .table table]
  | b => b.tables.map .table

/-- The statements of a call are, whatever the names are, the same templates filled with them. -/
def FillsTemplates (d : SqlDialect) (b : Builder) : Prop :=
  ∃ templates : List Template, ∀ r texts, (b.fill r).statements d = .ok texts →
    texts = templates.map (Template.write d r) ∧
    templates.flatMap Template.referents = b.referents d.engine ∧
    ∀ t ∈ templates, t.Apart d.engine

section Single

variable {α : Type} {d : SqlDialect} {b : Builder} {text : α → String}
  {x : (Referent → String) → Except Error α}

theorem fillsTemplates_single (h : Fills d (b.referents d.engine) text x)
    (hx : ∀ r, (b.fill r).statements d = (x r).map fun a => [text a]) : b.FillsTemplates d := by
  obtain ⟨t, ht⟩ := h
  refine ⟨[t], fun r texts htexts => ?_⟩
  rw [hx] at htexts
  obtain ⟨a, ha, rfl⟩ := map_eq_ok.1 htexts
  obtain ⟨hwrite, hreferents, hapart⟩ := ht r a ha
  simp [hwrite, hreferents, hapart]

end Single

theorem fillsTemplates (d : SqlDialect) (b : Builder) : b.FillsTemplates d := by
  have hone : ∀ {x : Except Error String}, (do pure [← x]) = x.map fun s => [s] := by
    intro x
    cases x <;> rfl
  cases b with
  | select table filter options =>
    exact fillsTemplates_single (Statement.fills_select table filter options) fun r => rfl
  | count table filter => exact fillsTemplates_single (Statement.fills_count table filter) fun r => rfl
  | update table filter set =>
    exact fillsTemplates_single (Statement.fills_update table filter set) fun r => rfl
  | delete table filter => exact fillsTemplates_single (Statement.fills_delete table filter) fun r => rfl
  | insert table document =>
    exact fillsTemplates_single (Statement.fills_insert table document) fun r => rfl
  | createTable shape => exact fillsTemplates_single (Ddl.fills_createTable shape) fun r => rfl
  | addColumn table name field =>
    exact fillsTemplates_single (Ddl.fills_addColumn table name field) fun r => rfl
  | createIndex table name fields unique =>
    exact fillsTemplates_single (Ddl.fills_createIndex table name fields unique) fun r => rfl
  | dropTable table => exact fillsTemplates_single (Ddl.fills_dropTable table) fun r => rfl
  | renameTable old new => exact fillsTemplates_single (Ddl.fills_renameTable old new) fun r => rfl
  | dropIndex table name => exact fillsTemplates_single (Ddl.fills_dropIndex table name) fun r => rfl
  | dropColumn table column =>
    exact fillsTemplates_single (Ddl.fills_dropColumn table column) fun r => rfl
  | renameColumn table old new =>
    exact fillsTemplates_single (Ddl.fills_renameColumn table old new) fun r => rfl
  | change table c =>
    cases c with
    | createTable shape => exact fillsTemplates_single (Ddl.fills_createTable shape) fun r => hone
    | recreateTable shape =>
      obtain ⟨drop, hdrop⟩ := Ddl.fills_dropTable (d := d) table
      obtain ⟨create, hcreate⟩ := Ddl.fills_createTable (d := d) shape
      refine ⟨[drop, create], fun r texts htexts => ?_⟩
      obtain ⟨first, hfirst, htexts⟩ := bind_eq_ok.1 htexts
      obtain ⟨second, hsecond, htexts⟩ := bind_eq_ok.1 htexts
      obtain rfl := pure_eq_ok.1 htexts
      obtain ⟨rfl, hnamed, hapart⟩ := hdrop r first hfirst
      obtain ⟨rfl, hnamed', hapart'⟩ := hcreate r second hsecond
      simp [hnamed, hnamed', hapart, hapart', referents, tables]
    | addColumn name field =>
      exact fillsTemplates_single (Ddl.fills_addColumn table name field) fun r => hone
    | createIndex name fields unique =>
      exact fillsTemplates_single (Ddl.fills_createIndex table name fields unique.truthy) fun r => hone

/-- A name without the null character is quoted, and reading what is written gives the name and leaves what
follows, unless a quote character does. So no two names are quoted alike. The statements of a call are
templates that do not depend on the names of its tables and indexes. Whatever names they are filled with,
each is read at its place as one name, and the texts between the names as if these were not there. -/
theorem quoted_names_read_back (d : SqlDialect) :
    (∀ name rest, Char.ofNat 0 ∉ name.toList → rest.head? ≠ some d.engine.quoteMark →
      ∃ text, d.quote name = .ok text ∧
        unquote d.engine.quoteMark (text.toList ++ rest) = some (name.toList, rest)) ∧
    (∀ a b text, d.quote a = .ok text → d.quote b = .ok text → a = b) ∧
    ∀ b : Builder, ∃ templates : List Template, ∀ r texts, (b.fill r).statements d = .ok texts →
      texts = templates.map (Template.write d r) ∧
      templates.flatMap Template.referents = b.referents d.engine ∧
      ∀ t ∈ templates, t.ReadsNames d r ∧
        textItems d.engine (t.write d r) = t.items d.engine r := by
  refine ⟨fun name rest hclean hrest => ?_, fun a b text ha hb => ?_, fun b => ?_⟩
  · exact ⟨_, SqlDialect.quote_eq_ok.2 ⟨hclean, rfl⟩, d.unquote_quotedForm name hrest⟩
  · refine SqlDialect.quotedForm_injective (d := d) ?_
    exact (SqlDialect.quote_eq_ok.1 ha).2.trans (SqlDialect.quote_eq_ok.1 hb).2.symm
  · obtain ⟨templates, h⟩ := fillsTemplates d b
    refine ⟨templates, fun r texts htexts => ?_⟩
    obtain ⟨hwrite, hreferents, hapart⟩ := h r texts htexts
    exact ⟨hwrite, hreferents, fun t ht => ⟨(hapart t ht).readsNames r, (hapart t ht).textItems_write r⟩⟩

/-- A name made of quote characters is read back, on its own and in a statement. -/
theorem quoted_names_read_back_of_marks :
    let d : SqlDialect := { engine := .mysql }
    let rest := " WHERE 1=1".toList
    let sql := "SELECT COUNT(*) AS count FROM `````` WHERE 1=1"
    Char.ofNat 0 ∉ "``".toList ∧ rest.head? ≠ some d.engine.quoteMark ∧
      d.quote "``" = .ok "``````" ∧
      unquote d.engine.quoteMark ("``````".toList ++ rest) = some ("``".toList, rest) ∧
      (∀ name, d.quote name = .ok "``````" → name = "``") ∧
      (count "``" .null).statements d = .ok [sql] ∧
      ∃ templates : List Template, [sql] = templates.map (Template.write d Referent.given) ∧
        templates.flatMap Template.referents = [.table "``"] ∧
        ∀ t ∈ templates, t.ReadsNames d Referent.given ∧
          textItems d.engine (t.write d Referent.given) = t.items d.engine Referent.given := by
  intro d rest sql
  have hclean : Char.ofNat 0 ∉ "``".toList := by decide
  have hrest : rest.head? ≠ some d.engine.quoteMark := by decide
  have hquote : d.quote "``" = .ok "``````" := rfl
  have hsql : (count "``" .null).statements d = .ok [sql] := by with_unfolding_all rfl
  obtain ⟨hread, hinjective, hstatements⟩ := quoted_names_read_back d
  obtain ⟨text, htext, hback⟩ := hread "``" rest hclean hrest
  obtain rfl : "``````" = text := Except.ok.inj (hquote.symm.trans htext)
  obtain ⟨templates, htemplates⟩ := hstatements (count "``" .null)
  refine ⟨hclean, hrest, hquote, hback, fun name h => hinjective _ _ _ h hquote, hsql, templates, ?_⟩
  exact htemplates Referent.given [sql] (by rw [fill_given, hsql])

end Builder

end Polystore
