import Polystore.Change
import Polystore.Proofs.Default.Literal

/-!
# What a created table declares

The text that creates a table is read back, without knowing how it was made, as the name of the table and
the definitions of its columns. They are the declared fields in order, behind the primary key if that is
not declared, and no default reaches out of its definition.

Main statement: `createTable_declares`.
-/

namespace Polystore.Ddl

open Identifier (isPlain)
open Sql

/-- A column, as its definition in a text says. -/
structure Definition where
  name : String
  type : List Item
  notNull : Bool
  default : Option (List Item)
  primaryKey : Bool

namespace Definition

/-- The item is a word that starts a clause behind the type of a column. -/
def startsClause (i : Item) : Bool :=
  i.isWord "not" || i.isWord "default" || i.isWord "primary"

/-- Reads the clause that a column is never null, if it comes next. -/
def readNotNull : List Item → Bool × List Item
  | i :: j :: is => if i.isWord "not" && j.isWord "null" then (true, is) else (false, i :: j :: is)
  | is => (false, is)

/-- Reads a default, if it comes next, up to the clause of the primary key. -/
def readDefault : List Item → Option (List Item) × List Item
  | [] => (none, [])
  | i :: is =>
    if i.isWord "default" then
      (some (is.takeWhile fun j => !j.isWord "primary"), is.dropWhile fun j => !j.isWord "primary")
    else (none, i :: is)

/-- Reads the clause of the primary key or nothing, and then the end. -/
def readKey? : List Item → Option Bool
  | [] => some false
  | [i, j] => if i.isWord "primary" && j.isWord "key" then some true else none
  | _ => none

/-- The definition that items are. -/
def ofItems? : List Item → Option Definition
  | [] => none
  | i :: is =>
    let (notNull, rest) := readNotNull (is.dropWhile fun j => !startsClause j)
    let (default, rest) := readDefault rest
    i.name?.bind fun name => (readKey? rest).map fun primaryKey =>
      { name, type := is.takeWhile fun j => !startsClause j, notNull, default, primaryKey }

end Definition

/-- The table that a text creates: its name and its columns. -/
def created? (engine : Engine) (text : String) : Option (String × List Definition) :=
  match textItems engine text with
  | create :: table :: condition :: negation :: existence :: name :: opening :: is =>
    if create.isWord "create" && table.isWord "table" && condition.isWord "if" &&
        negation.isWord "not" && existence.isWord "exists" && opening.isSymbol '(' then
      name.name?.bind fun name => (enclosed? 0 is).bind fun body =>
        ((splitAtCommas 0 body).mapM Definition.ofItems?).map (name, ·)
    else none
  | _ => none

/-! ### Clauses -/

/-- The item of a word. -/
def wordItem (s : String) : Item :=
  .lexeme (.word s.toList)

def notNullItems (notNull : Bool) : List Item :=
  if notNull then [wordItem "NOT", wordItem "NULL"] else []

def defaultItems : Option (List Item) → List Item
  | none => []
  | some is => wordItem "DEFAULT" :: is

def keyItems (primaryKey : Bool) : List Item :=
  if primaryKey then [wordItem "PRIMARY", wordItem "KEY"] else []

/-- The items behind the type of a column. -/
def clauseItems (c : Definition) : List Item :=
  notNullItems c.notNull ++ (defaultItems c.default ++ keyItems c.primaryKey)

theorem takeWhile_dropWhile_append {α : Type} {p : α → Bool} {as rest : List α}
    (has : ∀ a ∈ as, p a = true) (hrest : ∀ a ∈ rest.head?, p a = false) :
    (as ++ rest).takeWhile p = as ∧ (as ++ rest).dropWhile p = rest := by
  rw [List.takeWhile_append_of_pos has, List.dropWhile_append_of_pos has]
  cases rest with
  | nil => simp
  | cons a rest => simp [hrest a rfl]

section Reading

theorem readKey?_keyItems (primaryKey : Bool) :
    Definition.readKey? (keyItems primaryKey) = some primaryKey := by
  cases primaryKey <;> rfl

theorem readDefault_defaultItems {default : Option (List Item)} (primaryKey : Bool)
    (h : ∀ is, default = some is → ∀ i ∈ is, i.isWord "primary" = false) :
    Definition.readDefault (defaultItems default ++ keyItems primaryKey) =
      (default, keyItems primaryKey) := by
  cases default with
  | none => cases primaryKey <;> rfl
  | some is =>
    have his : ∀ i ∈ is, (!i.isWord "primary") = true := fun i hi => by rw [h is rfl i hi]; rfl
    have hkey : ∀ i ∈ (keyItems primaryKey).head?, (!i.isWord "primary") = false := by
      cases primaryKey <;> simp [keyItems]
      decide
    obtain ⟨htake, hdrop⟩ := takeWhile_dropWhile_append his hkey
    have hword : (wordItem "DEFAULT").isWord "default" = true := by decide
    rw [defaultItems, List.cons_append, Definition.readDefault, if_pos hword, htake, hdrop]

theorem readNotNull_notNullItems (c : Definition) :
    Definition.readNotNull (clauseItems c) =
      (c.notNull, defaultItems c.default ++ keyItems c.primaryKey) := by
  obtain ⟨name, type, notNull, default, primaryKey⟩ := c
  cases notNull with
  | true => rfl
  | false =>
    have hother : ∀ i j is, i.isWord "not" = false →
        Definition.readNotNull (i :: j :: is) = (false, i :: j :: is) := by
      intro i j is hi
      rw [Definition.readNotNull, hi]
      rfl
    cases default with
    | none => cases primaryKey <;> rfl
    | some is =>
      cases is with
      | nil => cases primaryKey <;> rfl
      | cons i is => exact hother _ _ _ (by decide)

theorem startsClause_clauseItems (c : Definition) :
    ∀ i ∈ (clauseItems c).head?, Definition.startsClause i = true := by
  obtain ⟨name, type, notNull, default, primaryKey⟩ := c
  cases notNull <;> cases default <;> cases primaryKey <;>
    simp [clauseItems, notNullItems, defaultItems, keyItems] <;> decide

theorem ofItems?_clauseItems {c : Definition} {i : Item} (hname : i.name? = some c.name)
    (htype : ∀ j ∈ c.type, Definition.startsClause j = false)
    (hdefault : ∀ is, c.default = some is → ∀ j ∈ is, j.isWord "primary" = false) :
    Definition.ofItems? (i :: (c.type ++ clauseItems c)) = some c := by
  have hspan : (c.type ++ clauseItems c).takeWhile (fun j => !Definition.startsClause j) = c.type ∧
      (c.type ++ clauseItems c).dropWhile (fun j => !Definition.startsClause j) = clauseItems c := by
    refine takeWhile_dropWhile_append (fun j hj => by rw [htype j hj]; rfl) fun j hj => ?_
    rw [startsClause_clauseItems c j hj]
    rfl
  rw [Definition.ofItems?]
  simp only [hspan.1, hspan.2, readNotNull_notNullItems, readDefault_defaultItems _ hdefault, hname,
    readKey?_keyItems, Option.bind_some, Option.map_some]

end Reading

/-! ### Written clauses -/

/-- A text behind a lexeme is read as items that separate nothing. -/
structure IsClause (engine : Engine) (s : String) (is : List Item) : Prop where
  itemsOf : ItemsOf engine (chars s) is
  bounded : Bounded (chars s)
  plain : ∀ i ∈ is, i.isPlain = true

section Clauses

variable {d : SqlDialect} {engine : Engine} {s t : String} {is js : List Item}

theorem isClause_empty : IsClause engine "" [] :=
  ⟨itemsOf_nil, trivial, by simp⟩

theorem ItemsOf.append_clause (hs : ItemsOf engine (chars s) is) (ht : IsClause engine t js) :
    ItemsOf engine (chars (s ++ t)) (is ++ js) := by
  rw [chars_append]
  exact hs.append ht.itemsOf fun rest hrest => bounded_append ht.bounded hrest

theorem IsClause.append (hs : IsClause engine s is) (ht : IsClause engine t js) :
    IsClause engine (s ++ t) (is ++ js) where
  itemsOf := ItemsOf.append_clause hs.itemsOf ht
  bounded := by
    rw [chars_append]
    exact bounded_append hs.bounded ht.bounded
  plain := List.forall_mem_append.2 ⟨hs.plain, ht.plain⟩

theorem isClause_notNull (notNull : Bool) :
    IsClause engine (if notNull then " NOT NULL" else "") (notNullItems notNull) := by
  cases notNull with
  | false => exact isClause_empty
  | true =>
    have hscan : scan engine .blank " NOT NULL".toList =
        ([wordItem "NOT"], .word ['N', 'U', 'L', 'L']) := by
      cases engine <;> rfl
    exact ⟨itemsOf_of_scan hscan (stops_word _), .inl rfl, by decide⟩

theorem isClause_key (primaryKey : Bool) :
    IsClause engine (if primaryKey then " PRIMARY KEY" else "") (keyItems primaryKey) := by
  cases primaryKey with
  | false => exact isClause_empty
  | true =>
    have hscan : scan engine .blank " PRIMARY KEY".toList =
        ([wordItem "PRIMARY"], .word ['K', 'E', 'Y']) := by
      cases engine <;> rfl
    exact ⟨itemsOf_of_scan hscan (stops_word _), .inl rfl, by decide⟩

end Clauses

/-! ### Columns -/

/-- A default that is read says what a field declares: there is one if the declaration has one that is known
by then, and a text or a JSON text is one literal that holds it. -/
structure DeclaresDefault (engine : Engine) (f : Field) (default : Option (List Item)) : Prop where
  isSome : default.isSome = f.default.literal?.isSome
  literal : ∀ v, f.default.literal? = some v →
    ∃ literal, DefaultLiteral.render engine.defaultStyle v = .ok literal ∧
      default = some (textItems engine literal)
  content : ∀ v content, f.default.literal? = some v → DefaultLiteral.IsContent v content →
    default = some (DefaultLiteral.contentItems engine v content)

/-- A definition says what is declared of a field. -/
structure Declares (engine : Engine) (key : String) (e : String × Field) (c : Definition) : Prop where
  name : c.name = e.1
  type : c.type = textItems engine (e.2.type.columnType engine)
  notNull : c.notNull = e.2.required.truthy
  default : DeclaresDefault engine e.2 c.default
  primaryKey : c.primaryKey = decide (e.1 = key)

section Columns

variable {d : SqlDialect}

theorem exists_default (hengine : d.engine ≠ .mysql) {f : Field} {s : String}
    (h : defaultClause d f = .ok s) :
    ∃ default, IsClause d.engine s (defaultItems default) ∧ DeclaresDefault d.engine f default ∧
      ∀ is, default = some is → ∀ i ∈ is, i.isWord "primary" = false := by
  unfold defaultClause at h
  cases hv : f.default.literal? with
  | none =>
    rw [hv] at h
    cases h
    refine ⟨none, isClause_empty, ⟨by rw [hv]; rfl, ?_, ?_⟩, ?_⟩
    · intro v hsome
      rw [hv] at hsome
      cases hsome
    · intro v content hsome
      rw [hv] at hsome
      cases hsome
    · intro is hsome
      cases hsome
  | some v =>
    rw [hv] at h
    obtain ⟨literal, hliteral, rfl⟩ := map_eq_ok.1 h
    obtain ⟨is, hread, hcontent⟩ := DefaultLiteral.isRead_of_render hengine hliteral
    have hscan : scan d.engine .blank " DEFAULT ".toList = ([wordItem "DEFAULT"], .blank) := by
      cases d.engine <;> rfl
    refine ⟨some is, ⟨?_, ?_, ?_⟩, ⟨by rw [hv]; rfl, ?_, ?_⟩, ?_⟩
    · rw [chars_append]
      exact hread.itemsOf.after_blank hscan
    · rw [chars_append]
      exact .inl rfl
    · exact List.forall_mem_cons.2 ⟨by decide, fun i hi => (hread.inert i hi).1⟩
    · rintro v' hsome
      obtain rfl := Option.some.inj (hv.symm.trans hsome)
      exact ⟨literal, hliteral, by rw [textItems, hread.itemsOf.itemsFrom_eq]⟩
    · rintro v' content hsome hv'
      obtain rfl := Option.some.inj (hv.symm.trans hsome)
      rw [hcontent content hv']
    · rintro is' hsome i hi
      cases hsome
      exact (hread.inert i hi).2

theorem itemsOf_columnType {engine : Engine} (hengine : engine ≠ .mysql) (t : FieldType) :
    ItemsOf engine (chars (t.columnType engine)) (textItems engine (t.columnType engine)) ∧
      IsPart 0 (textItems engine (t.columnType engine)) ∧
      ∀ i ∈ textItems engine (t.columnType engine), Definition.startsClause i = false := by
  cases engine with
  | mysql => exact absurd rfl hengine
  | _ =>
    cases t
    all_goals
      refine ⟨itemsOf_text ?_, by decide, by decide⟩
      first
        | exact stops_word _
        | exact stops_symbol _

theorem exists_definition (hengine : d.engine ≠ .mysql) {key : String} {e : String × Field}
    {s : String} (h : declaredColumn d key e = .ok s) (hplain : isPlain e.1.toList = true) :
    ∃ is c, ItemsOf d.engine (chars s) is ∧ IsPart 0 is ∧ Definition.ofItems? is = some c ∧
      Declares d.engine key e c := by
  obtain ⟨definition, hdefinition, h⟩ := bind_eq_ok.1 h
  obtain ⟨column, hcolumn, hdefinition⟩ := bind_eq_ok.1 hdefinition
  obtain ⟨default, hdefault, hdefinition⟩ := bind_eq_ok.1 hdefinition
  obtain ⟨i, hname, hitem⟩ := itemsOf_renderField hcolumn hplain
  obtain ⟨his, hpart, hclause⟩ := itemsOf_columnType hengine e.2.type
  obtain ⟨literal, hliteral, hdeclares, hinert⟩ := exists_default hengine hdefault
  let c : Definition := {
    name := e.1, type := textItems d.engine (e.2.type.columnType d.engine)
    notNull := e.2.required.truthy, default := literal, primaryKey := decide (e.1 = key) }
  have hs : s = column ++ " " ++ e.2.type.columnType d.engine ++
      ((if c.notNull then " NOT NULL" else "") ++
        (default ++ if c.primaryKey then " PRIMARY KEY" else "")) := by
    rw [← pure_eq_ok.1 h, ← pure_eq_ok.1 hdefinition]
    by_cases hkey : e.1 = key <;> simp [c, hkey, String.append_assoc]
  have hclauses : IsClause d.engine ((if c.notNull then " NOT NULL" else "") ++
      (default ++ if c.primaryKey then " PRIMARY KEY" else "")) (clauseItems c) :=
    (isClause_notNull c.notNull).append (hliteral.append (isClause_key c.primaryKey))
  refine ⟨i :: (c.type ++ clauseItems c), c, ?_, ?_, ofItems?_clauseItems hname hclause hinert, ?_⟩
  · have hblank : scan d.engine .blank " ".toList = ([], .blank) := by
      cases d.engine <;> rfl
    have htyped : ItemsOf d.engine (chars (column ++ " " ++ e.2.type.columnType d.engine))
        ([i] ++ c.type) := by
      rw [String.append_assoc, chars_append, chars_append]
      refine hitem.append (his.after_blank hblank) fun rest _ => ?_
      rw [List.append_assoc]
      exact bounded_chars (by decide) _
    rw [hs, ← List.singleton_append, ← List.append_assoc]
    exact ItemsOf.append_clause htyped hclauses
  · have hi : IsPart 0 [i] := isPart_of_isPlain (by simpa using Item.isPlain_of_name? hname)
    exact isPart_append hi (isPart_append hpart (isPart_of_isPlain hclauses.plain))
  · exact ⟨rfl, rfl, rfl, hdeclares, rfl⟩

end Columns

/-! ### Tables -/

/-- The primary key as a field, if it is not declared as one. -/
def impliedFields (shape : TableShape) : Entries String Field :=
  if (shape.find? shape.primaryKey).isSome then [] else [(shape.primaryKey, { type := .reference })]

/-- The fields that a table has a column for. -/
def columnFields (shape : TableShape) : Entries String Field :=
  impliedFields shape ++ shape.fields

section Tables

variable {d : SqlDialect} {shape : TableShape} {text : String}

/-- A primary key that is not declared is written as a declared field would be. -/
theorem impliedKey_eq (d : SqlDialect) (shape : TableShape) :
    impliedKey d shape = (impliedFields shape).mapM (declaredColumn d shape.primaryKey) := by
  unfold impliedKey impliedFields
  split_ifs
  · rfl
  · have hcolumn : declaredColumn d shape.primaryKey (shape.primaryKey, { type := .reference }) =
        (d.renderField shape.primaryKey).map fun column =>
          column ++ " " ++ FieldType.reference.columnType d.engine ++ " PRIMARY KEY" := by
      unfold declaredColumn columnDefinition
      cases d.renderField shape.primaryKey with
      | error e => rfl
      | ok column =>
        simp [bind, Except.bind, pure, Except.pure, Except.map, defaultClause, Default.literal?,
          Value.truthy]
    rw [List.mapM_cons, List.mapM_nil, hcolumn]
    cases d.renderField shape.primaryKey <;> rfl

theorem createTable_eq_ok (h : createTable d shape = .ok text) : ∃ columns quoted,
    List.Forall₂ (fun e s => declaredColumn d shape.primaryKey e = .ok s) (columnFields shape)
      columns ∧
    d.quoteValid shape.name = .ok quoted ∧
    text = "CREATE TABLE IF NOT EXISTS " ++ quoted ++ " (" ++ ", ".intercalate columns ++ ")" := by
  obtain ⟨key, hkey, h⟩ := bind_eq_ok.1 h
  obtain ⟨columns, hcolumns, h⟩ := bind_eq_ok.1 h
  obtain ⟨quoted, hquoted, h⟩ := bind_eq_ok.1 h
  rw [impliedKey_eq] at hkey
  exact ⟨key ++ columns, quoted, List.rel_append (mapM_eq_ok.1 hkey) (mapM_eq_ok.1 hcolumns), hquoted,
    (pure_eq_ok.1 h).symm⟩

theorem columnFields_ne_nil (shape : TableShape) : columnFields shape ≠ [] := by
  unfold columnFields impliedFields
  split_ifs with h
  · rintro (hnil : shape.fields = [])
    rw [TableShape.find?, hnil] at h
    exact absurd h Bool.false_ne_true
  · simp

theorem keys_columnFields (hnodup : shape.fields.keys.Nodup) :
    (columnFields shape).keys.Nodup ∧ shape.primaryKey ∈ (columnFields shape).keys := by
  unfold columnFields impliedFields
  by_cases h : (shape.find? shape.primaryKey).isSome = true
  · rw [if_pos h, List.nil_append]
    refine ⟨hnodup, ?_⟩
    by_contra hmem
    rw [TableShape.find?, Entries.get?_eq_none_iff.2 hmem] at h
    exact absurd h (by decide)
  · rw [if_neg h]
    have hmem : shape.primaryKey ∉ shape.fields.keys :=
      Entries.get?_eq_none_iff.1 (Option.not_isSome_iff_eq_none.1 h)
    exact ⟨List.nodup_cons.2 ⟨hmem, hnodup⟩, List.mem_cons_self⟩

theorem exists_definitions (hengine : d.engine ≠ .mysql) {key : String}
    {es : Entries String Field} {columns : List String}
    (h : List.Forall₂ (fun e s => declaredColumn d key e = .ok s) es columns)
    (hplain : ∀ name ∈ es.keys, isPlain name.toList = true) :
    ∃ parts definitions, List.Forall₂ (ItemsOf d.engine) (columns.map chars) parts ∧
      (∀ p ∈ parts, IsPart 0 p) ∧
      List.Forall₂ (fun p c => Definition.ofItems? p = some c) parts definitions ∧
      List.Forall₂ (Declares d.engine key) es definitions := by
  induction h with
  | nil => exact ⟨[], [], .nil, by simp, .nil, .nil⟩
  | @cons e s es columns hs _ ih =>
    obtain ⟨hname, hnames⟩ := List.forall_mem_cons.1 hplain
    obtain ⟨is, c, hitems, hpart, hsaid, hdeclares⟩ := exists_definition hengine hs hname
    obtain ⟨parts, cs, hparts, hall, hrest, hdeclared⟩ := ih hnames
    exact ⟨is :: parts, c :: cs, .cons hitems hparts, List.forall_mem_cons.2 ⟨hpart, hall⟩,
      .cons hsaid hrest, .cons hdeclares hdeclared⟩

theorem names_primaryKey {engine : Engine} {key : String} {es : Entries String Field}
    {cs : List Definition} (h : List.Forall₂ (Declares engine key) es cs) :
    (cs.filter (·.primaryKey)).map (·.name) = es.keys.filter (· == key) := by
  induction h with
  | nil => rfl
  | @cons e c es cs hc _ ih =>
    have hkeys : Entries.keys (e :: es) = e.1 :: Entries.keys es := rfl
    have hname : c.name = e.1 := hc.name
    rw [hkeys, List.filter_cons, List.filter_cons, hc.primaryKey]
    by_cases hkey : e.1 = key <;> simp [hkey, ih, hname]

theorem created?_eq {engine : Engine} {name quoted : String} {columns : List String}
    {parts : List (List Item)} {definitions : List Definition}
    (hquoted : quoted = String.ofList (Identifier.quoted engine.quoteMark name.toList))
    (hne : parts ≠ []) (hitems : List.Forall₂ (ItemsOf engine) (columns.map chars) parts)
    (hparts : ∀ p ∈ parts, IsPart 0 p)
    (hsaid : List.Forall₂ (fun p c => Definition.ofItems? p = some c) parts definitions) :
    created? engine
        ("CREATE TABLE IF NOT EXISTS " ++ quoted ++ " (" ++ ", ".intercalate columns ++ ")") =
      some (name, definitions) := by
  obtain ⟨i, hname, hitem⟩ := itemsOf_quoted engine name
  rw [← hquoted] at hitem
  have hcreate : scan engine .blank "CREATE TABLE IF NOT EXISTS ".toList =
      (["CREATE", "TABLE", "IF", "NOT", "EXISTS"].map wordItem, .blank) := by
    cases engine <;> rfl
  have hopening : scan engine .blank " (".toList = ([], .symbol ['(']) := by
    cases engine <;> rfl
  have hclosing : scan engine .blank ")".toList = ([], .symbol [')']) := by
    cases engine <;> rfl
  have hbody : ItemsOf engine (chars (", ".intercalate columns) ++ chars ")")
      ([Item.comma].intercalate parts ++ [Item.closing]) := by
    rw [chars_intercalate]
    exact (itemsOf_intercalate hitems).append (itemsOf_of_scan hclosing (stops_symbol _))
      fun rest _ => bounded_chars (by decide) rest
  have hlist := hbody.after_closed hopening (closed_symbol (by decide))
  have htext := (hitem.after_blank hcreate).append hlist fun rest _ => by
    rw [List.append_assoc]
    exact bounded_chars (by decide) _
  have hread : textItems engine
      ("CREATE TABLE IF NOT EXISTS " ++ quoted ++ " (" ++ ", ".intercalate columns ++ ")") =
      ["CREATE", "TABLE", "IF", "NOT", "EXISTS"].map wordItem ++ i :: .lexeme (.symbol ['(']) ::
        ([Item.comma].intercalate parts ++ [Item.closing]) := by
    have hitems := htext.itemsFrom_eq
    simp only [List.append_assoc] at hitems
    simp only [textItems, chars_append, List.append_assoc]
    exact hitems
  rw [created?, hread]
  simp only [List.map_cons, List.map_nil, List.cons_append, List.nil_append, hname, Option.bind_some]
  rw [if_pos (by decide), enclosed?_intercalate hparts, Option.bind_some,
    splitAtCommas_intercalate hne hparts, mapM_eq_some.2 hsaid]
  rfl

/-- A table is created with the declared columns in order and nothing else, behind its primary key if that
is not declared, and the primary key is the one column that is defined as such. -/
theorem createTable_declares (hengine : d.engine ≠ .mysql) (hnodup : shape.fields.keys.Nodup)
    (hplain : ∀ name ∈ shape.primaryKey :: shape.fields.keys, isPlain name.toList = true)
    (h : createTable d shape = .ok text) :
    ∃ columns, created? d.engine text = some (shape.name, columns) ∧
      List.Forall₂ (Declares d.engine shape.primaryKey) (impliedFields shape ++ shape.fields)
        columns ∧
      (columns.filter (·.primaryKey)).map (·.name) = [shape.primaryKey] := by
  obtain ⟨columns, quoted, hcolumns, hquoted, rfl⟩ := createTable_eq_ok h
  have hnames : ∀ name ∈ (columnFields shape).keys, isPlain name.toList = true := by
    intro name hname
    obtain ⟨e, he, rfl⟩ := List.mem_map.1 hname
    rcases List.mem_append.1 he with he | he
    · unfold impliedFields at he
      split_ifs at he
      · cases he
      · rw [List.mem_singleton.1 he]
        exact hplain _ List.mem_cons_self
    · exact hplain _ (List.mem_cons_of_mem _ (List.mem_map_of_mem he))
  obtain ⟨parts, definitions, hitems, hparts, hsaid, hdeclares⟩ :=
    exists_definitions hengine hcolumns hnames
  have hne : parts ≠ [] := by
    rintro rfl
    rw [List.forall₂_nil_left_iff.1 hsaid] at hdeclares
    exact columnFields_ne_nil shape (List.forall₂_nil_right_iff.1 hdeclares)
  have htable := (SqlDialect.quoteValid_eq_ok.1 hquoted).2.symm
  refine ⟨definitions, created?_eq htable hne hitems hparts hsaid, hdeclares, ?_⟩
  obtain ⟨hkeys, hmem⟩ := keys_columnFields hnodup
  rw [names_primaryKey hdeclares]
  exact (List.filter_beq _).trans (by rw [List.count_eq_one_of_mem hkeys hmem]; rfl)

set_option maxRecDepth 4096 in
/-- A default that looks like the end of its column and the start of another is read as one text. -/
theorem createTable_declares_of_hostile :
    let d : SqlDialect := { engine := .postgresql }
    let shape : TableShape := {
      name := "order"
      fields := [
        ("note", {
          type := .text, required := .bool true
          default := .given (.str "'), x TEXT DEFAULT ('") }),
        ("user", { type := .array, default := .given (.list [.str "it's", .int 1]) }),
        ("count", { type := .number, default := .given (.int (-1)) })] }
    let text := "CREATE TABLE IF NOT EXISTS \"order\" (_id VARCHAR(36) PRIMARY KEY, " ++
      "note VARCHAR(255) NOT NULL DEFAULT '''), x TEXT DEFAULT (''', " ++
      "\"user\" JSONB DEFAULT '[\"it''s\",1]'::jsonb, count DOUBLE PRECISION DEFAULT -1)"
    d.engine ≠ .mysql ∧ shape.fields.keys.Nodup ∧
      (∀ name ∈ shape.primaryKey :: shape.fields.keys, isPlain name.toList = true) ∧
      createTable d shape = .ok text ∧
      ∃ columns, created? d.engine text = some (shape.name, columns) ∧
        List.Forall₂ (Declares d.engine shape.primaryKey) (impliedFields shape ++ shape.fields)
          columns ∧
        (columns.filter (·.primaryKey)).map (·.name) = [shape.primaryKey] := by
  have hengine : Engine.postgresql ≠ .mysql := by decide
  refine ⟨hengine, ?hnodup, ?hplain, ?htext, createTable_declares hengine ?hnodup ?hplain ?htext⟩
  case hnodup => decide
  case hplain => decide
  case htext => with_unfolding_all rfl

end Tables

end Polystore.Ddl
