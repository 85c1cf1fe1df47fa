import Polystore.Compile
import Polystore.Proofs.Sql.Item
import Polystore.Proofs.Update.Placement

/-!
# Assignments and native updates

An update is written as the assignments of an SQL statement, or as a document of update operators. Both
are read back here as operations on fields, without knowing how they were made, and both give the same
operations in the same order.

Main statement: `operations_agree`.
-/

namespace Polystore

namespace Update

open Identifier (isPlain exceeds)
open Sql (Input Item Assignment Bounded IsPart ItemsOf bounded_chars chars chars_append inputs? isPart_of_isPlain
  itemsFrom itemsOf_value scan splitAtCommas)

/-- What an update does to one field, as a store carries it out. -/
inductive Operation where
  | set (field : String) (value : Value)
  | add (field : String) (amount : Value)
  | clear (field : String)

namespace Operation

def field : Operation → String
  | set field _ => field
  | add field _ => field
  | clear field => field

/-- The values that an operation needs. -/
def operands : Operation → List Value
  | set _ v => [v]
  | add _ v => [v]
  | clear _ => []

/-- The operation that the items of one assignment say. -/
def ofItems? : List Item → Option Operation
  | [column, .lexeme (.symbol ['=']), .value v] => column.name?.map (set · v)
  | [column, .lexeme (.symbol ['=']), .lexeme l] =>
    if (Item.lexeme l).isWord "null" then column.name?.map clear else none
  | [column, .lexeme (.symbol ['=']), column', .lexeme (.symbol ['+']), .value v] =>
    column.name?.bind fun field => if column'.name? = some field then some (add field v) else none
  | _ => none

/-- The operations of the assignments in a text, under values for its placeholders. -/
def ofText? (d : SqlDialect) (value? : Nat → Option Value) (next : Nat) (text : String) :
    Option (List Operation) :=
  (inputs? d.placeholders value? next text.toList).bind fun inputs =>
    (splitAtCommas 0 (itemsFrom d.engine .blank inputs)).mapM ofItems?

/-- The operation on a field under an operator of a native update. -/
def underOperator? (operator : String) (e : Value × Value) : Option Operation :=
  e.1.text?.bind fun field =>
    match operator with
    | "$set" => some (set field e.2)
    | "$inc" => some (add field e.2)
    | "$unset" => some (clear field)
    | _ => none

/-- The operations under one key of a native update. -/
def ofEntry? : Value × Value → Option (List Operation)
  | (key, .map es) => key.text?.bind fun operator => es.mapM (underOperator? operator)
  | _ => none

/-- The operations of a native update, key by key. -/
def ofDocument? : Value → Option (List Operation)
  | .map es => (es.mapM ofEntry?).map List.flatten
  | _ => none

/-- What a bucket does to one of its fields; changes of array elements are none of these operations. -/
def ofBucket? (b : Bucket) (field : String) (v : Value) : Option Operation :=
  match b with
  | .assign => some (set field v)
  | .increment => some (add field v)
  | .remove => some (clear field)
  | _ => none

/-- The assignment that carries out an operation. -/
def assignment (column : String) : Operation → Assignment
  | set _ v => .set column v
  | add _ v => .add column v
  | clear _ => .clear column

end Operation

/-- The operations of a specification, bucket by bucket. -/
def Spec.changes (s : Spec) : List Operation :=
  (Sql.operations s).filterMap fun op => Operation.ofBucket? op.1 op.2.1 op.2.2

/-! ### Assignments -/

section Assignments

variable {d : SqlDialect}

theorem itemsOf_column_append {engine : Engine} {column sign : String} {i j : Item}
    {tail : List Input} {is : List Item} (hcolumn : ItemsOf engine (chars column) [i])
    (hsign : scan engine .blank sign.toList = ([j], .blank))
    (hblank : sign.toList.head? = some ' ') (htail : ItemsOf engine tail is) :
    ItemsOf engine (chars (column ++ sign) ++ tail) (i :: j :: is) := by
  rw [chars_append, List.append_assoc]
  refine hcolumn.append (htail.after_blank hsign) fun rest _ => ?_
  rw [List.append_assoc]
  exact bounded_chars (by rw [hblank]; rfl) _

theorem ofItems?_assignment {o : Operation} {column : String}
    (h : d.renderField o.field = .ok column) (hplain : isPlain o.field.toList = true) :
    ∃ is, ItemsOf d.engine (o.assignment column).fragment.inputs is ∧ IsPart 0 is ∧
      Operation.ofItems? is = some o := by
  obtain ⟨i, hname, hcolumn⟩ := Sql.itemsOf_renderField h hplain
  have hi : i.isPlain = true := Item.isPlain_of_name? hname
  have hequals : scan d.engine .blank " = ".toList = ([.lexeme (.symbol ['='])], .blank) := by
    cases d.engine <;> rfl
  have hassigned {tail : List Input} {is : List Item} (htail : ItemsOf d.engine tail is) :=
    itemsOf_column_append hcolumn hequals (by decide) htail
  have hvalue : ∀ v, (Item.value v).isPlain = true := fun _ => rfl
  cases o with
  | set field v =>
    refine ⟨_, hassigned (itemsOf_value v), isPart_of_isPlain ?_, ?_⟩
    · simp [hi, hvalue]
      decide
    · simp [Operation.ofItems?, hname, Operation.field]
  | add field v =>
    have hplus : scan d.engine .blank " + ".toList = ([.lexeme (.symbol ['+'])], .blank) := by
      cases d.engine <;> rfl
    have hamount := itemsOf_column_append hcolumn hplus (by decide) (itemsOf_value v)
    have hinputs : (Assignment.add column v).fragment.inputs =
        chars (column ++ " = ") ++ (chars (column ++ " + ") ++ [.value v]) := by
      simp [Assignment.fragment, Sql.Fragment.inputs, chars_append]
    refine ⟨_, hinputs ▸ hassigned hamount, isPart_of_isPlain ?_, ?_⟩
    · simp [hi, hvalue]
      decide
    · simp [Operation.ofItems?, hname, Operation.field]
  | clear field =>
    let null : Sql.Lexeme := .word ['N', 'U', 'L', 'L']
    have hread : ItemsOf d.engine (chars "NULL") [.lexeme null] := by
      refine Sql.itemsOf_of_readChars (Eq.trans ?_ rfl) (Sql.stops_word _)
      cases d.engine <;> rfl
    have htext : " = NULL" = " = " ++ "NULL" := by decide
    have hinputs : (Assignment.clear column).fragment.inputs =
        chars (column ++ " = ") ++ chars "NULL" := by
      rw [Assignment.fragment, htext, ← String.append_assoc]
      exact (List.append_nil _).trans (chars_append _ _)
    refine ⟨_, hinputs ▸ hassigned hread, isPart_of_isPlain ?_, ?_⟩
    · simp [hi, null]
      decide
    · have hnull : (Item.lexeme null).isWord "null" = true := by decide
      simp [Operation.ofItems?, hname, hnull, Operation.field]

/-- An assignment is the one that a dialect writes for an operation. -/
def Carries (d : SqlDialect) (a : Assignment) (o : Operation) : Prop :=
  ∃ column, d.renderField o.field = .ok column ∧ a = o.assignment column

theorem exists_assignmentsOf {ops : List (Bucket × String × Value)}
    (h : ∀ op ∈ ops, ∃ column, d.renderField op.2.1 = .ok column) :
    ∃ as, Sql.assignmentsOf d ops = .ok as ∧ List.Forall₂ (Carries d) as
      (ops.filterMap fun op => Operation.ofBucket? op.1 op.2.1 op.2.2) := by
  induction ops with
  | nil => exact ⟨[], rfl, .nil⟩
  | cons op ops ih =>
    obtain ⟨b, field, v⟩ := op
    obtain ⟨⟨column, hcolumn⟩, hops⟩ := List.forall_mem_cons.1 h
    obtain ⟨as, has, hcarries⟩ := ih hops
    refine ⟨(Assignment.ofBucket? b column v).toList ++ as, ?_, ?_⟩
    · rw [Sql.assignmentsOf]
      exact bind_eq_ok.2 ⟨column, mapError_eq_ok.2 hcolumn,
        bind_eq_ok.2 ⟨as, mapError_eq_ok.2 has, rfl⟩⟩
    · cases b with
      | assign => exact .cons ⟨column, hcolumn, rfl⟩ hcarries
      | increment => exact .cons ⟨column, hcolumn, rfl⟩ hcarries
      | remove => exact .cons ⟨column, hcolumn, rfl⟩ hcarries
      | append => exact hcarries
      | detach => exact hcarries

theorem flatMap_values {as : List Assignment} {os : List Operation}
    (h : List.Forall₂ (Carries d) as os) :
    as.flatMap Assignment.values = os.flatMap Operation.operands := by
  induction h with
  | nil => rfl
  | @cons a o as os ha _ ih =>
    obtain ⟨column, -, rfl⟩ := ha
    rw [List.flatMap_cons, List.flatMap_cons, ih]
    cases o <;> rfl

theorem exists_parts {as : List Assignment} {os : List Operation}
    (h : List.Forall₂ (Carries d) as os) (hplain : ∀ o ∈ os, isPlain o.field.toList = true) :
    ∃ parts, List.Forall₂ (ItemsOf d.engine) (as.map fun a => a.fragment.inputs) parts ∧
      (∀ p ∈ parts, IsPart 0 p) ∧
      List.Forall₂ (fun p o => Operation.ofItems? p = some o) parts os := by
  induction h with
  | nil => exact ⟨[], .nil, by simp, .nil⟩
  | @cons a o as os ha _ ih =>
    obtain ⟨column, hcolumn, rfl⟩ := ha
    obtain ⟨ho, hos⟩ := List.forall_mem_cons.1 hplain
    obtain ⟨is, hitems, hpart, hsaid⟩ := ofItems?_assignment hcolumn ho
    obtain ⟨parts, hparts, hall, hrest⟩ := ih hos
    exact ⟨is :: parts, .cons hitems hparts, List.forall_mem_cons.2 ⟨hpart, hall⟩,
      .cons hsaid hrest⟩

theorem ofText?_render {ops : List (Bucket × String × Value)} {as : List Assignment}
    {os : List Operation} (has : Sql.assignmentsOf d ops = .ok as)
    (hcarries : List.Forall₂ (Carries d) as os) (hne : os ≠ [])
    (hplain : ∀ o ∈ os, isPlain o.field.toList = true) {value? : Nat → Option Value} {next : Nat}
    (hvalues : ∀ i, value? (next + i) = (Sql.assignmentsFragment as).values[i]?) :
    Operation.ofText? d value? next ((Sql.assignmentsFragment as).render d.placeholders next) =
      some os := by
  obtain ⟨parts, hparts, hall, hsaid⟩ := exists_parts hcarries hplain
  have hinputs : (Sql.assignmentsFragment as).inputs =
      (chars ", ").intercalate (as.map fun a => a.fragment.inputs) := by
    rw [Sql.assignmentsFragment, Sql.Fragment.inputs_joinWith, List.map_map]
    rfl
  have hitems : itemsFrom d.engine .blank (Sql.assignmentsFragment as).inputs =
      [Item.comma].intercalate parts := by
    rw [hinputs]
    exact (Sql.itemsOf_intercalate hparts).itemsFrom_eq
  have hparts_ne : parts ≠ [] := by
    rintro rfl
    exact hne (List.forall₂_nil_left_iff.1 hsaid)
  rw [Operation.ofText?, Sql.inputs?_render (Sql.clear_assignments has) fun i _ => hvalues i,
    Option.bind_some, hitems, Sql.splitAtCommas_intercalate hparts_ne hall]
  exact mapM_eq_some.2 hsaid

end Assignments

/-! ### Native updates -/

section Native

variable {spec : Spec}

theorem changes_eq_flatMap (spec : Spec) : spec.changes =
    spec.order.flatMap fun b =>
      (spec.items b).filterMap fun e => Operation.ofBucket? b e.1.text e.2 := by
  rw [Spec.changes, Sql.operations, List.filterMap_flatMap]
  simp only [List.filterMap_map]
  rfl

theorem mapM_underOperator? {operator : String} {es : List (Value × Value)} {os : List Operation}
    (h : List.Forall₂ (fun e o => Operation.underOperator? operator e = some o) es os) :
    Operation.ofEntry? (.str operator, .map es) = some os :=
  mapM_eq_some.2 h

theorem ofEntry?_bucketOperand {b : Bucket} (h : b ≠ .append ∧ b ≠ .detach) (spec : Spec) :
    Operation.ofEntry? (.str b.operator, Document.bucketOperand spec b) =
      some ((spec.items b).filterMap fun e => Operation.ofBucket? b e.1.text e.2) := by
  cases b with
  | assign =>
    refine mapM_underOperator? ?_
    simp [Operation.ofBucket?, Operation.underOperator?, Bucket.operator, Name.text?_value,
      List.forall₂_same]
  | increment =>
    refine mapM_underOperator? ?_
    simp [Operation.ofBucket?, Operation.underOperator?, Bucket.operator, Name.text?_value,
      List.forall₂_same]
  | remove =>
    refine mapM_underOperator? ?_
    simp [Operation.ofBucket?, Operation.underOperator?, Bucket.operator, Name.text?_value,
      List.forall₂_same, Spec.items]
  | append => exact absurd rfl h.1
  | detach => exact absurd rfl h.2

theorem exists_ofDocument? (happend : spec.append = []) (hdetach : spec.detach = [])
    (hne : spec.isEmpty = false) :
    ∃ native, Document.update spec = .ok native ∧
      Operation.ofDocument? native = some spec.changes := by
  let said (b : Bucket) : List Operation :=
    (spec.items b).filterMap fun e => Operation.ofBucket? b e.1.text e.2
  let used := spec.order.filter fun b => !(spec.items b).isEmpty
  have hused : ∀ b ∈ used, b ≠ .append ∧ b ≠ .detach := by
    intro b hb
    have hitems := (List.mem_filter.1 hb).2
    constructor
    · rintro rfl
      simp [Spec.items, happend] at hitems
    · rintro rfl
      simp [Spec.items, hdetach] at hitems
  have hsaid : (used.map said).flatten = spec.changes := by
    have hskip : ∀ bs : List Bucket,
        ((bs.filter fun b => !(spec.items b).isEmpty).map said).flatten = bs.flatMap said := by
      intro bs
      induction bs with
      | nil => rfl
      | cons b bs ih =>
        cases hb : spec.items b <;> simp [hb, ih, said]
    rw [hskip, changes_eq_flatMap]
  refine ⟨_, by rw [Document.update, hne]; rfl, ?_⟩
  rw [← hsaid]
  refine congrArg (Option.map List.flatten) (mapM_eq_some.2 ?_)
  rw [List.forall₂_map_left_iff, List.forall₂_map_left_iff, List.forall₂_map_right_iff,
    List.forall₂_same]
  exact fun b hb => ofEntry?_bucketOperand (hused b hb) spec

theorem map_field_changes (happend : spec.append = []) (hdetach : spec.detach = []) :
    spec.changes.map Operation.field = spec.order.flatMap fun b => (spec.items b).keys := by
  rw [changes_eq_flatMap, List.map_flatMap]
  congr 1
  funext b
  have htext : ∀ n : Name, Named.text n = n.text := fun _ => rfl
  cases b with
  | append => simp [Spec.items, happend, Entries.keys]
  | detach => simp [Spec.items, hdetach, Entries.keys]
  | _ => simp [Operation.ofBucket?, Operation.field, Entries.keys, htext]

end Native

/-! ### Compiled updates -/

section Compiled

variable {update : Value} {spec : Spec} {d : SqlDialect} {start : Int}

theorem fields_placed {ps : List Placement} (happend : (Spec.placed ps).append = [])
    (hdetach : (Spec.placed ps).detach = []) :
    ((Spec.placed ps).changes.map Operation.field).Nodup ∧
      ∀ field, field ∈ (Spec.placed ps).changes.map Operation.field ↔
        field ∈ (Spec.placed ps).names := by
  rw [map_field_changes happend hdetach]
  refine ⟨Spec.nodup_flatMap_keys_placed ps (Spec.nodup_order_placed ps), fun field => ?_⟩
  rw [Spec.mem_names, List.mem_flatMap]
  constructor
  · rintro ⟨b, -, hb⟩
    exact ⟨b, hb⟩
  · rintro ⟨b, hb⟩
    refine ⟨b, (settled_placed ps).mem_order b ?_, hb⟩
    intro hitems
    rw [hitems] at hb
    exact List.not_mem_nil hb

theorem isEmpty_eq_false (h : spec.names ≠ []) : spec.isEmpty = false := by
  rw [Spec.isEmpty, ← Spec.length_names]
  simpa using h

theorem compileUpdate_document (h : read update = .ok spec) (start : Int) :
    compileUpdate update .document start = (Document.update spec).map .document := by
  rw [compileUpdate, h]
  rfl

theorem compileUpdate_sql (h : read update = .ok spec) (hstart : 1 ≤ start) :
    compileUpdate update (.sql d) start =
      match Sql.assignments d spec with
      | .ok as => .ok (.sql {
          sql := (Sql.assignmentsFragment as).render d.placeholders start.toNat
          parameters := (Sql.assignmentsFragment as).values })
      | .error r => .error r.error := by
  have hcreate : Sql.Compiler.create d start = .ok { dialect := d, start := start.toNat } := by
    rw [Sql.Compiler.create, Sql.Compiler.checkStart, if_neg (by omega)]
    rfl
  let c : Sql.Compiler := { dialect := d, start := start.toNat }
  have hclause : compileUpdate update (.sql d) start =
      (c.set spec).1.bind fun sql => .ok (.sql { sql, parameters := (c.set spec).2.parameters }) := by
    rw [compileUpdate, h]
    show Compilation.clause d start _ = _
    rw [Compilation.clause, hcreate]
    rfl
  have hset : c.set spec = c.clause ((Sql.assignments d spec).map Sql.assignmentsFragment) := rfl
  rw [hclause, hset]
  cases Sql.assignments d spec <;> rfl

theorem compileUpdate_of_arrays (h : read update = .ok spec)
    (harrays : spec.append ≠ [] ∨ spec.detach ≠ []) (d : SqlDialect) (start : Int) :
    ∃ e, compileUpdate update (.sql d) start = .error e ∧
      (1 ≤ start → e = .update (.arrayChange d.name)) := by
  by_cases hstart : 1 ≤ start
  · refine ⟨_, ?_, fun _ => rfl⟩
    have hassignments : Sql.assignments d spec =
        .error { error := .update (.arrayChange d.name) } := by
      rw [Sql.assignments, Sql.checkAssignable, if_pos (by simpa using harrays)]
      rfl
    rw [compileUpdate_sql h hstart, hassignments]
  · refine ⟨.showing [.int start] (.fault (.startIndex start)), ?_, fun hle => absurd hle hstart⟩
    rw [compileUpdate, h]
    show Compilation.clause d start _ = _
    rw [Compilation.clause, Sql.Compiler.create, Sql.Compiler.checkStart, if_pos (by omega)]
    rfl

theorem exists_compileUpdate (h : read update = .ok spec) (happend : spec.append = [])
    (hdetach : spec.detach = []) (hchanges : spec.changes ≠ []) (hne : spec.names ≠ [])
    (hfields : ∀ o ∈ spec.changes, o.field ∈ spec.names)
    (hnames : ∀ field ∈ spec.names, isPlain field.toList = true ∧
      exceeds d.engine.maxIdentifierLength field.length = false) (hstart : 1 ≤ start) :
    ∃ text, compileUpdate update (.sql d) start = .ok (.sql {
        sql := text, parameters := spec.changes.flatMap Operation.operands }) ∧
      Operation.ofText? d
        (fun number => (spec.changes.flatMap Operation.operands)[number - start.toNat]?)
        start.toNat text = some spec.changes := by
  have hcolumns : ∀ op ∈ Sql.operations spec, ∃ column, d.renderField op.2.1 = .ok column := by
    intro op hop
    obtain ⟨b, -, hb⟩ := List.mem_flatMap.1 hop
    obtain ⟨e, he, rfl⟩ := List.mem_map.1 hb
    have hname := hnames _ (Spec.mem_names.2 ⟨b, List.mem_map_of_mem he⟩)
    exact SqlDialect.exists_renderField hname.1 hname.2
  obtain ⟨as, has, hcarries⟩ := exists_assignmentsOf hcolumns
  have hassignments : Sql.assignments d spec = .ok as := by
    rw [Sql.assignments, Sql.checkAssignable, happend, hdetach, isEmpty_eq_false hne]
    exact has
  have hvalues : (Sql.assignmentsFragment as).values = spec.changes.flatMap Operation.operands := by
    rw [Sql.values_assignmentsFragment]
    exact flatMap_values hcarries
  refine ⟨(Sql.assignmentsFragment as).render d.placeholders start.toNat, ?_, ?_⟩
  · rw [compileUpdate_sql h hstart, hassignments, ← hvalues]
  · refine ofText?_render has hcarries hchanges (fun o ho => (hnames _ (hfields o ho)).1)
      fun i => ?_
    rw [Nat.add_sub_cancel_left, hvalues]

/-- The assignments and the native update of the same update, read back, are the same operations in the
same order, one for each field. Changes of array elements have no assignments. -/
theorem operations_agree (h : read update = .ok spec) :
    (spec.append = [] → spec.detach = [] → spec.names ≠ [] → ∀ (d : SqlDialect) (start : Int),
      1 ≤ start →
      (∀ field ∈ spec.names, isPlain field.toList = true ∧
        exceeds d.engine.maxIdentifierLength field.length = false) →
      ∃ text parameters native operations,
        compileUpdate update (.sql d) start = .ok (.sql { sql := text, parameters }) ∧ text ≠ "" ∧
        compileUpdate update .document start = .ok (.document native) ∧
        Operation.ofText? d (fun number => parameters[number - start.toNat]?) start.toNat text =
          some operations ∧
        Operation.ofDocument? native = some operations ∧
        parameters = operations.flatMap Operation.operands ∧
        (operations.map Operation.field).Nodup ∧
        ∀ field, field ∈ operations.map Operation.field ↔ field ∈ spec.names) ∧
    (spec.append ≠ [] ∨ spec.detach ≠ [] → ∀ (d : SqlDialect) (start : Int),
      ∃ e, compileUpdate update (.sql d) start = .error e ∧
        (1 ≤ start → e = .update (.arrayChange d.name))) := by
  refine ⟨fun happend hdetach hne d start hstart hnames => ?_, compileUpdate_of_arrays h⟩
  obtain ⟨-, qs, -, rfl, -⟩ := read_eq_ok h
  obtain ⟨hnodup, hmem⟩ := fields_placed happend hdetach
  have hchanges : (Spec.placed qs).changes ≠ [] := by
    obtain ⟨field, hfield⟩ := List.exists_mem_of_ne_nil _ hne
    intro hnil
    rw [← hmem, hnil] at hfield
    exact List.not_mem_nil hfield
  obtain ⟨text, hcompiled, htext⟩ := exists_compileUpdate h happend hdetach hchanges hne
    (fun o ho => (hmem _).1 (List.mem_map_of_mem ho)) hnames hstart
  obtain ⟨native, hnative, hdocument⟩ :=
    exists_ofDocument? happend hdetach (isEmpty_eq_false hne)
  refine ⟨text, _, native, _, hcompiled, ?_, ?_, htext, hdocument, rfl, hnodup, hmem⟩
  · rintro rfl
    exact absurd htext (by simp [Operation.ofText?, inputs?, itemsFrom, Sql.Lexeme.items,
      splitAtCommas, Operation.ofItems?])
  · rw [compileUpdate_document h, hnative]
    rfl

/-- A counter that is removed in the end leaves its bucket empty behind it. -/
theorem operations_agree_of_moved :
    let update : Value := Document.mapping
      [(.plain "$inc", .map [(.str "a", .int 1)]), (.plain "$set", .map [(.str "order", .int 2)]),
        (.plain "$unset", .list [.str "a"])]
    let spec : Spec := {
      assign := [(.plain "order", .int 2)], remove := [.plain "a"]
      order := [.increment, .assign, .remove] }
    let d : SqlDialect := { engine := .postgresql }
    read update = .ok spec ∧
      compileUpdate update (.sql d) 4 =
        .ok (.sql { sql := "\"order\" = $4, a = NULL", parameters := [.int 2] }) ∧
      (∃ text parameters native operations,
        compileUpdate update (.sql d) 4 = .ok (.sql { sql := text, parameters }) ∧ text ≠ "" ∧
        compileUpdate update .document 4 = .ok (.document native) ∧
        Operation.ofText? d (fun number => parameters[number - 4]?) 4 text = some operations ∧
        Operation.ofDocument? native = some operations ∧
        parameters = operations.flatMap Operation.operands ∧
        (operations.map Operation.field).Nodup ∧
        ∀ field, field ∈ operations.map Operation.field ↔ field ∈ spec.names) ∧
      (spec.append ≠ [] ∨ spec.detach ≠ [] → ∀ (d : SqlDialect) (start : Int),
        ∃ e, compileUpdate update (.sql d) start = .error e ∧
          (1 ≤ start → e = .update (.arrayChange d.name))) := by
  intro update spec d
  have hread : read update = .ok spec := by rfl
  have hnames : ∀ field ∈ spec.names, isPlain field.toList = true ∧
      exceeds d.engine.maxIdentifierLength field.length = false := by decide
  have hagree := operations_agree hread
  exact ⟨hread, by with_unfolding_all rfl,
    hagree.1 rfl rfl (by decide) d 4 (by decide) hnames, hagree.2⟩

end Compiled

end Update

end Polystore
