import Polystore.Proofs.Identifier
import Polystore.Proofs.Plan.Convergence

/-!
# Generated names are names

Wherever a generated name is cut, an identifier stands before the underscore or nothing does, and the digest
after it is made of digits and letters. So the name is an identifier, and as long as the limit if it is cut;
and every index that gets its name in this way can be written.

Main statement: `generated_name_valid`.
-/

namespace Polystore

open Identifier (IsName isPart isPlain isStart)

namespace IndexName

variable {digest : String → List Char} {table name : String} {fields : List String} {limit : Int}

/-! ### Digests -/

/-- A digit of the hexadecimal system, in lower case. -/
def isLowerHex (c : Char) : Bool :=
  ('0' ≤ c && c ≤ '9') || ('a' ≤ c && c ≤ 'f')

/-- A function that gives forty hexadecimal digits for every text. -/
structure IsDigest (digest : String → List Char) : Prop where
  length : ∀ s, (digest s).length = 40
  digits : ∀ s, ∀ c ∈ digest s, isLowerHex c = true

theorem isPart_of_isLowerHex {c : Char} (h : isLowerHex c = true) : isPart c = true := by
  simp only [isLowerHex, Bool.or_eq_true, Bool.and_eq_true, decide_eq_true_eq] at h
  simp only [isPart, Char.isAlphanum, Char.isAlpha, Char.isLower, Char.isDigit, Bool.or_eq_true,
    Bool.and_eq_true, decide_eq_true_eq]
  rcases h with ⟨hzero, hnine⟩ | ⟨ha, hf⟩
  · exact .inl (.inr ⟨hzero, hnine⟩)
  · exact .inl (.inl (.inr ⟨ha, hf.trans (by decide)⟩))

theorem isLowerHex_of_mem_hexDigits {width n : Nat} :
    ∀ c ∈ Text.hexDigits width n, isLowerHex c = true := by
  have hdigit : ∀ n < 16, isLowerHex (Text.hexDigit n) = true := by decide
  induction width generalizing n with
  | zero => exact List.forall_mem_nil _
  | succ width ih =>
    exact List.forall_mem_append.2 ⟨ih, List.forall_mem_singleton.2 (hdigit _ (Nat.mod_lt n (by decide)))⟩

theorem isDigest_ofText : IsDigest Text.Digest.ofText where
  length := Text.Digest.length_ofText
  digits := by
    intro s c hc
    obtain ⟨word, -, hword⟩ := List.mem_flatMap.1 hc
    exact isLowerHex_of_mem_hexDigits c hword

/-! ### Names with any digest -/

/-- A name cut to a limit, an underscore, and the start of a digest of the whole name. -/
def shortenBy (digest : String → List Char) (limit : Int) (name : String) : String :=
  let suffix := (digest name).take digestLength
  String.ofList (before (limit - suffix.length - 1) name.toList ++ '_' :: suffix)

/-- The name of an index, with any digest in place of SHA-1. -/
def generateBy (digest : String → List Char) (table : String) (fields : List String) (limit : Int) :
    String :=
  let name := full table fields
  if limit ≠ 0 ∧ (name.length : Int) > limit then shortenBy digest limit name else name

theorem generate_eq_generateBy : generate table fields limit =
    generateBy Text.Digest.ofText table fields limit := rfl

/-- The whole name of an index keeps the limit, or there is none. -/
def Fits (limit : Int) (table : String) (fields : List String) : Prop :=
  limit = 0 ∨ ((full table fields).length : Int) ≤ limit

theorem generateBy_of_fits (h : Fits limit table fields) :
    generateBy digest table fields limit = full table fields := by
  refine if_neg fun hlong => ?_
  rcases h with h | h
  · exact hlong.1 h
  · exact absurd hlong.2 (not_lt.2 h)

theorem generateBy_of_not_fits (h : ¬Fits limit table fields) :
    generateBy digest table fields limit = shortenBy digest limit (full table fields) := by
  obtain ⟨hlimit, hlong⟩ := not_or.1 h
  exact if_pos ⟨hlimit, not_le.1 hlong⟩

/-- With room for the digest, a cut name is the start of the whole name, an underscore and eight digits. -/
theorem shortenBy_eq (hdigest : IsDigest digest) (h : 9 ≤ limit) (name : String) :
    ∃ suffix : List Char, suffix.length = 8 ∧ (∀ c ∈ suffix, isLowerHex c = true) ∧
    shortenBy digest limit name =
      String.ofList (name.toList.take (limit - 9).toNat ++ '_' :: suffix) := by
  have hlength : ((digest name).take digestLength).length = 8 := by
    rw [List.length_take, hdigest.length]
    rfl
  refine ⟨_, hlength, fun c hc => hdigest.digits name c (List.mem_of_mem_take hc), ?_⟩
  have hposition : limit - (8 : Nat) - 1 = limit - 9 := by omega
  rw [shortenBy, hlength, before, hposition, if_pos (by omega)]

theorem length_shortenBy (hdigest : IsDigest digest) (h : 9 ≤ limit) (hlong : limit < name.length) :
    ((shortenBy digest limit name).length : Int) = limit := by
  obtain ⟨suffix, hlength, -, heq⟩ := shortenBy_eq hdigest h name
  rw [heq, String.length_ofList, List.length_append, List.length_take, List.length_cons, hlength,
    String.length_toList]
  omega

/-! ### Identifiers -/

theorem isPart_of_mem_intercalate {parts : List String}
    (h : ∀ part ∈ parts, ∀ c ∈ part.toList, isPart c = true) :
    ∀ c ∈ ("_".intercalate parts).toList, isPart c = true := by
  induction parts with
  | nil => exact List.forall_mem_nil _
  | cons part parts ih =>
    obtain ⟨hpart, hparts⟩ := List.forall_mem_cons.1 h
    cases parts with
    | nil => rwa [String.intercalate_singleton]
    | cons next parts =>
      rw [String.intercalate_cons_cons, String.toList_append, String.toList_append]
      exact List.forall_mem_append.2
        ⟨List.forall_mem_append.2 ⟨hpart, List.forall_mem_singleton.2 (by decide)⟩, ih hparts⟩

theorem isPlain_full (h : ∀ part ∈ table :: fields, isPlain part.toList = true) :
    isPlain (full table fields).toList = true := by
  have hfull : full table fields = "idx" ++ "_" ++ "_".intercalate (table :: fields) :=
    String.intercalate_cons_cons
  have hopening : ("idx" ++ "_").toList = 'i' :: ['d', 'x', '_'] := by decide
  have hmiddle : ∀ c ∈ ['d', 'x', '_'], isPart c = true := List.all_eq_true.1 (by decide)
  have hrest := isPart_of_mem_intercalate fun part hpart => Identifier.isPart_of_isPlain (h part hpart)
  rw [hfull, String.toList_append, hopening]
  exact List.all_eq_true.2 (List.forall_mem_append.2 ⟨hmiddle, hrest⟩)

theorem isPlain_take_append {cs suffix : List Char} (hcs : isPlain cs = true)
    (hsuffix : ∀ c ∈ suffix, isPart c = true) (n : Nat) :
    isPlain (cs.take n ++ '_' :: suffix) = true := by
  obtain ⟨c, rest, rfl, hstart, hrest⟩ := Identifier.eq_cons_of_isPlain hcs
  have hcut : ∀ x ∈ '_' :: suffix, isPart x = true := List.forall_mem_cons.2 ⟨by decide, hsuffix⟩
  cases n with
  -- Nothing is left of the identifier, and the underscore starts the name.
  | zero => exact List.all_eq_true.2 hsuffix
  | succ n =>
    rw [List.take_succ_cons, List.cons_append, isPlain, hstart, Bool.true_and, List.all_eq_true]
    exact List.forall_mem_append.2 ⟨fun x hx => hrest x (List.mem_of_mem_take hx), hcut⟩

theorem isPlain_generateBy (hdigest : IsDigest digest) (hlimit : limit = 0 ∨ 9 ≤ limit)
    (h : ∀ part ∈ table :: fields, isPlain part.toList = true) :
    isPlain (generateBy digest table fields limit).toList = true := by
  by_cases hfits : Fits limit table fields
  · rw [generateBy_of_fits hfits]
    exact isPlain_full h
  · have hroom : 9 ≤ limit := hlimit.resolve_left fun hzero => hfits (.inl hzero)
    obtain ⟨suffix, -, hdigits, heq⟩ := shortenBy_eq hdigest hroom (full table fields)
    rw [generateBy_of_not_fits hfits, heq, String.toList_ofList]
    exact isPlain_take_append (isPlain_full h) (fun c hc => isPart_of_isLowerHex (hdigits c hc)) _

theorem length_generateBy (hdigest : IsDigest digest) (hlimit : limit = 0 ∨ 9 ≤ limit)
    (h : ¬Fits limit table fields) : ((generateBy digest table fields limit).length : Int) = limit := by
  obtain ⟨hzero, hlong⟩ := not_or.1 h
  rw [generateBy_of_not_fits h]
  exact length_shortenBy hdigest (hlimit.resolve_left hzero) (not_le.1 hlong)

theorem exceeds_generateBy (hdigest : IsDigest digest) (hlimit : limit = 0 ∨ 9 ≤ limit) :
    Identifier.exceeds limit (generateBy digest table fields limit).length = false := by
  rw [Identifier.exceeds, Bool.and_eq_false_iff, bne_eq_false_iff_eq, decide_eq_false_iff_not, not_lt]
  by_cases hfits : Fits limit table fields
  · rwa [generateBy_of_fits hfits]
  · exact .inr (length_generateBy hdigest hlimit hfits).le

end IndexName

/-! ### Statements -/

theorem Ddl.exists_render_createIndex {d : SqlDialect} {table name : String}
    {fields : List (String × Int)} (htable : IsName d.engine.maxIdentifierLength table)
    (hname : d.validateName name = .ok ())
    (hfields : ∀ f ∈ fields, IsName d.engine.maxIdentifierLength f.1) (unique : Value) :
    ∃ sql, render d table (.createIndex name fields unique) = .ok [sql] := by
  have hcolumn : ∀ f ∈ fields, ∃ column, indexField d f = .ok column := by
    intro f hf
    obtain ⟨column, hcolumn⟩ := SqlDialect.exists_renderField (hfields f hf).plain
      (Identifier.exceeds_eq_false_iff.2 (hfields f hf).within)
    exact ⟨_, bind_eq_ok.2 ⟨column, hcolumn, rfl⟩⟩
  obtain ⟨columns, hcolumns⟩ := exists_mapM_eq_ok.2 hcolumn
  have hvalid : d.validateName table = .ok () := Identifier.validate_eq_ok_iff.2 (.inl htable)
  exact ⟨_, bind_eq_ok.2 ⟨_, bind_eq_ok.2 ⟨_, SqlDialect.quoteValid_eq_ok.2 ⟨hname, rfl⟩,
    bind_eq_ok.2 ⟨_, SqlDialect.quoteValid_eq_ok.2 ⟨hvalid, rfl⟩,
      bind_eq_ok.2 ⟨columns, hcolumns, rfl⟩⟩⟩, rfl⟩⟩

namespace Plan

variable {d : SqlDialect} {shape : TableShape} {limit : Int} {w : Wanted}

/-- A shape that passes its check and whose names a dialect accepts as identifiers. -/
structure NamesAccepted (d : SqlDialect) (shape : TableShape) : Prop where
  check : shape.check = .ok shape
  names : ∀ name ∈ shape.name :: shape.primaryKey :: shape.fields.keys,
    IsName d.engine.maxIdentifierLength name

/-- An index that a shape asks for without giving it a name. -/
inductive Unnamed (shape : TableShape) (limit : Int) : Wanted → Prop where
  | field {w : Wanted} (h : w ∈ fieldIndexes shape limit) : Unnamed shape limit w
  | table {i : Index} (h : i ∈ shape.indexes) (hname : i.name.getD "" = "") :
      Unnamed shape limit ⟨indexName shape.name i limit, i.fields, i.unique⟩

theorem Unnamed.mem_wanted (h : Unnamed shape limit w) : w ∈ wanted shape limit := by
  cases h with
  | field h => exact List.mem_append_left _ h
  | table h => exact List.mem_append_right _ (mem_tableIndexes_iff.2 ⟨_, h, rfl⟩)

theorem Unnamed.name_eq (h : Unnamed shape limit w) :
    w.name = IndexName.generate shape.name (w.fields.map Prod.fst) limit := by
  cases h with
  | field h =>
    obtain ⟨name, f, -, -, -, rfl⟩ := mem_fieldIndexes_iff.1 h
    rfl
  | table _ hname => exact indexName_of_unnamed hname _ _

theorem NamesAccepted.field (h : NamesAccepted d shape) (hw : w ∈ wanted shape limit) :
    ∀ f ∈ w.fields, IsName d.engine.maxIdentifierLength f.1 := by
  intro f hf
  refine h.names f.1 (List.mem_cons_of_mem _ ?_)
  rcases mem_keys_of_mem_wanted h.check hw hf with hkey | hkey
  · exact List.mem_cons_of_mem _ hkey
  · exact List.mem_cons.2 (.inl hkey)

theorem maxIdentifierLength_room (e : Engine) :
    (e.maxIdentifierLength : Int) = 0 ∨ 9 ≤ (e.maxIdentifierLength : Int) := by
  cases e <;> decide

theorem NamesAccepted.exists_render (h : NamesAccepted d shape)
    (hw : Unnamed shape d.engine.maxIdentifierLength w) :
    ∃ sql, Ddl.render d shape.name w.change = .ok [sql] := by
  have hfields := h.field hw.mem_wanted
  have htable := h.names _ List.mem_cons_self
  have hparts : ∀ part ∈ shape.name :: w.fields.map Prod.fst, isPlain part.toList = true :=
    List.forall_mem_cons.2 ⟨htable.plain, List.forall_mem_map.2 fun f hf => (hfields f hf).plain⟩
  refine Ddl.exists_render_createIndex htable ?_ hfields w.unique
  have hroom := maxIdentifierLength_room d.engine
  rw [hw.name_eq, IndexName.generate_eq_generateBy]
  exact Identifier.validate_eq_ok.2 ⟨IndexName.exceeds_generateBy IndexName.isDigest_ofText hroom,
    Identifier.matchesForm_of_isPlain (IndexName.isPlain_generateBy IndexName.isDigest_ofText hroom hparts)⟩

end Plan

open IndexName in
/-- Whatever function to forty hexadecimal digits the digest is, and SHA-1 is one: a generated name is
accepted within the limit, is the whole name if that fits, and is as long as the limit otherwise. So a
dialect that accepts the names of a shape can write every planned index that the shape gives no name. -/
theorem generated_name_valid :
    (∀ digest, IsDigest digest → ∀ (table : String) (fields : List String) (limit : Int),
      (∀ part ∈ table :: fields, isPlain part.toList = true) → limit = 0 ∨ 9 ≤ limit →
      Identifier.validate limit (generateBy digest table fields limit) = .ok () ∧
      (Fits limit table fields → generateBy digest table fields limit = full table fields) ∧
      (¬Fits limit table fields → ((generateBy digest table fields limit).length : Int) = limit)) ∧
    (IsDigest Text.Digest.ofText ∧ ∀ table fields limit,
      generate table fields limit = generateBy Text.Digest.ofText table fields limit) ∧
    ∀ (d : SqlDialect) (shape : TableShape) (existing : ExistingTable), Plan.NamesAccepted d shape →
      ∀ w, Plan.Unnamed shape d.engine.maxIdentifierLength w →
        w.change ∈ Plan.indexChanges shape existing d.engine.maxIdentifierLength →
        w.name = generate shape.name (w.fields.map Prod.fst) d.engine.maxIdentifierLength ∧
        ∃ sql, Ddl.render d shape.name w.change = .ok [sql] := by
  refine ⟨fun digest hdigest table fields limit hparts hlimit => ⟨?_, generateBy_of_fits,
    length_generateBy hdigest hlimit⟩, ⟨isDigest_ofText, fun _ _ _ => generate_eq_generateBy⟩, ?_⟩
  · exact Identifier.validate_eq_ok.2 ⟨exceeds_generateBy hdigest hlimit,
      Identifier.matchesForm_of_isPlain (isPlain_generateBy hdigest hlimit hparts)⟩
  · intro d shape existing h w hw _
    exact ⟨hw.name_eq, h.exists_render hw⟩

/-- A table with an index whose whole name is too long for PostgreSQL. -/
def stations : TableShape where
  name := "measurements"
  fields := [("temperature_at_the_northern_station", { type := .number }),
    ("humidity_at_the_northern_station", { type := .number })]
  indexes := [{ fields := [("temperature_at_the_northern_station", 1),
    ("humidity_at_the_northern_station", -1)] }]

/-- Its name is cut to 63 characters, and the index can be written. -/
theorem generated_name_valid_of_stations : ∃ w : Plan.Wanted,
    Plan.NamesAccepted { engine := .postgresql } stations ∧ Plan.Unnamed stations 63 w ∧
    w.change ∈ Plan.indexChanges stations .absent 63 ∧ w.name.length = 63 ∧
    ∃ sql, Ddl.render { engine := .postgresql } "measurements" w.change = .ok [sql] := by
  have hnames : Plan.NamesAccepted { engine := .postgresql } stations := by
    have hall : ∀ name ∈ stations.name :: stations.primaryKey :: stations.fields.keys,
        isPlain name.toList = true ∧ name.length ≤ 63 := by decide
    exact ⟨by rfl, fun name hname => ⟨(hall name hname).1, .inr (hall name hname).2⟩⟩
  let fields := [("temperature_at_the_northern_station", (1 : Int)),
    ("humidity_at_the_northern_station", -1)]
  let w : Plan.Wanted := ⟨Plan.indexName "measurements" { fields } 63, fields, .bool false⟩
  have hunnamed : Plan.Unnamed stations 63 w := .table List.mem_cons_self rfl
  have hleads : Plan.Leads (Plan.wanted stations 63) w :=
    List.find?_cons_of_pos (l := []) (beq_self_eq_true w.name)
  have hplanned : w.change ∈ Plan.indexChanges stations .absent 63 :=
    Plan.mem_indexChanges_iff.2 ⟨w, hleads, rfl, rfl⟩
  obtain ⟨hcut, ⟨hdigest, hsame⟩, hplans⟩ := generated_name_valid
  obtain ⟨hname, hrender⟩ := hplans { engine := .postgresql } stations .absent hnames w hunnamed hplanned
  have hlong : ¬IndexName.Fits 63 "measurements" (fields.map Prod.fst) := not_or.2 (by decide)
  have hlength := (hcut _ hdigest "measurements" (fields.map Prod.fst) 63 (by decide) (.inr (by decide))).2.2
    hlong
  rw [← hsame] at hlength
  exact ⟨w, hnames, hunnamed, hplanned, hname ▸ Int.ofNat_inj.1 hlength, hrender⟩

end Polystore
