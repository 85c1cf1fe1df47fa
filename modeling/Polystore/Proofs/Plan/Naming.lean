import Polystore.Proofs.Plan.Generated

/-!
# Names that generated indexes share

A generated name joins a table and its fields by underscores, which may stand inside each of them as well.
So two indexes have one name exactly if they have the same pieces between underscores; and where all tables
share the names of indexes, a statement that creates an index unless its name is taken skips the index
exactly if an earlier one has its pieces.

Main statements: `generate_eq_iff_pieces`, and `not_generate_injective` for two tables whose indexes share
a name.
-/

namespace Polystore.IndexName

open Identifier (isPlain unquote)

variable {table table' : String} {fields fields' : List String} {limit : Int}

/-! ### Pieces -/

/-- What stands between the underscores of some texts, in whichever text. -/
def pieces (parts : List String) : List (List Char) :=
  parts.flatMap fun part => part.toList.splitOn '_'

theorem splitOn_intercalate (part : String) (parts : List String) :
    ("_".intercalate (part :: parts)).toList.splitOn '_' = pieces (part :: parts) := by
  induction parts generalizing part with
  | nil =>
    rw [String.intercalate_singleton]
    exact (List.flatMap_singleton _ _).symm
  | cons next parts ih =>
    have hjoined : ("_".intercalate (part :: next :: parts)).toList =
        part.toList ++ '_' :: ("_".intercalate (next :: parts)).toList := by
      rw [String.intercalate_cons_cons, String.toList_append, String.toList_append, List.append_assoc]
      rfl
    rw [hjoined, List.splitOn, List.splitOnP_append_cons _ _ (by simp)]
    exact congrArg _ (ih next)

theorem full_eq_iff : full table fields = full table' fields' ↔
    pieces (table :: fields) = pieces (table' :: fields') := by
  have hsplit : ∀ t fs, (full t fs).toList.splitOn '_' = "idx".toList :: pieces (t :: fs) :=
    fun t fs => splitOn_intercalate "idx" (t :: fs)
  constructor
  · intro h
    have hpieces := congrArg (fun name => name.toList.splitOn '_') h
    rw [hsplit, hsplit] at hpieces
    exact (List.cons.inj hpieces).2
  · intro h
    have hjoin : ∀ t fs, ['_'].intercalate ("idx".toList :: pieces (t :: fs)) = (full t fs).toList :=
      fun t fs => hsplit t fs ▸ List.intercalate_splitOn '_'
    rw [← String.toList_inj, ← hjoin, h, hjoin]

theorem pieces_of_not_mem {parts : List String} (h : ∀ part ∈ parts, '_' ∉ part.toList) :
    pieces parts = parts.map String.toList := by
  have hone : ∀ part ∈ parts, part.toList.splitOn '_' = [part.toList] := by
    intro part hpart
    have hsplit : (['_'].intercalate [part.toList]).splitOn '_' = [part.toList] :=
      List.splitOn_intercalate '_' (List.forall_mem_singleton.2 (h part hpart)) (List.cons_ne_nil _ _)
    rwa [List.intercalate_singleton] at hsplit
  rw [pieces, List.flatMap_congr hone]
  exact List.map_eq_flatMap.symm

theorem generate_of_fits (h : Fits limit table fields) : generate table fields limit = full table fields :=
  generateBy_of_fits h

/-! ### Statements -/

/-- An index over fields of a table, each in one direction. -/
structure Declared where
  table : String
  fields : List (String × Int)
  unique : Bool := false

namespace Declared

/-- The texts that its name is made of. -/
def parts (i : Declared) : List String :=
  i.table :: i.fields.map Prod.fst

def name (i : Declared) (limit : Int) : String :=
  generate i.table (i.fields.map Prod.fst) limit

/-- A statement creates the index under its whole name. -/
structure Writes (d : SqlDialect) (limit : Int) (i : Declared) (sql : String) : Prop where
  fits : Fits limit i.table (i.fields.map Prod.fst)
  written : Ddl.createIndex d i.table (i.name limit) i.fields i.unique = .ok sql

end Declared

/-- The name of the index that a statement creates unless there is one of that name. -/
def conditionalName? (mark : Char) (sql : String) : Option (List Char) :=
  (["CREATE INDEX IF NOT EXISTS ", "CREATE UNIQUE INDEX IF NOT EXISTS "].findSome? fun opening =>
    sql.toList.dropPrefix? opening.toList).bind fun rest => (unquote mark rest).map Prod.fst

/-- The indexes that a store has built, with the statement that built each of them. All tables share their
names; a statement for a name that is taken is skipped. -/
def build (mark : Char) (built : List (List Char × String)) (sql : String) : List (List Char × String) :=
  match conditionalName? mark sql with
  | none => built
  | some name => if name ∈ built.map Prod.fst then built else built ++ [(name, sql)]

/-- What an empty store has built after some statements. -/
def builtBy (mark : Char) (statements : List String) : List (List Char × String) :=
  statements.foldl (build mark) []

/-! ### Which indexes are built -/

section Built

variable {d : SqlDialect} {i : Declared} {sql : String} {mark : Char}

theorem conditionalName?_append {name rest : List Char} (unique : Bool) (h : rest.head? ≠ some mark)
    (hsql : sql.toList = (if unique then "CREATE UNIQUE INDEX IF NOT EXISTS " else
      "CREATE INDEX IF NOT EXISTS ").toList ++ (Identifier.quoted mark name ++ rest)) :
    conditionalName? mark sql = some name := by
  have hdrop : ∀ p s : List Char, (p ++ s).dropPrefix? p = some s := fun p s =>
    List.dropPrefix?_eq_some_iff.2 ⟨p, rfl, beq_self_eq_true p⟩
  have hopened : (["CREATE INDEX IF NOT EXISTS ", "CREATE UNIQUE INDEX IF NOT EXISTS "].findSome?
      fun opening => sql.toList.dropPrefix? opening.toList) =
        some (Identifier.quoted mark name ++ rest) := by
    rw [hsql]
    cases unique with
    | false => rw [if_neg Bool.false_ne_true, List.findSome?_cons, hdrop]
    | true =>
      have hother : ("CREATE UNIQUE INDEX IF NOT EXISTS ".toList ++
          (Identifier.quoted mark name ++ rest)).dropPrefix? "CREATE INDEX IF NOT EXISTS ".toList =
            none := rfl
      rw [if_pos rfl, List.findSome?_cons, hother, List.findSome?_cons, hdrop]
  rw [conditionalName?, hopened, Option.bind_some, Identifier.unquote_quoted mark name rest h]
  rfl

theorem Declared.Writes.asks (hconditional : d.engine.hasConditionalIndex = true)
    (h : i.Writes d limit sql) :
    conditionalName? d.engine.quoteMark sql = some (i.name limit).toList := by
  obtain ⟨index, hindex, hsql⟩ := bind_eq_ok.1 h.written
  obtain ⟨target, -, hsql⟩ := bind_eq_ok.1 hsql
  obtain ⟨columns, -, hsql⟩ := bind_eq_ok.1 hsql
  rw [hconditional, if_pos rfl, pure_eq_ok] at hsql
  obtain ⟨-, rfl⟩ := SqlDialect.quoteValid_eq_ok.1 hindex
  let rest : List Char := ' ' :: ("ON " ++ target ++ " (" ++ ", ".intercalate columns ++ ")").toList
  have hblank : ' ' ≠ d.engine.quoteMark := by cases d.engine <;> decide
  have hrest : rest.head? ≠ some d.engine.quoteMark := fun h => hblank (Option.some.inj h)
  refine conditionalName?_append i.unique hrest ?_
  rw [← hsql]
  cases i.unique <;> simp [rest]

section Step

variable {name : List Char} {built : List (List Char × String)}

theorem build_of_taken (h : conditionalName? mark sql = some name) (htaken : name ∈ built.map Prod.fst) :
    build mark built sql = built := by
  rw [build, h]
  exact if_pos htaken

theorem build_of_free (h : conditionalName? mark sql = some name) (hfree : name ∉ built.map Prod.fst) :
    build mark built sql = built ++ [(name, sql)] := by
  rw [build, h]
  exact if_neg hfree

theorem build_eq_self_iff (h : conditionalName? mark sql = some name) :
    build mark built sql = built ↔ name ∈ built.map Prod.fst := by
  refine ⟨fun hself => ?_, build_of_taken h⟩
  by_contra hfree
  rw [build_of_free h hfree] at hself
  exact absurd (congrArg List.length hself) (by simp)

theorem mem_names_build : name ∈ (build mark built sql).map Prod.fst ↔
    name ∈ built.map Prod.fst ∨ conditionalName? mark sql = some name := by
  cases hasked : conditionalName? mark sql with
  | none =>
    rw [build, hasked]
    simp
  | some asked =>
    by_cases htaken : asked ∈ built.map Prod.fst
    · rw [build_of_taken hasked htaken, Option.some_inj]
      exact (or_iff_left_of_imp fun heq => heq ▸ htaken).symm
    · rw [build_of_free hasked htaken, List.map_append, List.mem_append, List.map_singleton,
        List.mem_singleton, Option.some_inj, eq_comm (a := asked)]

theorem mem_names_foldl_build {statements : List String} :
    name ∈ (statements.foldl (build mark) built).map Prod.fst ↔
      name ∈ built.map Prod.fst ∨ ∃ sql ∈ statements, conditionalName? mark sql = some name := by
  induction statements generalizing built with
  | nil => simp
  | cons sql statements ih =>
    rw [List.foldl_cons, ih, mem_names_build, or_assoc, List.exists_mem_cons_iff]

end Step

theorem skipped_iff_exists_name (hconditional : d.engine.hasConditionalIndex = true)
    {earlier : List (Declared × String)} (hearlier : ∀ p ∈ earlier, p.1.Writes d limit p.2)
    (h : i.Writes d limit sql) :
    build d.engine.quoteMark (builtBy d.engine.quoteMark (earlier.map Prod.snd)) sql =
        builtBy d.engine.quoteMark (earlier.map Prod.snd) ↔
      ∃ p ∈ earlier, p.1.name limit = i.name limit := by
  rw [build_eq_self_iff (h.asks hconditional), builtBy, mem_names_foldl_build]
  constructor
  · rintro (hnil | ⟨other, hother, hasked⟩)
    · exact absurd hnil List.not_mem_nil
    · obtain ⟨p, hp, rfl⟩ := List.mem_map.1 hother
      rw [(hearlier p hp).asks hconditional, Option.some_inj, String.toList_inj] at hasked
      exact ⟨p, hp, hasked⟩
  · rintro ⟨p, hp, hname⟩
    refine .inr ⟨p.2, List.mem_map_of_mem hp, ?_⟩
    rw [(hearlier p hp).asks hconditional, hname]

end Built

/-- Indexes whose names are whole have one name exactly if their tables and fields have the same pieces
between underscores; so different names go with different indexes as long as nothing holds an underscore.
Where an index is created unless its name is taken, and all tables share the names, an index is skipped
exactly if an earlier one has its pieces. -/
theorem generate_eq_iff_pieces (limit : Int) :
    (∀ table fields table' fields', Fits limit table fields → Fits limit table' fields' →
      (generate table fields limit = generate table' fields' limit ↔
        pieces (table :: fields) = pieces (table' :: fields')) ∧
      ((∀ part ∈ table :: fields, '_' ∉ part.toList) →
        (∀ part ∈ table' :: fields', '_' ∉ part.toList) →
        generate table fields limit = generate table' fields' limit →
        table = table' ∧ fields = fields')) ∧
    ∀ d : SqlDialect, d.engine.hasConditionalIndex = true →
      ∀ (earlier : List (Declared × String)) (i : Declared) (sql : String),
        (∀ p ∈ earlier, p.1.Writes d limit p.2) → i.Writes d limit sql →
        (build d.engine.quoteMark (builtBy d.engine.quoteMark (earlier.map Prod.snd)) sql =
            builtBy d.engine.quoteMark (earlier.map Prod.snd) ↔
          ∃ p ∈ earlier, pieces p.1.parts = pieces i.parts) := by
  have hnames : ∀ table fields table' fields', Fits limit table fields → Fits limit table' fields' →
      (generate table fields limit = generate table' fields' limit ↔
        pieces (table :: fields) = pieces (table' :: fields')) := by
    intro table fields table' fields' h h'
    rw [generate_of_fits h, generate_of_fits h', full_eq_iff]
  refine ⟨fun table fields table' fields' h h' => ⟨hnames _ _ _ _ h h', fun hwhole hwhole' heq => ?_⟩, ?_⟩
  · have hpieces := (hnames _ _ _ _ h h').1 heq
    rw [pieces_of_not_mem hwhole, pieces_of_not_mem hwhole'] at hpieces
    exact List.cons.inj (List.map_injective_iff.2 (fun _ _ => String.toList_inj.1) hpieces)
  · intro d hconditional earlier i sql hearlier hi
    rw [skipped_iff_exists_name hconditional hearlier hi]
    refine exists_congr fun p => and_congr_right fun hp => ?_
    exact hnames _ _ _ _ (hearlier p hp).fits hi.fits

/-- Two indexes of one table. -/
def byEmail : Declared where
  table := "users"
  fields := [("email", 1)]
  unique := true

def byAge : Declared where
  table := "users"
  fields := [("age", -1)]

/-- They have different names, and the second one is built after the first. -/
theorem generate_eq_iff_pieces_of_users :
    Fits 63 "users" ["email"] ∧ Fits 63 "users" ["age"] ∧
    generate "users" ["email"] 63 ≠ generate "users" ["age"] 63 ∧
    ∃ first second, byEmail.Writes { engine := .postgresql } 63 first ∧
      byAge.Writes { engine := .postgresql } 63 second ∧
      build '"' (builtBy '"' [first]) second ≠ builtBy '"' [first] := by
  have hemail : Fits 63 "users" ["email"] := .inr (by decide)
  have hage : Fits 63 "users" ["age"] := .inr (by decide)
  have hpieces : pieces ["users", "email"] ≠ pieces ["users", "age"] := by decide
  obtain ⟨hnames, hbuilt⟩ := generate_eq_iff_pieces 63
  refine ⟨hemail, hage, fun heq => hpieces ((hnames _ _ _ _ hemail hage).1.1 heq), ?_⟩
  have hfirst : byEmail.Writes { engine := .postgresql } 63
      "CREATE UNIQUE INDEX IF NOT EXISTS \"idx_users_email\" ON \"users\" (email)" :=
    ⟨hemail, by rfl⟩
  have hsecond : byAge.Writes { engine := .postgresql } 63
      "CREATE INDEX IF NOT EXISTS \"idx_users_age\" ON \"users\" (age DESC)" := ⟨hage, by rfl⟩
  refine ⟨_, _, hfirst, hsecond, fun hskipped => ?_⟩
  obtain ⟨p, hp, heq⟩ := (hbuilt { engine := .postgresql } rfl [(byEmail, _)] byAge _
    (List.forall_mem_singleton.2 hfirst) hsecond).1 hskipped
  rw [List.mem_singleton.1 hp] at heq
  exact hpieces heq

/-! ### Two indexes of one name -/

/-- An index over one field, and one over two fields of another table. -/
def single : Declared where
  table := "a_b"
  fields := [("c", 1)]

def double : Declared where
  table := "a"
  fields := [("b", 1), ("c", 1)]

/-- Different tables and fields of plain names can give one name, and then the second index is skipped. -/
theorem not_generate_injective :
    (¬∀ (table table' : String) (fields fields' : List String) (limit : Int),
      isPlain table.toList → isPlain table'.toList → (∀ f ∈ fields, isPlain f.toList) →
      (∀ f ∈ fields', isPlain f.toList) → fields ≠ [] → fields' ≠ [] →
      Fits limit table fields → Fits limit table' fields' → table ≠ table' ∨ fields ≠ fields' →
      generate table fields limit ≠ generate table' fields' limit) ∧
    ∃ first second, single.Writes { engine := .sqlite } 0 first ∧
      double.Writes { engine := .sqlite } 0 second ∧
      builtBy '"' [first, second] = [("idx_a_b_c".toList, first)] := by
  refine ⟨fun h => ?_, ?_⟩
  · exact h "a_b" "a" ["c"] ["b", "c"] 0 (by decide) (by decide) (by decide) (by decide) (by decide)
      (by decide) (.inl rfl) (.inl rfl) (.inl (by decide)) (by rfl)
  · exact ⟨"CREATE INDEX IF NOT EXISTS \"idx_a_b_c\" ON \"a_b\" (c)",
      "CREATE INDEX IF NOT EXISTS \"idx_a_b_c\" ON \"a\" (b, c)", ⟨.inl rfl, by rfl⟩, ⟨.inl rfl, by rfl⟩,
      by rfl⟩

end Polystore.IndexName
