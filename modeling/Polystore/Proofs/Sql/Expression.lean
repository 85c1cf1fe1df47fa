import Polystore.Proofs.Filter.Meaning

/-!
# Boolean expressions of SQL and their truth

The expressions that a condition of SQL is read as, with the three truth values of SQL. A comparison with
null is unknown, and the connectives are those of Kleene.
-/

namespace Polystore.Sql

/-- A truth value of SQL. -/
inductive Truth where
  | holds
  | fails
  | unknown
  deriving DecidableEq, Repr

namespace Truth

def ofBool (b : Bool) : Truth :=
  if b then holds else fails

def not : Truth → Truth
  | holds => fails
  | fails => holds
  | unknown => unknown

def and : Truth → Truth → Truth
  | fails, _ => fails
  | _, fails => fails
  | holds, holds => holds
  | _, _ => unknown

def or : Truth → Truth → Truth
  | holds, _ => holds
  | _, holds => holds
  | fails, fails => fails
  | _, _ => unknown

/-- The conjunction of a list. -/
def all (ts : List Truth) : Truth :=
  ts.foldr and holds

/-- The disjunction of a list. -/
def any (ts : List Truth) : Truth :=
  ts.foldr or fails

@[simp] theorem ofBool_eq_holds {b : Bool} : ofBool b = holds ↔ b = true := by
  cases b <;> simp [ofBool]

@[simp] theorem ofBool_eq_fails {b : Bool} : ofBool b = fails ↔ b = false := by
  cases b <;> simp [ofBool]

@[simp] theorem not_eq_holds {t : Truth} : t.not = holds ↔ t = fails := by
  cases t <;> simp [not]

@[simp] theorem and_eq_holds {t u : Truth} : t.and u = holds ↔ t = holds ∧ u = holds := by
  cases t <;> cases u <;> simp [and]

@[simp] theorem or_eq_holds {t u : Truth} : t.or u = holds ↔ t = holds ∨ u = holds := by
  cases t <;> cases u <;> simp [or]

@[simp] theorem or_eq_fails {t u : Truth} : t.or u = fails ↔ t = fails ∧ u = fails := by
  cases t <;> cases u <;> simp [or]

theorem all_eq_holds {ts : List Truth} : all ts = holds ↔ ∀ t ∈ ts, t = holds := by
  induction ts with
  | nil => simp [all]
  | cons t ts ih => simpa [all] using fun _ => ih

theorem any_eq_holds {ts : List Truth} : any ts = holds ↔ ∃ t ∈ ts, t = holds := by
  induction ts with
  | nil => simp [any]
  | cons t ts ih =>
    rw [any, List.foldr_cons, or_eq_holds, ← any, ih]
    simp [eq_comm]

theorem any_eq_fails {ts : List Truth} : any ts = fails ↔ ∀ t ∈ ts, t = fails := by
  induction ts with
  | nil => simp [any]
  | cons t ts ih => simpa [any] using fun _ => ih

end Truth

/-- A boolean expression of SQL, with values in place of its placeholders. -/
inductive Expr where
  | equal (left right : Nat)
  | nullTest (column : String) (isNull : Bool)
  | compare (column : String) (op : Comparison) (operand : Value)
  | membership (column : String) (negated : Bool) (candidates : List Value)
  /-- A match with a pattern, on both sides in lower case or as they are, with the character that a
  clause names as the escape. -/
  | like (column : String) (lowered : Bool) (pattern : Value) (escape : Option Char)
  | all (parts : List Expr)
  | any (parts : List Expr)
  deriving Repr

/-- The escape of the pattern for a text. -/
def escapeOf (content : String) : Option Char :=
  if Substring.needsEscape content then some '\\' else none

namespace Expr

/-- The comparison of two values. -/
def compareValues (m : Interpretation) (op : Comparison) (v w : Value) : Truth :=
  if v.isNull || w.isNull then .unknown else .ofBool (m.compare op v w)

/-- The escape that a pattern is read with. -/
def escapeRead (m : Interpretation) (escape : Option Char) : Option Char :=
  match escape with
  | some c => some c
  | none => if m.backslashEscapes then some '\\' else none

/-- The match of a value with a pattern. -/
def likeValues (m : Interpretation) (lowered : Bool) (escape : Option Char) (v pattern : Value) :
    Truth :=
  if v.isNull || pattern.isNull then .unknown
  else if lowered then
    .ofBool (Substring.like (escapeRead m escape) ((m.text pattern).map m.lowering.lower)
      ((m.text v).map m.lowering.lower))
  else .ofBool (Substring.like (escapeRead m escape) (m.text pattern) (m.text v))

mutual

/-- The truth of an expression on a row. -/
def eval (m : Interpretation) (row : String → Value) : Expr → Truth
  | equal left right => .ofBool (left == right)
  | nullTest column isNull => .ofBool ((row column).isNull == isNull)
  | compare column op operand => compareValues m op (row column) operand
  | membership column negated candidates =>
    let found := Truth.any (candidates.map (compareValues m .eq (row column)))
    if negated then found.not else found
  | like column lowered pattern escape => likeValues m lowered escape (row column) pattern
  | all parts => .all (evalEach m row parts)
  | any parts => .any (evalEach m row parts)

def evalEach (m : Interpretation) (row : String → Value) : List Expr → List Truth
  | [] => []
  | e :: es => e.eval m row :: evalEach m row es

end

section Holds

variable (m : Interpretation) (row : String → Value)

/-- An expression is true on a row. -/
def Holds (e : Expr) : Prop :=
  e.eval m row = .holds

theorem evalEach_eq_map (es : List Expr) : evalEach m row es = es.map (eval m row) := by
  induction es with
  | nil => rfl
  | cons e es ih => rw [evalEach, ih, List.map_cons]

theorem holds_all {es : List Expr} : (all es).Holds m row ↔ ∀ e ∈ es, e.Holds m row := by
  rw [Holds, eval, Truth.all_eq_holds, evalEach_eq_map, List.forall_mem_map]
  rfl

theorem holds_any {es : List Expr} : (any es).Holds m row ↔ ∃ e ∈ es, e.Holds m row := by
  rw [Holds, eval, Truth.any_eq_holds, evalEach_eq_map]
  simp [Holds]

theorem holds_nullTest {column : String} {isNull : Bool} :
    (nullTest column isNull).Holds m row ↔ (row column).isNull = isNull := by
  simp [Holds, eval]

theorem holds_compare {column : String} {op : Comparison} {operand : Value}
    (hoperand : operand.isNull = false) :
    (compare column op operand).Holds m row ↔ Filter.Compares m op operand (row column) := by
  unfold Holds Filter.Compares
  cases hv : (row column).isNull <;> simp [eval, compareValues, hv, hoperand]

theorem holds_isIn {column : String} {candidates : List Value}
    (hcandidates : ∀ x ∈ candidates, x.isNull = false) :
    (membership column false candidates).Holds m row ↔
      ∃ x ∈ candidates, Filter.Compares m .eq x (row column) := by
  rw [Holds, eval, if_neg Bool.false_ne_true, Truth.any_eq_holds]
  simp only [List.mem_map, exists_exists_and_eq_and]
  refine exists_congr fun x => and_congr_right fun hx => ?_
  have hx : (compare column .eq x).Holds m row ↔ _ := holds_compare m row (hcandidates x hx)
  exact hx

theorem holds_notIn {column : String} {candidates : List Value} (hne : candidates ≠ [])
    (hcandidates : ∀ x ∈ candidates, x.isNull = false) :
    (membership column true candidates).Holds m row ↔
      (row column).isNull = false ∧ ∀ x ∈ candidates, m.compare .eq (row column) x = false := by
  rw [Holds, eval, if_pos rfl, Truth.not_eq_holds, Truth.any_eq_fails, List.forall_mem_map]
  cases hv : (row column).isNull with
  | true =>
    obtain ⟨x, hx⟩ := List.exists_mem_of_ne_nil _ hne
    simp only [Bool.true_eq_false, false_and, iff_false]
    intro h
    have hunknown := h x hx
    simp [compareValues, hv] at hunknown
  | false =>
    rw [and_iff_right rfl]
    refine forall₂_congr fun x hx => ?_
    simp [compareValues, hv, hcandidates x hx]

theorem suits_escapeRead (content : String) :
    Substring.Suits (escapeRead m (escapeOf content)) content.toList := by
  unfold escapeOf
  by_cases h : Substring.needsEscape content = true
  · rw [if_pos h]
    exact .inl rfl
  · rw [if_neg h]
    refine .inr ⟨by simpa [Substring.needsEscape] using h, ?_⟩
    unfold escapeRead
    cases m.backslashEscapes
    · exact .inl rfl
    · exact .inr rfl

theorem holds_like {column : String} {content : String} {lowered : Bool} :
    (like column lowered (.str (Substring.containing content)) (escapeOf content)).Holds m row ↔
      (row column).isNull = false ∧
        if lowered then
          content.toList.map m.lowering.lower <:+: (m.text (row column)).map m.lowering.lower
        else content.toList <:+: m.text (row column) := by
  have hsuits := suits_escapeRead m content
  have hpattern : m.text (.str (Substring.containing content)) =
      '%' :: (Substring.escapeLike content.toList ++ ['%']) := by
    rw [m.text_str, Substring.containing, String.toList_ofList]
  have hstr : (Value.str (Substring.containing content)).isNull = false := rfl
  rw [Holds, eval, likeValues, hstr, hpattern, Bool.or_false]
  cases hv : (row column).isNull with
  | true => simp
  | false =>
    cases lowered with
    | true =>
      rw [if_neg Bool.false_ne_true, if_pos rfl, if_pos rfl, Truth.ofBool_eq_holds,
        Substring.like_lowered_containing hsuits]
      simp
    | false =>
      rw [if_neg Bool.false_ne_true, if_neg Bool.false_ne_true, if_neg Bool.false_ne_true,
        Truth.ofBool_eq_holds, Substring.like_containing hsuits]
      simp

end Holds

end Expr

end Polystore.Sql
