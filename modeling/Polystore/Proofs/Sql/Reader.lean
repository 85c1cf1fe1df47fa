import Polystore.Proofs.Sql.Expression
import Polystore.Proofs.Sql.Token

/-!
# Reading tokens as a boolean expression

A reader goes through the tokens of a condition once. `AND` binds tighter than `OR`: a disjunction closes
the conjunction before it, and a parenthesis opens an expression of its own. `isOperand_of_test?` and
`isOperand_group` say which runs of tokens the reader takes as one operand, whatever stands around them.
-/

namespace Polystore.Sql

/-! ### Single tests -/

/-- The column that a token names. -/
def Token.column? : Token → Option String
  | .word cs => some (String.ofList cs)
  | .name cs => some (String.ofList cs)
  | _ => none

/-- The values of a list up to the parenthesis that closes it. -/
def candidates? : List Token → Option (List Value)
  | [.value v, .closing] => some [v]
  | .value v :: .comma :: ts => (candidates? ts).map (v :: ·)
  | _ => none

/-- The escape that follows a pattern, if one does. -/
def escape? : List Token → Option (Option Char)
  | [] => some none
  | [.word w, .text [c]] => if spells w "escape" then some (some c) else none
  | _ => none

/-- The test of a column, from the tokens after the column. -/
def columnTest? (column : String) : List Token → Option Expr
  | [.keyword .is, .keyword .null] => some (.nullTest column true)
  | [.keyword .is, .keyword .not, .keyword .null] => some (.nullTest column false)
  | [.comparison op, .value v] => some (.compare column op v)
  | .keyword .isIn :: .opening :: ts => (candidates? ts).map (.membership column false)
  | .keyword .not :: .keyword .isIn :: .opening :: ts =>
    (candidates? ts).map (.membership column true)
  | .keyword .like :: .value v :: ts => (escape? ts).map (.like column false v)
  | .word w :: .value v :: ts =>
    if spells w "ilike" then (escape? ts).map (.like column true v) else none
  | _ => none

/-- The test that tokens are, all of them together. -/
def test? : List Token → Option Expr
  | [.number m, .comparison .eq, .number n] => some (.equal m n)
  | .word w :: .opening :: t :: .closing :: .keyword .like ::
      .word w' :: .opening :: .value v :: .closing :: ts =>
    if spells w "lower" && spells w' "lower" then do
      let column ← t.column?
      (escape? ts).map (.like column true v)
    else none
  | t :: ts => t.column?.bind fun column => columnTest? column ts
  | [] => none

/-! ### The reader -/

/-- An expression that is being read: the conjunctions that are closed, and the parts of the last one
before the operand that is being read. -/
structure Frame where
  closed : List Expr := []
  parts : List Expr := []

/-- The expression that ends with an operand. -/
def Frame.close (f : Frame) (e : Expr) : Expr :=
  .any (f.closed ++ [.all (f.parts ++ [e])])

/-- The operand that is being read: none yet, a test, or an expression in parentheses. A parenthesis
inside a test belongs to it. -/
inductive Operand where
  | missing
  | test (ts : List Token) (nested : Bool)
  | whole (e : Expr)

def Operand.expr? : Operand → Option Expr
  | .test ts false => test? ts
  | .whole e => some e
  | _ => none

/-- What is being read, with the expressions around it. -/
structure Reader where
  operand : Operand := .missing
  frame : Frame := {}
  outer : List Frame := []

namespace Reader

/-- The reader after a token. -/
def step (r : Reader) : Token → Option Reader
  | .keyword .and => r.operand.expr?.map fun e =>
    { r with operand := .missing, frame := { r.frame with parts := r.frame.parts ++ [e] } }
  | .keyword .or => r.operand.expr?.map fun e =>
    { r with
      operand := .missing
      frame := { closed := r.frame.closed ++ [.all (r.frame.parts ++ [e])] } }
  | .opening =>
    match r.operand with
    | .missing => some { outer := r.frame :: r.outer }
    | .test ts false => some { r with operand := .test (ts ++ [.opening]) true }
    | _ => none
  | .closing =>
    match r.operand, r.outer with
    | .test ts true, _ => some { r with operand := .test (ts ++ [.closing]) false }
    | o, f :: fs => o.expr?.map fun e =>
      { operand := .whole (r.frame.close e), frame := f, outer := fs }
    | _, [] => none
  | t =>
    match r.operand with
    | .missing => some { r with operand := .test [t] false }
    | .test ts nested => some { r with operand := .test (ts ++ [t]) nested }
    | .whole _ => none

/-- The reader after tokens. -/
def run (r : Reader) : List Token → Option Reader
  | [] => some r
  | t :: ts => (r.step t).bind fun r => r.run ts

/-- The expression that has been read, if nothing is open. -/
def expr? (r : Reader) : Option Expr :=
  match r.outer with
  | [] => r.operand.expr?.map r.frame.close
  | _ :: _ => none

theorem run_append (r : Reader) (ts us : List Token) :
    r.run (ts ++ us) = (r.run ts).bind fun r => r.run us := by
  induction ts generalizing r with
  | nil => rfl
  | cons t ts ih =>
    rw [List.cons_append, run, run]
    cases r.step t with
    | none => rfl
    | some r => exact ih r

end Reader

/-- The expression of tokens. -/
def expression? (ts : List Token) : Option Expr :=
  (Reader.run {} ts).bind Reader.expr?

/-- The boolean expression that a text is for an engine, with values for its placeholders: for those
that show no number, the values from number `next` on. -/
def Expr.ofText? (d : SqlDialect) (value? : Nat → Option Value) (next : Nat) (text : String) :
    Option Expr :=
  (inputs? d.placeholders value? next text.toList).bind fun is =>
    expression? (tokensFrom d.engine .blank is)

/-! ### Operands -/

/-- The reader takes tokens as one operand, whatever stands before and around them. -/
def IsOperand (ts : List Token) (e : Expr) : Prop :=
  ∃ o, o.expr? = some e ∧ ∀ frame outer,
    Reader.run { operand := .missing, frame, outer } ts = some { operand := o, frame, outer }

/-- Whether a parenthesis of a test is open after a token inside the test, if the token can stand
there. -/
def nestedAfter (nested : Bool) : Token → Option Bool
  | .keyword .and => none
  | .keyword .or => none
  | .opening => if nested then none else some true
  | .closing => if nested then some false else none
  | _ => some nested

/-- The same after tokens. -/
def nestedAfterAll (nested : Bool) : List Token → Option Bool
  | [] => some nested
  | t :: ts => (nestedAfter nested t).bind fun nested => nestedAfterAll nested ts

theorem step_test {nested nested' : Bool} {t : Token} (h : nestedAfter nested t = some nested')
    (us : List Token) (frame : Frame) (outer : List Frame) :
    Reader.step { operand := .test us nested, frame, outer } t =
      some { operand := .test (us ++ [t]) nested', frame, outer } := by
  cases t with
  | keyword k =>
    cases k with
    | and => exact nomatch h
    | or => exact nomatch h
    | _ =>
      cases h
      rfl
  | opening =>
    cases nested with
    | false =>
      cases h
      rfl
    | true => exact nomatch h
  | closing =>
    cases nested with
    | false => exact nomatch h
    | true =>
      cases h
      rfl
  | _ =>
    cases h
    rfl

theorem run_test {ts : List Token} {nested nested' : Bool}
    (h : nestedAfterAll nested ts = some nested') (us : List Token) (frame : Frame)
    (outer : List Frame) :
    Reader.run { operand := .test us nested, frame, outer } ts =
      some { operand := .test (us ++ ts) nested', frame, outer } := by
  induction ts generalizing us nested with
  | nil =>
    cases h
    rw [List.append_nil]
    rfl
  | cons t ts ih =>
    obtain ⟨nested₁, hstep, h⟩ := Option.bind_eq_some_iff.1 h
    rw [Reader.run, step_test hstep, Option.bind_some, ih h, List.append_assoc]
    rfl

theorem nestedAfterAll_candidates {ts : List Token} {vs : List Value}
    (h : candidates? ts = some vs) : nestedAfterAll true ts = some false := by
  fun_induction candidates? ts generalizing vs with
  | case1 v => rfl
  | case2 v ts ih =>
    obtain ⟨ws, hws, -⟩ := Option.map_eq_some_iff.1 h
    exact ih hws
  | case3 => exact nomatch h

theorem nestedAfterAll_escape {ts : List Token} {escape : Option Char}
    (h : escape? ts = some escape) : nestedAfterAll false ts = some false := by
  unfold escape? at h
  split at h
  · rfl
  · rfl
  · exact nomatch h

theorem nestedAfterAll_columnTest {column : String} {ts : List Token} {e : Expr}
    (h : columnTest? column ts = some e) : nestedAfterAll false ts = some false := by
  unfold columnTest? at h
  split at h
  · rfl
  · rfl
  · rfl
  · obtain ⟨vs, hvs, -⟩ := Option.map_eq_some_iff.1 h
    exact nestedAfterAll_candidates hvs
  · obtain ⟨vs, hvs, -⟩ := Option.map_eq_some_iff.1 h
    exact nestedAfterAll_candidates hvs
  · obtain ⟨escape, hescape, -⟩ := Option.map_eq_some_iff.1 h
    have hrest := nestedAfterAll_escape hescape
    exact hrest
  · split at h
    · obtain ⟨escape, hescape, -⟩ := Option.map_eq_some_iff.1 h
      have hrest := nestedAfterAll_escape hescape
      exact hrest
    · exact nomatch h
  · exact nomatch h

theorem nestedAfter_of_column {t : Token} {column : String} (h : t.column? = some column)
    (nested : Bool) : nestedAfter nested t = some nested := by
  cases t with
  | word cs => rfl
  | name cs => rfl
  | _ => exact nomatch h

/-- A token that can start a test. -/
def Starts (t : Token) : Prop :=
  ∀ frame outer, Reader.step { operand := .missing, frame, outer } t =
    some { operand := .test [t] false, frame, outer }

theorem starts_of_column {t : Token} {column : String} (h : t.column? = some column) :
    Starts t := by
  intro frame outer
  cases t with
  | word cs => rfl
  | name cs => rfl
  | _ => exact nomatch h

theorem flat_of_test {ts : List Token} {e : Expr} (h : test? ts = some e) :
    ∃ t us, ts = t :: us ∧ Starts t ∧ nestedAfterAll false us = some false := by
  unfold test? at h
  split at h
  · exact ⟨_, _, rfl, fun _ _ => rfl, rfl⟩
  · next w t w' v ts =>
    split at h
    · obtain ⟨column, hcolumn, h⟩ := Option.bind_eq_some_iff.1 h
      obtain ⟨escape, hescape, -⟩ := Option.map_eq_some_iff.1 h
      have hrest := nestedAfterAll_escape hescape
      refine ⟨_, _, rfl, fun _ _ => rfl, ?_⟩
      show (nestedAfter true t).bind _ = some false
      rw [nestedAfter_of_column hcolumn]
      exact hrest
    · exact nomatch h
  · obtain ⟨column, hcolumn, h⟩ := Option.bind_eq_some_iff.1 h
    exact ⟨_, _, rfl, starts_of_column hcolumn, nestedAfterAll_columnTest h⟩
  · exact nomatch h

theorem isOperand_of_test? {ts : List Token} {e : Expr} (h : test? ts = some e) :
    IsOperand ts e := by
  obtain ⟨t, us, rfl, hstart, hflat⟩ := flat_of_test h
  refine ⟨.test (t :: us) false, h, fun frame outer => ?_⟩
  rw [Reader.run, hstart, Option.bind_some, run_test hflat]
  rfl

/-! ### Operands with connectives between them -/

/-- Runs of tokens with a token between them. -/
def joined (t : Token) : List (List Token) → List Token
  | [] => []
  | [ts] => ts
  | ts :: us :: rest => ts ++ t :: joined t (us :: rest)

/-- The reader takes tokens as a whole expression, if they stand alone or in parentheses. -/
def IsBody (ts : List Token) (e : Expr) : Prop :=
  ∃ o last frame, o.expr? = some last ∧ frame.close last = e ∧
    ∀ outer, Reader.run { outer } ts = some { operand := o, frame, outer }

section Connectives

variable {o : Operand} {e : Expr}

theorem step_and (h : o.expr? = some e) (frame : Frame) (outer : List Frame) :
    Reader.step { operand := o, frame, outer } (.keyword .and) =
      some { frame := { frame with parts := frame.parts ++ [e] }, outer } := by
  simp [Reader.step, h]

theorem step_or (h : o.expr? = some e) (frame : Frame) (outer : List Frame) :
    Reader.step { operand := o, frame, outer } (.keyword .or) =
      some { frame := { closed := frame.closed ++ [.all (frame.parts ++ [e])] }, outer } := by
  simp [Reader.step, h]

theorem step_closing (h : o.expr? = some e) (frame outside : Frame) (outer : List Frame) :
    Reader.step { operand := o, frame, outer := outside :: outer } .closing =
      some { operand := .whole (frame.close e), frame := outside, outer } := by
  cases o with
  | missing => exact nomatch h
  | whole e' => simp [Reader.step, h]
  | test ts nested =>
    cases nested with
    | true => exact nomatch h
    | false => simp [Reader.step, h]

/-- A run of conjuncts ends in the last one, after the others. -/
theorem run_joined_and {tss : List (List Token)} {es : List Expr}
    (h : List.Forall₂ IsOperand tss es) (hne : tss ≠ []) (frame : Frame) :
    ∃ o last parts, o.expr? = some last ∧ parts ++ [last] = frame.parts ++ es ∧
      ∀ outer, Reader.run { frame, outer } (joined (.keyword .and) tss) =
        some { operand := o, frame := { frame with parts }, outer } := by
  induction h generalizing frame with
  | nil => exact absurd rfl hne
  | @cons ts e tss es hts htss ih =>
    obtain ⟨o, ho, hrun⟩ := hts
    cases tss with
    | nil =>
      cases htss
      exact ⟨o, e, frame.parts, ho, rfl, hrun frame⟩
    | cons us tss =>
      obtain ⟨o', last, parts, hlast, hparts, hrest⟩ :=
        ih (by simp) { frame with parts := frame.parts ++ [e] }
      refine ⟨o', last, parts, hlast, by simpa using hparts, fun outer => ?_⟩
      rw [joined, Reader.run_append, hrun, Option.bind_some, Reader.run, step_and ho]
      exact hrest outer

theorem run_joined_or {tss : List (List Token)} {es : List Expr}
    (h : List.Forall₂ IsOperand tss es) (hne : tss ≠ []) (closed : List Expr) :
    ∃ o last closed', o.expr? = some last ∧
      closed' ++ [.all [last]] = closed ++ es.map (fun e => .all [e]) ∧
      ∀ outer, Reader.run { frame := { closed }, outer } (joined (.keyword .or) tss) =
        some { operand := o, frame := { closed := closed' }, outer } := by
  induction h generalizing closed with
  | nil => exact absurd rfl hne
  | @cons ts e tss es hts htss ih =>
    obtain ⟨o, ho, hrun⟩ := hts
    cases tss with
    | nil =>
      cases htss
      exact ⟨o, e, closed, ho, rfl, hrun _⟩
    | cons us tss =>
      obtain ⟨o', last, closed', hlast, hclosed, hrest⟩ := ih (by simp) (closed ++ [.all [e]])
      refine ⟨o', last, closed', hlast, by simpa using hclosed, fun outer => ?_⟩
      rw [joined, Reader.run_append, hrun, Option.bind_some, Reader.run, step_or ho]
      exact hrest outer

theorem isBody_and {tss : List (List Token)} {es : List Expr}
    (h : List.Forall₂ IsOperand tss es) (hne : tss ≠ []) :
    IsBody (joined (.keyword .and) tss) (.any [.all es]) := by
  obtain ⟨o, last, parts, hlast, hparts, hrun⟩ := run_joined_and h hne {}
  refine ⟨o, last, { parts }, hlast, ?_, hrun⟩
  rw [Frame.close, hparts]
  rfl

theorem isBody_or {tss : List (List Token)} {es : List Expr}
    (h : List.Forall₂ IsOperand tss es) (hne : tss ≠ []) :
    IsBody (joined (.keyword .or) tss) (.any (es.map fun e => .all [e])) := by
  obtain ⟨o, last, closed, hlast, hclosed, hrun⟩ := run_joined_or h hne []
  refine ⟨o, last, { closed }, hlast, ?_, hrun⟩
  exact congrArg Expr.any hclosed

theorem isOperand_group {ts : List Token} (h : IsBody ts e) :
    IsOperand (.opening :: (ts ++ [.closing])) e := by
  obtain ⟨o, last, inside, hlast, rfl, hrun⟩ := h
  refine ⟨.whole (inside.close last), rfl, fun frame outer => ?_⟩
  show Reader.run { outer := frame :: outer } (ts ++ [.closing]) = _
  rw [Reader.run_append, hrun, Option.bind_some, Reader.run, step_closing hlast]
  rfl

theorem expression?_of_isBody {ts : List Token} (h : IsBody ts e) : expression? ts = some e := by
  obtain ⟨o, last, frame, hlast, rfl, hrun⟩ := h
  rw [expression?, hrun]
  simp [Reader.expr?, hlast]

end Connectives

example : Expr.ofText? { engine := .sqlite } (fun number => [Value.int 7, .int 8][number - 1]?) 1
      "a = ? OR b IS NULL AND (c < ? OR 1=0)" =
    some (.any [.all [.compare "a" .eq (.int 7)],
      .all [.nullTest "b" true, .any [.all [.compare "c" .lt (.int 8)], .all [.equal 1 0]]]]) := by
  rfl

end Polystore.Sql
