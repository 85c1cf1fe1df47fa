import Polystore.Proofs.Sql.Clear
import Polystore.Proofs.Sql.Reader

/-!
# The text of a condition means its filter

The text that a condition tree is compiled to is read back as a boolean expression, and that expression
is true on exactly the rows that satisfy the tree (`holds_condition`).
-/

namespace Polystore.Sql

open Polystore.Filter (Leaf Node leaves leavesOfChildren)
open Identifier (isPlain isReserved)

/-! ### Fragments as tokens -/

/-- A fragment before a delimiter is read as tokens. -/
def Reads (engine : Engine) (f : Fragment) (ts : List Token) : Prop :=
  ∀ rest, Delimited rest →
    tokensFrom engine .blank (f.inputs ++ rest) = ts ++ tokensFrom engine .blank rest

section Reads

variable {engine : Engine}

/-- The texts that are read as one token, whatever follows them. -/
inductive Mark : String → Token → Prop where
  | and : Mark " AND " (.keyword .and)
  | or : Mark " OR " (.keyword .or)
  | comma : Mark ", " .comma
  | opening : Mark "(" .opening
  | closing : Mark ")" .closing

theorem Mark.tokensFrom {s : String} {t : Token} (h : Mark s t) (rest : List Input) :
    tokensFrom engine .blank (chars s ++ rest) = t :: tokensFrom engine .blank rest := by
  have hread : ∃ ts l, readChars engine .blank s.toList = (ts, l) ∧ l.Closed engine ∧
      ts ++ l.tokens = [t] := by
    cases h with
    | and => exact ⟨[.keyword .and], .blank, by cases engine <;> rfl, closed_blank, rfl⟩
    | or => exact ⟨[.keyword .or], .blank, by cases engine <;> rfl, closed_blank, rfl⟩
    | comma => exact ⟨[.comma], .blank, by cases engine <;> rfl, closed_blank, rfl⟩
    | opening =>
      exact ⟨[], .symbol ['('], by cases engine <;> rfl, closed_symbol (by decide), rfl⟩
    | closing =>
      exact ⟨[], .symbol [')'], by cases engine <;> rfl, closed_symbol (by decide), rfl⟩
  obtain ⟨ts, l, hread, hclosed, htokens⟩ := hread
  rw [tokensFrom_text_of_closed hread hclosed, ← List.append_assoc, htokens]
  rfl

theorem reads_joinWith {separator : String} {t : Token} (hmark : Mark separator t)
    (hblank : separator.toList.head? = some ' ') {fs : List Fragment}
    {tss : List (List Token)} (h : List.Forall₂ (Reads engine) fs tss) :
    Reads engine (Fragment.joinWith separator fs) (joined t tss) := by
  have hdelimited : ∀ rest, Delimited (chars separator ++ rest) :=
    delimited_chars (by rw [hblank]; rfl)
  induction h with
  | nil => exact fun rest _ => rfl
  | @cons f ts fs tss hf hfs ih =>
    cases hfs with
    | nil => exact hf
    | @cons g us fs tss hg hfs =>
      intro rest hrest
      rw [Fragment.joinWith, Fragment.inputs_append, Fragment.inputs, List.append_assoc,
        List.append_assoc, hf _ (hdelimited _), hmark.tokensFrom, ih rest hrest, joined]
      simp

theorem reads_parentheses {f : Fragment} {ts : List Token} (h : Reads engine f ts) :
    Reads engine (.text "(" :: (f ++ [.text ")"])) (.opening :: (ts ++ [.closing])) := by
  intro rest _
  have hdelimited : Delimited (chars ")" ++ rest) := delimited_chars (by decide) rest
  rw [Fragment.inputs, Fragment.inputs_append, List.append_assoc, List.append_assoc,
    Mark.opening.tokensFrom, Fragment.inputs, Fragment.inputs, List.append_nil, h _ hdelimited,
    Mark.closing.tokensFrom]
  simp

/-- The tokens of candidates. -/
def candidateTokens : List Value → List Token
  | [] => [.closing]
  | [v] => [.value v, .closing]
  | v :: w :: vs => .value v :: .comma :: candidateTokens (w :: vs)

theorem candidates?_candidateTokens {vs : List Value} (h : vs ≠ []) :
    candidates? (candidateTokens vs) = some vs := by
  induction vs with
  | nil => exact absurd rfl h
  | cons v vs ih =>
    cases vs with
    | nil => rfl
    | cons w vs =>
      rw [candidateTokens, candidates?, ih (by simp)]
      rfl

theorem tokensFrom_candidates (vs : List Value) (rest : List Input) :
    tokensFrom engine .blank
        (Fragment.inputs (Fragment.joinWith ", " (vs.map fun v => [.slot v]) ++ [.text ")"]) ++ rest) =
      candidateTokens vs ++ tokensFrom engine .blank rest := by
  induction vs with
  | nil => exact Mark.closing.tokensFrom rest
  | cons v vs ih =>
    cases vs with
    | nil =>
      show .value v :: tokensFrom engine .blank (chars ")" ++ rest) = _
      rw [Mark.closing.tokensFrom]
      rfl
    | cons w vs =>
      show .value v :: tokensFrom engine .blank ((chars ", " ++ Fragment.inputs
        (Fragment.joinWith ", " ((w :: vs).map fun v => [.slot v]) ++ [.text ")"])) ++ rest) = _
      rw [List.append_assoc, Mark.comma.tokensFrom, ih]
      rfl

end Reads

/-! ### Single tests -/

theorem column?_columnToken (name : String) : (columnToken name).column? = some name := by
  unfold columnToken
  split <;> simp [Token.column?]

theorem isOperand_column {name : String} {t : Token} {ts : List Token} {e : Expr}
    (h : columnTest? name (t :: ts) = some e) (ht : t ≠ .opening) :
    IsOperand (columnToken name :: t :: ts) e := by
  refine isOperand_of_test? (Eq.trans ?_ h)
  have hbind := congrArg (·.bind fun column => columnTest? column (t :: ts))
    (column?_columnToken name)
  refine Eq.trans ?_ hbind
  unfold columnToken
  split
  · rfl
  · cases t with
    | opening => exact absurd rfl ht
    | _ => rfl

/-- The fragment of an expression is read as one operand. -/
def ReadsAs (engine : Engine) (p : Predicate) (e : Expr) : Prop :=
  ∃ ts, Reads engine (p.fragment engine) ts ∧ IsOperand ts e

theorem readsAs_constant (engine : Engine) (holds : Bool) :
    ReadsAs engine (.constant holds) (.equal 1 (if holds then 1 else 0)) := by
  refine ⟨[.number 1, .comparison .eq, .number (if holds then 1 else 0)], ?_,
    isOperand_of_test? rfl⟩
  intro rest hrest
  have hread : readChars engine .blank (if holds then "1=1" else "1=0").toList =
      ([.number 1, .comparison .eq], .word (if holds then ['1'] else ['0'])) := by
    cases engine <;> cases holds <;> rfl
  have h := tokensFrom_text hread (ends_word _) hrest
  cases holds
  all_goals
    rw [Predicate.fragment]
    simp only [Fragment.inputs, List.append_nil]
    exact h

/-- The tokens of the clause that names the escape, if a pattern needs one. -/
def escapeTokens (content : String) : List Token :=
  if Substring.needsEscape content then [.word "ESCAPE".toList, .text ['\\']] else []

theorem escape?_escapeTokens (content : String) :
    escape? (escapeTokens content) = some (escapeOf content) := by
  unfold escapeTokens escapeOf
  split <;> rfl

theorem tokensFrom_escape (engine : Engine) (content : String) {rest : List Input}
    (hrest : Delimited rest) :
    tokensFrom engine .blank (Fragment.inputs
        (if Substring.needsEscape content then [.text engine.likeEscape] else []) ++ rest) =
      escapeTokens content ++ tokensFrom engine .blank rest := by
  unfold escapeTokens
  split
  · rw [Fragment.inputs, Fragment.inputs, List.append_nil]
    have hread : readChars engine .blank engine.likeEscape.toList =
        ([.word "ESCAPE".toList], .quoted '\'' (engine != .sqlite) ['\\'] .ending) := by
      cases engine <;> rfl
    exact tokensFrom_text hread ⟨rfl, rfl⟩ hrest
  · rfl

section Column

variable {d : SqlDialect} {name column : String}

theorem reads_column (h : d.renderField name = .ok column) (hplain : isPlain name.toList = true)
    {s : String} {ts : List Token} {l : Lexeme} (hs : s.toList.head? = some ' ')
    (hread : readChars d.engine .blank s.toList = (ts, l)) (hends : l.Ends d.engine) :
    Reads d.engine [.text (column ++ s)] (columnToken name :: (ts ++ l.tokens)) := by
  intro rest hrest
  rw [Fragment.inputs, Fragment.inputs, List.append_nil, chars_append, List.append_assoc,
    tokensFrom_column h hplain (delimited_chars (by rw [hs]; rfl) rest),
    tokensFrom_text hread hends hrest]
  simp

theorem tokensFrom_column_append (h : d.renderField name = .ok column)
    (hplain : isPlain name.toList = true) {s : String} {ts : List Token} {l : Lexeme}
    (hs : s.toList.head? = some ' ') (hread : readChars d.engine .blank s.toList = (ts, l))
    (hclosed : l.Closed d.engine) (rest : List Input) :
    tokensFrom d.engine .blank (chars (column ++ s) ++ rest) =
      columnToken name :: (ts ++ (l.tokens ++ tokensFrom d.engine .blank rest)) := by
  rw [chars_append, List.append_assoc,
    tokensFrom_column h hplain (delimited_chars (by rw [hs]; rfl) rest),
    tokensFrom_text_of_closed hread hclosed]

theorem readsAs_nullTest (h : d.renderField name = .ok column)
    (hplain : isPlain name.toList = true) (isNull : Bool) :
    ReadsAs d.engine (.nullTest column isNull) (.nullTest name isNull) := by
  cases isNull with
  | true =>
    have hread : readChars d.engine .blank " IS NULL".toList =
        ([.keyword .is], .word "NULL".toList) := by
      cases d.engine <;> rfl
    refine ⟨[columnToken name, .keyword .is, .keyword .null], ?_,
      isOperand_column rfl (by simp)⟩
    rw [Predicate.fragment]
    exact reads_column h hplain rfl hread (ends_word _)
  | false =>
    have hread : readChars d.engine .blank " IS NOT NULL".toList =
        ([.keyword .is, .keyword .not], .word "NULL".toList) := by
      cases d.engine <;> rfl
    refine ⟨[columnToken name, .keyword .is, .keyword .not, .keyword .null], ?_,
      isOperand_column rfl (by simp)⟩
    rw [Predicate.fragment]
    exact reads_column h hplain rfl hread (ends_word _)

theorem readsAs_compare (h : d.renderField name = .ok column)
    (hplain : isPlain name.toList = true) (op : Comparison) (v : Value) :
    ReadsAs d.engine (.compare column op v) (.compare name op v) := by
  have hread : readChars d.engine .blank (" " ++ op.symbol ++ " ").toList =
      ([.comparison op], .blank) := by
    cases d.engine <;> cases op <;> rfl
  have hhead : (" " ++ op.symbol ++ " ").toList.head? = some ' ' := by
    cases op <;> rfl
  have hcolumn : column ++ " " ++ op.symbol ++ " " = column ++ (" " ++ op.symbol ++ " ") := by
    simp only [String.append_assoc]
  refine ⟨[columnToken name, .comparison op, .value v], fun rest _ => ?_,
    isOperand_column rfl (by simp)⟩
  rw [Predicate.fragment, hcolumn, Fragment.inputs, List.append_assoc,
    tokensFrom_column_append h hplain hhead hread closed_blank]
  rfl

theorem readsAs_membership (h : d.renderField name = .ok column)
    (hplain : isPlain name.toList = true) (negated : Bool) {vs : List Value} (hvs : vs ≠ []) :
    ReadsAs d.engine (.membership column negated vs) (.membership name negated vs) := by
  have hcandidates := candidates?_candidateTokens hvs
  cases negated with
  | true =>
    have hread : readChars d.engine .blank " NOT IN (".toList =
        ([.keyword .not, .keyword .isIn], .symbol ['(']) := by
      cases d.engine <;> rfl
    refine ⟨columnToken name :: .keyword .not :: .keyword .isIn :: .opening :: candidateTokens vs,
      fun rest _ => ?_, isOperand_column ?_ (by simp)⟩
    · rw [Predicate.fragment, Predicate.membershipFragment, Fragment.inputs, List.append_assoc,
        if_pos rfl, tokensFrom_column_append h hplain rfl hread (closed_symbol (by decide)),
        tokensFrom_candidates]
      rfl
    · rw [columnTest?, hcandidates]
      rfl
  | false =>
    have hread : readChars d.engine .blank " IN (".toList =
        ([.keyword .isIn], .symbol ['(']) := by
      cases d.engine <;> rfl
    refine ⟨columnToken name :: .keyword .isIn :: .opening :: candidateTokens vs,
      fun rest _ => ?_, isOperand_column ?_ (by simp)⟩
    · rw [Predicate.fragment, Predicate.membershipFragment, Fragment.inputs, List.append_assoc,
        if_neg Bool.false_ne_true,
        tokensFrom_column_append h hplain rfl hread (closed_symbol (by decide)),
        tokensFrom_candidates]
      rfl
    · rw [columnTest?, hcandidates]
      rfl

theorem reads_like (h : d.renderField name = .ok column) (hplain : isPlain name.toList = true)
    {s : String} {t : Token} (hs : s.toList.head? = some ' ')
    (hread : readChars d.engine .blank s.toList = ([t], .blank)) (content : String) (v : Value) :
    Reads d.engine
      ([.text (column ++ s), .slot v] ++
        if Substring.needsEscape content then [.text d.engine.likeEscape] else [])
      (columnToken name :: t :: .value v :: escapeTokens content) := by
  intro rest hrest
  rw [Fragment.inputs_append, List.append_assoc, Fragment.inputs, List.append_assoc,
    tokensFrom_column_append h hplain hs hread closed_blank]
  have hescape := tokensFrom_escape d.engine content hrest
  show columnToken name :: t :: .value v :: tokensFrom d.engine .blank _ = _
  exact congrArg (fun ts => columnToken name :: t :: .value v :: ts) hescape

theorem reads_lowered (h : d.renderField name = .ok column) (hplain : isPlain name.toList = true)
    (content : String) (v : Value) :
    Reads d.engine
      ([.text ("LOWER(" ++ column ++ ") LIKE LOWER("), .slot v, .text ")"] ++
        if Substring.needsEscape content then [.text d.engine.likeEscape] else [])
      (.word "LOWER".toList :: .opening :: columnToken name :: .closing :: .keyword .like ::
        .word "LOWER".toList :: .opening :: .value v :: .closing :: escapeTokens content) := by
  have hbefore : readChars d.engine .blank "LOWER(".toList =
      ([.word "LOWER".toList], .symbol ['(']) := by
    cases d.engine <;> rfl
  have hafter : readChars d.engine .blank ") LIKE LOWER(".toList =
      ([.closing, .keyword .like, .word "LOWER".toList], .symbol ['(']) := by
    cases d.engine <;> rfl
  intro rest hrest
  have hescape := tokensFrom_escape d.engine content hrest
  rw [Fragment.inputs_append, List.append_assoc, Fragment.inputs, chars_append, chars_append,
    List.append_assoc, List.append_assoc, List.append_assoc,
    tokensFrom_text_of_closed hbefore (closed_symbol (by decide)),
    tokensFrom_column h hplain (delimited_chars (by decide) _),
    tokensFrom_text_of_closed hafter (closed_symbol (by decide))]
  show .word "LOWER".toList :: .opening :: columnToken name :: .closing :: .keyword .like ::
    .word "LOWER".toList :: .opening :: .value v ::
      tokensFrom d.engine .blank (chars ")" ++ _) = _
  rw [Mark.closing.tokensFrom, hescape]
  rfl

theorem readsAs_contains (h : d.renderField name = .ok column)
    (hplain : isPlain name.toList = true) (content : String) (ignoreCase : Bool) :
    ReadsAs d.engine (.contains column content ignoreCase)
      (.like name ignoreCase (.str (Substring.containing content)) (escapeOf content)) := by
  have hescape := escape?_escapeTokens content
  rcases containsFragment_cases d.engine column content ignoreCase with
    ⟨rfl, hfragment⟩ | ⟨rfl, hfragment | hfragment⟩
  · have hread : readChars d.engine .blank " LIKE ".toList = ([.keyword .like], .blank) := by
      cases d.engine <;> rfl
    have hreads := reads_like h hplain rfl hread content (.str (Substring.containing content))
    rw [← hfragment] at hreads
    refine ⟨_, hreads, isOperand_column ?_ (by simp)⟩
    rw [columnTest?, hescape]
    rfl
  · have hread : readChars d.engine .blank " ILIKE ".toList = ([.word "ILIKE".toList], .blank) := by
      cases d.engine <;> rfl
    have hreads := reads_like h hplain rfl hread content (.str (Substring.containing content))
    rw [← hfragment] at hreads
    refine ⟨_, hreads, isOperand_column ?_ (by simp)⟩
    rw [columnTest?, hescape]
    rfl
  · have hreads := reads_lowered h hplain content (.str (Substring.containing content))
    rw [← hfragment] at hreads
    refine ⟨_, hreads, isOperand_of_test? ?_⟩
    rw [test?, column?_columnToken, hescape]
    rfl

end Column

/-! ### Lists and groups -/

section Compound

variable {engine : Engine} {ps : List Predicate} {es : List Expr}

theorem forall₂_fragments (h : List.Forall₂ (ReadsAs engine) ps es) :
    ∃ tss, List.Forall₂ (Reads engine) (Predicate.fragments engine ps) tss ∧
      List.Forall₂ IsOperand tss es := by
  induction h with
  | nil => exact ⟨[], by simp [Predicate.fragments], .nil⟩
  | cons hp _ ih =>
    obtain ⟨ts, hreads, hoperand⟩ := hp
    obtain ⟨tss, hfragments, hoperands⟩ := ih
    exact ⟨ts :: tss, .cons hreads hfragments, .cons hoperand hoperands⟩

/-- The fragment of an expression is read as a whole expression. -/
def ReadsAsBody (engine : Engine) (p : Predicate) (e : Expr) : Prop :=
  ∃ ts, Reads engine (p.fragment engine) ts ∧ IsBody ts e

theorem readsAsBody_both (h : List.Forall₂ (ReadsAs engine) ps es) (hne : es ≠ []) :
    ReadsAsBody engine (.both ps) (.any [.all es]) := by
  obtain ⟨tss, hfragments, hoperands⟩ := forall₂_fragments h
  refine ⟨_, ?_, isBody_and hoperands ?_⟩
  · rw [Predicate.fragment]
    exact reads_joinWith .and rfl hfragments
  · rintro rfl
    cases hoperands
    exact hne rfl

theorem readsAsBody_either (h : List.Forall₂ (ReadsAs engine) ps es) (hne : es ≠ []) :
    ReadsAsBody engine (.either ps) (.any (es.map fun e => .all [e])) := by
  obtain ⟨tss, hfragments, hoperands⟩ := forall₂_fragments h
  refine ⟨_, ?_, isBody_or hoperands ?_⟩
  · rw [Predicate.fragment]
    exact reads_joinWith .or rfl hfragments
  · rintro rfl
    cases hoperands
    exact hne rfl

theorem readsAs_grouped {p : Predicate} {e : Expr} (h : ReadsAsBody engine p e) :
    ReadsAs engine (.grouped p) e := by
  obtain ⟨ts, hreads, hbody⟩ := h
  refine ⟨_, ?_, isOperand_group hbody⟩
  rw [Predicate.fragment]
  exact reads_parentheses hreads

end Compound

/-! ### What expressions mean -/

/-- A condition on rows, under any interpretation. -/
abbrev Condition := Interpretation → (String → Value) → Prop

/-- The fragment of an expression is read as one operand that is true where a condition holds. -/
def Denotes (engine : Engine) (p : Predicate) (holds : Condition) : Prop :=
  ∃ e, ReadsAs engine p e ∧ ∀ m row, e.Holds m row ↔ holds m row

/-- The fragment of an expression is read as a whole expression that is true where a condition
holds. -/
def DenotesBody (engine : Engine) (p : Predicate) (holds : Condition) : Prop :=
  ∃ e, ReadsAsBody engine p e ∧ ∀ m row, e.Holds m row ↔ holds m row

theorem Denotes.congr {engine : Engine} {p : Predicate} {c c' : Condition}
    (h : Denotes engine p c) (heq : ∀ m row, c m row ↔ c' m row) : Denotes engine p c' := by
  obtain ⟨e, hreads, he⟩ := h
  exact ⟨e, hreads, fun m row => (he m row).trans (heq m row)⟩

section Denotes

variable {engine : Engine} {ps : List Predicate} {α : Type} {xs : List α} {holds : α → Condition}

theorem expressions_of_denotes
    (h : List.Forall₂ (fun p x => Denotes engine p (holds x)) ps xs) :
    ∃ es, List.Forall₂ (ReadsAs engine) ps es ∧ (es = [] ↔ xs = []) ∧ ∀ m row,
      ((∀ e ∈ es, e.Holds m row) ↔ ∀ x ∈ xs, holds x m row) ∧
        ((∃ e ∈ es, e.Holds m row) ↔ ∃ x ∈ xs, holds x m row) := by
  induction h with
  | nil => exact ⟨[], .nil, by simp, by simp⟩
  | cons hp _ ih =>
    obtain ⟨e, hreads, he⟩ := hp
    obtain ⟨es, hes, -, hholds⟩ := ih
    refine ⟨e :: es, .cons hreads hes, by simp, fun m row => ?_⟩
    obtain ⟨hall, hany⟩ := hholds m row
    refine ⟨?_, ?_⟩
    · simp only [List.forall_mem_cons, he, hall]
    · simp only [List.exists_mem_cons_iff, he, hany]

theorem denotesBody_both (h : List.Forall₂ (fun p x => Denotes engine p (holds x)) ps xs)
    (hne : xs ≠ []) : DenotesBody engine (.both ps) fun m row => ∀ x ∈ xs, holds x m row := by
  obtain ⟨es, hes, hempty, hholds⟩ := expressions_of_denotes h
  refine ⟨_, readsAsBody_both hes (mt hempty.1 hne), fun m row => ?_⟩
  refine Iff.trans ?_ (hholds m row).1
  simp [Expr.holds_any, Expr.holds_all]

theorem denotesBody_either (h : List.Forall₂ (fun p x => Denotes engine p (holds x)) ps xs)
    (hne : xs ≠ []) : DenotesBody engine (.either ps) fun m row => ∃ x ∈ xs, holds x m row := by
  obtain ⟨es, hes, hempty, hholds⟩ := expressions_of_denotes h
  refine ⟨_, readsAsBody_either hes (mt hempty.1 hne), fun m row => ?_⟩
  refine Iff.trans ?_ (hholds m row).2
  simp [Expr.holds_any, Expr.holds_all]

theorem denotes_grouped {p : Predicate} {c : Condition} (h : DenotesBody engine p c) :
    Denotes engine (.grouped p) c := by
  obtain ⟨e, hreads, he⟩ := h
  exact ⟨e, readsAs_grouped hreads, he⟩

theorem denotes_constant (holds : Bool) :
    Denotes engine (.constant holds) fun _ _ => holds = true := by
  refine ⟨_, readsAs_constant engine holds, fun m row => ?_⟩
  cases holds <;> simp [Expr.Holds, Expr.eval]

theorem denotesBody_of_denotes {p : Predicate} {c : Condition} (h : Denotes engine p c) :
    DenotesBody engine p c := by
  obtain ⟨e, ⟨ts, hreads, hoperand⟩, he⟩ := h
  refine ⟨.any [.all [e]], ⟨ts, hreads, isBody_and (.cons hoperand .nil) (by simp)⟩, fun m row => ?_⟩
  rw [← he]
  simp [Expr.holds_any, Expr.holds_all]

theorem denotesBody_conjunction (h : List.Forall₂ (fun p x => Denotes engine p (holds x)) ps xs) :
    DenotesBody engine (.conjunction ps) fun m row => ∀ x ∈ xs, holds x m row := by
  cases h with
  | nil =>
    have h : Denotes engine (.constant true) fun m row => ∀ x ∈ ([] : List α), holds x m row :=
      (denotes_constant true).congr fun m row => by simp
    exact denotesBody_of_denotes h
  | cons hp hps => exact denotesBody_both (.cons hp hps) (by simp)

section Pair

variable {p q : Predicate} {a b : Condition}

theorem denotes_both_pair (hp : Denotes engine p a) (hq : Denotes engine q b) :
    Denotes engine (.grouped (.both [p, q])) fun m row => a m row ∧ b m row := by
  have h : List.Forall₂ (fun p c => Denotes engine p (id c)) [p, q] [a, b] :=
    .cons hp (.cons hq .nil)
  refine (denotes_grouped (denotesBody_both h (by simp))).congr fun m row => ?_
  simp

theorem denotes_either_pair (hp : Denotes engine p a) (hq : Denotes engine q b) :
    Denotes engine (.grouped (.either [p, q])) fun m row => a m row ∨ b m row := by
  have h : List.Forall₂ (fun p c => Denotes engine p (id c)) [p, q] [a, b] :=
    .cons hp (.cons hq .nil)
  refine (denotes_grouped (denotesBody_either h (by simp))).congr fun m row => ?_
  simp

end Pair

theorem denotes_child (h : List.Forall₂ (fun p x => Denotes engine p (holds x)) ps xs) :
    Denotes engine (groupPart (xs.length, .conjunction ps))
      fun m row => ∀ x ∈ xs, holds x m row := by
  unfold groupPart
  by_cases hlength : xs.length > 1
  · rw [if_pos hlength]
    exact denotes_grouped (denotesBody_conjunction h)
  · rw [if_neg hlength]
    cases h with
    | nil =>
      refine (denotes_constant true).congr fun m row => ?_
      simp
    | cons hp hps =>
      cases hps with
      | nil =>
        refine Denotes.congr hp fun m row => ?_
        simp
      | cons => exact absurd (by simp) hlength

end Denotes

/-! ### Conditions and filters -/

section Condition

variable {d : SqlDialect} {column : String} {l : Leaf}

theorem denotes_nullTest {name : String} (h : d.renderField name = .ok column)
    (hplain : isPlain name.toList = true) (isNull : Bool) :
    Denotes d.engine (.nullTest column isNull) fun _ row => (row name).isNull = isNull :=
  ⟨_, readsAs_nullTest h hplain isNull, fun m row => Expr.holds_nullTest m row⟩

theorem exists_candidate_iff {xs : List Value} {a : Prop} {b : Value → Prop} :
    (∃ x ∈ xs, if x.isNull then a else b x) ↔
      (∃ x ∈ xs, x.isNull = true) ∧ a ∨ ∃ x ∈ xs.filter fun v => !v.isNull, b x := by
  constructor
  · rintro ⟨x, hx, h⟩
    by_cases hnull : x.isNull = true
    · rw [if_pos hnull] at h
      exact .inl ⟨⟨x, hx, hnull⟩, h⟩
    · rw [if_neg hnull] at h
      exact .inr ⟨x, List.mem_filter.2 ⟨hx, by simpa using hnull⟩, h⟩
  · rintro (⟨⟨x, hx, hnull⟩, ha⟩ | ⟨x, hx, hb⟩)
    · exact ⟨x, hx, by rwa [if_pos hnull]⟩
    · obtain ⟨hx, hnull⟩ := List.mem_filter.1 hx
      exact ⟨x, hx, by rwa [if_neg (by simpa using hnull)]⟩

theorem denotes_isIn {name : String} (h : d.renderField name = .ok column)
    (hplain : isPlain name.toList = true) (xs : List Value) :
    Denotes d.engine (membershipTest column false xs) fun m row => ∃ x ∈ xs,
      if x.isNull then (row name).isNull = true else Filter.Compares m .eq x (row name) := by
  simp only [exists_candidate_iff]
  have hnull := denotes_nullTest h hplain true
  have hmember : ∀ vs : List Value, vs ≠ [] → (∀ v ∈ vs, v.isNull = false) →
      Denotes d.engine (.membership column false vs) fun m row =>
        ∃ v ∈ vs, Filter.Compares m .eq v (row name) := fun vs hne hvs =>
    ⟨_, readsAs_membership h hplain false hne, fun m row => Expr.holds_isIn m row hvs⟩
  rcases membershipTest_cases column false xs with
    ⟨rfl, hp⟩ | ⟨hne, hpresent, hp⟩ | ⟨hpresent, hall, hp⟩ | ⟨hpresent, hsome, hp⟩
  all_goals rw [hp]
  · refine (denotes_constant false).congr fun m row => ?_
    simp
  · obtain ⟨x, hx⟩ := List.exists_mem_of_ne_nil xs hne
    have hsome : ∃ x ∈ xs, x.isNull = true :=
      ⟨x, hx, by simpa using List.filter_eq_nil_iff.1 hpresent x hx⟩
    refine hnull.congr fun m row => ?_
    rw [hpresent, and_iff_right hsome]
    simp
  · have hnone : ¬∃ x ∈ xs, x.isNull = true := by
      rintro ⟨x, hx, hnull⟩
      rw [hall x hx] at hnull
      exact Bool.noConfusion hnull
    refine (hmember _ hpresent (by simp)).congr fun m row => ?_
    rw [or_iff_right fun h => hnone h.1]
  · refine (denotes_either_pair (hmember _ hpresent (by simp)) hnull).congr fun m row => ?_
    rw [and_iff_right hsome, or_comm]

theorem denotes_notIn {name : String} (h : d.renderField name = .ok column)
    (hplain : isPlain name.toList = true) (xs : List Value) :
    Denotes d.engine (membershipTest column true xs) fun m row => xs = [] ∨
      (row name).isNull = false ∧ ∀ x ∈ xs, x.isNull = false → m.compare .eq (row name) x = false := by
  have hnull := denotes_nullTest h hplain false
  have hmember : ∀ vs : List Value, vs ≠ [] → (∀ v ∈ vs, v.isNull = false) →
      Denotes d.engine (.membership column true vs) fun m row =>
        (row name).isNull = false ∧ ∀ v ∈ vs, m.compare .eq (row name) v = false :=
    fun vs hne hvs =>
      ⟨_, readsAs_membership h hplain true hne, fun m row => Expr.holds_notIn m row hne hvs⟩
  have hpresent_iff : ∀ m : Interpretation, ∀ v : Value,
      (∀ x ∈ xs.filter fun v => !v.isNull, m.compare .eq v x = false) ↔
        ∀ x ∈ xs, x.isNull = false → m.compare .eq v x = false := by
    intro m v
    simp [List.mem_filter]
  simp only [← hpresent_iff]
  rcases membershipTest_cases column true xs with
    ⟨rfl, hp⟩ | ⟨hne, hpresent, hp⟩ | ⟨hpresent, hall, hp⟩ | ⟨hpresent, hsome, hp⟩
  all_goals rw [hp]
  · refine (denotes_constant true).congr fun m row => ?_
    simp
  · refine hnull.congr fun m row => ?_
    rw [hpresent, or_iff_right hne]
    simp
  · have hne : xs ≠ [] := fun hxs => hpresent (by rw [hxs]; rfl)
    refine (hmember _ hpresent (by simp)).congr fun m row => ?_
    rw [or_iff_right hne]
  · have hne : xs ≠ [] := fun hxs => hpresent (by rw [hxs]; rfl)
    refine (denotes_both_pair (hmember _ hpresent (by simp)) hnull).congr fun m row => ?_
    rw [or_iff_right hne, and_right_comm, and_self]

theorem denotes_of_tests {p : Predicate} (h : d.renderField l.field.text = .ok column)
    (hplain : isPlain l.field.text.toList = true) (htest : Tests column l p) :
    Denotes d.engine p fun m row => l.Holds m row := by
  cases htest with
  | isNull hop hnull =>
    obtain ⟨e, hreads, he⟩ := denotes_nullTest h hplain true
    exact ⟨e, hreads, by simpa [Leaf.Holds, hop, hnull] using he⟩
  | isNotNull hop hnull =>
    obtain ⟨e, hreads, he⟩ := denotes_nullTest h hplain false
    exact ⟨e, hreads, by simpa [Leaf.Holds, hop, hnull] using he⟩
  | @compare op hop hnull =>
    refine ⟨_, readsAs_compare h hplain op l.value, fun m row => ?_⟩
    rw [Expr.holds_compare m row hnull]
    unfold Leaf.Holds
    cases ho : l.operator <;> simp_all [comparison?]
  | presence hop =>
    obtain ⟨e, hreads, he⟩ := denotes_nullTest h hplain (!l.value.truthy)
    exact ⟨e, hreads, by simpa [Leaf.Holds, hop] using he⟩
  | isIn hop hxs =>
    obtain ⟨e, hreads, he⟩ := denotes_isIn h hplain _
    exact ⟨e, hreads, by simpa [Leaf.Holds, Leaf.candidateValues, hop, hxs] using he⟩
  | notIn hop hxs =>
    obtain ⟨e, hreads, he⟩ := denotes_notIn h hplain _
    exact ⟨e, hreads, by simpa [Leaf.Holds, Leaf.candidateValues, hop, hxs] using he⟩
  | pattern hop hs =>
    refine ⟨_, readsAs_contains h hplain _ _, fun m row => ?_⟩
    rw [Expr.holds_like]
    simp [Leaf.Holds, hop, hs]

theorem denotes_groupTest {engine : Engine} (c : Filter.Connective)
    {parts : List (Nat × Predicate)} {children : List (List Node)}
    (h : List.Forall₂ (fun p child => Denotes engine p fun m row => Filter.AllHold m row child)
      (parts.map groupPart) children) :
    Denotes engine (groupTest c parts) fun m row => (Node.group c children).Holds m row := by
  cases parts with
  | nil =>
    cases h
    refine (denotes_constant true).congr fun m row => ?_
    cases c <;> simp [Node.Holds, Filter.EveryHolds]
  | cons part parts =>
    cases children with
    | nil => cases h
    | cons child children =>
      cases c with
      | and =>
        rw [groupTest_and]
        refine (denotes_grouped (denotesBody_both h (by simp))).congr fun m row => ?_
        rw [Node.Holds, Filter.everyHolds_iff]
      | or =>
        rw [groupTest_or]
        refine (denotes_grouped (denotesBody_either h (by simp))).congr fun m row => ?_
        rw [Node.Holds, Filter.someHolds_iff]

theorem denotes_condition {nodes : List Node} {p : Predicate}
    (hplain : ∀ l ∈ leaves nodes, isPlain l.field.text.toList = true)
    (h : condition d nodes = .ok p) :
    DenotesBody d.engine p fun m row => Filter.AllHold m row nodes := by
  obtain ⟨ps, hps, rfl⟩ := condition_eq_ok h
  simp only [Filter.allHold_iff]
  refine denotesBody_conjunction (condition_induction
    (fun n p => (∀ l ∈ n.leaves, isPlain l.field.text.toList = true) →
      Denotes d.engine p fun m row => n.Holds m row)
    (fun ns ps => (∀ l ∈ leaves ns, isPlain l.field.text.toList = true) →
      List.Forall₂ (fun p n => Denotes d.engine p fun m row => Node.Holds m row n) ps ns)
    (fun children parts =>
      (∀ l ∈ leavesOfChildren children, isPlain l.field.text.toList = true) →
        List.Forall₂ (fun p child => Denotes d.engine p fun m row => Filter.AllHold m row child)
          (parts.map groupPart) children)
    ?_ ?_ ?_ ?_ ?_ ?_ hps hplain)
  · intro l column p hcolumn htest hplain
    refine (denotes_of_tests hcolumn (hplain l (by simp [Node.leaves])) htest).congr fun m row => ?_
    rw [Node.Holds]
  · intro c children parts hparts hplain
    rw [Node.leaves] at hplain
    exact denotes_groupTest c (hparts hplain)
  · intro _
    exact .nil
  · intro n ns p ps hp hps hplain
    rw [leaves, List.forall_mem_append] at hplain
    exact .cons (hp hplain.1) (hps hplain.2)
  · intro _
    exact .nil
  · intro ns children ps parts hps hparts hplain
    rw [leavesOfChildren, List.forall_mem_append] at hplain
    refine .cons ?_ (hparts hplain.2)
    refine (denotes_child (hps hplain.1)).congr fun m row => ?_
    rw [Filter.allHold_iff]

end Condition

/-! ### Compiled texts -/

theorem ofText?_render {d : SqlDialect} {value? : Nat → Option Value} {f : Fragment} {next : Nat}
    {ts : List Token} {e : Expr} (hclear : f.Clear)
    (hvalues : ∀ i < f.values.length, value? (next + i) = f.values[i]?)
    (hreads : Reads d.engine f ts) (hbody : IsBody ts e) :
    Expr.ofText? d value? next (f.render d.placeholders next) = some e := by
  have htokens : tokensFrom d.engine .blank f.inputs = ts := by
    simpa [tokensFrom, Lexeme.tokens] using hreads [] trivial
  rw [Expr.ofText?, inputs?_render hclear hvalues, Option.bind_some, htokens,
    expression?_of_isBody hbody]

theorem getElem?_parameters_bind (c : Compiler) (vs : List Value) (i : Nat) :
    (c.bind vs).parameters[c.next + i - c.start]? = vs[i]? := by
  have hnumber : c.next + i - c.start = c.parameters.length + i := by
    rw [Compiler.next]
    omega
  rw [hnumber, Compiler.parameters_bind, List.getElem?_append_right (by omega),
    Nat.add_sub_cancel_left]

/-- The text that a condition tree over plain names is compiled to, by a compiler that may have bound
other values before, is a boolean expression under the values that it has bound then. Under every
interpretation, the expression is true on exactly the rows that satisfy the tree. -/
theorem holds_condition {c c' : Compiler} {nodes : List Node} {text : String}
    (hplain : ∀ l ∈ leaves nodes, isPlain l.field.text.toList = true)
    (h : c.condition nodes = (.ok text, c')) :
    ∃ e, Expr.ofText? c.dialect (fun number => c'.parameters[number - c.start]?) c.next text =
        some e ∧
      ∀ m row, e.Holds m row ↔ Filter.AllHold m row nodes := by
  unfold Compiler.condition Compiler.clause at h
  cases hp : condition c.dialect nodes with
  | error r =>
    rw [hp] at h
    cases h
  | ok p =>
    rw [hp] at h
    cases h
    obtain ⟨e, ⟨ts, hreads, hbody⟩, he⟩ := denotes_condition hplain hp
    refine ⟨e, ofText?_render (clear_condition hp c.dialect.engine) (fun i _ => ?_) hreads hbody, he⟩
    exact getElem?_parameters_bind c _ i

/-- A disjunction of a conjunction and of a membership with null, before a pattern with an escape. -/
theorem holds_condition_of_nested :
    let nodes : List Node :=
      [.group .or
        [[.leaf { field := .plain "a", operator := .eq, value := .int 1 },
            .leaf { field := .plain "b", operator := .ne, value := .null }],
          [.leaf { field := .plain "order", operator := .isIn, value := .list [.int 2, .null] }]],
        .leaf { field := .plain "c", operator := .regex, value := .str "5%" }]
    let c : Compiler := { dialect := { engine := .postgresql } }
    let text := "((a = $1 AND b IS NOT NULL) OR (\"order\" IN ($2) OR \"order\" IS NULL)) AND " ++
      "c LIKE $3 ESCAPE E'\\\\'"
    (∀ l ∈ leaves nodes, isPlain l.field.text.toList = true) ∧
      c.condition nodes = (.ok text, c.bind [.int 1, .int 2, .str "%5\\%%"]) ∧
      ∃ e, Expr.ofText? c.dialect
          (fun number => [Value.int 1, .int 2, .str "%5\\%%"][number - 1]?) 1 text = some e ∧
        ∀ m row, e.Holds m row ↔ Filter.AllHold m row nodes := by
  intro nodes c text
  have hplain : ∀ l ∈ leaves nodes, isPlain l.field.text.toList = true := by
    intro l hl
    simp only [nodes, leaves, Node.leaves, leavesOfChildren, List.append_nil, List.cons_append,
      List.nil_append, List.mem_cons, List.not_mem_nil, or_false] at hl
    rcases hl with rfl | rfl | rfl | rfl <;> decide
  have htext : c.condition nodes = (.ok text, c.bind [.int 1, .int 2, .str "%5\\%%"]) := by
    with_unfolding_all rfl
  exact ⟨hplain, htext, holds_condition hplain htext⟩

end Polystore.Sql
