import Polystore.Proofs.Sql.Like
import Polystore.Proofs.Sql.Numbering

/-!
# What a compiled pattern matches

A pattern becomes a `LIKE` test with one bound text. Where the text of the test ends with an `ESCAPE`
clause, a store reads the backslash of the bound text as the escape; without the clause some stores do so
and others take the backslash as it is. Under every such reading, the bound text matches the texts that
contain the literal of the pattern.

Main statement: `like_of_pattern`, for a pattern alone and at every place of a filter.
-/

namespace Polystore

namespace Engine

/-- The escapes that a store may read a pattern with, after the text of its test: the one that a clause
at the end of the text names, and without a clause none or the backslash. -/
def escapesRead (engine : Engine) (text : String) : List (Option Char) :=
  if engine.likeEscape.toList <:+ text.toList then [some '\\'] else [none, some '\\']

end Engine

namespace Sql

open Polystore.Filter (Leaf Node leaves leavesOfChildren)

/-! ### The clause at the end -/

theorem not_suffix_of_not_mem {mark : Char} {clause before last : List Char}
    (hclause : clause.getLast? = some mark) (hlast : last ≠ []) (hmark : mark ∉ last) :
    ¬ clause <:+ before ++ last := by
  rintro ⟨front, h⟩
  have hends : (before ++ last).getLast? = some mark := by
    rw [← h, List.getLast?_append, hclause]
    rfl
  rw [List.getLast?_append_of_ne_nil _ hlast] at hends
  exact hmark (List.mem_of_getLast? hends)

theorem not_mem_placeholder (style : PlaceholderStyle) (number : Nat) :
    (style.placeholder number).toList ≠ [] ∧ '\'' ∉ (style.placeholder number).toList := by
  cases style with
  | numbered =>
    rw [PlaceholderStyle.toList_placeholder_numbered]
    refine ⟨List.cons_ne_nil _ _, fun h => ?_⟩
    rcases List.mem_cons.1 h with h | h
    · exact absurd h (by decide)
    · have hdigit := Nat.isDigit_of_mem_toDigits (by omega) (by omega) h
      exact absurd hdigit (by decide)
  | qmark =>
    rw [PlaceholderStyle.toList_placeholder_qmark]
    decide
  | format =>
    rw [PlaceholderStyle.toList_placeholder_format]
    decide

/-- The text of a pattern test ends with the clause of its engine exactly if the literal text of the
pattern needs an escape. -/
theorem likeEscape_suffix_iff (engine : Engine) (style : PlaceholderStyle) (next : Nat)
    (column content : String) (ignoreCase : Bool) :
    engine.likeEscape.toList <:+
        ((Predicate.containsFragment engine column content ignoreCase).render style next).toList ↔
      Substring.needsEscape content = true := by
  have hclause : engine.likeEscape.toList.getLast? = some '\'' := by
    cases engine <;> decide
  obtain ⟨hne, hmark⟩ := not_mem_placeholder style next
  have hescaped : ∀ f : Fragment, engine.likeEscape.toList <:+
      (Fragment.render style next (f ++ [.text engine.likeEscape])).toList := by
    intro f
    rw [Fragment.render_append, String.toList_append, Fragment.render, Fragment.render,
      String.append_empty]
    exact List.suffix_append _ _
  cases hneeds : Substring.needsEscape content with
  | true =>
    rcases containsFragment_cases engine column content ignoreCase with
      ⟨-, h⟩ | ⟨-, h | h⟩
    all_goals
      rw [h, if_pos hneeds]
      simp only [iff_true]
      exact hescaped _
  | false =>
    have hplain : ¬ Substring.needsEscape content = true := by simp [hneeds]
    simp only [Bool.false_eq_true, iff_false]
    rcases containsFragment_cases engine column content ignoreCase with
      ⟨-, h⟩ | ⟨-, h | h⟩
    all_goals
      rw [h, if_neg hplain, List.append_nil]
      simp only [Fragment.render, String.append_empty, ← String.append_assoc, String.toList_append]
    · exact not_suffix_of_not_mem hclause hne hmark
    · exact not_suffix_of_not_mem hclause hne hmark
    · exact not_suffix_of_not_mem hclause (by decide) (by decide)

theorem suits_of_escapesRead {engine : Engine} {style : PlaceholderStyle} {next : Nat}
    {column content : String} {ignoreCase : Bool} {escape : Option Char}
    (h : escape ∈ engine.escapesRead
      ((Predicate.containsFragment engine column content ignoreCase).render style next)) :
    Substring.Suits escape content.toList := by
  unfold Engine.escapesRead at h
  rw [if_congr (likeEscape_suffix_iff engine style next column content ignoreCase) rfl rfl] at h
  cases hneeds : Substring.needsEscape content with
  | true =>
    rw [if_pos hneeds, List.mem_singleton] at h
    exact .inl h
  | false =>
    rw [if_neg (by simp [hneeds])] at h
    exact .inr ⟨hneeds, by simpa using h⟩

/-! ### The place of a condition in a filter -/

/-- A fragment is empty, or starts with a connective or a closing parenthesis. -/
def Continues (f : Fragment) : Prop :=
  f = [] ∨ ∃ s ∈ [" AND ", " OR ", ")"], ∃ g, f = .text s :: g

theorem continues_append {f g : Fragment} (hf : Continues f) (hg : Continues g) :
    Continues (f ++ g) := by
  rcases hf with rfl | ⟨s, hs, rest, rfl⟩
  · exact hg
  · exact .inr ⟨s, hs, rest ++ g, rfl⟩

/-- A fragment holds the fragments of tests, in their order, with texts before, between and after
them. -/
inductive Woven (engine : Engine) : List Predicate → Fragment → Prop where
  | nil : Woven engine [] []
  | text {ps : List Predicate} {f : Fragment} (s : String) (h : Woven engine ps f) :
      Woven engine ps (.text s :: f)
  | test {p : Predicate} {ps : List Predicate} {f : Fragment} (hf : Continues f)
      (h : Woven engine ps f) : Woven engine (p :: ps) (p.fragment engine ++ f)

section Weaving

variable {engine : Engine} {f g : Fragment} {ps qs : List Predicate}

theorem woven_append (hf : Woven engine ps f) (hg : Woven engine qs g) (hstart : Continues g) :
    Woven engine (ps ++ qs) (f ++ g) := by
  induction hf with
  | nil => exact hg
  | text s _ ih => exact .text s ih
  | test hcontinues _ ih =>
    rw [List.cons_append, List.append_assoc]
    exact .test (continues_append hcontinues hstart) ih

theorem woven_parentheses (h : Woven engine ps f) :
    Woven engine ps (.text "(" :: (f ++ [.text ")"])) := by
  have hclosing : Woven engine [] [.text ")"] := .text ")" .nil
  have hbody := woven_append h hclosing (.inr ⟨")", by decide, [], rfl⟩)
  rw [List.append_nil] at hbody
  exact .text "(" hbody

theorem woven_joinWith {separator : String} (hseparator : separator ∈ [" AND ", " OR ", ")"])
    {pss : List (List Predicate)} {fs : List Fragment} (h : List.Forall₂ (Woven engine) pss fs) :
    Woven engine pss.flatten (Fragment.joinWith separator fs) := by
  induction h with
  | nil => exact .nil
  | @cons ps f pss fs hf hfs ih =>
    cases hfs with
    | nil => simpa [Fragment.joinWith] using hf
    | cons hg hfs =>
      rw [Fragment.joinWith, List.flatten_cons]
      exact woven_append hf (.text separator ih) (.inr ⟨separator, hseparator, _, rfl⟩)

theorem exists_of_woven {p : Predicate} (h : Woven engine (ps ++ p :: qs) f) :
    ∃ left right, f = left ++ p.fragment engine ++ right ∧
      left.values = Predicate.valuesOfAll ps ∧ Continues right := by
  generalize hall : ps ++ p :: qs = all at h
  induction h generalizing ps with
  | nil => exact absurd hall (by simp)
  | text s _ ih =>
    obtain ⟨left, right, rfl, hvalues, hright⟩ := ih hall
    exact ⟨.text s :: left, right, rfl, hvalues, hright⟩
  | @test q qs' f hcontinues _ ih =>
    cases ps with
    | nil =>
      obtain ⟨rfl, -⟩ := List.cons.inj hall
      exact ⟨[], f, rfl, rfl, hcontinues⟩
    | cons q' ps =>
      obtain ⟨rfl, hrest⟩ := List.cons.inj hall
      obtain ⟨left, right, rfl, hvalues, hright⟩ := ih hrest
      refine ⟨q'.fragment engine ++ left, right, by simp only [List.append_assoc], ?_, hright⟩
      rw [Fragment.values_append, Predicate.values_fragment, hvalues, Predicate.valuesOfAll]

end Weaving

/-- A test is what a condition becomes. -/
def TestOf (d : SqlDialect) (l : Leaf) (p : Predicate) : Prop :=
  ∃ column, d.renderField l.field.text = .ok column ∧ Tests column l p

theorem valuesOfAll_of_testOf {d : SqlDialect} {ls : List Leaf} {ps : List Predicate}
    (h : List.Forall₂ (TestOf d) ls ps) : Predicate.valuesOfAll ps = ls.flatMap Leaf.bound := by
  induction h with
  | nil => rfl
  | cons hp _ ih =>
    obtain ⟨_, -, htest⟩ := hp
    rw [Predicate.valuesOfAll, values_of_tests htest, ih, List.flatMap_cons]

theorem exists_testOf {d : SqlDialect} {before after : List Leaf} {l : Leaf} {ps : List Predicate}
    (h : List.Forall₂ (TestOf d) (before ++ l :: after) ps) :
    ∃ ps₁ p ps₂, ps = ps₁ ++ p :: ps₂ ∧ List.Forall₂ (TestOf d) before ps₁ ∧ TestOf d l p := by
  induction before generalizing ps with
  | nil =>
    obtain ⟨p, ps₂, hp, -, rfl⟩ := List.forall₂_cons_left_iff.1 h
    exact ⟨[], p, ps₂, rfl, .nil, hp⟩
  | cons l' before ih =>
    obtain ⟨q, rest, hq, hrest, rfl⟩ := List.forall₂_cons_left_iff.1 h
    obtain ⟨ps₁, p, ps₂, rfl, hbefore, hp⟩ := ih hrest
    exact ⟨q :: ps₁, p, ps₂, rfl, .cons hq hbefore, hp⟩

theorem woven_condition {d : SqlDialect} {nodes : List Node} {p : Predicate}
    (h : condition d nodes = .ok p) (engine : Engine) :
    ∃ ps, List.Forall₂ (TestOf d) (leaves nodes) ps ∧ Woven engine ps (p.fragment engine) := by
  have hconstant : Woven engine [] ((Predicate.constant true).fragment engine) := by
    rw [Predicate.fragment]
    exact .text "1=1" .nil
  have hjoined : ∀ (parts : List Predicate) (pss : List (List Predicate)),
      List.Forall₂ (fun ps q => Woven engine ps (q.fragment engine)) pss parts →
        Woven engine pss.flatten ((Predicate.conjunction parts).fragment engine) := by
    intro parts pss hparts
    cases hparts with
    | nil => exact hconstant
    | @cons ps q pss qs hq hqs =>
      show Woven engine _ ((Predicate.both (q :: qs)).fragment engine)
      rw [Predicate.fragment, fragments_eq_map]
      exact woven_joinWith (by decide) (List.forall₂_map_right_iff.2 (.cons hq hqs))
  obtain ⟨tests, htests, rfl⟩ := condition_eq_ok h
  suffices hnodes : ∃ pss, List.Forall₂ (TestOf d) (leaves nodes) pss.flatten ∧
      List.Forall₂ (fun ps q => Woven engine ps (q.fragment engine)) pss tests by
    obtain ⟨pss, hleaves, hwoven⟩ := hnodes
    exact ⟨pss.flatten, hleaves, hjoined _ _ hwoven⟩
  refine condition_induction
    (fun n p => ∃ ps, List.Forall₂ (TestOf d) n.leaves ps ∧ Woven engine ps (p.fragment engine))
    (fun ns tests => ∃ pss, List.Forall₂ (TestOf d) (leaves ns) pss.flatten ∧
      List.Forall₂ (fun ps q => Woven engine ps (q.fragment engine)) pss tests)
    (fun children parts => ∃ pss, List.Forall₂ (TestOf d) (leavesOfChildren children) pss.flatten ∧
      List.Forall₂ (fun ps q => Woven engine ps (q.fragment engine)) pss (parts.map groupPart))
    ?_ ?_ ?_ ?_ ?_ ?_ htests
  · intro l column p hcolumn htest
    rw [Node.leaves]
    have hwoven : Woven engine [p] (p.fragment engine ++ []) := .test (.inl rfl) .nil
    rw [List.append_nil] at hwoven
    exact ⟨[p], .cons ⟨column, hcolumn, htest⟩ .nil, hwoven⟩
  · rintro c children parts ⟨pss, hleaves, hwoven⟩
    rw [Node.leaves]
    refine ⟨pss.flatten, hleaves, ?_⟩
    cases parts with
    | nil =>
      cases hwoven
      exact hconstant
    | cons part parts =>
      cases c with
      | and =>
        rw [groupTest_and, Predicate.fragment, Predicate.fragment, fragments_eq_map]
        exact woven_parentheses (woven_joinWith (by decide) (List.forall₂_map_right_iff.2 hwoven))
      | or =>
        rw [groupTest_or, Predicate.fragment, Predicate.fragment, fragments_eq_map]
        exact woven_parentheses (woven_joinWith (by decide) (List.forall₂_map_right_iff.2 hwoven))
  · exact ⟨[], by simp [leaves], .nil⟩
  · rintro n ns p ps ⟨qs, hn, hwoven⟩ ⟨pss, hns, hrest⟩
    rw [leaves]
    exact ⟨qs :: pss, List.rel_append hn hns, .cons hwoven hrest⟩
  · exact ⟨[], by simp [leavesOfChildren], .nil⟩
  · rintro ns children ps parts ⟨pss, hns, hwoven⟩ ⟨rest, hchildren, hrest⟩
    rw [leavesOfChildren]
    refine ⟨pss.flatten :: rest, List.rel_append hns hchildren, .cons ?_ hrest⟩
    have hchild := hjoined ps pss hwoven
    unfold groupPart
    split
    · rw [Predicate.fragment]
      exact woven_parentheses hchild
    · exact hchild

/-! ### A pattern in a filter -/

section Pattern

variable {d : SqlDialect} {l : Leaf} {source : Value} {fromFlags ignoreCase : Bool}
  {pattern content column : String} {p : Predicate}

theorem leafTest_of_pattern (hop : l.operator = .regex)
    (hsource : patternSource l = .ok (source, fromFlags)) (hpattern : source.text? = some pattern)
    (hoptions : readOptions l.field fromFlags l.options.text.toList = .ok ignoreCase)
    (hcontent : Substring.ofPattern pattern = .ok content)
    (hcolumn : d.renderField l.field.text = .ok column) :
    leafTest d l = .ok (.contains column content ignoreCase) := by
  have hpatternTest : patternTest column l = .ok (.contains column content ignoreCase) := by
    rw [patternTest, bind_eq_ok]
    refine ⟨(source, fromFlags), hsource, ?_⟩
    simp only [hpattern]
    exact bind_eq_ok.2 ⟨ignoreCase, hoptions, bind_eq_ok.2 ⟨content, hcontent, rfl⟩⟩
  rw [leafTest, hcolumn, hop]
  exact hpatternTest

theorem condition_leaf {c : Compiler} (h : leafTest c.dialect l = .ok p) :
    c.condition [.leaf l] =
      (.ok ((p.fragment c.dialect.engine).render c.dialect.placeholders c.next), c.bind p.values) := by
  have hcondition : condition c.dialect [.leaf l] = .ok (.both [p]) := by
    rw [condition, nodeTests, nodeTest, h, nodeTests]
    rfl
  have hfragment : (Predicate.both [p]).fragment c.dialect.engine = p.fragment c.dialect.engine := by
    rw [Predicate.fragment, Predicate.fragments, Predicate.fragments, Fragment.joinWith]
  rw [Compiler.condition, hcondition]
  show (Except.ok (((Predicate.both [p]).fragment c.dialect.engine).render _ _), c.bind _) = _
  rw [hfragment, Predicate.values_fragment]

theorem eq_of_testOf (hop : l.operator = .regex) (h : leafTest d l = .ok p) {q : Predicate}
    (hq : TestOf d l q) : q = p := by
  obtain ⟨column', hcolumn', htest'⟩ := hq
  obtain ⟨column, hcolumn, htest⟩ := leafTest_eq_ok h
  obtain rfl : column' = column := Except.ok.inj (hcolumn'.symm.trans hcolumn)
  have hpattern : ∀ r, Tests column' l r → ∃ s, l.literal? = some s ∧
      r = .contains column' s l.ignoresCase := by
    intro r hr
    cases hr with
    | pattern _ hs => exact ⟨_, hs, rfl⟩
    | compare hop' => simp [hop, comparison?] at hop'
    | isNull hop' => simp [hop] at hop'
    | isNotNull hop' => simp [hop] at hop'
    | presence hop' => simp [hop] at hop'
    | isIn hop' => simp [hop] at hop'
    | notIn hop' => simp [hop] at hop'
  obtain ⟨s, hs, rfl⟩ := hpattern _ htest
  obtain ⟨s', hs', rfl⟩ := hpattern _ htest'
  rw [hs] at hs'
  rw [Option.some.inj hs']

theorem condition_at_pattern {c : Compiler} (hop : l.operator = .regex)
    (h : leafTest c.dialect l = .ok p) {nodes : List Node} {before after : List Leaf}
    {whole : String} (hplace : leaves nodes = before ++ l :: after)
    (hwhole : (c.condition nodes).1 = .ok whole) :
    let earlier := before.flatMap Leaf.bound
    (c.condition nodes).2 = c.bind (earlier ++ p.values ++ after.flatMap Leaf.bound) ∧
      ∃ left own right, whole = left ++ own ++ right ∧
        ((c.bind earlier).condition [.leaf l]).1 = .ok own ∧
        (right = "" ∨ ∃ s ∈ [" AND ", " OR ", ")"], ∃ rest, right = s ++ rest) := by
  intro earlier
  have hanswer : (c.answer (.condition nodes)).1 = .ok whole := hwhole
  obtain ⟨f, hf, rfl, hafter⟩ := Compiler.answer_eq_ok hanswer
  have hvalues := Call.values_condition hf
  obtain ⟨q, hq, rfl⟩ := map_eq_ok.1 hf
  obtain ⟨ps, hleaves, hwoven⟩ := woven_condition hq c.dialect.engine
  rw [hplace] at hleaves
  obtain ⟨ps₁, p', ps₂, rfl, hbefore, hp⟩ := exists_testOf hleaves
  obtain rfl := eq_of_testOf hop h hp
  obtain ⟨left, right, hfragment, hleft, hright⟩ := exists_of_woven hwoven
  have hbound : p'.values = l.bound := by
    obtain ⟨_, -, htest⟩ := hp
    exact values_of_tests htest
  have hearlier : left.values = earlier := hleft.trans (valuesOfAll_of_testOf hbefore)
  refine ⟨hafter.trans ?_, ?_⟩
  · rw [hvalues, hplace, hbound]
    simp [earlier]
  · have hown := condition_leaf (c := c.bind earlier) h
    refine ⟨left.render c.dialect.placeholders c.next, _,
      right.render c.dialect.placeholders ((c.bind earlier).next + p'.values.length), ?_,
      congrArg Prod.fst hown, ?_⟩
    · rw [hfragment, Fragment.render_append, Fragment.render_append, Fragment.values_append,
        hearlier, Predicate.values_fragment, List.length_append, ← Nat.add_assoc,
        Compiler.next_bind]
      rfl
    · rcases hright with rfl | ⟨s, hs, rest, rfl⟩
      · exact .inl rfl
      · exact .inr ⟨s, hs, _, rfl⟩

/-- For every pattern over text that stands for a literal text, with flags and options that are
accepted, on a field that a dialect can name: one text is bound to the pattern, whichever compiler
writes it. Under every escape that a store may read it with, after the text of the test, it matches
exactly the texts that contain the literal, and lowered exactly the lowered texts that contain the
lowered literal. In every filter that is compiled, the pattern is written and bound at its place in
the same way. -/
theorem like_of_pattern (hop : l.operator = .regex)
    (hsource : patternSource l = .ok (source, fromFlags)) (hpattern : source.text? = some pattern)
    (hoptions : readOptions l.field fromFlags l.options.text.toList = .ok ignoreCase)
    (hcontent : Substring.ofPattern pattern = .ok content)
    (hcolumn : d.renderField l.field.text = .ok column) :
    ∃ bound : String,
      (∀ c : Compiler, c.dialect = d → ∃ text,
        c.condition [.leaf l] = (.ok text, c.bind [.str bound]) ∧
        ∀ escape ∈ d.engine.escapesRead text,
          (∀ t : List Char, Substring.like escape bound.toList t = true ↔ content.toList <:+: t) ∧
          ∀ (m : Substring.Lowering) (t : List Char),
            Substring.like escape (bound.toList.map m.lower) (t.map m.lower) = true ↔
              content.toList.map m.lower <:+: t.map m.lower) ∧
      ∀ (c : Compiler) nodes before after whole, c.dialect = d →
        leaves nodes = before ++ l :: after → (c.condition nodes).1 = .ok whole →
        let earlier := before.flatMap Leaf.bound
        (c.condition nodes).2 =
            c.bind (earlier ++ [.str bound] ++ after.flatMap Leaf.bound) ∧
          ∃ left own right, whole = left ++ own ++ right ∧
            ((c.bind earlier).condition [.leaf l]).1 = .ok own ∧
            (right = "" ∨ ∃ s ∈ [" AND ", " OR ", ")"], ∃ rest, right = s ++ rest) := by
  have htest := leafTest_of_pattern hop hsource hpattern hoptions hcontent hcolumn
  refine ⟨Substring.containing content, ?_, ?_⟩
  · rintro c rfl
    refine ⟨_, condition_leaf htest, fun escape hescape => ?_⟩
    rw [Predicate.fragment] at hescape
    have hsuits := suits_of_escapesRead hescape
    rw [Substring.containing, String.toList_ofList]
    exact ⟨Substring.like_containing hsuits,
      fun m t => Substring.like_lowered_containing hsuits m (t.map m.lower)⟩
  · rintro c nodes before after whole rfl hplace hwhole
    exact condition_at_pattern hop htest hplace hwhole

/-- A literal text with a backslash and a percent sign, asked for in any letter case. -/
theorem like_of_pattern_of_mixed :
    let l : Leaf :=
      { field := .plain "c"
        operator := .regex
        value := .str "5%\\\\\\."
        options := .plain "i" }
    let d : SqlDialect := { engine := .mysql }
    let text := "LOWER(c) LIKE LOWER(%s) ESCAPE '\\\\'"
    l.operator = .regex ∧ patternSource l = .ok (.str "5%\\\\\\.", false) ∧
      readOptions l.field false l.options.text.toList = .ok true ∧
      Substring.ofPattern "5%\\\\\\." = .ok "5%\\." ∧ d.renderField l.field.text = .ok "c" ∧
      ({ dialect := d } : Compiler).condition [.leaf l] =
        (.ok text, { dialect := d, parameters := [.str "%5\\%\\\\.%"] }) ∧
      d.engine.escapesRead text = [some '\\'] ∧
      ∀ t : List Char, Substring.like (some '\\') "%5\\%\\\\.%".toList t = true ↔
        "5%\\.".toList <:+: t := by
  intro l d text
  have hsource : patternSource l = .ok (.str "5%\\\\\\.", false) := rfl
  have hoptions : readOptions l.field false l.options.text.toList = .ok true := by
    have htoList : l.options.text.toList = ['i'] := by decide
    rw [htoList]
    rfl
  have hcontent : Substring.ofPattern "5%\\\\\\." = .ok "5%\\." := by
    with_unfolding_all rfl
  have hcolumn : SqlDialect.renderField { engine := .mysql } "c" = .ok "c" := by
    with_unfolding_all rfl
  have hwritten : ({ dialect := d } : Compiler).condition [.leaf l] =
      (.ok text, { dialect := d, parameters := [.str "%5\\%\\\\.%"] }) :=
    (condition_leaf (leafTest_of_pattern rfl hsource rfl hoptions hcontent hcolumn)).trans
      (by with_unfolding_all rfl)
  have hread : d.engine.escapesRead text = [some '\\'] := by decide
  obtain ⟨bound, halone, -⟩ := like_of_pattern rfl hsource rfl hoptions hcontent hcolumn
  obtain ⟨text', htext, hlike⟩ := halone { dialect := d } rfl
  rw [hwritten] at htext
  obtain ⟨htext, hbound⟩ := Prod.mk.inj htext
  obtain rfl : text = text' := Except.ok.inj htext
  obtain rfl : "%5\\%\\\\.%" = bound := by simpa [Compiler.bind] using hbound
  refine ⟨rfl, hsource, hoptions, hcontent, hcolumn, hwritten, hread, ?_⟩
  exact (hlike (some '\\') (by rw [hread]; exact List.mem_singleton_self _)).1

end Pattern

end Sql

end Polystore
