import Polystore.Proofs.Sql.Denotation

/-!
# Lists in SQL text

An item is a lexeme with its spelling, or a bound value. Items are told apart as tokens are, but the text
of each is kept, so that the parts of a list can be read that are no conditions. A list is cut at the
commas that stand outside all parentheses.

Main statements: `splitAtCommas_intercalate` and `enclosed?_append` say that parts which open and close
their own parentheses are told apart and read to the parenthesis that closes them.
-/

namespace Polystore.Sql

open Identifier (isPlain quoted)

/-- A lexeme that is read to its end, or the value of a placeholder. -/
inductive Item where
  | lexeme (l : Lexeme)
  | value (v : Value)

namespace Item

/-- The item is a symbol. -/
def isSymbol (c : Char) : Item → Bool
  | .lexeme (.symbol [d]) => c == d
  | _ => false

/-- The item is a word, in any letter case. -/
def isWord (word : String) : Item → Bool
  | .lexeme (.word cs) => spells cs word
  | _ => false

/-- The name that an item is. -/
def name? : Item → Option String
  | .lexeme l =>
    match l.tokens with
    | [t] => t.column?
    | _ => none
  | .value _ => none

/-- The item separates nothing and is no parenthesis. -/
def isPlain (i : Item) : Bool :=
  !(i.isSymbol ',' || i.isSymbol '(' || i.isSymbol ')')

/-- What separates the parts of a list. -/
def comma : Item :=
  .lexeme (.symbol [','])

def closing : Item :=
  .lexeme (.symbol [')'])

/-- How many parentheses are open after an item. -/
def depthAfter (i : Item) (depth : Nat) : Nat :=
  if i.isSymbol '(' then depth + 1 else if i.isSymbol ')' then depth - 1 else depth

theorem name?_of_tokens {l : Lexeme} {name : String} (h : l.tokens = [columnToken name]) :
    (Item.lexeme l).name? = some name := by
  rw [name?, h]
  exact column?_columnToken name

theorem isPlain_of_name? {i : Item} {name : String} (h : i.name? = some name) : i.isPlain = true := by
  cases i with
  | value v => rfl
  | lexeme l =>
    cases l with
    | symbol cs =>
      have hno : (Lexeme.ofSymbol cs).column? = none := by
        unfold Lexeme.ofSymbol
        split <;> rfl
      have hname : (Lexeme.ofSymbol cs).column? = some name := h
      rw [hno] at hname
      cases hname
    | _ => rfl

end Item

/-- The items of a lexeme that is read to its end. -/
def Lexeme.items : Lexeme → List Item
  | blank => []
  | l => [.lexeme l]

/-- The items of an input, a part of which is being read. -/
def itemsFrom (engine : Engine) (l : Lexeme) : List Input → List Item
  | [] => l.items
  | .char c :: rest =>
    match l.continue? engine c with
    | some l => itemsFrom engine l rest
    | none => l.items ++ itemsFrom engine (Lexeme.start engine c) rest
  | .value v :: rest => l.items ++ .value v :: itemsFrom engine .blank rest

/-! ### Reading on -/

section Reading

variable {engine : Engine}

/-- The items that are complete after some characters, and what is being read then. -/
def scan (engine : Engine) (l : Lexeme) : List Char → List Item × Lexeme
  | [] => ([], l)
  | c :: cs =>
    match l.continue? engine c with
    | some l => scan engine l cs
    | none =>
      let r := scan engine (Lexeme.start engine c) cs
      (l.items ++ r.1, r.2)

theorem itemsFrom_chars (l : Lexeme) (cs : List Char) (rest : List Input) :
    itemsFrom engine l (cs.map .char ++ rest) =
      (scan engine l cs).1 ++ itemsFrom engine (scan engine l cs).2 rest := by
  induction cs generalizing l with
  | nil => rfl
  | cons c cs ih =>
    rw [List.map_cons, List.cons_append, itemsFrom, scan]
    cases l.continue? engine c with
    | some l => exact ih l
    | none => simp only [ih, List.append_assoc]

theorem scan_of_readChars {l l' : Lexeme} {cs : List Char}
    (h : readChars engine l cs = ([], l')) : scan engine l cs = ([], l') := by
  induction cs generalizing l with
  | nil =>
    obtain ⟨-, rfl⟩ := Prod.mk.inj h
    rfl
  | cons c cs ih =>
    rw [readChars] at h
    rw [scan]
    cases hl : l.continue? engine c with
    | some l => exact ih (by simpa only [hl] using h)
    | none =>
      simp only [hl] at h ⊢
      obtain ⟨htokens, rfl⟩ := Prod.mk.inj h
      obtain ⟨hfirst, hrest⟩ := List.append_eq_nil_iff.1 htokens
      have hblank : l.items = [] := by
        cases l with
        | blank => rfl
        | quoted mark escapes cs state => cases state <;> cases hfirst
        | _ => cases hfirst
      rw [ih (Prod.ext hrest rfl), hblank]
      rfl

/-- No blank, no comma and no closing parenthesis continues a lexeme. -/
def Lexeme.Stops (engine : Engine) (l : Lexeme) : Prop :=
  ∀ c, c = ' ' ∨ c = ',' ∨ c = ')' → l.continue? engine c = none

/-- An input ends, or goes on with a blank, a comma or a closing parenthesis. -/
def Bounded : List Input → Prop
  | [] => True
  | .char c :: _ => c = ' ' ∨ c = ',' ∨ c = ')'
  | .value _ :: _ => False

theorem bounded_chars {s : String}
    (h : s.toList.head?.any (fun c => c == ' ' || c == ',' || c == ')') = true) (rest : List Input) :
    Bounded (chars s ++ rest) := by
  unfold chars
  cases hcs : s.toList with
  | nil =>
    rw [hcs] at h
    exact Bool.noConfusion h
  | cons c cs =>
    rw [hcs] at h
    simpa [Bounded, or_assoc] using h

theorem bounded_append {input rest : List Input} (hinput : Bounded input) (hrest : Bounded rest) :
    Bounded (input ++ rest) := by
  cases input with
  | nil => exact hrest
  | cons i input => cases i <;> exact hinput

theorem stops_blank : Lexeme.blank.Stops engine :=
  fun _ _ => rfl

theorem stops_word (cs : List Char) : (Lexeme.word cs).Stops engine := by
  rintro c (rfl | rfl | rfl)
  all_goals
    rw [Lexeme.continue?, if_neg (by decide), if_neg (by simp)]

theorem stops_symbol (cs : List Char) : (Lexeme.symbol cs).Stops engine := by
  rintro c (rfl | rfl | rfl)
  all_goals
    rw [Lexeme.continue?, if_neg (by simp)]

theorem stops_quoted {mark : Char} (h : mark ≠ ' ' ∧ mark ≠ ',' ∧ mark ≠ ')') (escapes : Bool)
    (cs : List Char) : (Lexeme.quoted mark escapes cs .ending).Stops engine := by
  rintro c (rfl | rfl | rfl)
  · rw [Lexeme.continue?, if_neg h.1.symm]
  · rw [Lexeme.continue?, if_neg h.2.1.symm]
  · rw [Lexeme.continue?, if_neg h.2.2.symm]

theorem itemsFrom_of_continue?_eq_none {l : Lexeme} {c : Char}
    (h : l.continue? engine c = none) (rest : List Input) :
    itemsFrom engine l (.char c :: rest) = l.items ++ itemsFrom engine .blank (.char c :: rest) := by
  simp only [itemsFrom, h]
  rfl

theorem itemsFrom_of_closed {l : Lexeme} (h : l.Closed engine) (rest : List Input) :
    itemsFrom engine l rest = l.items ++ itemsFrom engine .blank rest := by
  cases rest with
  | nil => exact (List.append_nil _).symm
  | cons i rest =>
    cases i with
    | char c => exact itemsFrom_of_continue?_eq_none (h c) rest
    | value v => rfl

theorem itemsFrom_of_stops {l : Lexeme} (h : l.Stops engine) {rest : List Input}
    (hrest : Bounded rest) :
    itemsFrom engine l rest = l.items ++ itemsFrom engine .blank rest := by
  cases rest with
  | nil => exact (List.append_nil _).symm
  | cons i rest =>
    cases i with
    | char c => exact itemsFrom_of_continue?_eq_none (h c hrest) rest
    | value v => exact hrest.elim

/-- An input is read as items in front of everything that bounds it. -/
def ItemsOf (engine : Engine) (input : List Input) (is : List Item) : Prop :=
  ∀ rest, Bounded rest →
    itemsFrom engine .blank (input ++ rest) = is ++ itemsFrom engine .blank rest

variable {s : String} {input input' : List Input} {is js : List Item}

theorem itemsOf_nil : ItemsOf engine [] [] :=
  fun _ _ => rfl

theorem itemsOf_value (v : Value) : ItemsOf engine [.value v] [.value v] :=
  fun _ _ => rfl

theorem itemsOf_of_scan {l : Lexeme} (h : scan engine .blank s.toList = (is, l))
    (hstops : l.Stops engine) : ItemsOf engine (chars s) (is ++ l.items) := by
  intro rest hrest
  rw [chars, itemsFrom_chars, h, itemsFrom_of_stops hstops hrest, List.append_assoc]

theorem itemsOf_of_readChars {l : Lexeme} (h : readChars engine .blank s.toList = ([], l))
    (hstops : l.Stops engine) : ItemsOf engine (chars s) l.items :=
  itemsOf_of_scan (scan_of_readChars h) hstops

theorem ItemsOf.after_closed {l : Lexeme} (hs : scan engine .blank s.toList = (is, l))
    (hclosed : l.Closed engine) (h : ItemsOf engine input js) :
    ItemsOf engine (chars s ++ input) (is ++ l.items ++ js) := by
  intro rest hrest
  rw [List.append_assoc, List.append_assoc, ← h rest hrest, chars, itemsFrom_chars, hs,
    itemsFrom_of_closed hclosed, List.append_assoc]

theorem ItemsOf.after_blank (hs : scan engine .blank s.toList = (is, .blank))
    (h : ItemsOf engine input js) : ItemsOf engine (chars s ++ input) (is ++ js) := by
  simpa [Lexeme.items] using h.after_closed hs closed_blank

theorem ItemsOf.append (h : ItemsOf engine input is) (h' : ItemsOf engine input' js)
    (hbounded : ∀ rest, Bounded rest → Bounded (input' ++ rest)) :
    ItemsOf engine (input ++ input') (is ++ js) := by
  intro rest hrest
  rw [List.append_assoc, h _ (hbounded rest hrest), h' rest hrest, List.append_assoc]

theorem ItemsOf.itemsFrom_eq (h : ItemsOf engine input is) : itemsFrom engine .blank input = is := by
  simpa [itemsFrom, Lexeme.items] using h [] trivial

/-- The items of a text. -/
def textItems (engine : Engine) (s : String) : List Item :=
  itemsFrom engine .blank (chars s)

theorem itemsOf_text (h : (scan engine .blank s.toList).2.Stops engine) :
    ItemsOf engine (chars s) (textItems engine s) := by
  have hitems := itemsOf_of_scan rfl h
  rw [textItems, hitems.itemsFrom_eq]
  exact hitems

theorem itemsOf_intercalate {inputs : List (List Input)} {parts : List (List Item)}
    (h : List.Forall₂ (ItemsOf engine) inputs parts) :
    ItemsOf engine ((chars ", ").intercalate inputs) ([Item.comma].intercalate parts) := by
  have hcomma : scan engine .blank ", ".toList = ([Item.comma], .blank) := by
    cases engine <;> rfl
  induction h with
  | nil => exact itemsOf_nil
  | @cons input is inputs parts hinput hinputs ih =>
    cases hinputs with
    | nil => simpa using hinput
    | @cons input' is' inputs parts hinput' hinputs =>
      rw [List.intercalate_cons_cons, List.intercalate_cons_cons, List.append_assoc,
        List.append_assoc]
      refine hinput.append (ItemsOf.after_blank hcomma ih) fun rest _ => ?_
      rw [List.append_assoc]
      exact bounded_chars (by decide) _

end Reading

/-! ### Names -/

theorem itemsOf_quoted (engine : Engine) (name : String) :
    ∃ i : Item, i.name? = some name ∧
      ItemsOf engine (chars (String.ofList (quoted engine.quoteMark name.toList))) [i] := by
  refine ⟨.lexeme (.quoted engine.quoteMark false name.toList .ending), ?_, ?_⟩
  · cases engine <;> simp [Item.name?, Lexeme.tokens, Token.column?, Engine.quoteMark]
  · have hstops := @stops_quoted engine engine.quoteMark (by cases engine <;> decide) false name.toList
    refine itemsOf_of_readChars ?_ hstops
    rw [String.toList_ofList, readChars_quoted]

theorem itemsOf_renderField {d : SqlDialect} {name column : String}
    (h : d.renderField name = .ok column) (hplain : isPlain name.toList = true) :
    ∃ i : Item, i.name? = some name ∧ ItemsOf d.engine (chars column) [i] := by
  obtain ⟨-, ⟨hreserved, rfl⟩ | ⟨-, rfl⟩⟩ := SqlDialect.renderField_eq_ok h
  · obtain ⟨-, hread⟩ | ⟨hreserved', -⟩ := readChars_renderField h hplain
    · refine ⟨.lexeme (.word column.toList), ?_, itemsOf_of_readChars hread (stops_word _)⟩
      refine Item.name?_of_tokens ?_
      rw [Lexeme.tokens, ofWord_of_not_isReserved hplain hreserved, columnToken, hreserved]
      rfl
    · rw [hreserved] at hreserved'
      cases hreserved'
  · exact itemsOf_quoted d.engine name

/-! ### Parts of a list -/

/-- The parts of items between the commas that stand outside all parentheses. -/
def splitAtCommas : Nat → List Item → List (List Item)
  | _, [] => [[]]
  | depth, i :: is =>
    if depth = 0 ∧ i.isSymbol ',' then [] :: splitAtCommas 0 is
    else (splitAtCommas (i.depthAfter depth) is).modifyHead (i :: ·)

/-- The items up to the parenthesis that closes them, if that is the last one. -/
def enclosed? : Nat → List Item → Option (List Item)
  | _, [] => none
  | depth, i :: is =>
    if depth = 0 ∧ i.isSymbol ')' then (if is.isEmpty then some [] else none)
    else (enclosed? (i.depthAfter depth) is).map (i :: ·)

/-- Items close all parentheses that are open, close no others, and have no comma outside of all. -/
def IsPart : Nat → List Item → Prop
  | depth, [] => depth = 0
  | depth, i :: is =>
    ¬(depth = 0 ∧ (i.isSymbol ',' = true ∨ i.isSymbol ')' = true)) ∧ IsPart (i.depthAfter depth) is

instance IsPart.decidable : (depth : Nat) → (is : List Item) → Decidable (IsPart depth is)
  | depth, [] => inferInstanceAs (Decidable (depth = 0))
  | depth, i :: is =>
    have := IsPart.decidable (i.depthAfter depth) is
    inferInstanceAs (Decidable (_ ∧ _))

section Parts

variable {depth : Nat} {is js : List Item}

theorem isPart_append (his : IsPart depth is) (hjs : IsPart 0 js) : IsPart depth (is ++ js) := by
  induction is generalizing depth with
  | nil =>
    obtain rfl : depth = 0 := his
    exact hjs
  | cons i is ih => exact ⟨his.1, ih his.2⟩

theorem isPart_of_isPlain (h : ∀ i ∈ is, i.isPlain = true) : IsPart 0 is := by
  induction is with
  | nil => rfl
  | cons i is ih =>
    obtain ⟨hi, his⟩ := List.forall_mem_cons.1 h
    simp only [Item.isPlain, Bool.not_eq_true', Bool.or_eq_false_iff] at hi
    refine ⟨by simp [hi], ?_⟩
    simpa [Item.depthAfter, hi] using ih his

theorem splitAtCommas_append (h : IsPart depth is) (rest : List Item) :
    splitAtCommas depth (is ++ rest) = (splitAtCommas 0 rest).modifyHead (is ++ ·) := by
  induction is generalizing depth with
  | nil =>
    obtain rfl : depth = 0 := h
    cases hrest : splitAtCommas 0 rest <;> simp [hrest]
  | cons i is ih =>
    have hcomma : ¬(depth = 0 ∧ i.isSymbol ',' = true) := fun hi => h.1 ⟨hi.1, .inl hi.2⟩
    rw [List.cons_append, splitAtCommas, if_neg hcomma, ih h.2, List.modifyHead_modifyHead]
    rfl

theorem enclosed?_append (h : IsPart depth is) (rest : List Item) :
    enclosed? depth (is ++ rest) = (enclosed? 0 rest).map (is ++ ·) := by
  induction is generalizing depth with
  | nil =>
    obtain rfl : depth = 0 := h
    simp
  | cons i is ih =>
    have hclosing : ¬(depth = 0 ∧ i.isSymbol ')' = true) := fun hi => h.1 ⟨hi.1, .inr hi.2⟩
    rw [List.cons_append, enclosed?, if_neg hclosing, ih h.2, Option.map_map]
    rfl

variable {parts : List (List Item)}

theorem splitAtCommas_intercalate (hne : parts ≠ []) (h : ∀ p ∈ parts, IsPart 0 p) :
    splitAtCommas 0 ([Item.comma].intercalate parts) = parts := by
  induction parts with
  | nil => exact absurd rfl hne
  | cons p parts ih =>
    obtain ⟨hp, hparts⟩ := List.forall_mem_cons.1 h
    cases parts with
    | nil =>
      rw [List.intercalate_singleton, ← List.append_nil p, splitAtCommas_append hp]
      simp [splitAtCommas]
    | cons q parts =>
      rw [List.intercalate_cons_cons, List.append_assoc, List.singleton_append,
        splitAtCommas_append hp, splitAtCommas, if_pos ⟨rfl, rfl⟩, ih (by simp) hparts]
      simp

theorem enclosed?_intercalate (h : ∀ p ∈ parts, IsPart 0 p) :
    enclosed? 0 ([Item.comma].intercalate parts ++ [Item.closing]) =
      some ([Item.comma].intercalate parts) := by
  induction parts with
  | nil => rfl
  | cons p parts ih =>
    obtain ⟨hp, hparts⟩ := List.forall_mem_cons.1 h
    cases parts with
    | nil =>
      rw [List.intercalate_singleton, enclosed?_append hp]
      simp [enclosed?, Item.closing, Item.isSymbol]
    | cons q parts =>
      have hcomma : ∀ rest, enclosed? 0 (Item.comma :: rest) =
          (enclosed? 0 rest).map (Item.comma :: ·) := fun _ => rfl
      rw [List.intercalate_cons_cons, List.append_assoc, List.append_assoc, List.singleton_append,
        enclosed?_append hp, hcomma, ih hparts]
      simp

end Parts

end Polystore.Sql
