import Polystore.Proofs.Sql.Input
import Polystore.Sql.Predicate

/-!
# Tokens of SQL text

A text is cut into tokens character by character, as an engine does it; nothing is known here of how the
text was made. A token ends where the next character does not continue it.
-/

namespace Polystore.Sql

open Identifier (isPart isStart isPlain isReserved quoted doubleQuotes)

/-- A word that no unquoted name can be. -/
inductive Keyword where
  | and
  | or
  | not
  | isIn
  | is
  | null
  | like
  deriving DecidableEq, Repr

/-- A word spells another in any letter case. -/
def spells (cs : List Char) (word : String) : Bool :=
  cs.map Char.toLower == word.toList

namespace Keyword

def all : List Keyword :=
  [and, or, not, isIn, is, null, like]

def spelling : Keyword → String
  | and => "and"
  | or => "or"
  | not => "not"
  | isIn => "in"
  | is => "is"
  | null => "null"
  | like => "like"

/-- The keyword that a word spells. -/
def ofWord? (cs : List Char) : Option Keyword :=
  all.find? fun k => spells cs k.spelling

end Keyword

inductive Token where
  | keyword (k : Keyword)
  | word (cs : List Char)
  | number (n : Nat)
  /-- A quoted name. -/
  | name (cs : List Char)
  /-- A text literal. -/
  | text (cs : List Char)
  | comparison (op : Comparison)
  | opening
  | closing
  | comma
  | value (v : Value)
  | unreadable

/-- Where the end of a quoted part is looked for. -/
inductive Quoting where
  | inside
  | escaped
  | ending
  deriving DecidableEq

/-- What is being read. -/
inductive Lexeme where
  | blank
  | word (cs : List Char)
  | symbol (cs : List Char)
  /-- A quoted part; in some a backslash escapes the next character. -/
  | quoted (mark : Char) (escapes : Bool) (cs : List Char) (state : Quoting)

namespace Lexeme

/-- The lexeme that a character starts. -/
def start (engine : Engine) (c : Char) : Lexeme :=
  if c.isWhitespace then blank
  else if isPart c then word [c]
  else if c = engine.quoteMark then quoted c false [] .inside
  else if c = '\'' then quoted c (engine == .mysql) [] .inside
  else symbol [c]

/-- The lexeme that a character continues, if it continues one. On PostgreSQL an E before a text says
that it has escapes. -/
def continue? (engine : Engine) (c : Char) : Lexeme → Option Lexeme
  | blank => none
  | word cs =>
    if isPart c then some (word (cs ++ [c]))
    else if engine = .postgresql ∧ c = '\'' ∧ spells cs "e" then some (quoted c true [] .inside)
    else none
  | symbol cs =>
    if c = '=' ∧ (cs = ['<'] ∨ cs = ['>'] ∨ cs = ['!']) then some (symbol (cs ++ [c])) else none
  | quoted mark escapes cs .inside =>
    if c = mark then some (quoted mark escapes cs .ending)
    else if c = '\\' ∧ escapes then some (quoted mark escapes cs .escaped)
    else some (quoted mark escapes (cs ++ [c]) .inside)
  | quoted mark escapes cs .escaped => some (quoted mark escapes (cs ++ [c]) .inside)
  | quoted mark escapes cs .ending =>
    if c = mark then some (quoted mark escapes (cs ++ [c]) .inside) else none

/-- The token of a word. -/
def ofWord (cs : List Char) : Token :=
  if cs.all Char.isDigit then .number (Nat.ofDigitChars 10 cs 0)
  else match Keyword.ofWord? cs with
    | some k => .keyword k
    | none => .word cs

/-- The token of a symbol. -/
def ofSymbol : List Char → Token
  | ['('] => .opening
  | [')'] => .closing
  | [','] => .comma
  | ['='] => .comparison .eq
  | ['!', '='] => .comparison .ne
  | ['>'] => .comparison .gt
  | ['>', '='] => .comparison .ge
  | ['<'] => .comparison .lt
  | ['<', '='] => .comparison .le
  | _ => .unreadable

/-- The tokens of a lexeme that is read to its end. -/
def tokens : Lexeme → List Token
  | blank => []
  | word cs => [ofWord cs]
  | symbol cs => [ofSymbol cs]
  | quoted mark _ cs .ending => [if mark = '\'' then .text cs else .name cs]
  | quoted _ _ _ _ => [.unreadable]

end Lexeme

/-- The tokens of an input, a part of which is being read. -/
def tokensFrom (engine : Engine) (l : Lexeme) : List Input → List Token
  | [] => l.tokens
  | .char c :: rest =>
    match l.continue? engine c with
    | some l => tokensFrom engine l rest
    | none => l.tokens ++ tokensFrom engine (Lexeme.start engine c) rest
  | .value v :: rest => l.tokens ++ .value v :: tokensFrom engine .blank rest

/-! ### Reading on -/

section Reading

variable {engine : Engine}

/-- The tokens that are complete after some characters, and what is being read then. -/
def readChars (engine : Engine) (l : Lexeme) : List Char → List Token × Lexeme
  | [] => ([], l)
  | c :: cs =>
    match l.continue? engine c with
    | some l => readChars engine l cs
    | none =>
      let r := readChars engine (Lexeme.start engine c) cs
      (l.tokens ++ r.1, r.2)

theorem tokensFrom_chars (l : Lexeme) (cs : List Char) (rest : List Input) :
    tokensFrom engine l (cs.map .char ++ rest) =
      (readChars engine l cs).1 ++ tokensFrom engine (readChars engine l cs).2 rest := by
  induction cs generalizing l with
  | nil => rfl
  | cons c cs ih =>
    rw [List.map_cons, List.cons_append, tokensFrom, readChars]
    cases l.continue? engine c with
    | some l => exact ih l
    | none =>
      simp only [ih, List.append_assoc]

/-- No character continues a lexeme. -/
def Lexeme.Closed (engine : Engine) (l : Lexeme) : Prop :=
  ∀ c, l.continue? engine c = none

/-- Neither a blank nor a closing parenthesis continues a lexeme. -/
def Lexeme.Ends (engine : Engine) (l : Lexeme) : Prop :=
  l.continue? engine ' ' = none ∧ l.continue? engine ')' = none

/-- An input ends, or goes on with a blank or a closing parenthesis. -/
def Delimited : List Input → Prop
  | [] => True
  | .char c :: _ => c = ' ' ∨ c = ')'
  | .value _ :: _ => False

theorem tokensFrom_of_continue?_eq_none {l : Lexeme} {c : Char}
    (h : l.continue? engine c = none) (rest : List Input) :
    tokensFrom engine l (.char c :: rest) =
      l.tokens ++ tokensFrom engine .blank (.char c :: rest) := by
  simp only [tokensFrom, h]
  rfl

theorem tokensFrom_of_closed {l : Lexeme} (h : l.Closed engine) (rest : List Input) :
    tokensFrom engine l rest = l.tokens ++ tokensFrom engine .blank rest := by
  cases rest with
  | nil => simp [tokensFrom, Lexeme.tokens]
  | cons i rest =>
    cases i with
    | char c => exact tokensFrom_of_continue?_eq_none (h c) rest
    | value v => rfl

theorem tokensFrom_of_delimited {l : Lexeme} (h : l.Ends engine) {rest : List Input}
    (hrest : Delimited rest) :
    tokensFrom engine l rest = l.tokens ++ tokensFrom engine .blank rest := by
  cases rest with
  | nil => simp [tokensFrom, Lexeme.tokens]
  | cons i rest =>
    cases i with
    | char c =>
      rcases hrest with rfl | rfl
      · exact tokensFrom_of_continue?_eq_none h.1 rest
      · exact tokensFrom_of_continue?_eq_none h.2 rest
    | value v => rfl

theorem tokensFrom_text {s : String} {ts : List Token} {l : Lexeme}
    (h : readChars engine .blank s.toList = (ts, l)) (hends : l.Ends engine) {rest : List Input}
    (hrest : Delimited rest) :
    tokensFrom engine .blank (chars s ++ rest) =
      ts ++ (l.tokens ++ tokensFrom engine .blank rest) := by
  rw [chars, tokensFrom_chars, h, tokensFrom_of_delimited hends hrest]

theorem tokensFrom_text_of_closed {s : String} {ts : List Token} {l : Lexeme}
    (h : readChars engine .blank s.toList = (ts, l)) (hclosed : l.Closed engine)
    (rest : List Input) :
    tokensFrom engine .blank (chars s ++ rest) =
      ts ++ (l.tokens ++ tokensFrom engine .blank rest) := by
  rw [chars, tokensFrom_chars, h, tokensFrom_of_closed hclosed]

theorem delimited_chars {s : String} (h : s.toList.head?.any (fun c => c == ' ' || c == ')') = true)
    (rest : List Input) : Delimited (chars s ++ rest) := by
  unfold chars
  cases hcs : s.toList with
  | nil =>
    rw [hcs] at h
    exact Bool.noConfusion h
  | cons c cs =>
    rw [hcs] at h
    simpa [Delimited] using h

theorem closed_blank : Lexeme.blank.Closed engine :=
  fun _ => rfl

theorem closed_symbol {c : Char} (h : c ≠ '<' ∧ c ≠ '>' ∧ c ≠ '!') :
    (Lexeme.symbol [c]).Closed engine := by
  intro d
  simp [Lexeme.continue?, h]

theorem ends_word (cs : List Char) : (Lexeme.word cs).Ends engine := by
  refine ⟨?_, ?_⟩
  all_goals
    rw [Lexeme.continue?, if_neg (by decide), if_neg (by simp)]

end Reading

/-! ### Names -/

theorem readChars_word {engine : Engine} (cs : List Char) {ds : List Char}
    (h : ∀ d ∈ ds, isPart d = true) :
    readChars engine (.word cs) ds = ([], .word (cs ++ ds)) := by
  induction ds generalizing cs with
  | nil => simp [readChars]
  | cons d ds ih =>
    have hd : (Lexeme.word cs).continue? engine d = some (.word (cs ++ [d])) := by
      rw [Lexeme.continue?, if_pos (h d (by simp))]
    rw [readChars, hd]
    simp only [ih (cs ++ [d]) fun e he => h e (by simp [he])]
    simp

theorem readChars_doubleQuotes {engine : Engine} {mark : Char} (cs ds : List Char) :
    readChars engine (.quoted mark false cs .inside) (doubleQuotes mark ds ++ [mark]) =
      ([], .quoted mark false (cs ++ ds) .ending) := by
  induction ds generalizing cs with
  | nil => simp [doubleQuotes, readChars, Lexeme.continue?]
  | cons d ds ih =>
    by_cases hd : d = mark
    · subst hd
      simp [doubleQuotes, readChars, Lexeme.continue?, ih]
    · simp [doubleQuotes, readChars, Lexeme.continue?, hd, ih]

theorem not_spells {name : String} (hplain : isPlain name.toList = true)
    (h : isReserved name = false) {word : String} (hword : word ∈ Identifier.reservedWords) :
    spells name.toList word = false := by
  rw [spells, beq_eq_false_iff_ne]
  intro heq
  have hascii : ∀ c ∈ name.toList, c.toNat < 0x80 := fun c hc =>
    Identifier.isAscii_of_isPart (Identifier.isPart_of_isPlain hplain c hc)
  have hlower : Text.lower name = word := by
    rw [Text.lower_of_ascii name hascii, heq, String.ofList_toList]
  rw [isReserved, hlower] at h
  exact absurd hword (by simpa using h)

/-- The token of a column. -/
def columnToken (name : String) : Token :=
  if isReserved name then .name name.toList else .word name.toList

theorem ofWord_of_not_isReserved {name : String} (hplain : isPlain name.toList = true)
    (h : isReserved name = false) : Lexeme.ofWord name.toList = .word name.toList := by
  obtain ⟨c, rest, hcs, hc, -⟩ := Identifier.eq_cons_of_isPlain hplain
  have hdigits : ¬name.toList.all Char.isDigit = true := by
    rw [hcs, List.all_cons, Identifier.not_isDigit_of_isStart hc]
    exact Bool.false_ne_true
  have hkeyword : Keyword.ofWord? name.toList = none := by
    refine List.find?_eq_none.2 fun k _ => ?_
    have hk : k.spelling ∈ Identifier.reservedWords := by cases k <;> decide
    rw [not_spells hplain h hk]
    exact Bool.false_ne_true
  rw [Lexeme.ofWord, if_neg hdigits, hkeyword]

section Column

variable {d : SqlDialect} {name column : String}

theorem start_of_isStart {engine : Engine} {c : Char} (h : isStart c = true) :
    Lexeme.start engine c = .word [c] := by
  have hpart := Identifier.isPart_of_isStart h
  have hspace : ¬c.isWhitespace = true := by
    intro hc
    simp only [Char.isWhitespace, Bool.or_eq_true, decide_eq_true_eq] at hc
    rcases hc with ((rfl | rfl) | rfl) | rfl
    all_goals exact absurd hpart (by decide)
  rw [Lexeme.start, if_neg hspace, if_pos hpart]

theorem readChars_quoted (engine : Engine) (cs : List Char) :
    readChars engine .blank (quoted engine.quoteMark cs) =
      ([], .quoted engine.quoteMark false cs .ending) := by
  have hstart : Lexeme.start engine engine.quoteMark =
      .quoted engine.quoteMark false [] .inside := by
    cases engine <;> rfl
  rw [quoted, readChars]
  simp only [Lexeme.continue?, Lexeme.tokens, hstart, readChars_doubleQuotes]
  rfl

theorem readChars_renderField (h : d.renderField name = .ok column)
    (hplain : isPlain name.toList = true) :
    isReserved name = false ∧
        readChars d.engine .blank column.toList = ([], .word name.toList) ∨
      isReserved name = true ∧ readChars d.engine .blank column.toList =
        ([], .quoted d.engine.quoteMark false name.toList .ending) := by
  obtain ⟨-, ⟨hreserved, rfl⟩ | ⟨hreserved, rfl⟩⟩ := SqlDialect.renderField_eq_ok h
  · obtain ⟨c, rest, hcs, hc, hrest⟩ := Identifier.eq_cons_of_isPlain hplain
    refine .inl ⟨hreserved, ?_⟩
    rw [hcs, readChars]
    simp only [Lexeme.continue?, Lexeme.tokens, start_of_isStart hc, readChars_word [c] hrest]
    rfl
  · refine .inr ⟨hreserved, ?_⟩
    rw [String.toList_ofList, readChars_quoted]

theorem readChars_column (h : d.renderField name = .ok column)
    (hplain : isPlain name.toList = true) :
    ∃ l, readChars d.engine .blank column.toList = ([], l) ∧ l.Ends d.engine ∧
      l.tokens = [columnToken name] := by
  obtain ⟨hreserved, hread⟩ | ⟨hreserved, hread⟩ := readChars_renderField h hplain
  · refine ⟨_, hread, ends_word _, ?_⟩
    rw [Lexeme.tokens, ofWord_of_not_isReserved hplain hreserved, columnToken, hreserved]
    rfl
  · refine ⟨_, hread, ?_, ?_⟩
    · cases d.engine <;> exact ⟨rfl, rfl⟩
    · rw [columnToken, hreserved]
      cases d.engine <;> rfl

theorem tokensFrom_column (h : d.renderField name = .ok column)
    (hplain : isPlain name.toList = true) {rest : List Input} (hrest : Delimited rest) :
    tokensFrom d.engine .blank (chars column ++ rest) =
      columnToken name :: tokensFrom d.engine .blank rest := by
  obtain ⟨l, hread, hends, htokens⟩ := readChars_column h hplain
  rw [chars, tokensFrom_chars, hread, tokensFrom_of_delimited hends hrest, htokens]
  rfl

end Column

end Polystore.Sql
