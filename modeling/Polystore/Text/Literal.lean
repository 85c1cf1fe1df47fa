import Polystore.Text.Digit
import Polystore.Text.Printable

/-!
# Quoted literals in diagnostics

The form in which a diagnostic shows a text or a string of octets: in single quotes, or in double
quotes if the content has single quotes and no double ones, with what is not printable escaped.
-/

namespace Polystore.Text

/-- Double quotes are used for a content with single quotes and no double ones. -/
def quoteFor (cs : List Char) : Char :=
  if cs.contains '\'' && !cs.contains '"' then '"' else '\''

/-- The escapes that texts and octets share. -/
def sharedEscape (quote c : Char) : Option (List Char) :=
  if c = '\\' || c = quote then some ['\\', c]
  else if c = '\n' then some ['\\', 'n']
  else if c = '\r' then some ['\\', 'r']
  else if c = '\t' then some ['\\', 't']
  else none

/-- One character of a quoted text; a character that is not printable is written in hexadecimal with
two, four or eight digits. -/
def literalChar (quote c : Char) : List Char :=
  match sharedEscape quote c with
  | some e => e
  | none =>
    if isPrintable c then [c]
    else if c.toNat < 0x100 then '\\' :: 'x' :: hexDigits 2 c.toNat
    else if c.toNat < 0x10000 then '\\' :: 'u' :: hexDigits 4 c.toNat
    else '\\' :: 'U' :: hexDigits 8 c.toNat

/-- One octet of a quoted string of octets. -/
def literalOctet (quote : Char) (b : UInt8) : List Char :=
  let c := Char.ofNat b.toNat
  match sharedEscape quote c with
  | some e => e
  | none =>
    if 0x20 ≤ b.toNat && b.toNat < 0x7f then [c] else '\\' :: 'x' :: hexDigits 2 b.toNat

/-- A text as a quoted literal. -/
def literal (s : String) : String :=
  let quote := quoteFor s.toList
  String.ofList (quote :: (s.toList.flatMap (literalChar quote) ++ [quote]))

/-- A string of octets as a quoted literal. -/
def octetLiteral (bs : List UInt8) : String :=
  let quote := quoteFor (bs.map fun b => Char.ofNat b.toNat)
  String.ofList ('b' :: quote :: (bs.flatMap (literalOctet quote) ++ [quote]))

end Polystore.Text
