import Polystore.Text.Digit

/-!
# JSON strings

A text as a JSON string that holds printable ASCII only: every other character is written as one or
two UTF-16 units.
-/

namespace Polystore.Text

/-- The UTF-16 units of a character. -/
def utf16Units (c : Char) : List Nat :=
  if c.toNat < 0x10000 then [c.toNat]
  else [0xd800 + (c.toNat - 0x10000) / 0x400, 0xdc00 + (c.toNat - 0x10000) % 0x400]

/-- One character inside a JSON string. -/
def jsonChar (c : Char) : List Char :=
  if c = '"' || c = '\\' then ['\\', c]
  else if c = '\n' then ['\\', 'n']
  else if c = '\r' then ['\\', 'r']
  else if c = '\t' then ['\\', 't']
  else if c.toNat = 0x08 then ['\\', 'b']
  else if c.toNat = 0x0c then ['\\', 'f']
  else if 0x20 ≤ c.toNat && c.toNat < 0x7f then [c]
  else (utf16Units c).flatMap fun u => '\\' :: 'u' :: hexDigits 4 u

/-- A text as a JSON string. -/
def jsonString (s : String) : List Char :=
  '"' :: (s.toList.flatMap jsonChar ++ ['"'])

end Polystore.Text
