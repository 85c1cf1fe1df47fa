import Polystore.Dialect
import Polystore.Value.Conversion
import Polystore.Value.Json

/-!
# Literals of column defaults

The SQL literal of a default value in the spelling of an engine: numbers as they are written, texts and
dates in quotes, sequences and mappings as JSON in quotes.
-/

namespace Polystore.DefaultLiteral

/-- A text between single quotes, with single quotes inside written twice. -/
def quoted (cs : List Char) : List Char :=
  Identifier.quoted '\'' cs

/-- A JSON text as a literal, with the engine's cast and parentheses. -/
def jsonLiteral (style : DefaultStyle) (json : List Char) : String :=
  let body := String.ofList (quoted json) ++ style.jsonCast
  if style.parenthesizeJson then "(" ++ body ++ ")" else body

/-- The literal of a value that is written in JSON. A value of a class without a JSON form is refused
as a default; another fault of the encoder is none of this. -/
def encoded (style : DefaultStyle) (v : Value) : Except Error String :=
  match v.json with
  | .ok json => pure (jsonLiteral style json)
  | .error f =>
    if f.family = .wrongType then throw (.showing [v] (.schema (.notEncodable v f)))
    else throw (.fault f)

/-- The literal of a default. A deferred default has none, nor has a floating-point number that is not
finite. -/
def render (style : DefaultStyle) (v : Value) : Except Error String :=
  match v with
  | .deferred _ => throw (.deferredDefault v)
  | .typeTag _ => throw (.deferredDefault v)
  | .null => pure "NULL"
  | .bool b => pure (if b then style.trueLiteral else style.falseLiteral)
  | .int _ => v.toText
  | .decimal d => pure d.text
  | .float x =>
    if x.isFinite then pure x.text else throw (.schema (.nonFiniteDefault v))
  | .str s => pure (String.ofList (quoted s.toList))
  | .fieldType t => pure (String.ofList (quoted t.name.toList))
  | .dateTime t => pure (String.ofList (quoted t.text))
  | .date d => pure (String.ofList (quoted d.text))
  | .list _ => encoded style v
  | .tuple _ => encoded style v
  | .map _ => encoded style v
  | v => throw (.schema (.noLiteral v.className))

end Polystore.DefaultLiteral
