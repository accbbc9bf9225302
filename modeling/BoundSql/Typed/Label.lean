import BoundSql.Text.Extending
import BoundSql.Text.Graphic
import BoundSql.Typed.Function

/-!
# Descriptions

Short descriptions of values, expressions and columns for people who look into a program.  They
name the kind of a thing and spell out what it holds; of an expression that has parts only the
kind is named.
-/

namespace BoundSql

/-- A text in double quotes, with what would be mistaken escaped: six characters by a sign of their
own, and by its number in base sixteen every other one that draws nothing or draws on the one
before it. -/
def Text.label (s : String) : String :=
  let escaped (c : Char) : List Char :=
    if c = '\x22' then ['\\', '\x22']
    else if c = '\\' then ['\\', '\\']
    else if c = '\n' then ['\\', 'n']
    else if c = '\r' then ['\\', 'r']
    else if c = '\t' then ['\\', 't']
    else if c = '\x00' then ['\\', '0']
    else if isGraphic c && !isExtending c then [c]
    else ['\\', 'u', '\x7b'] ++ Nat.toDigits 16 c.toNat ++ ['\x7d']
  String.ofList ('\x22' :: (s.toList.flatMap escaped ++ ['\x22']))

/-- A value with its kind. -/
def Value.label (v : Value) : String :=
  let holding (kind contents : String) := kind ++ "(" ++ contents ++ ")"
  match v with
  | .null => "Null"
  | .bool _ => holding "Bool" v.display
  | .smallInt _ => holding "SmallInt" v.display
  | .int _ => holding "Int" v.display
  | .bigInt _ => holding "BigInt" v.display
  | .real _ => holding "Real" v.display
  | .double _ => holding "Double" v.display
  | .text s => holding "Text" (Text.label s)
  | .bytes bs =>
    holding "Bytes" ("[" ++ String.intercalate ", " (bs.map fun b => toString b.toNat) ++ "]")
  | .date d => holding "Date" d.toString
  | .timestamp t => holding "Timestamp" (t.toString "T")
  | .timestampTz t => holding "TimestampTz" (t.utc.toString "T" ++ "Z")
  | .uuid u => holding "Uuid" u.toString
  | .json document => holding "Json" document.text

/-- The two names of a reference. -/
def ColumnRef.label (kind : String) (c : ColumnRef) : String :=
  kind ++ " \x7b table: " ++ Text.label c.table ++ ", name: " ++ Text.label c.name ++ " \x7d"

/-- A column. -/
def Column.label {α : Type} (c : Column α) : String := c.ref.label "Column"

/-- An expression, in full if it has no parts. -/
def Expr.label : Expr → String
  | .column c => "Column(" ++ c.label "ColumnRef" ++ ")"
  | .literal v => "Literal(" ++ v.label ++ ")"
  | .star => "Star"
  | .now => "CurrentTimestamp"
  | .raw _ => "Raw"
  | .call .. => "Function"
  | .binary .. => "Binary"
  | .aliased .. => "Alias"
  | .case .. => "Case"
  | .coalesce _ => "Coalesce"
  | .subquery _ => "Subquery"
  | .window .. => "Window"
  | .truth _ => "Predicate"

/-- A typed expression. -/
def Typed.label {α : Type} (e : Typed α) : String :=
  "Expr \x7b node: " ++ e.node.label ++ ", ty: " ++ e.type.label ++ " \x7d"

end BoundSql
