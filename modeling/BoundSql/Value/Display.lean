import BoundSql.Value.Basic
import BoundSql.Calendar.Printer
import BoundSql.Json.Printer
import BoundSql.Text.Quoting

/-!
# The text of a stored value

The display form looks like an SQL literal, with the kind in front where the literal alone would
not tell it.  It identifies a value in cache keys and messages and never enters a statement.
A floating number always has a point or a power of ten, so it is never taken for a whole one.
-/

namespace BoundSql.Value

open Numeral (Layout)

/-- The display form. -/
def display : Value → String
  | null => "NULL"
  | bool b => if b then "true" else "false"
  | smallInt n => toString n.toInt
  | int n => toString n.toInt
  | bigInt n => toString n.toInt
  | real x => Layout.plain.number (.ofFloat32 x)
  | double x => Layout.plain.number (.ofFloat x)
  | text s => Quoting.apostrophes s
  | bytes bs => "X'" ++ Text.hexOfBytes bs ++ "'"
  | date d => "DATE '" ++ d.toString ++ "'"
  | timestamp t => "TIMESTAMP '" ++ t.toString " " ++ "'"
  | timestampTz t => "TIMESTAMPTZ '" ++ t.utc.toString "T" ++ "+00:00'"
  | uuid u => "UUID '" ++ u.toString ++ "'"
  | json document => "JSON " ++ Quoting.apostrophes document.text

end BoundSql.Value
