import BoundSql.Prepared.Basic
import BoundSql.Value.Json

/-!
# Prepared statements as JSON
-/

namespace BoundSql.Prepared

/-- The tree of a statement. -/
def toJson (p : Prepared) : Json :=
  .object [("sql", .string p.sql), ("params", .array (p.params.map Value.toJson))]

/-- The statement of a tree. -/
def ofJson? (j : Json) : Option Prepared := do
  match ← j.members? ["sql", "params"] with
  | [some sql, some params] => return ⟨← sql.string?, ← params.listOf? Value.ofJson?⟩
  | _ => none

end BoundSql.Prepared
