/-!
# Taking text apart

A reader takes something off the front of a text and gives back the rest, or refuses.
-/

namespace BoundSql

/-- Takes something off the front of a text. -/
abbrev Take (α : Type) := List Char → Option (α × List Char)

end BoundSql
