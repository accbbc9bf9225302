/-!
# Kinds of statement
-/

namespace BoundSql

/-- The four kinds of statement. -/
inductive StatementKind where
  | select
  | insert
  | update
  | delete
  deriving DecidableEq, Repr

/-- The keyword that begins a statement of this kind. -/
def StatementKind.keyword : StatementKind → String
  | select => "SELECT"
  | insert => "INSERT"
  | update => "UPDATE"
  | delete => "DELETE"

end BoundSql
