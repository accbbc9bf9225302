import BoundSql.Query.Check
import BoundSql.Query.Condition
import BoundSql.Query.Equality
import BoundSql.Query.Fragment
import BoundSql.Statement.Conflict

/-!
# Deleting rows
-/

namespace BoundSql

/-- The deletion of the rows that meet a condition; without one, of every row. -/
structure Delete where
  table : Table
  condition : Condition := none
  returning : List ColumnRef := []

namespace Delete

/-- Delete the rows for which `p` holds, whatever the condition was before. -/
def withWhere (x : Delete) (p : Predicate) : Delete := { x with condition := some p }

/-- Delete only rows for which `p` holds too. -/
def andWhere (x : Delete) (p : Predicate) : Delete := { x with condition := x.condition.and p }

/-- Delete also the rows for which `p` holds. -/
def orWhere (x : Delete) (p : Predicate) : Delete := { x with condition := x.condition.or p }

/-- Give back one more column. -/
def returnColumn (x : Delete) (c : ColumnRef) : Delete :=
  { x with returning := x.returning ++ [c] }

/-- Check the statement. -/
def check (x : Delete) (d : Dialect) : Except QueryError Unit := do
  Predicate.checkOption d x.condition
  Returning.check d x.returning

/-- The fragment of the statement. -/
def fragment (d : Dialect) (x : Delete) : Fragment :=
  .concat [["DELETE FROM "], .ofPhrase x.table.sourcePhrase,
    Predicate.clause d " WHERE " x.condition, .ofPhrase (Returning.clause x.returning)]

/-- Equality. -/
def same (x y : Delete) : Bool :=
  x.table == y.table && Predicate.sameOption x.condition y.condition &&
    x.returning == y.returning

end Delete

end BoundSql
