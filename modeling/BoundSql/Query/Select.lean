import BoundSql.Query.Condition

/-!
# Putting queries together

Each function sets or extends one part of a query and leaves the others alone, so it does not
matter in which order different parts are set.
-/

namespace BoundSql

/-! ## Functions that queries need themselves -/

/-- `COUNT(*)`. -/
def Expr.countAll : Expr := .call "COUNT" [.star] false

namespace Select

/-! ## Sources -/

/-- Take rows from a table. -/
def fromTable (q : Select) (t : Table) : Select := { q with source := some (.table t) }

/-- Take rows from a query. -/
def fromQuery (q sub : Select) (name : String) : Select :=
  { q with source := some (.query sub name) }

/-- Join with a table. -/
def join (q : Select) (kind : JoinKind) (t : Table) (on : Predicate) : Select :=
  { q with joins := q.joins ++ [⟨kind, .table t, some on⟩] }

/-- Join with a query. -/
def joinQuery (q : Select) (kind : JoinKind) (sub : Select) (name : String) (on : Predicate) :
    Select :=
  { q with joins := q.joins ++ [⟨kind, .query sub name, some on⟩] }

/-- Join with every row of a table. -/
def crossJoin (q : Select) (t : Table) : Select :=
  { q with joins := q.joins ++ [⟨.cross, .table t, none⟩] }

/-! ## Columns -/

/-- One more column. -/
def column (q : Select) (e : Expr) : Select := { q with projection := q.projection ++ [e] }

/-- More columns. -/
def columns (q : Select) (es : List Expr) : Select := { q with projection := q.projection ++ es }

/-- Leave out repeated rows. -/
def distinctRows (q : Select) : Select := { q with distinct := true }

/-! ## Conditions and groups -/

/-- Keep the rows for which `p` holds, whatever the condition was before. -/
def withWhere (q : Select) (p : Predicate) : Select := { q with condition := some p }

/-- Keep the rows for which `p` holds too. -/
def andWhere (q : Select) (p : Predicate) : Select :=
  { q with condition := Condition.and q.condition p }

/-- Keep also the rows for which `p` holds. -/
def orWhere (q : Select) (p : Predicate) : Select :=
  { q with condition := Condition.or q.condition p }

/-- One more expression to group by. -/
def groupBy (q : Select) (e : Expr) : Select := { q with groups := q.groups ++ [e] }

/-- Keep the groups for which `p` holds, whatever the condition was before. -/
def withHaving (q : Select) (p : Predicate) : Select := { q with having := some p }

/-- Keep the groups for which `p` holds too. -/
def andHaving (q : Select) (p : Predicate) : Select :=
  { q with having := Condition.and q.having p }

/-! ## Order and number of rows -/

/-- One more sort key. -/
def orderBy (q : Select) (o : OrderItem) : Select := { q with order := q.order ++ [o] }

/-- At most `n` rows. -/
def withLimit (q : Select) (n : UInt64) : Select := { q with limit := some n }

/-- Leave out the first `n` rows. -/
def withOffset (q : Select) (n : UInt64) : Select := { q with offset := some n }

/-- The greatest number of rows that can be left out. -/
def maxOffset : Nat := UInt64.size - 1

/-- A page of rows.  Pages are counted from one, and neither a page nor its size can be less.
An offset that is too large is the greatest one. -/
def page (q : Select) (page size : UInt64) : Select :=
  let size := max size 1
  let before := (max page 1).toNat - 1
  { q with
    limit := some size
    offset := some (UInt64.ofNat (min (before * size.toNat) maxOffset)) }

/-- Lock the rows. -/
def lockRows (q : Select) : Select := { q with forUpdate := true }

/-! ## Counting -/

/-- The query without order, limit, offset and lock. -/
def unordered (q : Select) : Select :=
  { q with order := [], limit := none, offset := none, forUpdate := false }

/-- Rows of the query are not rows of its sources: repeated ones are left out, or they stand for
groups. -/
def mergesRows (q : Select) : Bool := q.distinct || !q.groups.isEmpty || q.having.isSome

/-- The query for the number of rows of a query.  If its rows are rows of its sources it counts
those, and otherwise it counts the rows of the query as it is. -/
def count (q : Select) : Select :=
  if q.mergesRows then ({} : Select).column Expr.countAll |>.fromQuery q.unordered "t"
  else { q.unordered with projection := [Expr.countAll] }

end Select

end BoundSql
