import BoundSql.Statement.Insert

/-!
# Updating rows
-/

namespace BoundSql

/-- The update of the rows that meet a condition. -/
structure Update where
  table : Table
  assignments : Assignments := {}
  condition : Condition := none
  returning : List ColumnRef := []

namespace Update

variable {α : Type}

/-! ## Assignments -/

/-- Set a column to an expression. -/
def setTo (u : Update) (c : ColumnRef) (e : Expr) : Update :=
  { u with assignments := u.assignments.set c e }

/-- Set a column to a host value. -/
def set (u : Update) (c : Column α) (a : α) : Update := u.setTo c.ref (c.typed.value a)

/-- Set a column to NULL.  The NULL is bound like any other value. -/
def setNull (u : Update) (c : Column (Option α)) : Update := u.setTo c.ref (.literal .null)

/-- Set a column to a typed expression. -/
def setOf (u : Update) (c : Column α) (e : Typed α) : Update := u.setTo c.ref e.node

/-- Change a column by a host value. -/
def change (u : Update) (c : Column α) (op : ArithOp) (a : α) : Update :=
  u.setTo c.ref (c.typed.arith op a).node

/-- Add to a column. -/
def increment (u : Update) (c : Column α) (a : α) : Update := u.change c .add a

/-- Take from a column. -/
def decrement (u : Update) (c : Column α) (a : α) : Update := u.change c .sub a

/-! ## Conditions and returned columns -/

/-- Update the rows for which `p` holds, whatever the condition was before. -/
def withWhere (u : Update) (p : Predicate) : Update := { u with condition := some p }

/-- Update only rows for which `p` holds too. -/
def andWhere (u : Update) (p : Predicate) : Update := { u with condition := u.condition.and p }

/-- Update also the rows for which `p` holds. -/
def orWhere (u : Update) (p : Predicate) : Update := { u with condition := u.condition.or p }

/-- Give back one more column. -/
def returnColumn (u : Update) (c : ColumnRef) : Update :=
  { u with returning := u.returning ++ [c] }

/-! ## The statement -/

/-- Check the statement. -/
def check (u : Update) (d : Dialect) : Except QueryError Unit := do
  if u.assignments.isEmpty then throw (.emptyAssignments .update)
  u.assignments.check d
  Predicate.checkOption d u.condition
  Returning.check d u.returning

/-- One assignment. -/
def assignment (d : Dialect) (entry : ColumnRef × Expr) : Fragment :=
  .concat [.name entry.1.name, [" = "], entry.2.fragment d]

/-- The fragment of the statement. -/
def fragment (d : Dialect) (u : Update) : Fragment :=
  .concat [["UPDATE "], .ofPhrase u.table.sourcePhrase, [" SET "],
    .comma (u.assignments.entries.map (assignment d)), Predicate.clause d " WHERE " u.condition,
    .ofPhrase (Returning.clause u.returning)]

/-- Equality. -/
def same (u v : Update) : Bool :=
  u.table == v.table && u.assignments.same v.assignments &&
    Predicate.sameOption u.condition v.condition && u.returning == v.returning

end Update

end BoundSql
