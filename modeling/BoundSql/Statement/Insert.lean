import BoundSql.Query.Check
import BoundSql.Query.Fragment
import BoundSql.Statement.Assignments
import BoundSql.Statement.Conflict
import BoundSql.Typed.Basic

/-!
# Inserting a row
-/

namespace BoundSql

/-! ## Parts shared with batches -/

namespace Assignments

/-- Check the queries in the values. -/
def check (d : Dialect) (as : Assignments) : Except QueryError Unit :=
  checkAll d (Expr.queriesOfAll as.values)

end Assignments

/-- Values in parentheses. -/
def tuple (d : Dialect) (values : List Expr) : Fragment :=
  (Fragment.comma (Expr.fragments d values)).parens

/-- An insertion of tuples under these names. -/
def insertion (d : Dialect) (table : Table) (names : List String) (tuples : List Fragment)
    (conflict : Option Conflict) (returning : List ColumnRef) : Fragment :=
  .concat [
    .ofPhrase (.concat [["INSERT INTO ", .name table.name, " ("], .names names, [") VALUES "]]),
    .comma tuples,
    .ofPhrase (Conflict.clause d names conflict),
    .ofPhrase (Returning.clause returning)]

/-! ## One row -/

/-- The insertion of a row. -/
structure Insert where
  table : Table
  assignments : Assignments := {}
  conflict : Option Conflict := none
  returning : List ColumnRef := []

namespace Insert

variable {α : Type}

/-- Set a column to an expression. -/
def setTo (i : Insert) (c : ColumnRef) (e : Expr) : Insert :=
  { i with assignments := i.assignments.set c e }

/-- Set a column to a host value. -/
def value (i : Insert) (c : Column α) (a : α) : Insert := i.setTo c.ref (c.typed.value a)

/-- Set a column to a host value if there is one. -/
def valueOption (i : Insert) (c : Column α) (a : Option α) : Insert := a.elim i (i.value c)

/-- Set a column to a typed expression. -/
def valueOf (i : Insert) (c : Column α) (e : Typed α) : Insert := i.setTo c.ref e.node

/-- Say what to do about a row that is already there. -/
def onConflict (i : Insert) (target : List ColumnRef) (action : ConflictAction) : Insert :=
  { i with conflict := some ⟨target, action⟩ }

/-- Give back one more column. -/
def returnColumn (i : Insert) (c : ColumnRef) : Insert :=
  { i with returning := i.returning ++ [c] }

/-- Check the statement. -/
def check (i : Insert) (d : Dialect) : Except QueryError Unit := do
  if i.assignments.isEmpty then throw (.emptyAssignments .insert)
  i.assignments.check d
  Conflict.checkOption d i.assignments.names i.conflict
  Returning.check d i.returning

/-- The fragment of the statement. -/
def fragment (d : Dialect) (i : Insert) : Fragment :=
  insertion d i.table i.assignments.names [tuple d i.assignments.values] i.conflict i.returning

/-- Equality. -/
def same (i j : Insert) : Bool :=
  i.table == j.table && i.assignments.same j.assignments && i.conflict == j.conflict &&
    i.returning == j.returning

end Insert

end BoundSql
