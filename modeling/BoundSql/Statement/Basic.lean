import BoundSql.Prepared.Basic
import BoundSql.Query.Select
import BoundSql.Statement.Delete
import BoundSql.Statement.Update

/-!
# Statements

A statement is built in two steps: it is checked against the dialect, and then written.  The
second step cannot fail, so a statement that passes the check has a text.
-/

namespace BoundSql

/-- A statement of any kind. -/
inductive Statement where
  | select (q : Select)
  | insert (i : Insert)
  | update (u : Update)
  | delete (x : Delete)

namespace Statement

/-- The kind of a statement. -/
def kind : Statement → StatementKind
  | select _ => .select
  | insert _ => .insert
  | update _ => .update
  | delete _ => .delete

/-- Equality. -/
def same : Statement → Statement → Bool
  | select q, select r => q.same r
  | insert i, insert j => i.same j
  | update u, update v => u.same v
  | delete x, delete y => x.same y
  | _, _ => false

/-- Check a statement. -/
def check (d : Dialect) : Statement → Except QueryError Unit
  | select q => q.check d
  | insert i => i.check d
  | update u => u.check d
  | delete x => x.check d

/-- The fragment of a statement. -/
def fragment (d : Dialect) : Statement → Fragment
  | select q => q.fragment d
  | insert i => i.fragment d
  | update u => u.fragment d
  | delete x => x.fragment d

/-- The text of a statement, checked or not. -/
def sql (d : Dialect) (s : Statement) : String := (s.fragment d).sql d

/-- Check a statement and write it. -/
def build (d : Dialect) (s : Statement) : Except QueryError Prepared := do
  s.check d
  return (s.fragment d).prepare d

end Statement

end BoundSql
