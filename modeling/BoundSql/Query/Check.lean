import BoundSql.Dialect.Basic
import BoundSql.Error
import BoundSql.Query.Contained

/-!
# Checking queries

A query is fit for a dialect if every query that it contains is.  What is asked of each of them
by itself is little: there is something to select, and rows are locked only where they can be.
The error of a query that is not fit is the first one found.
-/

namespace BoundSql

/-- What is asked of a query by itself. -/
def Select.checkSelf (d : Dialect) (q : Select) : Except QueryError Unit :=
  if q.projection.isEmpty ∧ q.source.isNone then .error (.invalidStatement .starWithoutSource)
  else if q.forUpdate ∧ ¬d.hasForUpdate then .error (.unsupported .forUpdate d.name)
  else .ok ()

/-- Check queries one after another. -/
def checkAll (d : Dialect) : List Select → Except QueryError Unit
  | [] => .ok ()
  | q :: qs => do
    q.checkSelf d
    checkAll d qs

/-- Without queries there is nothing to check. -/
@[simp] theorem checkAll_nil (d : Dialect) : checkAll d [] = .ok () := rfl

/-- Queries are fit exactly if each of them is. -/
theorem checkAll_eq_ok_iff (d : Dialect) (qs : List Select) :
    checkAll d qs = .ok () ↔ ∀ q ∈ qs, q.checkSelf d = .ok () := by
  induction qs with
  | nil => simp
  | cons q qs ih =>
    cases h : q.checkSelf d with
    | error e => simp [checkAll, h, bind, Except.bind]
    | ok u => simp [checkAll, h, bind, Except.bind, ih]

/-- Check a query and all queries in it. -/
def Select.check (d : Dialect) (q : Select) : Except QueryError Unit := checkAll d q.queries

/-- Check the queries in an expression. -/
def Expr.check (d : Dialect) (e : Expr) : Except QueryError Unit := checkAll d e.queries

/-- Check the queries in an optional condition. -/
def Predicate.checkOption (d : Dialect) (p : Option Predicate) : Except QueryError Unit :=
  checkAll d (Predicate.queriesOfOption p)

end BoundSql
