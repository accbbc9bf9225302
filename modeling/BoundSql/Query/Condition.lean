import BoundSql.Query.Basic

/-!
# Joining conditions

`p.and q` and `p.or q` add an operand to a condition that is already joined by the same word, so
a chain of them stays one list.  A clause starts with no condition at all, and `Condition` is
what it has gathered so far.
-/

namespace BoundSql

namespace Predicate

/-- Both conditions hold. -/
def and : Predicate → Predicate → Predicate
  | conj ps, q => conj (ps ++ [q])
  | p, q => conj [p, q]

/-- One of the conditions holds. -/
def or : Predicate → Predicate → Predicate
  | disj ps, q => disj (ps ++ [q])
  | p, q => disj [p, q]

/-- The condition does not hold.  A negation taken twice is gone. -/
def not : Predicate → Predicate
  | neg p => p
  | p => neg p

/-- SQL of the caller, with values for its markers. -/
def ofSql (sql : String) (params : List Value) : Predicate := raw ⟨sql, params⟩

/-- A query has a row. -/
def hasRow (q : Select) : Predicate := existence q false

/-- A query has no row. -/
def hasNoRow (q : Select) : Predicate := existence q true

end Predicate

/-- The condition of a clause, if it has one. -/
abbrev Condition := Option Predicate

namespace Condition

/-- One more condition that must hold. -/
def and : Condition → Predicate → Condition
  | none, p => some p
  | some c, p => some (c.and p)

/-- One more condition that may hold instead. -/
def or : Condition → Predicate → Condition
  | none, p => some p
  | some c, p => some (c.or p)

end Condition

end BoundSql
