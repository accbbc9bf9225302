import BoundSql.Query.Operator
import BoundSql.Table
import BoundSql.Template

/-!
# Queries

Expressions, conditions and queries contain one another: a query filters by a condition, a
condition compares expressions, and an expression may be a query.  So they are one family of
types, together with the smaller things that hang between them.

All of them are plain data and know nothing of a dialect.  What is put together here need not be
meaningful: that is checked when a statement is built.
-/

namespace BoundSql

mutual

/-- An expression. -/
inductive Expr where
  /-- A column. -/
  | column (c : ColumnRef)
  /-- A value, to be bound. -/
  | literal (v : Value)
  /-- SQL of the caller. -/
  | raw (t : Template)
  /-- `*`, as the argument of a function. -/
  | star
  /-- A function with its arguments. -/
  | call (function : String) (args : List Expr) (distinct : Bool)
  /-- An operator between two expressions. -/
  | binary (left : Expr) (op : ArithOp) (right : Expr)
  /-- An expression under a name. -/
  | aliased (e : Expr) (name : String)
  /-- The value of the first branch whose condition holds. -/
  | case (branches : List Branch) (otherwise : Option Expr)
  /-- The first argument that is not NULL. -/
  | coalesce (args : List Expr)
  /-- The one value of a query. -/
  | subquery (q : Select)
  /-- A function over a window. -/
  | window (function : Expr) (w : Window)
  /-- The current time. -/
  | now
  /-- The truth of a condition. -/
  | truth (p : Predicate)

/-- A condition. -/
inductive Predicate where
  /-- A comparison. -/
  | compare (left : Expr) (op : CompareOp) (right : Expr)
  /-- The expression is NULL. -/
  | isNull (e : Expr) (negated : Bool)
  /-- The expression is one of a list. -/
  | inList (e : Expr) (values : List Expr) (negated : Bool)
  /-- The expression is one of the rows of a query. -/
  | inQuery (e : Expr) (q : Select) (negated : Bool)
  /-- The expression lies between two others. -/
  | between (e low high : Expr) (negated : Bool)
  /-- The expression matches a pattern. -/
  | like (e pattern : Expr) (negated caseless : Bool)
  /-- All of the conditions hold. -/
  | conj (ps : List Predicate)
  /-- One of the conditions holds. -/
  | disj (ps : List Predicate)
  /-- The condition does not hold. -/
  | neg (p : Predicate)
  /-- A query has a row. -/
  | existence (q : Select) (negated : Bool)
  /-- A comparison with some or all rows of a query. -/
  | quantified (left : Expr) (op : CompareOp) (quantifier : Quantifier) (q : Select)
  /-- SQL of the caller. -/
  | raw (t : Template)
  /-- Always true. -/
  | always
  /-- Never true. -/
  | never

/-- A branch of a `CASE`. -/
structure Branch where
  condition : Predicate
  value : Expr

/-- One key of a sort. -/
structure OrderItem where
  key : Expr
  dir : SortDir := .asc
  nulls : Option NullsOrder := none

/-- The window of a function. -/
structure Window where
  partitionKeys : List Expr := []
  order : List OrderItem := []
  frame : Option Frame := none

/-- Where rows come from. -/
inductive Source where
  /-- A table. -/
  | table (t : Table)
  /-- A query under a name. -/
  | query (q : Select) (name : String)

/-- A join with one more source. -/
structure Join where
  kind : JoinKind
  target : Source
  on : Option Predicate := none

/-- A query.  No projection stands for all columns. -/
structure Select where
  distinct : Bool := false
  projection : List Expr := []
  source : Option Source := none
  joins : List Join := []
  condition : Option Predicate := none
  groups : List Expr := []
  having : Option Predicate := none
  order : List OrderItem := []
  limit : Option UInt64 := none
  offset : Option UInt64 := none
  forUpdate : Bool := false

end

instance : Inhabited Expr := ⟨.star⟩
instance : Inhabited Predicate := ⟨.always⟩
instance : Inhabited Select := ⟨{}⟩

end BoundSql
