import BoundSql.ColumnType
import BoundSql.Query.Condition

/-!
# Typed expressions

A typed expression is an expression with the column type of its values.  Whatever it is compared
or combined with goes through that type first: comparing with a host value binds the stored form
that the column would have for it.  Comparing with another expression asks for one of the same
host type; where types may mix, the bare expression is used.
-/

namespace BoundSql

/-- An expression whose values are stored host values of type `α`. -/
structure Typed (α : Type) where
  node : Expr
  type : ColumnType α

namespace Typed

variable {α : Type}

/-! ## Making typed expressions -/

/-- A host value, stored in the usual way. -/
def lit [Storable α] (a : α) : Typed α :=
  ⟨.literal (Storable.columnType.toStore a), Storable.columnType⟩

/-- SQL of the caller, with values for its markers. -/
def ofSql [Storable α] (sql : String) (params : List Value) : Typed α :=
  ⟨.raw ⟨sql, params⟩, Storable.columnType⟩

/-- The one value of a query. -/
def scalar [Storable α] (q : Select) : Typed α := ⟨.subquery q, Storable.columnType⟩

/-- The current time. -/
def now : Typed Calendar.Instant := ⟨.now, .timestampTz⟩

/-- The truth of a condition. -/
def truth (p : Predicate) : Typed Bool := ⟨.truth p, .bool⟩

/-- A host value, stored the way this expression's values are. -/
def value (e : Typed α) (a : α) : Expr := .literal (e.type.toStore a)

/-- Another expression with values of the same type. -/
def withNode (e : Typed α) (node : Expr) : Typed α := { e with node }

/-! ## Comparisons -/

/-- Compare with any expression. -/
def compareNode (e : Typed α) (op : CompareOp) (f : Expr) : Predicate := .compare e.node op f

/-- Compare with a host value. -/
def compare (e : Typed α) (op : CompareOp) (a : α) : Predicate := e.compareNode op (e.value a)

/-- Compare with an expression of the same type. -/
def compareWith (e : Typed α) (op : CompareOp) (f : Typed α) : Predicate := e.compareNode op f.node

/-- The expression is NULL. -/
def isNull (e : Typed α) : Predicate := .isNull e.node false

/-- The expression is not NULL. -/
def isNotNull (e : Typed α) : Predicate := .isNull e.node true

/-- The expression is one of these values. -/
def inList (e : Typed α) (as : List α) : Predicate := .inList e.node (as.map e.value) false

/-- The expression is none of these values. -/
def notIn (e : Typed α) (as : List α) : Predicate := .inList e.node (as.map e.value) true

/-- The expression is in a row of the query. -/
def inQuery (e : Typed α) (q : Select) : Predicate := .inQuery e.node q false

/-- The expression is in no row of the query. -/
def notInQuery (e : Typed α) (q : Select) : Predicate := .inQuery e.node q true

/-- The expression lies between two values, the ends included. -/
def between (e : Typed α) (low high : α) : Predicate :=
  .between e.node (e.value low) (e.value high) false

/-- The expression does not lie between two values. -/
def notBetween (e : Typed α) (low high : α) : Predicate :=
  .between e.node (e.value low) (e.value high) true

/-- The expression matches a pattern.  The pattern is text whatever the type of the expression. -/
def matching (e : Typed α) (pattern : String) (negated caseless : Bool) : Predicate :=
  .like e.node (.literal (.text pattern)) negated caseless

/-- The expression compares so with some or all rows of the query. -/
def quantified (e : Typed α) (op : CompareOp) (quantifier : Quantifier) (q : Select) : Predicate :=
  .quantified e.node op quantifier q

/-! ## Combinations -/

/-- Combine with a host value. -/
def arith (e : Typed α) (op : ArithOp) (a : α) : Typed α :=
  e.withNode (.binary e.node op (e.value a))

/-- Combine with an expression of the same type. -/
def arithWith (e : Typed α) (op : ArithOp) (f : Typed α) : Typed α :=
  e.withNode (.binary e.node op f.node)

/-- The expression under a name. -/
def named (e : Typed α) (name : String) : Typed α := e.withNode (.aliased e.node name)

/-- The function over a window. -/
def overWindow (e : Typed α) (w : Window) : Typed α := e.withNode (.window e.node w)

/-- The expression, or `fallback` where it is NULL. -/
def orElse (e : Typed (Option α)) (fallback : Typed α) : Typed α :=
  fallback.withNode (.coalesce [e.node, fallback.node])

/-- Sort by the expression. -/
def ordered (e : Typed α) (dir : SortDir) : OrderItem := { key := e.node, dir }

end Typed

/-! ## Columns -/

/-- A column whose type is known. -/
structure Column (α : Type) where
  ref : ColumnRef
  type : ColumnType α

/-- The column as an expression. -/
def Column.typed {α : Type} (c : Column α) : Typed α := ⟨.column c.ref, c.type⟩

/-- A column of a table, stored as `type` says. -/
def Table.column {α : Type} (t : Table) (name : String) (type : ColumnType α) : Column α :=
  ⟨t.columnRef name, type⟩

end BoundSql
