import BoundSql.Query.Select
import BoundSql.Text.Blank

/-!
# The rows of a query

What rows a query has, by the usual reading of its clauses: rows are taken from the sources, those
that meet the condition are kept, and they are put into bunches, each of which gives one row.
Grouped rows are bunched by group.  Otherwise all rows are one bunch if the projection has an
aggregate in it, and each row is a bunch by itself if it has none.  What is left is to drop repeated
rows, sort, and cut out a page.

Everything that goes by the contents of tables and by the meaning of single expressions is left to
a `Store`, of which no more is said than that `COUNT(*)` is the number of rows in a bunch and that
the rows of a query are as many when another query takes them.
-/

namespace BoundSql

/-! ## Aggregates -/

/-- The function makes one value of many rows. -/
def isAggregate (function : String) : Bool :=
  ["COUNT", "SUM", "AVG", "MIN", "MAX"].contains (Text.uppercase function)

mutual

/-- There is an aggregate in the expression that is neither under a window nor in a query of its
own.  For SQL of the caller, `raw` tells. -/
def Expr.aggregates (raw : Template → Bool) : Expr → Bool
  | .column _ | .literal _ | .star | .now | .subquery _ | .window .. => false
  | .raw t => raw t
  | .call function args _ => isAggregate function || Expr.anyAggregates raw args
  | .binary left _ right => left.aggregates raw || right.aggregates raw
  | .aliased e _ => e.aggregates raw
  | .case branches otherwise =>
    Branch.anyAggregates raw branches || Expr.optionAggregates raw otherwise
  | .coalesce args => Expr.anyAggregates raw args
  | .truth p => p.aggregates raw

/-- There is an aggregate in one of the expressions. -/
def Expr.anyAggregates (raw : Template → Bool) : List Expr → Bool
  | [] => false
  | e :: es => e.aggregates raw || Expr.anyAggregates raw es

/-- There is an aggregate in the expression, if there is one. -/
def Expr.optionAggregates (raw : Template → Bool) : Option Expr → Bool
  | none => false
  | some e => e.aggregates raw

/-- There is an aggregate in one of the branches. -/
def Branch.anyAggregates (raw : Template → Bool) : List Branch → Bool
  | [] => false
  | ⟨condition, value⟩ :: bs =>
    condition.aggregates raw || value.aggregates raw || Branch.anyAggregates raw bs

/-- There is an aggregate in the condition.  Of a list without values nothing is written. -/
def Predicate.aggregates (raw : Template → Bool) : Predicate → Bool
  | .compare left _ right => left.aggregates raw || right.aggregates raw
  | .isNull e _ => e.aggregates raw
  | .inList e values _ =>
    !values.isEmpty && (e.aggregates raw || Expr.anyAggregates raw values)
  | .inQuery e _ _ => e.aggregates raw
  | .between e low high _ => e.aggregates raw || low.aggregates raw || high.aggregates raw
  | .like e pattern _ _ => e.aggregates raw || pattern.aggregates raw
  | .conj ps | .disj ps => Predicate.anyAggregates raw ps
  | .neg p => p.aggregates raw
  | .quantified left _ _ _ => left.aggregates raw
  | .raw t => raw t
  | .existence .. | .always | .never => false

/-- There is an aggregate in one of the conditions. -/
def Predicate.anyAggregates (raw : Template → Bool) : List Predicate → Bool
  | [] => false
  | p :: ps => p.aggregates raw || Predicate.anyAggregates raw ps

end

/-! ## Stores -/

/-- Contents of tables, and what expressions and conditions come to over them. -/
structure Store where
  /-- A row of the sources of a query. -/
  Row : Type
  /-- A value in a row that a query gives. -/
  Cell : Type
  /-- The value that is a number of rows. -/
  number : Nat → Cell
  number_inj {m n : Nat} : number m = number n → m = n
  /-- SQL of the caller has an aggregate in it. -/
  aggregates : Template → Bool
  /-- The row that there is without a source. -/
  void : Row
  /-- The rows of a table. -/
  scan : Table → List Row
  /-- The rows of a query under a name. -/
  derived : String → List (List Cell) → List Row
  length_derived (name : String) (rows : List (List Cell)) :
    (derived name rows).length = rows.length
  /-- The rows of a join, from those of both sides. -/
  joined : JoinKind → Option Predicate → List Row → List Row → List Row
  /-- The row meets the condition. -/
  holds : Predicate → Row → Bool
  /-- Rows by groups. -/
  grouped : List Expr → List Row → List (List Row)
  /-- The group meets the condition. -/
  holdsFor : Predicate → List Row → Bool
  /-- All columns, where a query names none. -/
  columns : List Row → List Cell
  /-- The value of an expression for one of several bunches of rows. -/
  eval : (bunches : List (List Row)) → (bunch : List Row) → Expr → Cell
  eval_countAll (bunches : List (List Row)) (bunch : List Row) :
    eval bunches bunch Expr.countAll = number bunch.length
  /-- Bunches with the rows that they give, none of these repeated. -/
  distinct : List (List Row × List Cell) → List (List Row × List Cell)
  /-- Bunches with the rows that they give, in the order of sort keys. -/
  sorted : List OrderItem → List (List Row × List Cell) → List (List Row × List Cell)

/-! ## Results -/

namespace Select

variable (S : Store) (q : Select)

/-- One value is made of many rows in the projection. -/
def aggregates : Bool := Expr.anyAggregates S.aggregates q.projection

/-- Those of the rows that meet the condition. -/
def keep (rows : List S.Row) : List S.Row := rows.filter fun r => q.condition.all (S.holds · r)

/-- Rows in bunches, each of which gives one row of the query. -/
def bunches (rows : List S.Row) : List (List S.Row) :=
  if !q.groups.isEmpty || q.having.isSome then
    (if q.groups.isEmpty then [rows] else S.grouped q.groups rows).filter fun b =>
      q.having.all (S.holdsFor · b)
  else if q.aggregates S then [rows]
  else rows.map fun r => [r]

/-- The row that a bunch gives. -/
def cells (bunches : List (List S.Row)) (bunch : List S.Row) : List S.Cell :=
  if q.projection.isEmpty then S.columns bunch else q.projection.map (S.eval bunches bunch)

/-- The rows of the query, given those of its sources. -/
def resultsFrom (rows : List S.Row) : List (List S.Cell) :=
  let bunches := q.bunches S (q.keep S rows)
  let given := bunches.map fun b => (b, q.cells S bunches b)
  let given := if q.distinct then S.distinct given else given
  let given := if q.order.isEmpty then given else S.sorted q.order given
  let given := given.drop (q.offset.elim 0 UInt64.toNat)
  let given := q.limit.elim given fun n => given.take n.toNat
  given.map Prod.snd

end Select

mutual

/-- The rows of a source. -/
def Source.rows (S : Store) : Source → List S.Row
  | .table t => S.scan t
  | .query q name => S.derived name (q.results S)

/-- The rows of the first source. -/
def Source.firstRows (S : Store) : Option Source → List S.Row
  | none => [S.void]
  | some s => s.rows S

/-- Rows joined with further sources, one after another. -/
def Join.rows (S : Store) : List S.Row → List Join → List S.Row
  | rows, [] => rows
  | rows, ⟨kind, target, on⟩ :: js => Join.rows S (S.joined kind on rows (target.rows S)) js

/-- The rows of a query. -/
def Select.results (S : Store) : Select → List (List S.Cell)
  | ⟨distinct, projection, source, joins, condition, groups, having, order, limit, offset,
      forUpdate⟩ =>
    Select.resultsFrom S ⟨distinct, projection, source, joins, condition, groups, having, order,
      limit, offset, forUpdate⟩ (Join.rows S (Source.firstRows S source) joins)

end

namespace Select

variable (S : Store) (q : Select)

/-- The rows of the sources that meet the condition. -/
def kept : List S.Row := q.keep S (Join.rows S (Source.firstRows S q.source) q.joins)

/-- Without sorting and a page, there is a row for each bunch, unless repeated ones are dropped. -/
theorem results_unordered :
    q.unordered.results S =
      (let bunches := q.bunches S (q.kept S)
       let given := bunches.map fun b => (b, q.cells S bunches b)
       (if q.distinct then S.distinct given else given).map Prod.snd) := by
  rfl

end Select

end BoundSql
