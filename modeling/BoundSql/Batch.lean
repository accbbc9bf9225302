import BoundSql.Prepared.Basic
import BoundSql.Statement.Insert

/-!
# Inserting many rows

A batch is rows for one table.  All rows set the same columns; the first row fixes the order in
which they are written.

A batch becomes statements in one of two ways.  Row by row, every statement inserts one row and
all have the same text.  Many rows at a time, a statement takes rows as long as it binds no more
values than it may; a row that binds too many all by itself still gets a statement.
-/

namespace BoundSql

/-- How a batch becomes statements. -/
inductive BatchStrategy where
  /-- One statement for each row. -/
  | perRow
  /-- As few statements as the limit on parameters allows. -/
  | multiRow
  deriving DecidableEq, Repr

/-- The name of a strategy. -/
def BatchStrategy.label : BatchStrategy → String
  | perRow => "PerRow"
  | multiRow => "MultiRow"

/-- The rows from `start` on and before `stop`. -/
structure Span where
  start : Nat
  stop : Nat
  deriving DecidableEq, Repr

/-- Rows for one table. -/
structure Batch where
  table : Table
  rows : List Assignments := []
  conflict : Option Conflict := none
  returning : List ColumnRef := []
  strategy : BatchStrategy := .perRow

namespace Batch

/-! ## Putting batches together -/

/-- One more row. -/
def row (b : Batch) (r : Assignments) : Batch := { b with rows := b.rows ++ [r] }

/-- More rows. -/
def addRows (b : Batch) (rs : List Assignments) : Batch := { b with rows := b.rows ++ rs }

/-- Say what to do about rows that are already there. -/
def onConflict (b : Batch) (target : List ColumnRef) (action : ConflictAction) : Batch :=
  { b with conflict := some ⟨target, action⟩ }

/-- Give back one more column. -/
def returnColumn (b : Batch) (c : ColumnRef) : Batch :=
  { b with returning := b.returning ++ [c] }

/-- Choose how the batch becomes statements. -/
def withStrategy (b : Batch) (s : BatchStrategy) : Batch := { b with strategy := s }

/-- The number of rows. -/
def size (b : Batch) : Nat := b.rows.length

/-- There are no rows. -/
def isEmpty (b : Batch) : Bool := b.rows.isEmpty

/-- Equality. -/
def same (a b : Batch) : Bool :=
  let rec sameRows : List Assignments → List Assignments → Bool
    | [], [] => true
    | r :: rs, s :: ss => r.same s && sameRows rs ss
    | _, _ => false
  a.table == b.table && sameRows a.rows b.rows && a.conflict == b.conflict &&
    a.returning == b.returning && a.strategy == b.strategy

/-! ## Checking -/

/-- The row sets the same columns as the first one. -/
def sameColumns (first row : Assignments) : Bool :=
  row.size == first.size && first.columns.all fun c => (row.get? c).isSome

/-- Compare rows with the first one, the next of them being row number `index`. -/
def checkColumns (first : Assignments) : Nat → List Assignments → Except QueryError Unit
  | _, [] => .ok ()
  | index, row :: rows =>
    if sameColumns first row then checkColumns first (index + 1) rows
    else .error (.heterogeneousBatch index first.names row.names)

/-- Check the queries in rows, one row after another. -/
def checkRows (d : Dialect) : List Assignments → Except QueryError Unit
  | [] => .ok ()
  | row :: rows => do
    row.check d
    checkRows d rows

/-- Check a batch.  Without rows there is nothing to check. -/
def check (b : Batch) (d : Dialect) : Except QueryError Unit :=
  match b.rows with
  | [] => .ok ()
  | first :: rest => do
    if first.isEmpty then throw (.emptyAssignments .insert)
    checkColumns first 1 rest
    checkRows d b.rows
    Conflict.checkOption d first.names b.conflict
    Returning.check d b.returning

/-! ## Cutting -/

/-- The values of a row in the order of `columns`. -/
def valuesIn (columns : List ColumnRef) (row : Assignments) : List Expr :=
  columns.filterMap row.get?

/-- The number of values that a tuple binds. -/
def cost (tuple : Fragment) : Nat := tuple.values.length

/-- Cut behind row `start`, given the next row, the number of values bound since `start`, and the
costs of the rows from the next one on.  A row that does not fit begins a new span, unless it is
the first of its span. -/
def cutFrom (limit : Nat) : (start next used : Nat) → List Nat → List Span
  | start, next, _, [] => [⟨start, next⟩]
  | start, next, used, cost :: costs =>
    if start < next ∧ limit < used + cost then
      ⟨start, next⟩ :: cutFrom limit next (next + 1) cost costs
    else cutFrom limit start (next + 1) (used + cost) costs

/-- The spans of a batch of at least one row, given the costs of its rows. -/
def cut (strategy : BatchStrategy) (limit : Option Nat) (costs : List Nat) : List Span :=
  match strategy, limit with
  | .perRow, _ => (List.range costs.length).map fun i => ⟨i, i + 1⟩
  | .multiRow, none => [⟨0, costs.length⟩]
  | .multiRow, some limit => cutFrom limit 0 0 0 costs

/-! ## Building -/

/-- The statement that inserts some of the tuples. -/
def statement (b : Batch) (d : Dialect) (names : List String) (tuples : List Fragment) :
    Prepared :=
  (insertion d b.table names tuples b.conflict b.returning).prepare d

/-- Check a batch and write its statements, each with the rows that it inserts. -/
def buildSpans (b : Batch) (d : Dialect) (strategy : BatchStrategy) (limit : Option Nat) :
    Except QueryError (List (Span × Prepared)) := do
  b.check d
  match b.rows with
  | [] => return []
  | first :: _ =>
    let tuples := b.rows.map fun row => tuple d (valuesIn first.columns row)
    let all := tuples.toArray
    return (cut strategy limit (tuples.map cost)).map fun span =>
      (span, b.statement d first.names (all.extract span.start span.stop).toList)

/-- Check a batch and write its statements. -/
def buildWith (b : Batch) (d : Dialect) (strategy : BatchStrategy) (limit : Option Nat) :
    Except QueryError (List Prepared) := do
  return (← b.buildSpans d strategy limit).map Prod.snd

/-- Check a batch and write its statements as it says itself, with the limit of the dialect. -/
def build (b : Batch) (d : Dialect) : Except QueryError (List Prepared) :=
  b.buildWith d b.strategy d.maxParams

end Batch

end BoundSql
