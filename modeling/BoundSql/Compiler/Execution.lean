import BoundSql.Compiler.Basic

/-!
# Execution

Whoever runs statements is an `Executor`: given all statements sent so far, the last one being
the one to run, it says how many rows were affected or what went wrong.  A batch is sent
statement by statement until one fails.
-/

namespace BoundSql

/-- Answers the last of the statements sent so far. -/
abbrev Executor := List Prepared → Except QueryError UInt64

/-- What became of a batch that was executed. -/
structure BatchOutcome where
  /-- The number of statements sent. -/
  statements : Nat
  /-- The rows that each statement inserts. -/
  rows : List Span
  /-- The rows that each statement affected. -/
  rowsAffected : List UInt64
  deriving DecidableEq, Repr

namespace BatchOutcome

/-- All affected rows. -/
def total (o : BatchOutcome) : UInt64 := o.rowsAffected.foldl (· + ·) 0

/-- The rows of each statement with the number that it affected. -/
def spans (o : BatchOutcome) : List (Span × UInt64) := o.rows.zip o.rowsAffected

end BatchOutcome

/-- A result of execution, the statements sent for it, and the events on the way. -/
structure Executed (α : Type) where
  result : Except QueryError α
  sent : List Prepared
  events : List Event

namespace Compiler

/-- Build a statement and run it. -/
def execute (c : Compiler) (executor : Executor) (s : Statement) : Executed UInt64 :=
  let compiled := c.compile s
  match compiled.result with
  | .error e => ⟨.error e, [], compiled.events⟩
  | .ok p => ⟨executor [p], [p], compiled.events⟩

/-- Send statements until one fails: the answers, and all statements sent.  `sent` were sent
before. -/
def sendAll (executor : Executor) :
    (sent : List Prepared) → List Prepared → Except QueryError (List UInt64) × List Prepared
  | sent, [] => (.ok [], sent)
  | sent, p :: ps =>
    let sent := sent ++ [p]
    match executor sent with
    | .error e => (.error e, sent)
    | .ok n =>
      let (answers, sent) := sendAll executor sent ps
      (answers.map (n :: ·), sent)

/-- Build a batch and run its statements. -/
def executeBatch (c : Compiler) (executor : Executor) (b : Batch) : Executed BatchOutcome :=
  let compiled := c.compileSpans b
  match compiled.result with
  | .error e => ⟨.error e, [], compiled.events⟩
  | .ok statements =>
    let (answers, sent) := sendAll executor [] (statements.map Prod.snd)
    ⟨answers.map fun affected => ⟨statements.length, statements.map Prod.fst, affected⟩, sent,
      compiled.events⟩

end Compiler

end BoundSql
