import BoundSql.Compiler.Truncation
import BoundSql.Config
import BoundSql.Statement.Basic

/-!
# Compilers

A compiler is a dialect with a configuration.  It builds statements and keeps a record of what it
does: each of its functions gives its result together with the events that it would log, in
order.

A statement that is rejected is always recorded; one that is compiled is recorded only if the
configuration says so.
-/

namespace BoundSql

/-! ## Events -/

/-- Something worth a line in a log. -/
inductive Event where
  /-- A statement was compiled. -/
  | compiled (statement : StatementKind) (dialect : String) (paramCount : Nat) (sql : String)
  /-- A statement was rejected. -/
  | statementRejected (statement : StatementKind) (dialect : String) (error : QueryError)
  /-- A batch was rejected. -/
  | batchRejected (dialect : String) (error : QueryError)
  /-- A batch was cut into statements. -/
  | batchSplit (rows statements : Nat) (strategy : BatchStrategy) (maxParams : Option Nat)

/-- The severity of an event. -/
def Event.level : Event → String
  | compiled .. => "DEBUG"
  | statementRejected .. | batchRejected .. => "WARN"
  | batchSplit .. => "TRACE"

/-- The message of an event. -/
def Event.message : Event → String
  | compiled .. => "compiled"
  | statementRejected .. => "statement rejected"
  | batchRejected .. => "batch rejected"
  | batchSplit .. => "batch split"

/-- The text of a limit on parameters in an event. -/
def Event.limitText : Option Nat → String
  | none => "None"
  | some n => s!"Some({n})"

/-- A result with the events on the way to it. -/
structure Logged (α : Type) where
  result : Except QueryError α
  events : List Event

/-- The same events with another result. -/
def Logged.map {α β : Type} (f : α → β) (l : Logged α) : Logged β := ⟨l.result.map f, l.events⟩

/-! ## Compilers -/

/-- A dialect with a configuration. -/
structure Compiler where
  dialect : Dialect
  config : Config

namespace Compiler

/-- The compiler of a configuration. -/
def ofConfig (c : Config) : Compiler := ⟨c.dialect.dialect, c⟩

/-- The greatest number of parameters of one statement: as configured, or else as the dialect
has it. -/
def maxParams (c : Compiler) : Option Nat := c.config.maxParams <|> c.dialect.maxParams

/-- The event for a compiled statement, if statements are logged. -/
def compiledEvents (c : Compiler) (kind : StatementKind) (p : Prepared) : List Event :=
  if c.config.logSql then
    [.compiled kind c.dialect.name p.params.length (truncated c.config.maxLoggedSqlLength p.sql)]
  else []

/-- Build a statement. -/
def compile (c : Compiler) (s : Statement) : Logged Prepared :=
  match s.build c.dialect with
  | .ok p => ⟨.ok p, c.compiledEvents s.kind p⟩
  | .error e => ⟨.error e, [.statementRejected s.kind c.dialect.name e]⟩

/-- Build a batch as configured, each statement with the rows that it inserts. -/
def compileSpans (c : Compiler) (b : Batch) : Logged (List (Span × Prepared)) :=
  let strategy := c.config.batchStrategy
  match b.buildSpans c.dialect strategy c.maxParams with
  | .ok statements =>
    ⟨.ok statements,
      .batchSplit b.size statements.length strategy c.maxParams ::
        statements.flatMap fun (_, p) => c.compiledEvents .insert p⟩
  | .error e => ⟨.error e, [.batchRejected c.dialect.name e]⟩

/-- Build a batch as configured. -/
def compileBatch (c : Compiler) (b : Batch) : Logged (List Prepared) :=
  (c.compileSpans b).map fun statements => statements.map Prod.snd

end Compiler

end BoundSql
