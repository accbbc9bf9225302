import BoundSql.Batch
import BoundSql.Dialect.Kind
import BoundSql.Toml.Reader

/-!
# Configuration

Which dialect statements are written for, how batches become statements, and what is logged.
Every setting has a default, so a configuration says only what it changes; settings that are not
known are passed over.
-/

namespace BoundSql

/-- The settings of a compiler. -/
structure Config where
  dialect : DialectKind := .generic
  batchStrategy : BatchStrategy := .perRow
  /-- The greatest number of parameters of one statement, if it is not the dialect's. -/
  maxParams : Option Nat := none
  /-- Statements are logged. -/
  logSql : Bool := true
  /-- The greatest number of bytes of a logged statement; nothing for no limit. -/
  maxLoggedSqlLength : Option Nat := some 200
  deriving DecidableEq, Repr

namespace Config

/-! ## Settings -/

/-- Choose a dialect. -/
def withDialect (c : Config) (k : DialectKind) : Config := { c with dialect := k }

/-- Choose how batches become statements. -/
def withBatchStrategy (c : Config) (s : BatchStrategy) : Config := { c with batchStrategy := s }

/-- Limit the number of parameters. -/
def withMaxParams (c : Config) (n : Nat) : Config := { c with maxParams := some n }

/-- Log no statements. -/
def withoutLogging (c : Config) : Config := { c with logSql := false }

/-- Limit the length of logged statements. -/
def withMaxLoggedSqlLength (c : Config) (n : Nat) : Config :=
  { c with maxLoggedSqlLength := some n }

/-- Log statements in full. -/
def withoutTruncation (c : Config) : Config := { c with maxLoggedSqlLength := none }

/-! ## Reading -/

/-- A strategy by its word. -/
def strategyOfWord? : String → Option BatchStrategy
  | "per_row" => some .perRow
  | "multi_row" => some .multiRow
  | _ => none

/-- A strategy: its word, or a table with its word as the only key and nothing in it. -/
def strategyOfNode? (node : Toml.Node) : Option BatchStrategy :=
  match node, node.entries? with
  | .string word, _ => strategyOfWord? word
  | _, some [(word, contents)] => if contents.isEmptyCollection then strategyOfWord? word else none
  | _, _ => none

/-- A dialect by its name. -/
def dialectOfNode? : Toml.Node → Option DialectKind
  | .string name => (DialectKind.ofString name).toOption
  | _ => none

/-- An unsigned 64-bit number. -/
def countOfNode? : Toml.Node → Option Nat
  | .integer n => if 0 ≤ n ∧ n < UInt64.size then some n.toNat else none
  | _ => none

/-- A truth value. -/
def boolOfNode? : Toml.Node → Option Bool
  | .boolean b => some b
  | _ => none

/-- The setting with this key, or its default; nothing if it has the wrong kind of value. -/
def setting {α : Type} (entries : Toml.Entries) (key : String) (ofNode? : Toml.Node → Option α)
    (default : α) : Option α :=
  match entries.lookup key with
  | some node => ofNode? node
  | none => some default

/-- The configuration of a document. -/
def ofEntries? (entries : Toml.Entries) : Option Config := do
  let c : Config := {}
  return {
    dialect := ← setting entries "dialect" dialectOfNode? c.dialect
    batchStrategy := ← setting entries "batch_strategy" strategyOfNode? c.batchStrategy
    maxParams := ← setting entries "max_params" (fun n => (countOfNode? n).map some) c.maxParams
    logSql := ← setting entries "log_sql" boolOfNode? c.logSql
    maxLoggedSqlLength := ← setting entries "max_logged_sql_length"
      (fun n => (countOfNode? n).map some) c.maxLoggedSqlLength }

/-- Read a configuration. -/
def ofToml (text : String) : Except QueryError Config :=
  match (Toml.ofString? text).bind ofEntries? with
  | some c => .ok c
  | none => .error .config

end Config

end BoundSql
