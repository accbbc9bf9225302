import BoundSql.Statement.Kind

/-!
# What can go wrong

Putting the text of a statement together never fails.  All that can go wrong is found before, by
the check of the statement against the dialect; or outside, when a stored value is read back,
when a configuration is read, or when a statement runs.

An error says what the matter is; `QueryError.message` puts it into words.
-/

namespace BoundSql

/-- Features that a dialect may lack and that have no substitute. -/
inductive Feature where
  | forUpdate
  | onConflict
  | returning
  deriving DecidableEq, Repr

/-- The keywords of a feature. -/
def Feature.keywords : Feature → String
  | forUpdate => "FOR UPDATE"
  | onConflict => "ON CONFLICT"
  | returning => "RETURNING"

/-- Ways in which a statement can be malformed on any dialect. -/
inductive Fault where
  /-- All columns of no table. -/
  | starWithoutSource
  /-- An updating conflict clause needs a target here. -/
  | upsertWithoutTarget
  /-- An updating conflict clause updates nothing. -/
  | upsertWithoutColumns
  /-- A fault that whoever ran the statement reports. -/
  | reported (message : String)
  deriving DecidableEq, Repr

/-- A fault in words. -/
def Fault.message : Fault → String
  | starWithoutSource => "SELECT * requires a FROM clause"
  | upsertWithoutTarget => "ON CONFLICT DO UPDATE requires a conflict target"
  | upsertWithoutColumns => "ON CONFLICT DO UPDATE has no columns to update"
  | reported message => message

/-- An error. -/
inductive QueryError where
  /-- Nothing is assigned. -/
  | emptyAssignments (statement : StatementKind)
  /-- A row of a batch assigns other columns than the first row. -/
  | heterogeneousBatch (row : Nat) (expected found : List String)
  /-- The dialect lacks a feature. -/
  | unsupported (feature : Feature) (dialect : String)
  /-- The statement is malformed. -/
  | invalidStatement (fault : Fault)
  /-- A stored value is no value of the type it is read as. -/
  | decode (type message : String)
  /-- No dialect has this name. -/
  | unknownDialect (name : String)
  /-- A configuration text is malformed or has a value of the wrong kind. -/
  | config
  deriving DecidableEq, Repr

namespace QueryError

/-- An error in words. -/
def message : QueryError → String
  | emptyAssignments statement => statement.keyword ++ " has no assigned columns"
  | heterogeneousBatch row expected found =>
    s!"batch row {row} has columns [" ++ String.intercalate ", " found ++ "], expected [" ++
      String.intercalate ", " expected ++ "]"
  | unsupported feature dialect =>
    feature.keywords ++ " is not supported by the " ++ dialect ++ " dialect"
  | invalidStatement fault => "Invalid statement: " ++ fault.message
  | decode type message => "Decode error for " ++ type ++ ": " ++ message
  | unknownDialect name => "Unknown dialect: " ++ name
  | config => "Configuration error"

/-- The name of the kind of an error, as reports give it. -/
def kind : QueryError → String
  | emptyAssignments _ => "EmptyAssignments"
  | heterogeneousBatch .. => "HeterogeneousBatch"
  | unsupported .. => "Unsupported"
  | invalidStatement _ => "InvalidStatement"
  | decode .. => "Decode"
  | unknownDialect _ => "UnknownDialect"
  | config => "Config"

/-- The dialect is at fault. -/
def isUnsupported : QueryError → Bool
  | unsupported .. => true
  | _ => false

/-- The statement itself is at fault. -/
def isStructural : QueryError → Bool
  | emptyAssignments _ | heterogeneousBatch .. | invalidStatement _ => true
  | _ => false

end QueryError

end BoundSql
