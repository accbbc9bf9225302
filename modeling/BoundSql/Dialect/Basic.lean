import BoundSql.Phrase
import BoundSql.Schema.Basic
import BoundSql.Text.Quoting

/-!
# Dialects

A dialect is everything about an engine that the text of a statement depends on: how names are
quoted and placeholders numbered, which features there are, and the few clauses that engines
spell differently.  It is a record, so a new dialect is a record update of another.

Every field has a default, taken from standard SQL where standard SQL has an answer.
-/

namespace BoundSql

/-- What an upsert does with a row that is already there. -/
inductive UpsertAction where
  /-- Leave it as it is. -/
  | keep
  /-- Overwrite these columns with the new values. -/
  | overwrite (columns : List String)
  deriving DecidableEq, Repr

/-! ## The standard spelling of clauses -/

namespace Standard

/-- `ON CONFLICT`, with the target if there is one and the action. -/
def upsertClause (target _columns : List String) (action : UpsertAction) : Phrase :=
  let onTarget : Phrase :=
    if target.isEmpty then [] else .concat [[" ("], .names target, [")"]]
  let act : Phrase := match action with
    | .keep => [" DO NOTHING"]
    | .overwrite columns =>
      " DO UPDATE SET " :: Phrase.comma (columns.map fun c => [.name c, " = EXCLUDED.", .name c])
  "ON CONFLICT" :: (onTarget ++ act)

/-- `LIMIT` and `OFFSET`, given what stands for no limit where an offset needs one. -/
def limitOffset (unlimited : String) (limit offset : Option UInt64) : Option String :=
  match limit, offset with
  | none, none => none
  | some l, none => some ("LIMIT " ++ toString l.toNat)
  | none, some o => some (unlimited ++ "OFFSET " ++ toString o.toNat)
  | some l, some o => some ("LIMIT " ++ toString l.toNat ++ " OFFSET " ++ toString o.toNat)

/-- A type name with a length. -/
def sized (type : String) (length : UInt32) : String :=
  type ++ "(" ++ toString length.toNat ++ ")"

/-- A type name with a precision and a scale. -/
def scaled (type : String) (precision scale : UInt32) : String :=
  type ++ "(" ++ toString precision.toNat ++ ", " ++ toString scale.toNat ++ ")"

/-- The names of types. -/
def typeName : SqlType → String
  | .boolean => "BOOLEAN"
  | .smallInt => "SMALLINT"
  | .integer => "INTEGER"
  | .bigInt => "BIGINT"
  | .real => "REAL"
  | .double => "DOUBLE PRECISION"
  | .decimal precision scale => scaled "DECIMAL" precision scale
  | .varchar length => sized "VARCHAR" length
  | .text => "TEXT"
  | .bytes => "BLOB"
  | .date => "DATE"
  | .timestamp => "TIMESTAMP"
  | .timestampTz => "TIMESTAMP WITH TIME ZONE"
  | .uuid => "CHAR(36)"
  | .json => "JSON"

/-- The default of a column, if it has one. -/
def defaultClause (c : ColumnDef) : Phrase :=
  match c.default with
  | some expression => [" DEFAULT ", expression]
  | none => []

/-- One column of a new table. -/
def columnDefinition (typeName : SqlType → String) (autoIncrement : String) (c : ColumnDef) :
    Phrase :=
  .concat [[.name c.name, " ", typeName c.sqlType], .when (!c.nullable) [" NOT NULL"],
    .when c.autoIncrement [" ", autoIncrement], defaultClause c,
    .when c.primaryKey [" PRIMARY KEY"], .when c.unique [" UNIQUE"]]

/-- Removal of an index. -/
def dropIndex (i : IndexDef) : Phrase := ["DROP INDEX ", .name i.name]

end Standard

/-! ## Dialects -/

/-- What the text of a statement depends on. -/
structure Dialect where
  /-- The name, for messages and logs. -/
  name : String
  /-- Quote the name of a table, a column or an alias. -/
  quote : String → String := Quoting.ansi
  /-- The placeholder of the parameter with this number, counted from one. -/
  placeholder : Nat → String := fun _ => "?"
  /-- `ILIKE` is there. -/
  hasILike : Bool := false
  /-- `RETURNING` is there. -/
  hasReturning : Bool := false
  /-- An `INSERT` may have an upsert clause. -/
  hasUpsert : Bool := false
  /-- `FOR UPDATE` is there. -/
  hasForUpdate : Bool := true
  /-- An upsert that overwrites needs a target. -/
  upsertNeedsTarget : Bool := true
  /-- `NULLS FIRST` and `NULLS LAST` are there. -/
  hasNullsOrdering : Bool := false
  /-- Window frames may be counted in `GROUPS`. -/
  hasGroupsFrame : Bool := false
  /-- The expression for the current time. -/
  currentTimestamp : String := "CURRENT_TIMESTAMP"
  /-- The greatest number of parameters of one statement, if there is one. -/
  maxParams : Option Nat := none
  /-- The upsert clause, given target, inserted columns and action. -/
  upsertClause : List String → List String → UpsertAction → Phrase := Standard.upsertClause
  /-- The clause for a limit and an offset. -/
  limitOffset : Option UInt64 → Option UInt64 → Option String := Standard.limitOffset ""
  /-- The name of a type. -/
  typeName : SqlType → String := Standard.typeName
  /-- The attribute of a column whose values are generated. -/
  autoIncrement : String := "GENERATED BY DEFAULT AS IDENTITY"
  /-- One column of a new table. -/
  columnDefinition : ColumnDef → Phrase := Standard.columnDefinition typeName autoIncrement
  /-- Removal of an index. -/
  dropIndex : IndexDef → Phrase := Standard.dropIndex

namespace Dialect

/-- The text of a phrase in a dialect. -/
def write (d : Dialect) (p : Phrase) : String := p.write d.quote

/-- Quoted names with commas between them. -/
def quoteList (d : Dialect) (names : List String) : String := d.write (Phrase.names names)

end Dialect

end BoundSql
