import BoundSql.Dialect.Basic

/-!
# Four dialects

`generic` serves an engine that nothing is known about: it claims only the ordering and window
features of the standard.  `postgres`, `sqlite` and `mysql` say what those engines have and where
their spelling departs from the standard one.
-/

namespace BoundSql.Dialect

/-- An engine that keeps to the standard. -/
def generic : Dialect where
  name := "generic"
  hasNullsOrdering := true
  hasGroupsFrame := true

/-! ## PostgreSQL -/

/-- The names of types in PostgreSQL. -/
def postgresType : SqlType → String
  | .decimal precision scale => Standard.scaled "NUMERIC" precision scale
  | .bytes => "BYTEA"
  | .timestampTz => "TIMESTAMPTZ"
  | .uuid => "UUID"
  | .json => "JSONB"
  | t => Standard.typeName t

/-- PostgreSQL: placeholders are numbered, and the protocol counts them in 16 bits. -/
def postgres : Dialect where
  name := "postgres"
  placeholder n := "$" ++ toString n
  hasILike := true
  hasReturning := true
  hasUpsert := true
  hasNullsOrdering := true
  hasGroupsFrame := true
  maxParams := some 65535
  typeName := postgresType

/-! ## SQLite -/

/-- The names of types in SQLite, which has five. -/
def sqliteType : SqlType → String
  | .boolean | .smallInt | .integer | .bigInt => "INTEGER"
  | .real | .double => "REAL"
  | .decimal .. => "NUMERIC"
  | .bytes => "BLOB"
  | .varchar _ | .text | .date | .timestamp | .timestampTz | .uuid | .json => "TEXT"

/-- One column of a new table in SQLite: only a primary key can be generated. -/
def sqliteColumn (c : ColumnDef) : Phrase :=
  .concat [[.name c.name, " ", sqliteType c.sqlType], .when (!c.nullable) [" NOT NULL"],
    Standard.defaultClause c, .when c.primaryKey [" PRIMARY KEY"],
    .when (c.primaryKey && c.autoIncrement) [" AUTOINCREMENT"], .when c.unique [" UNIQUE"]]

/-- SQLite: an offset needs a limit, and a negative one is none. -/
def sqlite : Dialect where
  name := "sqlite"
  hasReturning := true
  hasUpsert := true
  hasForUpdate := false
  hasNullsOrdering := true
  hasGroupsFrame := true
  maxParams := some 32766
  limitOffset := Standard.limitOffset "LIMIT -1 "
  typeName := sqliteType
  columnDefinition := sqliteColumn

/-! ## MySQL -/

/-- The names of types in MySQL. -/
def mysqlType : SqlType → String
  | .boolean => "TINYINT(1)"
  | .integer => "INT"
  | .real => "FLOAT"
  | .double => "DOUBLE"
  | .timestamp => "DATETIME(6)"
  | .timestampTz => "TIMESTAMP(6)"
  | t => Standard.typeName t

/-- The upsert clause of MySQL, where the unique keys of the table are the target.  There is no
way to say that a row stays; assigning a column to itself has that effect. -/
def mysqlUpsert (target columns : List String) (action : UpsertAction) : Phrase :=
  let sets : List Phrase := match action with
    | .overwrite updated => updated.map fun c => [.name c, " = VALUES(", .name c, ")"]
    | .keep => ((target ++ columns).take 1).map fun c => [.name c, " = ", .name c]
  "ON DUPLICATE KEY UPDATE " :: Phrase.comma sets

/-- MySQL: an offset needs a limit, and the greatest number is none. -/
def mysql : Dialect where
  name := "mysql"
  quote := Quoting.grave
  hasUpsert := true
  upsertNeedsTarget := false
  maxParams := some 65535
  upsertClause := mysqlUpsert
  limitOffset := Standard.limitOffset "LIMIT 18446744073709551615 "
  typeName := mysqlType
  autoIncrement := "AUTO_INCREMENT"
  dropIndex i := ["DROP INDEX ", .name i.name, " ON ", .name i.table]

end BoundSql.Dialect
