import BoundSql.Dialect.BuiltIn
import BoundSql.Error
import BoundSql.Text.Blank

/-!
# Naming a dialect

A configuration names one of the four dialects.  Each has a proper name and a few others; white
space around a name and the case of its letters do not matter.
-/

namespace BoundSql

/-- One of the four dialects. -/
inductive DialectKind where
  | generic
  | postgres
  | sqlite
  | mysql
  deriving DecidableEq, Repr

namespace DialectKind

/-- The dialect itself. -/
def dialect : DialectKind → Dialect
  | generic => .generic
  | postgres => .postgres
  | sqlite => .sqlite
  | mysql => .mysql

/-- The proper name. -/
def name : DialectKind → String
  | generic => "generic"
  | postgres => "postgres"
  | sqlite => "sqlite"
  | mysql => "mysql"

/-- The dialect of a kind goes by the name of the kind. -/
@[simp] theorem name_dialect (k : DialectKind) : k.dialect.name = k.name := by
  cases k <;> rfl

/-- All names, each with its dialect. -/
def names : List (String × DialectKind) :=
  [("generic", generic), ("ansi", generic),
    ("postgres", postgres), ("postgresql", postgres), ("pg", postgres),
    ("sqlite", sqlite), ("sqlite3", sqlite),
    ("mysql", mysql), ("mariadb", mysql)]

/-- The dialect with this name. -/
def ofString (s : String) : Except QueryError DialectKind :=
  match names.lookup (Text.lowercase (Text.trim s)) with
  | some kind => .ok kind
  | none => .error (.unknownDialect s)

end DialectKind

end BoundSql
