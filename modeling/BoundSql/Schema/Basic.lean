import BoundSql.SqlType

/-!
# Definitions of tables and indexes

What a schema change needs to know about a table or an index.  A default is an expression in
SQL, kept as it was given; everything else is data.
-/

namespace BoundSql

/-- A column of a new table.  A column takes no NULL unless it says so. -/
structure ColumnDef where
  name : String
  sqlType : SqlType
  nullable : Bool := false
  primaryKey : Bool := false
  autoIncrement : Bool := false
  unique : Bool := false
  /-- A default expression, copied as it is. -/
  default : Option String := none
  deriving DecidableEq, Repr

/-- A new table. -/
structure TableDef where
  name : String
  columns : List ColumnDef := []
  /-- The columns of a primary key over several columns; empty for no such key. -/
  primaryKey : List String := []
  deriving DecidableEq, Repr

/-- A new index. -/
structure IndexDef where
  name : String
  table : String
  columns : List String
  unique : Bool := false
  deriving DecidableEq, Repr

end BoundSql
