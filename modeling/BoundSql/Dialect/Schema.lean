import BoundSql.Dialect.Basic

/-!
# Statements that change a schema

Tables and indexes are created and removed by statements that bind no values, so each of them is
a phrase.
-/

namespace BoundSql.Dialect

/-- Creation of a table. -/
def createTable (d : Dialect) (t : TableDef) : Phrase :=
  let key : List Phrase :=
    if t.primaryKey.isEmpty then []
    else [.concat [["PRIMARY KEY ("], .names t.primaryKey, [")"]]]
  .concat [["CREATE TABLE ", .name t.name, " ("],
    .comma (t.columns.map d.columnDefinition ++ key), [")"]]

/-- Removal of a table. -/
def dropTable (_ : Dialect) (name : String) : Phrase := ["DROP TABLE ", .name name]

/-- Creation of an index. -/
def createIndex (_ : Dialect) (i : IndexDef) : Phrase :=
  .concat [["CREATE "], .when i.unique ["UNIQUE "],
    ["INDEX ", .name i.name, " ON ", .name i.table, " ("], .names i.columns, [")"]]

end BoundSql.Dialect
