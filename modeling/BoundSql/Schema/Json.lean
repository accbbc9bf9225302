import BoundSql.Schema.Basic
import BoundSql.Json.Basic

/-!
# Definitions as JSON

Each definition has one tree, written by `toJson` and read back by `ofJson?`.  A type without
parameters is a word; a type with parameters is an object with that word as its only key.
-/

namespace BoundSql

/-! ## Parts -/

/-- A list that holds one thing of each kind. -/
def Json.listOf? {α : Type} (item? : Json → Option α) (j : Json) : Option (List α) := do
  (← j.items?).mapM item?

/-- An unsigned 32-bit number. -/
def Json.uint32? (j : Json) : Option UInt32 :=
  (j.intBetween? 0 (UInt32.size - 1)).map fun n => UInt32.ofNat n.toNat

/-! ## Types -/

/-- The word for a type. -/
def SqlType.word : SqlType → String
  | boolean => "boolean"
  | smallInt => "small_int"
  | integer => "integer"
  | bigInt => "big_int"
  | real => "real"
  | double => "double"
  | decimal .. => "decimal"
  | varchar _ => "varchar"
  | text => "text"
  | bytes => "bytes"
  | date => "date"
  | timestamp => "timestamp"
  | timestampTz => "timestamp_tz"
  | uuid => "uuid"
  | json => "json"

/-- The types without parameters. -/
def SqlType.plain : List SqlType :=
  [boolean, smallInt, integer, bigInt, real, double, text, bytes, date, timestamp, timestampTz,
    uuid, json]

/-- The type without parameters that has this word. -/
def SqlType.ofWord? (word : String) : Option SqlType := SqlType.plain.find? (·.word == word)

/-- The tree of a type. -/
def SqlType.toJson : SqlType → Json
  | decimal precision scale =>
    .object [("decimal", .object [("precision", .number (.int precision.toNat)),
      ("scale", .number (.int scale.toNat))])]
  | varchar length => .object [("varchar", .number (.int length.toNat))]
  | t => .string t.word

/-- The type of a tree. -/
def SqlType.ofJson? : Json → Option SqlType
  | .object [("varchar", j)] => j.uint32?.map varchar
  | .object [("decimal", j)] => do
    match ← j.members? ["precision", "scale"] with
    | [some precision, some scale] => return decimal (← precision.uint32?) (← scale.uint32?)
    | _ => none
  | j => j.word?.bind SqlType.ofWord?

/-! ## Columns -/

/-- The tree of a column. -/
def ColumnDef.toJson (c : ColumnDef) : Json :=
  .object [("name", .string c.name), ("sql_type", c.sqlType.toJson), ("nullable", .bool c.nullable),
    ("primary_key", .bool c.primaryKey), ("auto_increment", .bool c.autoIncrement),
    ("unique", .bool c.unique), ("default", c.default.elim .null .string)]

/-- The column of a tree.  Only the default may be missing. -/
def ColumnDef.ofJson? (j : Json) : Option ColumnDef := do
  let names :=
    ["name", "sql_type", "nullable", "primary_key", "auto_increment", "unique", "default"]
  match ← j.members? names with
  | [some name, some sqlType, some nullable, some primaryKey, some autoIncrement, some unique,
      default] =>
    let default ← match default with
      | none | some .null => some none
      | some j => j.string?.map some
    return ⟨← name.string?, ← SqlType.ofJson? sqlType, ← nullable.bool?, ← primaryKey.bool?,
      ← autoIncrement.bool?, ← unique.bool?, default⟩
  | _ => none

/-! ## Tables and indexes -/

/-- The tree of a table. -/
def TableDef.toJson (t : TableDef) : Json :=
  .object [("name", .string t.name), ("columns", .array (t.columns.map ColumnDef.toJson)),
    ("primary_key", .array (t.primaryKey.map .string))]

/-- The table of a tree. -/
def TableDef.ofJson? (j : Json) : Option TableDef := do
  match ← j.members? ["name", "columns", "primary_key"] with
  | [some name, some columns, some primaryKey] =>
    return ⟨← name.string?, ← columns.listOf? ColumnDef.ofJson?, ← primaryKey.listOf? Json.string?⟩
  | _ => none

/-- The tree of an index. -/
def IndexDef.toJson (i : IndexDef) : Json :=
  .object [("name", .string i.name), ("table", .string i.table),
    ("columns", .array (i.columns.map .string)), ("unique", .bool i.unique)]

/-- The index of a tree. -/
def IndexDef.ofJson? (j : Json) : Option IndexDef := do
  match ← j.members? ["name", "table", "columns", "unique"] with
  | [some name, some table, some columns, some unique] =>
    return ⟨← name.string?, ← table.string?, ← columns.listOf? Json.string?, ← unique.bool?⟩
  | _ => none

end BoundSql
