import BoundSql.Error
import BoundSql.Numeral.Widening
import BoundSql.SqlType
import BoundSql.Value.Display

/-!
# How a column stores its values

A `ColumnType α` stores host values of type `α` and reads them back.  Every typed expression
carries one, so a value compared with a column is stored the way the column stores its own.

Reading is stricter than it might be: a value of another kind is an error, with two exceptions
that lose nothing.  A narrower integer is read as a wider one, and a 32-bit number as a 64-bit
one.
-/

namespace BoundSql

open Calendar (Date DateTime Instant)

/-- A conversion between host values and stored ones. -/
structure ColumnType (α : Type) where
  /-- The type of the column in a schema. -/
  sqlType : SqlType
  /-- A description of the conversion. -/
  label : String
  /-- The stored form of a host value. -/
  toStore : α → Value
  /-- The host value of a stored form. -/
  fromStore : Value → Except QueryError α

namespace ColumnType

/-- A value of the wrong kind. -/
def mismatch {α : Type} (expected : SqlType) (v : Value) : Except QueryError α :=
  .error (.decode expected.label ("unexpected " ++ v.typeName ++ " value " ++ v.display))

/-! ## One type for each kind of value -/

/-- Truth values. -/
def bool : ColumnType Bool where
  sqlType := .boolean
  label := "Bool"
  toStore := .bool
  fromStore
    | .bool b => .ok b
    | v => mismatch .boolean v

/-- 16-bit integers. -/
def smallInt : ColumnType Int16 where
  sqlType := .smallInt
  label := "SmallInt"
  toStore := .smallInt
  fromStore
    | .smallInt n => .ok n
    | v => mismatch .smallInt v

/-- 32-bit integers, read from narrower ones too. -/
def int : ColumnType Int32 where
  sqlType := .integer
  label := "Int"
  toStore := .int
  fromStore
    | .int n => .ok n
    | .smallInt n => .ok n.toInt32
    | v => mismatch .integer v

/-- 64-bit integers, read from narrower ones too. -/
def bigInt : ColumnType Int64 where
  sqlType := .bigInt
  label := "BigInt"
  toStore := .bigInt
  fromStore
    | .bigInt n => .ok n
    | .int n => .ok n.toInt64
    | .smallInt n => .ok n.toInt64
    | v => mismatch .bigInt v

/-- 32-bit floating numbers. -/
def real : ColumnType Float32 where
  sqlType := .real
  label := "Real"
  toStore := .real
  fromStore
    | .real x => .ok x
    | v => mismatch .real v

/-- 64-bit floating numbers, read from 32-bit ones too. -/
def double : ColumnType Float where
  sqlType := .double
  label := "Double"
  toStore := .double
  fromStore
    | .double x => .ok x
    | .real x => .ok (Numeral.widen x)
    | v => mismatch .double v

/-- Text of any length. -/
def text : ColumnType String where
  sqlType := .text
  label := "Text"
  toStore := .text
  fromStore
    | .text s => .ok s
    | v => mismatch .text v

/-- Text in a column of limited length.  The limit is the schema's concern and is not checked. -/
def varchar (length : UInt32) : ColumnType String where
  sqlType := .varchar length
  label := (SqlType.varchar length).label
  toStore := .text
  fromStore
    | .text s => .ok s
    | v => mismatch (.varchar length) v

/-- Bytes. -/
def bytes : ColumnType (List UInt8) where
  sqlType := .bytes
  label := "Bytes"
  toStore := .bytes
  fromStore
    | .bytes bs => .ok bs
    | v => mismatch .bytes v

/-- Days. -/
def date : ColumnType Date where
  sqlType := .date
  label := "Date"
  toStore := .date
  fromStore
    | .date d => .ok d
    | v => mismatch .date v

/-- Days with a time of day. -/
def timestamp : ColumnType DateTime where
  sqlType := .timestamp
  label := "Timestamp"
  toStore := .timestamp
  fromStore
    | .timestamp t => .ok t
    | v => mismatch .timestamp v

/-- Points in time. -/
def timestampTz : ColumnType Instant where
  sqlType := .timestampTz
  label := "TimestampTz"
  toStore := .timestampTz
  fromStore
    | .timestampTz t => .ok t
    | v => mismatch .timestampTz v

/-- Identifiers. -/
def uuid : ColumnType Uuid where
  sqlType := .uuid
  label := "UuidType"
  toStore := .uuid
  fromStore
    | .uuid u => .ok u
    | v => mismatch .uuid v

/-- JSON documents. -/
def json : ColumnType Json where
  sqlType := .json
  label := "Json"
  toStore := .json
  fromStore
    | .json document => .ok document
    | v => mismatch .json v

/-! ## Types made from others -/

/-- Values or nothing: nothing is stored as NULL, and NULL is read as nothing. -/
def nullable {α : Type} (t : ColumnType α) : ColumnType (Option α) where
  sqlType := t.sqlType
  label := "Nullable(" ++ t.label ++ ")"
  toStore
    | some a => t.toStore a
    | none => .null
  fromStore
    | .null => .ok none
    | v => (t.fromStore v).map some

/-- A type given by its two conversions. -/
def custom {α : Type} (sqlType : SqlType) (toStore : α → Value)
    (fromStore : Value → Except QueryError α) : ColumnType α where
  sqlType := sqlType
  label := "CustomType \x7b sql_type: " ++ sqlType.label ++ ", .. \x7d"
  toStore := toStore
  fromStore := fromStore

end ColumnType

/-! ## The usual type of a host value -/

/-- Host types with a usual column type, taken where no column says how a value is stored. -/
class Storable (α : Type) where
  columnType : ColumnType α

instance : Storable Bool := ⟨.bool⟩
instance : Storable Int16 := ⟨.smallInt⟩
instance : Storable Int32 := ⟨.int⟩
instance : Storable Int64 := ⟨.bigInt⟩
instance : Storable Float32 := ⟨.real⟩
instance : Storable Float := ⟨.double⟩
instance : Storable String := ⟨.text⟩
instance : Storable (List UInt8) := ⟨.bytes⟩
instance : Storable Date := ⟨.date⟩
instance : Storable DateTime := ⟨.timestamp⟩
instance : Storable Instant := ⟨.timestampTz⟩
instance : Storable Uuid := ⟨.uuid⟩
instance : Storable Json := ⟨.json⟩
instance {α : Type} [Storable α] : Storable (Option α) := ⟨(Storable.columnType (α := α)).nullable⟩

end BoundSql
