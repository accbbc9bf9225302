import BoundSql.ColumnType

/-!
# Host types as data

Where types are known only when a program runs, a `HostType` says which one is meant: a type that
values can have in a program, with `Carrier` for the type itself.  Each has its usual column type,
and the nullable ones are made from the others.
-/

namespace BoundSql

open Calendar (Date DateTime Instant)

/-- A type of values in a program. -/
inductive HostType where
  | bool
  | smallInt
  | int
  | bigInt
  | real
  | double
  | text
  | bytes
  | date
  | timestamp
  | timestampTz
  | uuid
  | json
  | nullable (of : HostType)
  deriving DecidableEq, Repr

namespace HostType

/-- The values of a host type. -/
def Carrier : HostType → Type
  | bool => Bool
  | smallInt => Int16
  | int => Int32
  | bigInt => Int64
  | real => Float32
  | double => Float
  | text => String
  | bytes => List UInt8
  | date => Date
  | timestamp => DateTime
  | timestampTz => Instant
  | uuid => Uuid
  | json => Json
  | nullable h => Option h.Carrier

/-- The usual column type of a host type. -/
def columnType : (h : HostType) → ColumnType h.Carrier
  | bool => .bool
  | smallInt => .smallInt
  | int => .int
  | bigInt => .bigInt
  | real => .real
  | double => .double
  | text => .text
  | bytes => .bytes
  | date => .date
  | timestamp => .timestamp
  | timestampTz => .timestampTz
  | uuid => .uuid
  | json => .json
  | nullable h => h.columnType.nullable

/-- A host type is stored as its column type says. -/
instance (h : HostType) : Storable h.Carrier := ⟨h.columnType⟩

end HostType

end BoundSql
