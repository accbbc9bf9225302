/-!
# Column types

The types a column can have, before a dialect gives each its own name.
-/

namespace BoundSql

/-- The type of a column. -/
inductive SqlType where
  | boolean
  | smallInt
  | integer
  | bigInt
  | real
  | double
  | decimal (precision scale : UInt32)
  | varchar (length : UInt32)
  | text
  | bytes
  | date
  | timestamp
  | timestampTz
  | uuid
  | json
  deriving DecidableEq, Repr

/-- The name of a type as messages and descriptions give it. -/
def SqlType.label : SqlType → String
  | boolean => "Boolean"
  | smallInt => "SmallInt"
  | integer => "Integer"
  | bigInt => "BigInt"
  | real => "Real"
  | double => "Double"
  | decimal precision scale =>
    s!"Decimal \x7b precision: {precision.toNat}, scale: {scale.toNat} \x7d"
  | varchar length => s!"Varchar({length.toNat})"
  | text => "Text"
  | bytes => "Bytes"
  | date => "Date"
  | timestamp => "Timestamp"
  | timestampTz => "TimestampTz"
  | uuid => "Uuid"
  | json => "Json"

end BoundSql
