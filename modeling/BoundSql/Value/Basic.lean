import BoundSql.Calendar.Basic
import BoundSql.Json.Basic
import BoundSql.Uuid

/-!
# Stored values

A `Value` is what a statement binds to a placeholder: NULL or a value of one of thirteen kinds.
Column types turn host values into stored ones before a statement is put together, so nothing
that builds or writes statements ever looks at a host type.

The JSON document `null` is a value like any other and is not NULL.
-/

namespace BoundSql

open Calendar (Date DateTime Instant)

/-- A stored value. -/
inductive Value where
  | null
  | bool (b : Bool)
  | smallInt (n : Int16)
  | int (n : Int32)
  | bigInt (n : Int64)
  | real (x : Float32)
  | double (x : Float)
  | text (s : String)
  | bytes (bs : List UInt8)
  | date (d : Date)
  | timestamp (t : DateTime)
  | timestampTz (t : Instant)
  | uuid (u : Uuid)
  | json (document : Json)

namespace Value

/-- The value is NULL. -/
def isNull : Value → Bool
  | null => true
  | _ => false

/-- The short name of the kind of a value. -/
def typeName : Value → String
  | null => "null"
  | bool _ => "bool"
  | smallInt _ => "smallint"
  | int _ => "int"
  | bigInt _ => "bigint"
  | real _ => "real"
  | double _ => "double"
  | text _ => "text"
  | bytes _ => "bytes"
  | date _ => "date"
  | timestamp _ => "timestamp"
  | timestampTz _ => "timestamptz"
  | uuid _ => "uuid"
  | json _ => "json"

/-- Equality.  Values of two kinds always differ; floating numbers are compared as numbers. -/
def same : Value → Value → Bool
  | null, null => true
  | bool a, bool b => a == b
  | smallInt a, smallInt b => a == b
  | int a, int b => a == b
  | bigInt a, bigInt b => a == b
  | real a, real b => a == b
  | double a, double b => a == b
  | text a, text b => a == b
  | bytes a, bytes b => a == b
  | date a, date b => a == b
  | timestamp a, timestamp b => a == b
  | timestampTz a, timestampTz b => a == b
  | uuid a, uuid b => a == b
  | json a, json b => a == b
  | _, _ => false

instance : BEq Value := ⟨same⟩

end Value

end BoundSql
