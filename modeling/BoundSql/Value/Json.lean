import BoundSql.Value.Basic
import BoundSql.Calendar.Printer
import BoundSql.Calendar.Reader
import BoundSql.Numeral.Layout
import BoundSql.Schema.Json

/-!
# Stored values as JSON

The tree of a value has two members, `type` with a word for the kind and `value` with the
contents; NULL has no contents.  Reading is the converse, with a few liberties: a whole number may
stand for a floating one, NULL may have the contents `null`, the word may be a key with `null`, and
an array may hold word and contents.

JSON has no number for an infinity or for not-a-number.  Both are written as `null`, which is
not read back as a number.  A 32-bit number is written with its own shortest digits.
-/

namespace BoundSql

open Calendar (Date DateTime Instant)
open Numeral (Number)

/-! ## Numbers -/

namespace Json

/-- The tree of a 64-bit number. -/
def ofFloat (x : Float) : Json :=
  if (Number.ofFloat x).isFinite then .number (.float x) else .null

/-- The tree of a 32-bit number. -/
def ofFloat32 (x : Float32) : Json :=
  if (Number.ofFloat32 x).isFinite then .number (.single x) else .null

/-- The tree of a whole number. -/
def ofInt (n : Int) : Json := .number (.int n)

/-- A number as a 64-bit one. -/
def float? : Json → Option Float
  | .number (.int n) =>
    let size := n.natAbs.toUInt64.toFloat
    some (if n < 0 then -size else size)
  | .number (.float x) => some x
  | .number (.single x) => some x.toFloat
  | _ => none

/-- A number as a 32-bit one. -/
def float32? : Json → Option Float32
  | .number (.int n) =>
    let size := n.natAbs.toUInt64.toFloat32
    some (if n < 0 then -size else size)
  | .number (.float x) => some x.toFloat32
  | .number (.single x) => some x
  | _ => none

/-- A byte. -/
def byte? (j : Json) : Option UInt8 := (j.intBetween? 0 255).map fun n => UInt8.ofNat n.toNat

end Json

namespace Value

/-! ## Writing -/

/-- The word for the kind of a value. -/
def word : Value → String
  | null => "null"
  | bool _ => "bool"
  | smallInt _ => "small_int"
  | int _ => "int"
  | bigInt _ => "big_int"
  | real _ => "real"
  | double _ => "double"
  | text _ => "text"
  | bytes _ => "bytes"
  | date _ => "date"
  | timestamp _ => "timestamp"
  | timestampTz _ => "timestamp_tz"
  | uuid _ => "uuid"
  | json _ => "json"

/-- The contents of a value; NULL has none. -/
def contents? : Value → Option Json
  | null => none
  | bool b => some (.bool b)
  | smallInt n => some (.ofInt n.toInt)
  | int n => some (.ofInt n.toInt)
  | bigInt n => some (.ofInt n.toInt)
  | real x => some (.ofFloat32 x)
  | double x => some (.ofFloat x)
  | text s => some (.string s)
  | bytes bs => some (.array (bs.map fun b => .ofInt b.toNat))
  | date d => some (.string d.toString)
  | timestamp t => some (.string (t.toString "T"))
  | timestampTz t => some (.string (t.utc.toString "T" ++ "Z"))
  | uuid u => some (.string u.toString)
  | json document => some document

/-- The tree of a value. -/
def toJson (v : Value) : Json :=
  .object (("type", .string v.word) :: (v.contents?.map fun c => ("value", c)).toList)

/-! ## Reading -/

/-- The value of the kind `word` with contents `j`. -/
def ofContents? (word : String) (j : Json) : Option Value :=
  match word with
  | "null" => match j with
    | .null => some null
    | _ => none
  | "bool" => j.bool?.map bool
  | "small_int" =>
    (j.intBetween? Int16.minValue.toInt Int16.maxValue.toInt).map fun n => smallInt (Int16.ofInt n)
  | "int" =>
    (j.intBetween? Int32.minValue.toInt Int32.maxValue.toInt).map fun n => int (Int32.ofInt n)
  | "big_int" =>
    (j.intBetween? Int64.minValue.toInt Int64.maxValue.toInt).map fun n => bigInt (Int64.ofInt n)
  | "real" => j.float32?.map real
  | "double" => j.float?.map double
  | "text" => j.string?.map text
  | "bytes" => (j.listOf? Json.byte?).map bytes
  | "date" => (j.string?.bind Date.ofString?).map date
  | "timestamp" => (j.string?.bind DateTime.ofString?).map timestamp
  | "timestamp_tz" => (j.string?.bind Instant.ofString?).map timestampTz
  | "uuid" => (j.string?.bind Uuid.ofString?).map uuid
  | "json" => j.document?.map json
  | _ => none

/-- The value of a tree. -/
def ofJson? : Json → Option Value
  | .array [.string word, c] => ofContents? word c
  | .object members => do
    match ← (Json.object members).members? ["type", "value"] with
    | [some tag, contents] =>
      match ← tag.word?, contents with
      | word, some c => ofContents? word c
      | "null", none => some null
      | _, none => none
    | _ => none
  | _ => none

end Value

end BoundSql
