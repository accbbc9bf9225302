import BoundSql.Json.Basic
import BoundSql.Numeral.Layout
import BoundSql.Text.Hex

/-!
# Writing JSON

The compact form: no white space, members in the order of the tree.  In a text only the quote,
the backslash and the characters below the blank are escaped, five of them by a letter.  What has
no value is written as `null`.
-/

namespace BoundSql.Json

/-- One character of a text. -/
def escaped (c : Char) : List Char :=
  if c = '\x22' then ['\\', '\x22']
  else if c = '\\' then ['\\', '\\']
  else if c = '\x08' then ['\\', 'b']
  else if c = '\x0c' then ['\\', 'f']
  else if c = '\n' then ['\\', 'n']
  else if c = '\r' then ['\\', 'r']
  else if c = '\t' then ['\\', 't']
  else if c.toNat < 0x20 then '\\' :: 'u' :: Text.hexDigits 4 c.toNat
  else [c]

/-- A text between quotes. -/
def quoted (s : String) : String :=
  String.ofList ('\x22' :: (s.toList.flatMap escaped ++ ['\x22']))

/-- A number. -/
def numberText : JsonNumber → String
  | .int n => ToString.toString n
  | .float x => Numeral.Layout.json.number (.ofFloat x)
  | .single x => Numeral.Layout.jsonSingle.number (.ofFloat32 x)

mutual

/-- The compact text of a tree. -/
def text : Json → String
  | .null => "null"
  | .bool b => if b then "true" else "false"
  | .number n => numberText n
  | .string s => quoted s
  | .array items => "[" ++ String.intercalate "," (itemTexts items) ++ "]"
  | .object members => "\x7b" ++ String.intercalate "," (memberTexts members) ++ "\x7d"
  | .unread => "null"

/-- The texts of the items of an array. -/
def itemTexts : List Json → List String
  | [] => []
  | item :: rest => text item :: itemTexts rest

/-- The texts of the members of an object. -/
def memberTexts : List (String × Json) → List String
  | [] => []
  | (k, v) :: rest => (quoted k ++ ":" ++ text v) :: memberTexts rest

end

end BoundSql.Json
