/-!
# JSON trees

A tree as a text spells it out: the members of an object stand in the order of the text and may
repeat a key.  A *document* is a tree in canonical form, where the members of every object are
ordered by key and each key occurs once; of a repeated key the last value counts.
`Json.canonical` takes a tree to its document.

Whole numbers and floating ones are told apart, as the text does, so `1` and `1.0` are different
trees.  A text does not tell the two widths of floating numbers apart: the 32-bit ones are there
to be written with their own digits, and what is read back is always a 64-bit one.

Not every part of a well-formed text has a value: a number may be too large, half of a character
may be missing, a part may lie too deep.  Such a part is `unread`.  It does no harm in a member
that nobody asks for, and no document has one.
-/

namespace BoundSql

/-- A number of a JSON text. -/
inductive JsonNumber where
  | int (n : Int)
  | float (x : Float)
  | single (x : Float32)

/-- A JSON tree. -/
inductive Json where
  | null
  | bool (b : Bool)
  | number (n : JsonNumber)
  | string (s : String)
  | array (items : List Json)
  | object (members : List (String × Json))
  /-- A part of a text that has the form of JSON but no value. -/
  | unread

namespace Json

/-! ## Equality

Floating numbers are compared as numbers, so not-a-number differs from itself and the two zeros
agree.  What has no value is equal to nothing. -/

/-- Equality of numbers. -/
def sameNumber : JsonNumber → JsonNumber → Bool
  | .int a, .int b => a == b
  | .float a, .float b => a == b
  | .single a, .single b => a == b
  | _, _ => false

mutual

/-- Equality of trees. -/
def same : Json → Json → Bool
  | .null, .null => true
  | .bool a, .bool b => a == b
  | .number a, .number b => sameNumber a b
  | .string a, .string b => a == b
  | .array a, .array b => sameItems a b
  | .object a, .object b => sameMembers a b
  | _, _ => false

/-- Equality of the items of two arrays. -/
def sameItems : List Json → List Json → Bool
  | [], [] => true
  | a :: as, b :: bs => same a b && sameItems as bs
  | _, _ => false

/-- Equality of the members of two objects. -/
def sameMembers : List (String × Json) → List (String × Json) → Bool
  | [], [] => true
  | (k, a) :: as, (l, b) :: bs => k == l && same a b && sameMembers as bs
  | _, _ => false

end

instance : BEq Json := ⟨same⟩

/-! ## Documents -/

/-- Put a member where its key belongs, over an earlier member with that key. -/
def insertMember (key : String) (value : Json) : List (String × Json) → List (String × Json)
  | [] => [(key, value)]
  | (k, v) :: rest =>
    if key = k then (key, value) :: rest
    else if key < k then (key, value) :: (k, v) :: rest
    else (k, v) :: insertMember key value rest

mutual

/-- The document of a tree. -/
def canonical : Json → Json
  | .array items => .array (canonicalItems items)
  | .object members =>
    .object ((canonicalMembers members).foldl (fun ms (k, v) => insertMember k v ms) [])
  | other => other

/-- The documents of the items of an array. -/
def canonicalItems : List Json → List Json
  | [] => []
  | item :: rest => canonical item :: canonicalItems rest

/-- The documents of the members of an object, keys still as they were. -/
def canonicalMembers : List (String × Json) → List (String × Json)
  | [] => []
  | (k, v) :: rest => (k, canonical v) :: canonicalMembers rest

end

mutual

/-- Every part of the tree has a value. -/
def isRead : Json → Bool
  | .array items => itemsRead items
  | .object members => membersRead members
  | .unread => false
  | _ => true

/-- Every part of the items has a value. -/
def itemsRead : List Json → Bool
  | [] => true
  | item :: rest => isRead item && itemsRead rest

/-- Every part of the members has a value. -/
def membersRead : List (String × Json) → Bool
  | [] => true
  | (_, v) :: rest => isRead v && membersRead rest

end

/-- The document of a tree in which every part has a value. -/
def document? (j : Json) : Option Json := if j.isRead then some j.canonical else none

/-! ## Taking trees apart -/

/-- The members of a record, in the order of `names`, with `none` for one that is absent.  A
record is an object, whose other members are ignored and whose named members occur at most once,
or an array that has exactly one item for each name. -/
def members? (names : List String) : Json → Option (List (Option Json))
  | .object members =>
    names.mapM fun name =>
      match members.filter fun m => m.1 == name with
      | [] => some none
      | [m] => some (some m.2)
      | _ => none
  | .array items => if items.length = names.length then some (items.map some) else none
  | _ => none

/-- The truth value, if it is one. -/
def bool? : Json → Option Bool
  | .bool b => some b
  | _ => none

/-- The text, if it is one. -/
def string? : Json → Option String
  | .string s => some s
  | _ => none

/-- The word that a tree names, by a text or by the only key of an object that has `null` there. -/
def word? : Json → Option String
  | .string word => some word
  | .object [(word, .null)] => some word
  | _ => none

/-- The items, if it is an array. -/
def items? : Json → Option (List Json)
  | .array items => some items
  | _ => none

/-- The whole number, if it is one between `least` and `greatest`. -/
def intBetween? (least greatest : Int) : Json → Option Int
  | .number (.int n) => if least ≤ n ∧ n ≤ greatest then some n else none
  | _ => none

end Json

end BoundSql
