import BoundSql.Json.Number
import BoundSql.Text.Hex
import BoundSql.Text.Take

/-!
# Reading JSON

The reader accepts exactly one value with white space around it, and refuses a text that does not
have the form of JSON.  A part of that form is left `unread` if it has no value: a numeral that is
too large, a text with half a pair of units, an object with such a key, and an array or object
inside 127 others.

The readers of texts, lists and values take `fuel`, which has to be at least the number of
characters left.
-/

namespace BoundSql.Json

/-! ## Leaves -/

/-- The four blanks of JSON. -/
def isSpace (c : Char) : Bool := c == ' ' || c == '\n' || c == '\t' || c == '\r'

/-- Drop blanks. -/
def skip (cs : List Char) : List Char := cs.dropWhile isSpace

/-- Four digits in base sixteen. -/
def takeUnit? : Take Nat
  | a :: b :: c :: d :: rest => (Text.hexNumber? [a, b, c, d]).map fun n => (n, rest)
  | _ => none

/-- The character behind `\u`.  A unit of a pair stands for no character without its other half:
one of the upper half needs one of the lower half behind it. -/
def takeCodePoint? : Take (Option Char) := fun cs => do
  let (high, cs) ← takeUnit? cs
  if high < 0xD800 ∨ 0xE000 ≤ high then some (some (Char.ofNat high), cs)
  else match cs with
    | '\\' :: 'u' :: rest => do
      let (low, rest) ← takeUnit? rest
      if high < 0xDC00 ∧ 0xDC00 ≤ low ∧ low < 0xE000 then
        some (some (Char.ofNat (0x10000 + (high - 0xD800) * 0x400 + (low - 0xDC00))), rest)
      else some (none, cs)
    | cs => some (none, cs)

/-- The character behind a backslash. -/
def takeEscape? : Take (Option Char)
  | '\x22' :: cs => some ('\x22', cs)
  | '\\' :: cs => some ('\\', cs)
  | '/' :: cs => some ('/', cs)
  | 'b' :: cs => some ('\x08', cs)
  | 'f' :: cs => some ('\x0c', cs)
  | 'n' :: cs => some ('\n', cs)
  | 'r' :: cs => some ('\r', cs)
  | 't' :: cs => some ('\t', cs)
  | 'u' :: cs => takeCodePoint? cs
  | _ => none

/-- The rest of a text behind its opening quote, behind the characters `done`, last first, if all
of them are known. -/
def takeText? : Nat → Option (List Char) → Take (Option String)
  | 0, _, _ => none
  | _ + 1, _, [] => none
  | fuel + 1, done, c :: cs =>
    if c = '\x22' then some (done.map fun done => String.ofList done.reverse, cs)
    else if c = '\\' then do
      let (c, cs) ← takeEscape? cs
      takeText? fuel (done.bind fun done => c.map (· :: done)) cs
    else if c.toNat < 0x20 then none
    else takeText? fuel (done.map (c :: ·)) cs

/-- A text, quotes included, with its value if it has one. -/
def takeString? (fuel : Nat) : Take (Option String)
  | '\x22' :: cs => takeText? fuel (some []) cs
  | _ => none

/-- One of the three words. -/
def takeWord? (word : String) (value : Json) : Take Json := fun cs =>
  if word.toList.isPrefixOf cs then some (value, cs.drop word.length) else none

/-! ## Values -/

/-- One or more of `item` with commas between them, up to and including `close`. -/
def takeItems? {α : Type} (item : Take α) (close : Char) : Nat → Take (List α)
  | 0, _ => none
  | fuel + 1, cs => do
    let (a, cs) ← item (skip cs)
    match skip cs with
    | [] => none
    | c :: cs =>
      if c = close then some ([a], cs)
      else if c = ',' then do
        let (as, cs) ← takeItems? item close fuel cs
        some (a :: as, cs)
      else none

/-- None or more of `item`, up to and including `close`. -/
def takeList? {α : Type} (item : Take α) (close : Char) (fuel : Nat) : Take (List α) := fun cs =>
  match skip cs with
  | [] => none
  | c :: rest => if c = close then some ([], rest) else takeItems? item close fuel (c :: rest)

/-- A key, a colon and a value. -/
def takeMember? (value : Take Json) (fuel : Nat) : Take (Option (String × Json)) := fun cs => do
  let (key, cs) ← takeString? fuel cs
  match skip cs with
  | ':' :: cs => do
    let (v, cs) ← value (skip cs)
    some (key.map fun key => (key, v), cs)
  | _ => none

/-- A value.  An array or object inside `depth` others is left unread. -/
def takeValue? : Nat → Nat → Take Json
  | 0, _, _ => none
  | _ + 1, _, [] => none
  | fuel + 1, depth, c :: cs =>
    let inner := takeValue? fuel (depth - 1)
    let whole (tree : Option Json) : Json := if depth = 0 then .unread else tree.getD .unread
    match c with
    | 'n' => takeWord? "null" .null (c :: cs)
    | 't' => takeWord? "true" (.bool true) (c :: cs)
    | 'f' => takeWord? "false" (.bool false) (c :: cs)
    | '\x22' => (takeString? fuel (c :: cs)).map fun (s, cs) => (s.elim .unread .string, cs)
    | '[' => (takeList? inner ']' fuel cs).map fun (items, cs) => (whole (some (.array items)), cs)
    | '\x7b' =>
      (takeList? (takeMember? inner fuel) '\x7d' fuel cs).map fun (members, cs) =>
        (whole ((members.mapM id).map .object), cs)
    | _ => (takeNumber? (c :: cs)).map fun (n, cs) => (n.elim .unread .number, cs)

/-- The greatest depth of nesting that is read. -/
def depthLimit : Nat := 127

/-- Read a whole text as a tree that nests at most `depth` deep. -/
def ofStringWithin? (depth : Nat) (s : String) : Option Json := do
  let cs := skip s.toList
  let (tree, cs) ← takeValue? cs.length depth cs
  if (skip cs).isEmpty then some tree else none

/-- Read a whole text as a tree. -/
def ofString? (s : String) : Option Json := ofStringWithin? depthLimit s

end BoundSql.Json
