import BoundSql.Text.Take
import BoundSql.Toml.Scalar

/-!
# Reading TOML

A document is lines: a header in one or two pairs of brackets, a key with its value, or nothing;
each may end in a comment.  Arrays and tables written as values may go over several lines.
-/

namespace BoundSql.Toml

/-! ## Blanks, comments and line ends -/

/-- A blank within a line. -/
def isSpace (c : Char) : Bool := c == ' ' || c == '\t'

/-- Drop blanks within the line. -/
def skip (cs : List Char) : List Char := cs.dropWhile isSpace

/-- A character that may stand in a comment or a quoted text. -/
def isPlain (c : Char) : Bool := (0x20 ≤ c.toNat && c.toNat != 0x7F) || c == '\t'

/-- Drop a comment, if one begins here. -/
def skipComment : List Char → List Char
  | '#' :: cs => cs.dropWhile isPlain
  | cs => cs

/-- Take the end of a line; the end of the text is one. -/
def takeLineEnd? : List Char → Option (List Char)
  | [] => some []
  | '\n' :: cs => some cs
  | '\r' :: '\n' :: cs => some cs
  | _ => none

/-- Drop blanks, comments and line ends, at most `fuel` lines. -/
def skipLines : Nat → List Char → List Char
  | 0, cs => cs
  | fuel + 1, cs =>
    match skipComment (skip cs) with
    | '\n' :: rest => skipLines fuel rest
    | '\r' :: '\n' :: rest => skipLines fuel rest
    | rest => rest

/-- Drop blanks, comments and line ends. -/
def skipAll (cs : List Char) : List Char := skipLines (cs.length + 1) cs

/-! ## Quoted texts -/

/-- The character with the number that the first `width` digits give. -/
def takeCodePoint? (width : Nat) : Take Char := fun cs => do
  let digits := cs.take width
  if digits.length ≠ width then none
  else
    let n ← Text.hexNumber? digits
    if n < 0xD800 ∨ (0xE000 ≤ n ∧ n < 0x110000) then some (Char.ofNat n, cs.drop width) else none

/-- The character behind a backslash. -/
def takeEscape? : Take Char
  | 'b' :: cs => some ('\x08', cs)
  | 't' :: cs => some ('\t', cs)
  | 'n' :: cs => some ('\n', cs)
  | 'f' :: cs => some ('\x0c', cs)
  | 'r' :: cs => some ('\r', cs)
  | 'e' :: cs => some ('\x1b', cs)
  | '\x22' :: cs => some ('\x22', cs)
  | '\\' :: cs => some ('\\', cs)
  | 'x' :: cs => takeCodePoint? 2 cs
  | 'u' :: cs => takeCodePoint? 4 cs
  | 'U' :: cs => takeCodePoint? 8 cs
  | _ => none

/-- The rest of a text of one line, behind its opening quote.  Only double quotes know escapes. -/
def takeLineText? (quote : Char) : Nat → List Char → Take String
  | 0, _, _ => none
  | _ + 1, _, [] => none
  | fuel + 1, done, c :: cs =>
    if c = quote then some (String.ofList done.reverse, cs)
    else if c = '\\' ∧ quote = '\x22' then do
      let (c, cs) ← takeEscape? cs
      takeLineText? quote fuel (c :: done) cs
    else if isPlain c then takeLineText? quote fuel (c :: done) cs
    else none

/-- Drop blanks and line ends. -/
def skipBreaks : List Char → List Char
  | '\r' :: '\n' :: cs => skipBreaks cs
  | c :: cs => if isSpace c || c == '\n' then skipBreaks cs else c :: cs
  | [] => []

/-- The rest of a text of several lines, behind its three opening quotes and the line end after
them.  One or two quotes may stand just before the closing ones.  A backslash at the end of a
line drops the line end and the blanks and line ends after it. -/
def takeBlockText? (quote : Char) : Nat → List Char → Take String
  | 0, _, _ => none
  | _ + 1, _, [] => none
  | fuel + 1, done, c :: cs =>
    let quotes := ((c :: cs).take 5).takeWhile (· == quote)
    if 3 ≤ quotes.length then
      some (String.ofList (quotes.drop 3 ++ done).reverse, (c :: cs).drop quotes.length)
    else if c = '\\' ∧ quote = '\x22' then
      let rest := skip cs
      if rest.head?.any (fun c => c == '\n' || c == '\r') then do
        let rest ← takeLineEnd? rest
        takeBlockText? quote fuel done (skipBreaks rest)
      else do
        let (c, cs) ← takeEscape? cs
        takeBlockText? quote fuel (c :: done) cs
    else if isPlain c ∨ c = '\n' then takeBlockText? quote fuel (c :: done) cs
    else if c = '\r' ∧ cs.head? = some '\n' then takeBlockText? quote fuel (c :: done) cs
    else none

/-- A text of one line, quotes included. -/
def takeLineString? : Take String
  | c :: cs =>
    if c = '\x22' ∨ c = '\x27' then takeLineText? c (cs.length + 1) [] cs else none
  | [] => none

/-- A text in any quotes. -/
def takeString? (cs : List Char) : Option (String × List Char) :=
  match cs with
  | a :: b :: c :: rest =>
    if a = b ∧ b = c ∧ (a = '\x22' ∨ a = '\x27') then
      let rest := match rest with
        | '\n' :: rest => rest
        | '\r' :: '\n' :: rest => rest
        | rest => rest
      takeBlockText? a (rest.length + 1) [] rest
    else takeLineString? cs
  | _ => takeLineString? cs

/-! ## Keys -/

/-- A character of a key without quotes. -/
def isKeyChar (c : Char) : Bool := c.isAlphanum || c == '_' || c == '-'

/-- One part of a key. -/
def takeKeyPart? : Take String := fun cs =>
  match cs.takeWhile isKeyChar with
  | [] => takeLineString? cs
  | key => some (String.ofList key, cs.drop key.length)

/-- The parts of a key, at most `most` of them, all but the last and the last, with the blanks
after it. -/
def takeKey? : Nat → List String → Take (List String × String)
  | 0, _, _ => none
  | most + 1, done, cs => do
    let (part, cs) ← takeKeyPart? cs
    match skip cs with
    | '.' :: cs => takeKey? most (part :: done) (skip cs)
    | cs => some ((done.reverse, part), cs)

/-- The greatest number of parts of a key, and the greatest depth of nesting of a value. -/
def depthLimit : Nat := 80

/-- A key. -/
def takeDottedKey? : Take (List String × String) := takeKey? depthLimit []

/-! ## Values -/

/-- None or more of `item` with commas between them, up to and including `close`.  A comma may
stand behind the last one. -/
def takeSeries? {α : Type} (item : Take α) (close : Char) : Nat → Take (List α)
  | 0, _ => none
  | fuel + 1, cs => do
    let cs := skipAll cs
    if cs.head? = some close then some ([], cs.drop 1)
    else
      let (a, cs) ← item cs
      match skipAll cs with
      | ',' :: cs => do
        let (as, cs) ← takeSeries? item close fuel cs
        some (a :: as, cs)
      | c :: cs => if c = close then some ([a], cs) else none
      | [] => none

/-- A key, an equals sign and a value, where `skip` drops what may stand around the sign. -/
def takeAssignment? (skip : List Char → List Char) (value : Take Node) :
    Take ((List String × String) × Node) := fun cs => do
  let (key, cs) ← takeDottedKey? cs
  match skip cs with
  | '=' :: cs => do
    let (node, cs) ← value (skip cs)
    some ((key, node), cs)
  | _ => none

/-- Set keys one after another. -/
def setAll : List ((List String × String) × Node) → Entries → Option Entries
  | [], entries => some entries
  | ((path, key), node) :: rest, entries => do setAll rest (← Entries.setKey key node path entries)

/-- A character that ends a word. -/
def endsWord (c : Char) : Bool :=
  isSpace c || c == '\n' || c == '\r' || c == '#' || c == ',' || c == ']' || c == '\x7d'

/-- A word.  A day may be followed by one blank and a time. -/
def takeScalar? : Take Node := fun cs => do
  let word := cs.takeWhile fun c => !endsWord c
  let rest := cs.drop word.length
  let both := match rest with
    | ' ' :: c :: _ => isDate word && c.isDigit
    | _ => false
  let word := if both then word ++ ' ' :: (rest.drop 1).takeWhile (fun c => !endsWord c) else word
  let node ← scalar? word
  return (node, cs.drop word.length)

/-- A value that nests at most `depth` deep. -/
def takeValue? : Nat → Take Node
  | _, [] => none
  | depth, c :: cs =>
    match c, depth with
    | '\x22', _ | '\x27', _ => (takeString? (c :: cs)).map fun (s, cs) => (.string s, cs)
    | '[', depth + 1 =>
      (takeSeries? (takeValue? depth) ']' (cs.length + 1) cs).map fun (items, cs) =>
        (.array items, cs)
    | '\x7b', depth + 1 => do
      let (assignments, cs) ←
        takeSeries? (takeAssignment? skipAll (takeValue? depth)) '\x7d' (cs.length + 1) cs
      return (.inlineTable (← setAll assignments []), cs)
    | '[', 0 | '\x7b', 0 => none
    | _, _ => takeScalar? (c :: cs)

/-! ## Documents -/

/-- The table that lines are added to, and the path of the last header. -/
structure State where
  root : Entries := []
  header : List String := []

/-- Set a key below the last header. -/
def State.set (s : State) (path : List String) (key : String) (node : Node) : Option State :=
  (Entries.descend (Entries.setKey key node path) s.header s.root).map fun root => { s with root }

/-- A header: brackets, a key and brackets. -/
def takeHeader? (s : State) : Take State := fun cs => do
  match cs with
  | '[' :: '[' :: cs => do
    let ((path, key), cs) ← takeDottedKey? (skip cs)
    match cs with
    | ']' :: ']' :: cs =>
      return (⟨← Entries.openTables path key s.root, path ++ [key]⟩, cs)
    | _ => none
  | '[' :: cs => do
    let ((path, key), cs) ← takeDottedKey? (skip cs)
    match cs with
    | ']' :: cs => return (⟨← Entries.openTable path key s.root, path ++ [key]⟩, cs)
    | _ => none
  | _ => none

/-- A header or a key with its value. -/
def takeStatement? (s : State) : Take State := fun cs => do
  if cs.head? = some '[' then takeHeader? s cs
  else
    let (((path, key), node), cs) ← takeAssignment? skip (takeValue? depthLimit) cs
    return (← s.set path key node, cs)

/-- Lines, at most `fuel` of them. -/
def readLines : Nat → State → List Char → Option Entries
  | 0, _, _ => none
  | fuel + 1, s, cs => do
    let cs := skipAll cs
    if cs.isEmpty then some s.root
    else
      let (s, cs) ← takeStatement? s cs
      let cs ← takeLineEnd? (skipComment (skip cs))
      readLines fuel s cs

/-- Read a document.  A byte order mark at its beginning is dropped. -/
def ofString? (text : String) : Option Entries :=
  let cs := match text.toList with
    | '\ufeff' :: cs => cs
    | cs => cs
  readLines (cs.length + 1) {} cs

end BoundSql.Toml
