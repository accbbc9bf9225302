import BoundSql.Digest.Sha256
import BoundSql.Fragment
import BoundSql.Value.Display

/-!
# Prepared statements

The finished product: SQL text with placeholders, and the values for them in order.  It stands by
itself, so it can be read back from elsewhere, counted over and used as a key.
-/

namespace BoundSql

/-- SQL text and the values for its placeholders. -/
structure Prepared where
  sql : String
  params : List Value := []

/-- Write a fragment as a statement of its own. -/
def Fragment.prepare (d : Dialect) (f : Fragment) : Prepared :=
  let draft := f.write d #[]
  ⟨draft.sql, draft.params.toList⟩

namespace Prepared

/-! ## Placeholders -/

/-- What a reader of finished SQL knows after each character: whether it is inside a quoted run,
and whether it is inside the number of a placeholder or just behind a dollar sign. -/
inductive Scan where
  | plain
  | quoted (mark : Char)
  | dollar
  | number
  deriving DecidableEq, Repr

/-- One more character.  The flag tells whether a placeholder begins, or, behind a dollar sign,
has begun. -/
def Scan.step (s : Scan) (c : Char) : Scan × Bool :=
  let outside : Scan × Bool :=
    if Quoting.isMark c then (.quoted c, false)
    else if c = '$' then (.dollar, false)
    else (.plain, c == '?')
  match s with
  | .quoted mark => (if c = mark then .plain else s, false)
  | .plain => outside
  | .dollar => if c.isDigit then (.number, true) else outside
  | .number => if c.isDigit then (.number, false) else outside

/-- The placeholders that a text has outside quoted runs, from where the reader stands: question
marks, and dollar signs with a number. -/
def countFrom : Scan → List Char → Nat
  | _, [] => 0
  | s, c :: cs => (if (s.step c).2 then 1 else 0) + countFrom (s.step c).1 cs

/-- The number of placeholders outside quoted runs. -/
def placeholderCount (p : Prepared) : Nat := countFrom .plain p.sql.toList

/-! ## Keys -/

/-- The bytes of a text. -/
def bytesOf (s : String) : List UInt8 := s.toUTF8.data.toList

/-- What identifies a statement and its values: the text, and the display form of each value
behind a zero byte. -/
def keyBytes (p : Prepared) : List UInt8 :=
  bytesOf p.sql ++ p.params.flatMap fun v => 0 :: bytesOf v.display

/-- A key for caches. -/
def cacheKey (p : Prepared) : String := Sha256.hexDigest p.keyBytes

end Prepared

end BoundSql
