import BoundSql.Text.Hex

/-!
# Universally unique identifiers

A 128-bit number.  It is written in five hyphenated groups of lower-case digits, and read from
that form, bare or in braces or behind `urn:uuid:`, or from 32 digits in a row, all in either
case.
-/

namespace BoundSql

/-- A 128-bit identifier. -/
structure Uuid where
  bits : BitVec 128
  deriving DecidableEq

namespace Uuid

/-- The 32 digits. -/
def digits (u : Uuid) : List Char := Text.hexDigits 32 u.bits.toNat

/-- The hyphenated form: groups of 8, 4, 4, 4 and 12 digits. -/
def toString (u : Uuid) : String :=
  let group (start length : Nat) := String.ofList ((u.digits.drop start).take length)
  String.intercalate "-" [group 0 8, group 8 4, group 12 4, group 16 4, group 20 12]

/-- The identifier with these 32 digits. -/
def ofDigits? (cs : List Char) : Option Uuid :=
  if cs.length = 32 then (Text.hexNumber? cs).map fun n => ⟨BitVec.ofNat 128 n⟩ else none

/-- Read the hyphenated form, the hyphens at their places. -/
def ofHyphenated? (cs : List Char) : Option Uuid :=
  let hyphen (i : Nat) := cs[i]? == some '-'
  if cs.length = 36 ∧ hyphen 8 ∧ hyphen 13 ∧ hyphen 18 ∧ hyphen 23 then
    ofDigits? (cs.take 8 ++ (cs.drop 9).take 4 ++ (cs.drop 14).take 4 ++ (cs.drop 19).take 4 ++
      cs.drop 24)
  else none

/-- Read any of the accepted forms. -/
def ofString? (s : String) : Option Uuid :=
  let cs := s.toList
  match cs.length with
  | 32 => ofDigits? cs
  | 36 => ofHyphenated? cs
  | 38 => if cs.head? = some '\x7b' ∧ cs.getLast? = some '\x7d' then
      ofHyphenated? (cs.drop 1).dropLast else none
  | 45 => if (cs.take 9).map Char.toLower = "urn:uuid:".toList then ofHyphenated? (cs.drop 9)
    else none
  | _ => none

end Uuid

end BoundSql
