import BoundSql.Numeral.Binary

/-!
# Reading decimal text

A decimal numeral is digits, an optional fraction and an optional power of ten.  `Scientific`
is what such a numeral says, before any rounding: a sign, a whole number of digits and an
exponent.  The two conversions round once, to the nearest number of the width, ties to even.

A power of ten far outside the range of the width decides the answer by itself, so huge
exponents never lead to huge integers.
-/

namespace BoundSql.Numeral

/-- The value of a run of decimal digits that continues the number `n`. -/
def digitsFrom (n : Nat) (cs : List Char) : Nat :=
  cs.foldl (fun n c => 10 * n + (c.toNat - 48)) n

/-- The value of a run of decimal digits. -/
def digitsValue (cs : List Char) : Nat := digitsFrom 0 cs

/-- Split a sign off the front.  The flag tells whether it was a minus. -/
def takeSign : List Char → Bool × List Char
  | '-' :: cs => (true, cs)
  | '+' :: cs => (false, cs)
  | cs => (false, cs)

/-- A whole number with an optional sign. -/
def intOfString? (s : String) : Option Int :=
  let (negative, ds) := takeSign s.toList
  if ds ≠ [] ∧ ds.all Char.isDigit then
    some (if negative then -(digitsValue ds : Int) else digitsValue ds)
  else none

/-- The number `± digits · 10^exponent`. -/
structure Scientific where
  negative : Bool
  digits : Nat
  exponent : Int
  deriving DecidableEq, Repr

/-- The power of ten just above the number; meaningless for zero. -/
def Scientific.magnitude (x : Scientific) : Int := x.exponent + (toString x.digits).length

/-- The nearest 64-bit number. -/
def Scientific.toFloat (x : Scientific) : Float :=
  let size : Float :=
    if x.digits = 0 ∨ x.magnitude < -400 then 0.0
    else if 400 < x.magnitude then 1.0 / 0.0
    else Float.ofScientific x.digits (x.exponent < 0) x.exponent.natAbs
  if x.negative then -size else size

/-- The nearest 32-bit number. -/
def Scientific.toFloat32 (x : Scientific) : Float32 :=
  let size : Float32 :=
    if x.digits = 0 ∨ x.magnitude < -100 then 0.0
    else if 100 < x.magnitude then 1.0 / 0.0
    else Float32.ofScientific x.digits (x.exponent < 0) x.exponent.natAbs
  if x.negative then -size else size

/-! ## Numerals -/

end Numeral

/-- A numeral as it is written by hand: a finite number, an infinity or not a number. -/
inductive Numeral where
  | finite (x : Numeral.Scientific)
  | infinite (negative : Bool)
  | nan (negative : Bool)
  deriving DecidableEq, Repr

namespace Numeral

/-- Read the optional power of ten that ends a numeral. -/
def exponentOfChars? : List Char → Option Int
  | [] => some 0
  | e :: cs =>
    let (negative, ds) := takeSign cs
    if (e = 'e' ∨ e = 'E') ∧ ds ≠ [] ∧ ds.all Char.isDigit then
      some (if negative then -(digitsValue ds : Int) else digitsValue ds)
    else none

/-- Read an unsigned numeral: digits with an optional point among or beside them, and an
optional power of ten.  At least one digit is needed before the power. -/
def scientificOfChars? (negative : Bool) (cs : List Char) : Option Scientific :=
  let (whole, rest) := cs.span Char.isDigit
  let (fraction, rest) := match rest with
    | '.' :: rest => rest.span Char.isDigit
    | rest => ([], rest)
  if whole = [] ∧ fraction = [] then none
  else
    (exponentOfChars? rest).map fun e =>
      ⟨negative, digitsFrom (digitsValue whole) fraction, e - fraction.length⟩

/-- Read a numeral.  The words for infinity and for not-a-number ignore case. -/
def ofString? (s : String) : Option Numeral :=
  let (negative, cs) := takeSign s.toList
  let word := String.ofList (cs.map Char.toLower)
  if word = "inf" ∨ word = "infinity" then some (.infinite negative)
  else if word = "nan" then some (.nan negative)
  else (scientificOfChars? negative cs).map .finite

/-- The nearest 64-bit number. -/
def toFloat : Numeral → Float
  | .finite x => x.toFloat
  | .infinite negative => if negative then -(1.0 / 0.0) else 1.0 / 0.0
  | .nan _ => 0.0 / 0.0

/-- The nearest 32-bit number. -/
def toFloat32 : Numeral → Float32
  | .finite x => x.toFloat32
  | .infinite negative => if negative then -(1.0 / 0.0) else 1.0 / 0.0
  | .nan _ => 0.0 / 0.0

end BoundSql.Numeral
