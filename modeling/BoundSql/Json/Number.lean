import BoundSql.Json.Basic
import BoundSql.Numeral.Reading

/-!
# Reading a JSON number

Digits are gathered into a 64-bit word.  The first digit that does not fit, and every digit
after it, is dropped: before the point a dropped digit still counts as a power of ten, behind
the point it counts for nothing.  A numeral without point, power and dropped digits is whole, if
it has a place among the signed or the unsigned 64-bit numbers and is not `-0`.  Any other
numeral is the word, as a floating number, times or divided by one power of ten; the result is
therefore not always the nearest one.  A numeral that is too large for a floating number has no
value.
-/

namespace BoundSql.Json

/-! ## Digits -/

/-- Gather digits behind the word `m` as long as they fit into 64 bits: the new word, how many
digits were taken, and the rest. -/
def gather (m : Nat) : List Char → Nat × Nat × List Char
  | [] => (m, 0, [])
  | c :: cs =>
    let next := 10 * m + (c.toNat - 48)
    if c.isDigit ∧ next < UInt64.size then
      let (word, taken, rest) := gather next cs
      (word, taken + 1, rest)
    else (m, 0, c :: cs)

/-- Gather the digits behind the point.  At least one must be there. -/
def gatherFraction? (m : Nat) (e : Int) (cs : List Char) : Option (Nat × Int × List Char) :=
  let (word, taken, rest) := gather m cs
  let rest' := rest.dropWhile Char.isDigit
  if taken = 0 ∧ rest'.length = rest.length then none else some (word, e - taken, rest')

/-- Take the digits of a power of ten, behind its letter. -/
def takeExponent? (cs : List Char) : Option (Int × List Char) :=
  let (negative, cs) := Numeral.takeSign cs
  let digits := cs.takeWhile Char.isDigit
  if digits = [] then none
  else
    let size := Numeral.digitsValue digits
    some (if negative then -(size : Int) else size, cs.dropWhile Char.isDigit)

/-! ## Scaling -/

/-- The floating number nearest to a power of ten. -/
def powerOfTen (k : Nat) : Float := Float.ofScientific 1 false k

/-- Divide by `10^k`, in steps that each have a power of ten. -/
def scaleDown (x : Float) (k : Nat) : Float :=
  if k ≤ 308 then x / powerOfTen k
  else if x == 0.0 then x
  else scaleDown (x / powerOfTen 308) (k - 308)
termination_by k

/-- The word `m` times `10^e`, unless that is too large. -/
def scaled? (m : Nat) (e : Int) : Option Float :=
  let x := m.toUInt64.toFloat
  if e < 0 then some (scaleDown x e.natAbs)
  else if 308 < e then if m = 0 then some x else none
  else
    let y := x * powerOfTen e.toNat
    if y.isInf then none else some y

/-! ## Numerals -/

/-- A numeral without point, power and dropped digits. -/
def wholeNumber (negative : Bool) (m : Nat) : JsonNumber :=
  if !negative then .int m
  else if m = 0 ∨ -(m : Int) < Int64.minValue.toInt then .float (-m.toUInt64.toFloat)
  else .int (-m)

/-- The value of a numeral that is not whole. -/
def floating? (negative : Bool) (m : Nat) (e : Int) : Option JsonNumber :=
  (scaled? m e).map fun x => .float (if negative then -x else x)

/-- Read what may follow the digits before the point. -/
def takeTail? (negative : Bool) (m : Nat) (dropped : Nat) (cs : List Char) :
    Option (Option JsonNumber × List Char) := do
  let power (m : Nat) (e : Int) (rest : List Char) : Option (Option JsonNumber × List Char) :=
    match rest with
    | 'e' :: rest | 'E' :: rest => do
      let (k, rest) ← takeExponent? rest
      some (floating? negative m (e + k), rest)
    | rest => some (floating? negative m e, rest)
  match cs with
  | '.' :: rest =>
    let (word, e, rest) ← gatherFraction? m dropped rest
    power word e rest
  | 'e' :: _ | 'E' :: _ => power m dropped cs
  | rest =>
    some (if dropped = 0 then some (wholeNumber negative m) else floating? negative m dropped, rest)

/-- Take an unsigned numeral.  A leading zero stands alone before the point. -/
def takeUnsigned? (negative : Bool) : List Char → Option (Option JsonNumber × List Char)
  | '0' :: cs =>
    if cs.head?.any Char.isDigit then none else takeTail? negative 0 0 cs
  | c :: cs =>
    if c.isDigit then
      let (word, _, rest) := gather 0 (c :: cs)
      let dropped := rest.takeWhile Char.isDigit
      takeTail? negative word dropped.length (rest.drop dropped.length)
    else none
  | [] => none

/-- Take a numeral, with its value if it has one. -/
def takeNumber? : List Char → Option (Option JsonNumber × List Char)
  | '-' :: cs => takeUnsigned? true cs
  | cs => takeUnsigned? false cs

end BoundSql.Json
