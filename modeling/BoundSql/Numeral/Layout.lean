import BoundSql.Numeral.Shortest

/-!
# Laying decimal digits out as text

Which digits stand for a number is settled in `Numeral.Shortest`; how they are written is a
matter of the format.  A `Layout` is one value holding a format's decisions, and the formats of
this library are the values at the end: `Layout.plain`, used wherever a number is shown to a
person or enters a cache key, and `Layout.json` and `Layout.jsonSingle`, used inside JSON text for
the two widths.
-/

namespace BoundSql.Numeral

/-- The decisions of a format for numbers. -/
structure Layout where
  /-- Least power of ten of the leading digit that is still written positionally. -/
  leastPositional : Int
  /-- First power of ten of the leading digit that needs an exponent again. -/
  firstScientific : Int
  /-- What stands before an exponent that is not negative. -/
  plusSign : String
  /-- Which of two equally near decimals is taken. -/
  tie : Tie
  /-- What is written for a value that is not a number. -/
  nan : String
  /-- What is written for an infinite value, given its sign. -/
  infinity : Bool → String

/-- Digits and a decimal point.  At least one digit stands on each side of it. -/
def positional (digits : String) (point : Int) : String :=
  let n := digits.length
  if point ≤ 0 then
    "0." ++ String.ofList (List.replicate (-point).toNat '0') ++ digits
  else if n ≤ point.toNat then
    digits ++ String.ofList (List.replicate (point.toNat - n) '0') ++ ".0"
  else
    let cs := digits.toList
    String.ofList (cs.take point.toNat) ++ "." ++ String.ofList (cs.drop point.toNat)

/-- One digit, a point and the rest if there is a rest, and a power of ten. -/
def scientific (plusSign : String) (digits : String) (power : Int) : String :=
  let mantissa := match digits.toList with
    | [] => ""
    | [d] => String.singleton d
    | d :: rest => String.singleton d ++ "." ++ String.ofList rest
  let sign := if power < 0 then "-" else plusSign
  mantissa ++ "e" ++ sign ++ toString power.natAbs

/-- Write a decimal. -/
def Layout.decimal (layout : Layout) (d : Decimal) : String :=
  let digits := toString d.digits
  let point := d.exponent + digits.length
  let power := point - 1
  if layout.leastPositional ≤ power ∧ power < layout.firstScientific then positional digits point
  else scientific layout.plusSign digits power

/-- Write a number with the fewest digits that identify it. -/
def Layout.number (layout : Layout) : Number → String
  | .nan => layout.nan
  | .infinite negative => layout.infinity negative
  | .zero negative => if negative then "-0.0" else "0.0"
  | .finite negative a =>
    (if negative then "-" else "") ++ layout.decimal (a.shortest layout.tie)

/-! ## The formats -/

/-- Positional from `0.0001` up to sixteen digits before the point; a bare exponent otherwise. -/
def Layout.plain : Layout where
  leastPositional := -4
  firstScientific := 16
  plusSign := ""
  tie := .up
  nan := "NaN"
  infinity negative := if negative then "-inf" else "inf"

/-- Positional from `0.00001` up to sixteen digits before the point, a signed exponent
otherwise; JSON has no way to write what is not a finite number. -/
def Layout.json : Layout where
  leastPositional := -5
  firstScientific := 16
  plusSign := "+"
  tie := .toEven
  nan := "null"
  infinity _ := "null"

/-- The same for 32-bit numbers, which are positional from `0.000001` up to thirteen digits before
the point. -/
def Layout.jsonSingle : Layout := { Layout.json with leastPositional := -6, firstScientific := 13 }

end BoundSql.Numeral
