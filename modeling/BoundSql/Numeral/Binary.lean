/-!
# Binary numbers

A stored number of 32 or 64 bits is a sign, an exponent field and a fraction field.  This file
takes the bits apart into what the number *is*: not a number, an infinity, a zero, or a positive
amount `m · 2^q` with a sign.  The amount carries one more fact, `narrow`: just below a power of
two the next smaller number is half as far away as the next larger one, and whoever asks which
decimals stand for the number needs to know it.

Nothing here rounds, so the two widths share one definition and differ in a `Width` only.
-/

namespace BoundSql.Numeral

/-! ## The two widths -/

/-- How the bits below the sign are divided. -/
structure Width where
  /-- Bits of the exponent field. -/
  exponentBits : Nat
  /-- Bits of the fraction field. -/
  fractionBits : Nat
  deriving DecidableEq, Repr

/-- The 32-bit format. -/
def Width.single : Width := ⟨8, 23⟩

/-- The 64-bit format. -/
def Width.double : Width := ⟨11, 52⟩

/-- The exponent of the last place of the smallest numbers of this width. -/
def Width.leastExponent (w : Width) : Int :=
  2 - (Nat.pow 2 (w.exponentBits - 1) : Nat) - w.fractionBits

/-! ## What the bits say -/

/-- A positive amount `mantissa · 2^exponent`. -/
structure Amount where
  mantissa : Nat
  exponent : Int
  /-- The neighbour below is half as far away as the neighbour above. -/
  narrow : Bool
  deriving DecidableEq, Repr

/-- The number that a bit pattern stands for. -/
inductive Number where
  | nan
  | infinite (negative : Bool)
  | zero (negative : Bool)
  | finite (negative : Bool) (amount : Amount)
  deriving DecidableEq, Repr

/-- Take the bits of a number of width `w` apart.  The all-ones exponent field is kept for
infinities and for what is not a number; the all-zeros field drops the hidden leading bit. -/
def Number.ofBits (w : Width) (bits : Nat) : Number :=
  let fraction := bits % Nat.pow 2 w.fractionBits
  let field := bits / Nat.pow 2 w.fractionBits % Nat.pow 2 w.exponentBits
  let negative := bits / Nat.pow 2 (w.fractionBits + w.exponentBits) % 2 == 1
  if field + 1 = Nat.pow 2 w.exponentBits then
    if fraction = 0 then .infinite negative else .nan
  else if field = 0 then
    if fraction = 0 then .zero negative
    else .finite negative ⟨fraction, w.leastExponent, false⟩
  else
    .finite negative
      ⟨Nat.pow 2 w.fractionBits + fraction, w.leastExponent + field - 1,
        fraction == 0 && 1 < field⟩

/-- The number in a 64-bit float. -/
def Number.ofFloat (x : Float) : Number := .ofBits .double x.toBits.toNat

/-- The number in a 32-bit float. -/
def Number.ofFloat32 (x : Float32) : Number := .ofBits .single x.toBits.toNat

/-- Neither infinite nor outside the numbers. -/
def Number.isFinite : Number → Bool
  | .nan | .infinite _ => false
  | .zero _ | .finite .. => true

end BoundSql.Numeral
