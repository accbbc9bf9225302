import BoundSql.Numeral.Binary

/-!
# Wider numbers

Every 32-bit number is a 64-bit number too.  The wider format has room for all its digits and for
its power of two, so nothing is rounded: the amount is written with the leading bit where the wider
format has it, and numbers that lack a leading bit in the narrow format get one in the wide format.
-/

namespace BoundSql.Numeral

/-- The bit pattern with these fields. -/
def Width.pattern (w : Width) (negative : Bool) (field fraction : Nat) : Nat :=
  negative.toNat * Nat.pow 2 (w.fractionBits + w.exponentBits) + field * Nat.pow 2 w.fractionBits +
    fraction

/-- The bits of a number in the 64-bit format, which has to have room for it. -/
def Number.doubleBits : Number → Nat
  | .nan => Width.double.pattern false 2047 (Nat.pow 2 51)
  | .infinite negative => Width.double.pattern negative 2047 0
  | .zero negative => Width.double.pattern negative 0 0
  | .finite negative a =>
    let shift := 52 - a.mantissa.log2
    Width.double.pattern negative (a.exponent - shift + 1075).toNat
      (a.mantissa * Nat.pow 2 shift - Nat.pow 2 52)

/-- The 64-bit number that a 32-bit number is. -/
def widen (x : Float32) : Float := .ofBits (.ofNat (Number.ofFloat32 x).doubleBits)

end BoundSql.Numeral
