import BoundSql.Numeral.Widening
import Mathlib

/-!
# A wider number is the same number

A 32-bit number that is written in the 64-bit format stands for what it stood for before: no number,
an infinity or a zero of the same sign, or the same amount.

Two things are to be shown.  The bits that are written for an amount fit their fields, because the
wide format has room for all digits of a narrow number and for its power of two
(`Number.doubleBits_finite`).  And a float that is made from bits has these bits
(`toBits_ofBits_pattern`), which goes through the parts that the language has of a float.

Main statement: `widen_same`.
-/

namespace BoundSql.Numeral

open Float.Model (Format)
open Float.Model.UnpackedFloat

/-! ## What a number stands for -/

/-- The amount as a fraction. -/
def Amount.value (a : Amount) : ℚ := a.mantissa * 2 ^ a.exponent

/-- Digits that are shifted stand for the same amount if the power of two pays for it. -/
theorem Amount.value_shift {a b : Amount} {shift : Nat}
    (hmantissa : b.mantissa = a.mantissa * 2 ^ shift)
    (hexponent : b.exponent = a.exponent - shift) :
    b.value = a.value := by
  have htwo : (2 : ℚ) ≠ 0 := by decide
  rw [value, value, hmantissa, hexponent, Nat.cast_mul, Nat.cast_pow, Nat.cast_ofNat,
    zpow_sub₀ htwo, zpow_natCast, mul_assoc, mul_div_assoc',
    mul_div_cancel_left₀ _ (pow_ne_zero shift htwo)]

/-- Two numbers stand for the same. -/
inductive Number.Same : Number → Number → Prop where
  | nan : Same .nan .nan
  | infinite (negative : Bool) : Same (.infinite negative) (.infinite negative)
  | zero (negative : Bool) : Same (.zero negative) (.zero negative)
  | finite (negative : Bool) {a b : Amount} (h : a.value = b.value) :
    Same (.finite negative a) (.finite negative b)

/-! ## Patterns of 64 bits -/

/-- The sign of a float. -/
def signOf (negative : Bool) : Sign := if negative then .negative else .positive

/-- A pattern has the fields that it is made of. -/
theorem toNat_packComponents (negative : Bool) (e : BitVec 11) (m : BitVec 52) :
    (packComponents .binary64 (signOf negative) e m).toNat =
      Width.double.pattern negative e.toNat m.toNat := by
  have hinner : ((signOf negative).toBitVec ++ e).toNat = negative.toNat * 2 ^ 11 + e.toNat := by
    rw [BitVec.toNat_append, ← Nat.shiftLeft_add_eq_or_of_lt e.isLt, Nat.shiftLeft_eq]
    cases negative <;> rfl
  have houter : (packComponents .binary64 (signOf negative) e m).toNat =
      ((signOf negative).toBitVec ++ e).toNat * 2 ^ 52 + m.toNat := by
    rw [packComponents, BitVec.toNat_append, ← Nat.shiftLeft_add_eq_or_of_lt m.isLt,
      Nat.shiftLeft_eq]
  rw [houter, hinner, Width.pattern]
  show _ = negative.toNat * 2 ^ 63 + e.toNat * 2 ^ 52 + m.toNat
  omega

/-- Of the patterns for no number, which have all bits of the exponent, only one is in use. -/
theorem valid_packComponents (negative : Bool) {e : BitVec 11} (m : BitVec 52)
    (hones : e ≠ -1#_) :
    Format.Valid .binary64 (packComponents .binary64 (signOf negative) e m) := by
  constructor
  intro he
  rw [unpackExponent_packComponents] at he
  exact absurd he hones

/-- **A float that is made from bits has these bits**, if it is a number. -/
theorem toBits_ofBits_pattern (negative : Bool) {field fraction : Nat} (hfield : field < 2047)
    (hfraction : fraction < 2 ^ 52) :
    (Float.ofBits (.ofNat (Width.double.pattern negative field fraction))).toBits.toNat =
      Width.double.pattern negative field fraction := by
  have he : (BitVec.ofNat 11 field).toNat = field := by
    rw [BitVec.toNat_ofNat, Nat.mod_eq_of_lt (by omega)]
  have hm : (BitVec.ofNat 52 fraction).toNat = fraction := by
    rw [BitVec.toNat_ofNat, Nat.mod_eq_of_lt hfraction]
  have hones : BitVec.ofNat 11 field ≠ -1#_ := by
    intro heq
    have hnat : (BitVec.ofNat 11 field).toNat = 2047 := congrArg BitVec.toNat heq
    omega
  have hpattern := toNat_packComponents negative (.ofNat 11 field) (.ofNat 52 fraction)
  rw [he, hm] at hpattern
  have hbits : (UInt64.ofNat (Width.double.pattern negative field fraction)).toBitVec =
      packComponents .binary64 (signOf negative) (.ofNat 11 field) (.ofNat 52 fraction) := by
    rw [← hpattern]
    exact (BitVec.ofNat_toNat 64 _).trans (BitVec.setWidth_eq _)
  have hback : pack .binary64 (unpack .binary64 (UInt64.ofNat
      (Width.double.pattern negative field fraction)).toBitVec) = packComponents .binary64
        (signOf negative) (.ofNat 11 field) (.ofNat 52 fraction) := by
    rw [hbits]
    exact pack_unpack_of_valid (valid_packComponents negative _ hones)
  exact (congrArg BitVec.toNat hback).trans hpattern

/-- What a pattern with a leading bit stands for. -/
theorem Number.ofBits_pattern (negative : Bool) {field fraction : Nat} (hzero : field ≠ 0)
    (hfield : field < 2047) (hfraction : fraction < 2 ^ 52) :
    Number.ofBits .double (Width.double.pattern negative field fraction) =
      .finite negative ⟨2 ^ 52 + fraction, field - 1075, fraction == 0 && 1 < field⟩ := by
  have hsign : negative.toNat < 2 := negative.toNat_lt
  have hbits : Width.double.pattern negative field fraction =
      negative.toNat * 2 ^ 63 + field * 2 ^ 52 + fraction := rfl
  generalize Width.double.pattern negative field fraction = bits at hbits
  have hlow : bits % Nat.pow 2 Width.double.fractionBits = fraction := by
    show bits % 2 ^ 52 = _
    omega
  have hmiddle : bits / Nat.pow 2 Width.double.fractionBits %
      Nat.pow 2 Width.double.exponentBits = field := by
    show bits / 2 ^ 52 % 2 ^ 11 = _
    omega
  have hhigh : (bits / Nat.pow 2 (Width.double.fractionBits + Width.double.exponentBits) % 2 ==
      1) = negative := by
    have hquotient : bits / 2 ^ 63 % 2 = negative.toNat := by omega
    show (bits / 2 ^ 63 % 2 == 1) = negative
    rw [hquotient]
    cases negative <;> rfl
  have hones : field + 1 ≠ Nat.pow 2 Width.double.exponentBits := by
    show field + 1 ≠ 2048
    omega
  have hexponent : Width.double.leastExponent + (field : Int) - 1 = field - 1075 := by
    have hleast : Width.double.leastExponent = -1074 := rfl
    omega
  unfold Number.ofBits
  simp only [hlow, hmiddle, hhigh, hones, hzero, hexponent, if_false]
  rfl

/-! ## Amounts -/

/-- The digits and the powers of two that a 32-bit number has room for. -/
structure Amount.FitsSingle (a : Amount) : Prop where
  pos : 0 < a.mantissa
  digits : a.mantissa < 2 ^ 24
  least : -149 ≤ a.exponent
  greatest : a.exponent ≤ 104

/-- A finite 32-bit number fits into the room that there is for one. -/
theorem Amount.fitsSingle_of_ofFloat32 {x : Float32} {negative : Bool} {a : Amount}
    (h : Number.ofFloat32 x = .finite negative a) : a.FitsSingle := by
  have hleast : Width.single.leastExponent = -149 := rfl
  have hhidden : Nat.pow 2 Width.single.fractionBits = 2 ^ 23 := rfl
  have hfields : Nat.pow 2 Width.single.exponentBits = 256 := rfl
  have hfraction := Nat.mod_lt x.toBits.toNat (Nat.two_pow_pos 23)
  have hfield := Nat.mod_lt (x.toBits.toNat / 2 ^ 23) (show 0 < 256 by decide)
  rw [Number.ofFloat32, Number.ofBits, hhidden, hfields] at h
  generalize x.toBits.toNat % 2 ^ 23 = fraction at *
  generalize x.toBits.toNat / 2 ^ 23 % 256 = field at *
  split at h
  · split at h <;> cases h
  · split at h
    · split at h
      · cases h
      · cases h
        constructor <;> dsimp only <;> omega
    · cases h
      constructor <;> dsimp only <;> omega

/-- **The wide format has room for a narrow amount.**  The digits are shifted until the leading one
is where the format has it. -/
theorem Number.doubleBits_finite (negative : Bool) {a : Amount} (h : a.FitsSingle) :
    ∃ field fraction shift : Nat,
      (Number.finite negative a).doubleBits = Width.double.pattern negative field fraction ∧
      field ≠ 0 ∧ field < 2047 ∧ fraction < 2 ^ 52 ∧
      2 ^ 52 + fraction = a.mantissa * 2 ^ shift ∧ (field : Int) - 1075 = a.exponent - shift := by
  obtain ⟨hpos, hdigits, hleast, hgreatest⟩ := h
  have hne : a.mantissa ≠ 0 := by omega
  have hlog : a.mantissa.log2 < 24 := (Nat.log2_lt hne).mpr hdigits
  obtain ⟨shift, hshift⟩ := Nat.exists_eq_add_of_le (show a.mantissa.log2 ≤ 52 by omega)
  have hsub : 52 - a.mantissa.log2 = shift := by omega
  have hlow : 2 ^ 52 ≤ a.mantissa * 2 ^ shift := by
    rw [hshift, Nat.pow_add]
    exact Nat.mul_le_mul_right _ (Nat.log2_self_le hne)
  have hhigh : a.mantissa * 2 ^ shift < 2 ^ 53 := by
    have hsum : a.mantissa.log2 + 1 + shift = 53 := by omega
    calc a.mantissa * 2 ^ shift < 2 ^ (a.mantissa.log2 + 1) * 2 ^ shift :=
          Nat.mul_lt_mul_of_pos_right Nat.lt_log2_self (Nat.two_pow_pos shift)
      _ = 2 ^ 53 := by rw [← Nat.pow_add, hsum]
  refine ⟨(a.exponent - shift + 1075).toNat, a.mantissa * 2 ^ shift - 2 ^ 52, shift, ?_, ?_, ?_, ?_,
    ?_, ?_⟩
  · rw [Number.doubleBits, hsub]
    rfl
  all_goals omega

/-! ## Widening -/

/-- **A wider number is the same number.** -/
theorem widen_same (x : Float32) : (Number.ofFloat32 x).Same (.ofFloat (widen x)) := by
  cases h : Number.ofFloat32 x with
  | nan =>
    have hwide : Number.ofFloat (widen x) = .nan := by
      rw [widen, h]
      rfl
    rw [hwide]
    exact .nan
  | infinite negative =>
    have hwide : Number.ofFloat (widen x) = .infinite negative := by
      rw [widen, h]
      cases negative <;> rfl
    rw [hwide]
    exact .infinite negative
  | zero negative =>
    have hwide : Number.ofFloat (widen x) = .zero negative := by
      rw [widen, h]
      cases negative <;> rfl
    rw [hwide]
    exact .zero negative
  | finite negative a =>
    obtain ⟨field, fraction, shift, hbits, hzero, hfield, hfraction, hmantissa, hexponent⟩ :=
      Number.doubleBits_finite negative (Amount.fitsSingle_of_ofFloat32 h)
    rw [widen, h, hbits, Number.ofFloat, toBits_ofBits_pattern negative hfield hfraction,
      Number.ofBits_pattern negative hzero hfield hfraction]
    exact .finite negative (Amount.value_shift hmantissa hexponent).symm

end BoundSql.Numeral
