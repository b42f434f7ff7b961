namespace WritePath

/-!
# Doubles by their bits

A double is kept as its 64 bits, and its value is read off them exactly: a finite one is
`± significand · 2 ^ exponent`.

* `Binary64` — the bits.
* `Binary64.significand`, `Binary64.exponent` — the exact magnitude of a finite double.
* `Binary64.wholePart`, `Binary64.isNearlyWhole` — its integer part, and whether hardly anything
  lies beyond it.
-/

/-- A double, as its sign bit, eleven bits of exponent and fifty-two bits of fraction. -/
structure Binary64 where
  bits : UInt64
  deriving DecidableEq, Repr, Inhabited

namespace Binary64

/-! ### The fields -/

/-- Whether the sign bit is set. -/
def isNegative (x : Binary64) : Bool :=
  0x8000000000000000 ≤ x.bits.toNat

/-- The eleven bits of exponent. -/
def exponentField (x : Binary64) : Nat :=
  x.bits.toNat / 0x10000000000000 % 2048

/-- The fifty-two bits of fraction. -/
def fractionField (x : Binary64) : Nat :=
  x.bits.toNat % 0x10000000000000

/-- Neither infinite nor a NaN. -/
def isFinite (x : Binary64) : Bool :=
  x.exponentField < 2047

/-- Finite, with the full number of bits in the significand. -/
def isNormal (x : Binary64) : Bool :=
  x.isFinite && x.exponentField != 0

/-- Not a number. -/
def isNaN (x : Binary64) : Bool :=
  x.exponentField == 2047 && x.fractionField != 0

/-- Zero of either sign. -/
def isZero (x : Binary64) : Bool :=
  x.exponentField == 0 && x.fractionField == 0

theorem exponentField_lt (x : Binary64) : x.exponentField < 2048 :=
  Nat.mod_lt _ (by decide)

theorem fractionField_lt (x : Binary64) : x.fractionField < 0x10000000000000 :=
  Nat.mod_lt _ (by decide)

/-! ### The exact magnitude of a finite double -/

/-- The whole number of which a finite double is a multiple by a power of two. -/
def significand (x : Binary64) : Nat :=
  if x.exponentField = 0 then x.fractionField else 0x10000000000000 + x.fractionField

/-- The power of two that goes with the significand. -/
def exponent (x : Binary64) : Int :=
  max x.exponentField 1 - 1075

/-! ### The integer part -/

/-- The integer part of the magnitude. -/
def wholePart (x : Binary64) : Nat :=
  if 0 ≤ x.exponent then x.significand * Nat.pow 2 x.exponent.toNat
  else x.significand / Nat.pow 2 (-x.exponent).toNat

/-- Whether at most `2 ^ (-52)` of the magnitude lies beyond its integer part. -/
def isNearlyWhole (x : Binary64) : Bool :=
  0 ≤ x.exponent ||
    x.significand % Nat.pow 2 (-x.exponent).toNat * 0x10000000000000
      ≤ Nat.pow 2 (-x.exponent).toNat

/-- A double cut down to an integer, with its sign. -/
def truncate (x : Binary64) : Int :=
  if x.isNegative then -x.wholePart else x.wholePart

end Binary64

end WritePath
