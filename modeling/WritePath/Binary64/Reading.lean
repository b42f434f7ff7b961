import WritePath.Binary64.Text
import WritePath.Text.Numeral

namespace WritePath

/-!
# Doubles read from text

The double of a numeral is the one nearest to the number it stands for. All arithmetic is exact up
to one rounding, which takes the even significand where two doubles are equally near.

* `Binary64.ofDecimal` — the double nearest to a decimal.
* `Binary64.parse?` — the double of a numeral, an infinity or a NaN.
-/

/-! ### Rounding -/

/-- A quotient rounded to a whole number. A half goes to the even neighbour. -/
def roundedQuotient (num den : Nat) : Nat :=
  let q := num / den
  let twice := 2 * (num % den)
  if twice < den then q else if den < twice then q + 1 else q + q % 2

/-- Whether a positive fraction is at least a power of two. -/
def reachesPower (num den : Nat) (power : Int) : Bool :=
  if 0 ≤ power then den <<< power.toNat ≤ num else den ≤ num <<< (-power).toNat

/-- The greatest power of two that a positive fraction reaches. -/
def binaryMagnitude (num den : Nat) : Int :=
  let power : Int := (num.log2 : Int) - den.log2
  if reachesPower num den power then power else power - 1

namespace Binary64

/-- The double with given bits besides the sign. -/
def withSign (negative : Bool) (bits : Nat) : Binary64 :=
  ⟨UInt64.ofNat (if negative then 0x8000000000000000 + bits else bits)⟩

/-- The bits of the infinities besides the sign. -/
def infinityBits : Nat := 0x7ff0000000000000

/-- The bits of the usual NaN besides the sign. -/
def quietBits : Nat := 0x7ff8000000000000

/-- The bits of the double nearest to a positive fraction. The significand has 53 bits unless the
fraction is too small for them. -/
def nearestBits (num den : Nat) : Nat :=
  let unit : Int := max (binaryMagnitude num den - 52) (-1074)
  let significand :=
    if 0 ≤ unit then roundedQuotient num (den <<< unit.toNat)
    else roundedQuotient (num <<< (-unit).toNat) den
  min ((unit + 1074).toNat * 0x10000000000000 + significand) infinityBits

/-- The double nearest to a decimal with a sign. -/
def ofDecimal (negative : Bool) (d : Decimal) : Binary64 :=
  withSign negative
    (if d.digits = 0 ∨ d.magnitude < -400 then 0
    else if 400 < d.magnitude then infinityBits
    else if 0 ≤ d.exponent then nearestBits (d.digits * Nat.pow 10 d.exponent.toNat) 1
    else nearestBits d.digits (Nat.pow 10 (-d.exponent).toNat))

/-! ### Numerals -/

/-- The power of ten after the digits of a numeral. -/
def power? : List Char → Option Int
  | [] => some 0
  | c :: rest => if c = 'e' ∨ c = 'E' then Text.Numeral.readInt? rest else none

/-- Digits with a decimal point or without, and a power of ten. -/
def decimal? (cs : List Char) : Option Decimal := do
  let whole := cs.takeWhile Char.isDigit
  let rest := cs.dropWhile Char.isDigit
  let (fraction, rest) := match rest with
    | '.' :: rest => (rest.takeWhile Char.isDigit, rest.dropWhile Char.isDigit)
    | _ => ([], rest)
  if whole ++ fraction = [] then none
  else
    let power ← power? rest
    some ⟨Text.Numeral.value (whole ++ fraction), power - fraction.length⟩

/-- The double of a numeral, an infinity or a NaN. The names of the latter are read in any case. -/
def parse? (cs : List Char) : Option Binary64 :=
  let (negative, rest) := Text.Numeral.signed cs
  let name := String.ofList (rest.map Char.toLower)
  if name = "nan" then some (withSign negative quietBits)
  else if name = "inf" ∨ name = "infinity" then some (withSign negative infinityBits)
  else (decimal? rest).map (ofDecimal negative)

end Binary64

end WritePath
