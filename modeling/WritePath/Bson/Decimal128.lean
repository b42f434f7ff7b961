import WritePath.Text.Numeral

namespace WritePath

/-!
# Decimals of 128 bits

* `Decimal128` — what the bits stand for: a sign, a coefficient of up to 34 digits and a power of
  ten, or a special value.
* `Decimal128.ofBytes`, `Decimal128.bytes` — reading and writing the bits, of which the first byte
  holds the lowest.
* `Decimal128.text`, `Decimal128.parse?` — the text: positional where no zeros have to be filled in
  beyond six places, with a power of ten otherwise.
* `Decimal128.respelled` — the bits after a turn as text.
-/

/-- A decimal of 128 bits. -/
inductive Decimal128 where
  | nan (negative signalling : Bool)
  | infinity (negative : Bool)
  | finite (negative : Bool) (coefficient : Nat) (exponent : Int)
  deriving DecidableEq, Repr

namespace Decimal128

/-- The greatest number of digits of a coefficient. -/
def precision : Nat := 34

/-- The least power of ten. -/
def minExponent : Int := -6176

/-- The greatest power of ten. -/
def maxExponent : Int := 6111

/-! ### Bits -/

/-- The number made of sixteen bytes, lowest first. -/
def bits (bytes : Vector UInt8 16) : Nat :=
  bytes.toList.foldr (fun b n => n * 256 + b.toNat) 0

/-- The decimal of the bits. A coefficient of more than 34 digits counts as zero, and so does any
that begins with the long form of the exponent. -/
def ofBits (n : Nat) : Decimal128 :=
  let negative : Bool := n >>> 127 % 2 = 1
  if n >>> 122 % 32 = 31 then nan negative (n >>> 121 % 2 = 1)
  else if n >>> 122 % 32 = 30 then infinity negative
  else if n >>> 125 % 4 = 3 then finite negative 0 ((n >>> 111 % 16384 : Nat) + minExponent)
  else
    let coefficient := n % Nat.pow 2 113
    finite negative (if coefficient < Nat.pow 10 precision then coefficient else 0)
      ((n >>> 113 % 16384 : Nat) + minExponent)

/-- The decimal of sixteen bytes. -/
def ofBytes (bytes : Vector UInt8 16) : Decimal128 :=
  ofBits (bits bytes)

/-- The bits of a decimal. -/
def toBits : Decimal128 → Nat
  | nan negative signalling => negative.toNat <<< 127 + 31 <<< 122 + signalling.toNat <<< 121
  | infinity negative => negative.toNat <<< 127 + 30 <<< 122
  | finite negative coefficient exponent =>
    negative.toNat <<< 127 + (exponent - minExponent).toNat <<< 113 + coefficient

/-- The sixteen bytes of a decimal. -/
def bytes (d : Decimal128) : Vector UInt8 16 :=
  Vector.ofFn fun i => UInt8.ofNat (d.toBits >>> (8 * i.val))

/-! ### Text -/

/-- The magnitude of a finite decimal. -/
def magnitudeText (coefficient : Nat) (exponent : Int) : List Char :=
  let ds := Nat.toDigits 10 coefficient
  let power := (ds.length : Int) - 1 + exponent
  if 0 < exponent ∨ power < -6 then
    let mark := if 0 ≤ power then ['E', '+'] else ['E', '-']
    ds.take 1 ++ (if ds.length = 1 then [] else '.' :: ds.drop 1) ++ mark
      ++ Nat.toDigits 10 power.natAbs
  else if exponent = 0 then ds
  else if 0 ≤ power then ds.take (power.toNat + 1) ++ '.' :: ds.drop (power.toNat + 1)
  else ['0', '.'] ++ List.replicate (-power - 1).toNat '0' ++ ds

/-- The text of a decimal. That of a NaN tells nothing else about it. -/
def text : Decimal128 → String
  | nan _ _ => "NaN"
  | infinity negative => if negative then "-Infinity" else "Infinity"
  | finite negative coefficient exponent =>
    String.ofList ((if negative then ['-'] else []) ++ magnitudeText coefficient exponent)

/-! ### Reading text -/

/-- Figures without the zeros in front. What has no others is a single zero. -/
def significant (figures : List Char) : List Char :=
  match figures.dropWhile (· = '0') with
  | [] => ['0']
  | rest => rest

/-- The first figures, if all that are left out are zeros. -/
def shorten? (figures : List Char) (count : Nat) : Option (List Char) :=
  if (figures.drop count).all (· = '0') then some (figures.take count) else none

/-- Figures and a power of ten that lies within the limits and stands for the same number. Zeros at
the end of the figures are given up or added for it, and a single zero takes any power of ten. -/
def fit? (figures : List Char) (exponent : Int) : Option (List Char × Int) := do
  let kept ← shorten? figures precision
  let exponent := exponent + (figures.length - kept.length : Nat)
  if kept = ['0'] then some (kept, max minExponent (min exponent maxExponent))
  else if exponent < minExponent then
    let excess := (minExponent - exponent).toNat
    if kept.length < excess then none
    else some (← shorten? kept (kept.length - excess), minExponent)
  else if maxExponent < exponent then
    let missing := (exponent - maxExponent).toNat
    if precision < kept.length + missing then none
    else some (kept ++ List.replicate missing '0', maxExponent)
  else some (kept, exponent)

/-- Whether a number fits into sixteen bits with a sign. -/
def isShort (i : Int) : Bool :=
  -32768 ≤ i && i ≤ 32767

/-- The power of ten behind the mark, if there is one. -/
def power? : List Char → Option Int
  | [] => some 0
  | _ :: rest => (Text.Numeral.readInt? rest).filter isShort

/-- The coefficient and the power of ten of a numeral after its sign. Nothing is rounded. No figures
at all are a zero. The significant ones may follow another plus sign, which takes the room of one of
them. -/
def parseMagnitude? (cs : List Char) : Option (Nat × Int) := do
  let power ← power? (cs.dropWhile (· ≠ 'e'))
  let mantissa := cs.takeWhile (· ≠ 'e')
  let whole := mantissa.takeWhile (· ≠ '.')
  let fraction := (mantissa.dropWhile (· ≠ '.')).drop 1
  let exponent := power - fraction.length
  if isShort fraction.length && isShort exponent then
    let (figures, exponent) ← fit? (significant (whole ++ fraction)) exponent
    some (← Text.Numeral.readNat? figures, exponent)
  else none

/-- Reads a decimal. Letters are read in any case. -/
def parse? (cs : List Char) : Option Decimal128 :=
  let (negative, rest) := Text.Numeral.signed cs
  let rest := rest.map Char.toLower
  match String.ofList rest with
  | "nan" => some (nan negative false)
  | "snan" => some (nan negative true)
  | "inf" | "infinity" => some (infinity negative)
  | _ => (parseMagnitude? rest).map fun m => finite negative m.1 m.2

/-! ### Bits that went through text -/

/-- The decimal as its text tells it. -/
def plain : Decimal128 → Decimal128
  | nan _ _ => nan false false
  | d => d

/-- The bits after a turn as text: each decimal has one form, and a NaN is nothing but that. -/
def respelled (bytes : Vector UInt8 16) : Vector UInt8 16 :=
  (ofBytes bytes).plain.bytes

end Decimal128

end WritePath
