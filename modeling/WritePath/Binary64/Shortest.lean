import WritePath.Binary64.Basic

namespace WritePath

/-!
# The shortest decimal of a double

Among the decimals that read back as a given double, the one with the fewest digits is written,
and of those the one nearest to the double. All arithmetic is exact: the double and the ends of the
interval that rounds to it are whole multiples of one power of ten.

* `Decimal` — a whole number of powers of ten.
* `Binary64.Basin` — the interval of the reals that round to a double.
* `Binary64.shortest` — the decimal that is written.
-/

/-- The number `digits · 10 ^ exponent`. -/
structure Decimal where
  digits : Nat
  exponent : Int
  deriving DecidableEq, Repr

/-- Which of two equally near decimals is taken. -/
inductive TieBreak where
  | up
  | even
  deriving DecidableEq, Repr

namespace Binary64

/-- The reals that round to a double, in units of `10 ^ (-places)`: they reach from `low` to `high`
around `value`, and take in their ends when `closed`. -/
structure Basin where
  low : Nat
  value : Nat
  high : Nat
  closed : Bool
  places : Nat

/-- The interval that rounds to a finite double other than zero. Each end lies half way to the next
double; below a power of two that is only half as far away. -/
def basin (x : Binary64) : Basin :=
  let below := if x.fractionField = 0 ∧ 1 < x.exponentField then 1 else 2
  let scale :=
    if 2 ≤ x.exponent then Nat.pow 2 (x.exponent - 2).toNat else Nat.pow 5 (2 - x.exponent).toNat
  { low := (4 * x.significand - below) * scale
    value := 4 * x.significand * scale
    high := (4 * x.significand + 2) * scale
    closed := x.significand % 2 = 0
    places := (2 - x.exponent).toNat }

/-- Whether a multiple of the unit rounds to the double. -/
def Basin.holds (b : Basin) (v : Nat) : Bool :=
  if b.closed then b.low ≤ v && v ≤ b.high else b.low < v && v < b.high

/-- How many times a coarser unit is taken to come nearest to the double without leaving the
interval, if that is possible. -/
def Basin.nearest? (b : Basin) (tie : TieBreak) (unit : Nat) : Option Nat :=
  let down := b.value / unit
  let up := down + 1
  match b.holds (down * unit), b.holds (up * unit) with
  | false, false => none
  | true, false => some down
  | false, true => some up
  | true, true =>
    let toDown := b.value - down * unit
    let toUp := up * unit - b.value
    if toDown < toUp then some down
    else if toUp < toDown then some up
    else match tie with
      | .up => some up
      | .even => some (if down % 2 = 0 then down else up)

/-- The nearest decimal on the coarsest grid that has one, trying the powers of ten downwards. -/
def Basin.shortest (b : Basin) (tie : TieBreak) : Nat → Decimal
  | 0 => ⟨b.value, -b.places⟩
  | power + 1 =>
    match b.nearest? tie (Nat.pow 10 (power + 1)) with
    | some digits => ⟨digits, (power + 1 : Nat) - b.places⟩
    | none => b.shortest tie power

/-- The shortest decimal that reads back as the magnitude of a finite double. -/
def shortest (tie : TieBreak) (x : Binary64) : Decimal :=
  if x.isZero then ⟨0, 0⟩
  else x.basin.shortest tie (Nat.toDigits 10 x.basin.value).length

end Binary64

end WritePath
