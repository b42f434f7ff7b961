namespace WritePath.Text.Hex

/-!
# Hexadecimal text

* `digits` — a number in lower case hexadecimal, without leading zeros.
* `pair` — a byte as two digits.
* `encode` — bytes as pairs of digits.
* `decode?` — the bytes of pairs of digits in either case.
-/

/-- A number in lower case hexadecimal, without leading zeros. -/
def digits (n : Nat) : List Char :=
  Nat.toDigits 16 n

/-- A byte as two digits. -/
def pair (b : UInt8) : List Char :=
  [Nat.digitChar (b.toNat / 16), Nat.digitChar (b.toNat % 16)]

/-- Bytes as pairs of digits. -/
def encode (bytes : List UInt8) : String :=
  String.ofList (bytes.flatMap pair)

theorem length_pair (b : UInt8) : (pair b).length = 2 := rfl

/-! ### Reading -/

/-- The value of a digit in either case. -/
def digitValue? (c : Char) : Option Nat :=
  if '0' ≤ c ∧ c ≤ '9' then some (c.toNat - '0'.toNat)
  else if 'a' ≤ c ∧ c ≤ 'f' then some (c.toNat - 'a'.toNat + 10)
  else if 'A' ≤ c ∧ c ≤ 'F' then some (c.toNat - 'A'.toNat + 10)
  else none

/-- The bytes of pairs of digits. -/
def decode? : List Char → Option (List UInt8)
  | [] => some []
  | [_] => none
  | a :: b :: rest => do
    let high ← digitValue? a
    let low ← digitValue? b
    let bytes ← decode? rest
    some (UInt8.ofNat (high * 16 + low) :: bytes)

end WritePath.Text.Hex
