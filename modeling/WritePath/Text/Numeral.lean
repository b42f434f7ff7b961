namespace WritePath.Text.Numeral

/-!
# Decimal numerals

* `isNumeral` — one ASCII digit or more.
* `value` — the number that digits stand for.
* `readInt?` — a number with a sign or without.
* `readNat?`, `readUInt16?` — a number, and one of 16 bits, with a plus sign or without.
-/

/-- One ASCII digit or more. -/
def isNumeral (cs : List Char) : Bool :=
  !cs.isEmpty && cs.all Char.isDigit

/-- The number that digits stand for, most significant first. -/
def value (cs : List Char) : Nat :=
  cs.foldl (fun n c => n * 10 + (c.toNat - '0'.toNat)) 0

/-- Digits without the plus sign that may precede them. -/
def unsigned : List Char → List Char
  | '+' :: rest => rest
  | cs => cs

/-- Whether a minus sign comes first, and what follows the sign. -/
def signed : List Char → Bool × List Char
  | '-' :: rest => (true, rest)
  | cs => (false, unsigned cs)

/-- A number. One sign and leading zeros are allowed, and nothing else but digits. -/
def readInt? (cs : List Char) : Option Int :=
  let (negative, digits) := signed cs
  if isNumeral digits then some (if negative then -value digits else value digits) else none

/-- A number that is not negative. One plus sign and leading zeros are allowed, and nothing else but
digits. -/
def readNat? (cs : List Char) : Option Nat :=
  let digits := unsigned cs
  if isNumeral digits then some (value digits) else none

/-- A 16-bit number. One plus sign and leading zeros are allowed, and nothing else but digits. -/
def readUInt16? (cs : List Char) : Option UInt16 :=
  ((readNat? cs).filter (· < 65536)).map UInt16.ofNat

end WritePath.Text.Numeral
