namespace WritePath.Text.Base64

/-!
# Base64 with padding

Three bytes make four letters of six bits each; one or two bytes left over make two or three
letters, and `=` fills the group of four.

* `letter` — the letter of six bits.
* `encode` — the text of a sequence of bytes.
* `decode?` — the bytes of a text. It has to be padded, and bits that belong to no byte are zero.
-/

/-- The sixty-four letters in the order of their values. -/
def alphabet : List Char :=
  "ABCDEFGHIJKLMNOPQRSTUVWXYZabcdefghijklmnopqrstuvwxyz0123456789+/".toList

/-- The letter of the last six bits of a number. -/
def letter (n : Nat) : Char :=
  alphabet.getD (n % 64) '='

/-- The letters of a sequence of bytes. -/
def letters : List UInt8 → List Char
  | [] => []
  | [a] =>
    let n := a.toNat * 16
    [letter (n / 64), letter n, '=', '=']
  | [a, b] =>
    let n := (a.toNat * 256 + b.toNat) * 4
    [letter (n / 4096), letter (n / 64), letter n, '=']
  | a :: b :: c :: rest =>
    let n := (a.toNat * 256 + b.toNat) * 256 + c.toNat
    letter (n / 262144) :: letter (n / 4096) :: letter (n / 64) :: letter n :: letters rest

/-- The text of a sequence of bytes. -/
def encode (bytes : List UInt8) : String :=
  String.ofList (letters bytes)

/-! ### Reading -/

/-- The six bits of a letter. -/
def letterValue? (c : Char) : Option Nat :=
  alphabet.idxOf? c

/-- The bytes of a text. -/
def decode? : List Char → Option (List UInt8)
  | [] => some []
  | [a, b, '=', '='] => do
    let n := (← letterValue? a) * 64 + (← letterValue? b)
    if n % 16 = 0 then some [UInt8.ofNat (n / 16)] else none
  | [a, b, c, '='] => do
    let n := ((← letterValue? a) * 64 + (← letterValue? b)) * 64 + (← letterValue? c)
    if n % 4 = 0 then some [UInt8.ofNat (n / 1024), UInt8.ofNat (n / 4)] else none
  | a :: b :: c :: d :: rest => do
    let n :=
      (((← letterValue? a) * 64 + (← letterValue? b)) * 64 + (← letterValue? c)) * 64
        + (← letterValue? d)
    let bytes ← decode? rest
    some (UInt8.ofNat (n / 65536) :: UInt8.ofNat (n / 256) :: UInt8.ofNat n :: bytes)
  | _ => none

end WritePath.Text.Base64
