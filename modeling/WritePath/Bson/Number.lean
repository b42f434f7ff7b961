import WritePath.Bson.Basic
import WritePath.Word

namespace WritePath

/-!
# Numbers in BSON values

Replies carry numbers as int32, int64 or double, as the server happens to hold them.

* `Binary64.nearInteger?` — the integer a double stands for, if it is one or hardly differs.
* `Bson.toInteger?` — the integer a numeric value stands for.
* `Bson.toInt32?`, `Bson.toCount?` — the same where a code or a count is wanted.
* `Bson.ofCount` — a count in the narrowest integer that holds it.
* `Bson.ofWord?` — a count as an int64.
-/

/-! ### Reading -/

/-- The integer a double stands for. At most `2 ^ (-52)` may lie beyond its integer part, and
`2 ^ 63`, which no int64 reaches, counts as the greatest of them. -/
def Binary64.nearInteger? (x : Binary64) : Option Int64 :=
  if x.isFinite && x.isNearlyWhole then
    if -0x8000000000000000 ≤ x.truncate ∧ x.truncate ≤ 0x8000000000000000 then
      some (Int64.ofInt (min x.truncate 0x7fffffffffffffff))
    else none
  else none

namespace Bson

/-- The integer a numeric value stands for. -/
def toInteger? : Bson → Option Int64
  | .int32 n => some n.toInt64
  | .int64 n => some n
  | .double x => x.nearInteger?
  | _ => none

/-- The integer a numeric value stands for, where it fits a code. -/
def toInt32? (v : Bson) : Option Int32 :=
  v.toInteger?.bind fun n => int32? n.toInt

/-- The integer a numeric value stands for, where it is a count. -/
def toCount? (v : Bson) : Option UInt64 :=
  v.toInteger?.bind fun n => uint64? n.toInt

@[simp] theorem toInteger?_int32 (n : Int32) : (int32 n).toInteger? = some n.toInt64 := rfl

@[simp] theorem toInteger?_int64 (n : Int64) : (int64 n).toInteger? = some n := rfl

@[simp] theorem toInteger?_double (x : Binary64) : (double x).toInteger? = x.nearInteger? := rfl

/-! ### Writing -/

/-- A count as the server writes it: an int32 if it fits, else an int64, which stops at the greatest
one. -/
def ofCount (n : UInt64) : Bson :=
  (int32? n.toNat).elim (.int64 (Int64.ofInt (min (n.toNat : Int) 0x7fffffffffffffff))) .int32

/-- An unsigned word as an int64, if it fits. -/
def ofWord? (n : UInt64) : Option Bson :=
  (int64? n.toNat).map .int64

end Bson

end WritePath
