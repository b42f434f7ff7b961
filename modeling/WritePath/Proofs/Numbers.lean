import WritePath.Bson.Number

namespace WritePath

/-!
# Numbers that are written and read back

* `int32?_natCast_eq_none_iff`, `int64?_natCast_eq_none_iff` — which numbers do not fit an int32 or an
  int64.
* `int64_ofUInt32_inj` — unsigned 32-bit numbers keep their values as int64s.
* `Bson.toInt32?_int32` — a code is read back as it was written.
* `Bson.ofCount_eq` — how a count is written, and `Bson.toCount?_ofCount` — that up to the greatest
  int64 (`greatestCount`) it is read back as well. Whether it was written as an int32 or as an int64
  makes no difference.
-/

/-- The greatest count that a value can hold. -/
def greatestCount : Nat := 0x7fffffffffffffff

/-- A natural number goes into an int32 up to the greatest one. -/
theorem int32?_natCast_eq_none_iff {n : Nat} : int32? n = none ↔ 0x7fffffff < n := by
  rw [int32?]
  split <;> simp <;> omega

/-- A natural number goes into an int64 up to the greatest one. -/
theorem int64?_natCast_eq_none_iff {n : Nat} : int64? n = none ↔ greatestCount < n := by
  rw [int64?, greatestCount]
  split <;> simp <;> omega

/-- An unsigned 32-bit number keeps its value when it is widened to an int64. -/
theorem int64_ofUInt32_inj {n n' : UInt32} :
    Int64.ofInt n.toNat = Int64.ofInt n'.toNat ↔ n = n' := by
  have hvalue (m : UInt32) : (Int64.ofInt m.toNat).toInt = m.toNat := by
    have hm := m.toNat_lt
    exact Int64.toInt_ofInt_of_le (by omega) (by omega)
  constructor
  · intro h
    have hint : (n.toNat : Int) = n'.toNat := by rw [← hvalue, h, hvalue]
    exact UInt32.toNat_inj.1 (Int.ofNat_inj.1 hint)
  · rintro rfl
    rfl

namespace Bson

/-- A code is read back as it was written. -/
theorem toInt32?_int32 (n : Int32) : (int32 n).toInt32? = some n := by
  rw [toInt32?, toInteger?_int32, Option.bind_some, Int32.toInt_toInt64, int32?_toInt]

/-- The greatest int32 is the last count that is written as one, and what no int64 holds is written
as the greatest of them. -/
theorem ofCount_eq (n : UInt64) :
    ofCount n =
      if n.toNat ≤ 0x7fffffff then int32 (Int32.ofNat n.toNat)
      else int64 (Int64.ofNat (min n.toNat greatestCount)) := by
  unfold ofCount int32?
  by_cases h : n.toNat ≤ 0x7fffffff
  · have hfits : (-0x80000000 : Int) ≤ n.toNat ∧ (n.toNat : Int) < 0x80000000 := by omega
    rw [if_pos h, if_pos hfits, Option.elim_some]
    rfl
  · have hlarge : ¬ ((-0x80000000 : Int) ≤ n.toNat ∧ (n.toNat : Int) < 0x80000000) := by omega
    have hmin : min (n.toNat : Int) 0x7fffffffffffffff = (min n.toNat greatestCount : Nat) := by
      unfold greatestCount
      omega
    rw [if_neg h, if_neg hlarge, Option.elim_none, hmin]
    rfl

/-- A count that fits an int32 is written as one. -/
theorem ofCount_eq_int32 {n : UInt64} {i : Int32} (h : int32? n.toNat = some i) :
    ofCount n = int32 i := by
  rw [ofCount, h, Option.elim_some]

/-- A greater one is written as an int64. -/
theorem ofCount_eq_int64 {n : UInt64} (h : int32? n.toNat = none) (hn : n.toNat ≤ greatestCount) :
    ofCount n = int64 (Int64.ofInt n.toNat) := by
  have hmin : min (n.toNat : Int) 0x7fffffffffffffff = n.toNat := by
    rw [greatestCount] at hn
    omega
  rw [ofCount, h, hmin, Option.elim_none]

/-- **Counts.** A count that some value can hold is read back as it was written. -/
theorem toCount?_ofCount {n : UInt64} (hn : n.toNat ≤ greatestCount) :
    (ofCount n).toCount? = some n := by
  cases h : int32? n.toNat with
  | some i =>
    -- An int32 is widened before it is read as a count.
    rw [ofCount_eq_int32 h, toCount?, toInteger?_int32, Option.bind_some, Int32.toInt_toInt64,
      toInt_of_int32?_eq_some h, uint64?_toNat]
  | none =>
    have hi : (Int64.ofInt n.toNat).toInt = n.toNat := by
      rw [greatestCount] at hn
      exact Int64.toInt_ofInt_of_le (by omega) (by omega)
    rw [ofCount_eq_int64 h hn, toCount?, toInteger?_int64, Option.bind_some, hi, uint64?_toNat]

end Bson

end WritePath
