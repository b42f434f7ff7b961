namespace WritePath

/-!
# Integers in machine words

An integer goes into a word only where it fits.

* `int32?`, `int64?`, `uint32?`, `uint64?` — the word of an integer in range.
-/

/-- The signed 32-bit word of an integer. -/
def int32? (i : Int) : Option Int32 :=
  if -0x80000000 ≤ i ∧ i < 0x80000000 then some (Int32.ofInt i) else none

/-- The signed 64-bit word of an integer. -/
def int64? (i : Int) : Option Int64 :=
  if -0x8000000000000000 ≤ i ∧ i < 0x8000000000000000 then some (Int64.ofInt i) else none

/-- The unsigned 32-bit word of an integer. -/
def uint32? (i : Int) : Option UInt32 :=
  if 0 ≤ i ∧ i < 0x100000000 then some (UInt32.ofNat i.toNat) else none

/-- The unsigned 64-bit word of an integer. -/
def uint64? (i : Int) : Option UInt64 :=
  if 0 ≤ i ∧ i < 0x10000000000000000 then some (UInt64.ofNat i.toNat) else none

theorem toInt_of_int32?_eq_some {i : Int} {n : Int32} (h : int32? i = some n) : n.toInt = i := by
  unfold int32? at h
  split at h
  · next hi =>
    cases h
    exact Int32.toInt_ofInt_of_le hi.1 hi.2
  · cases h

theorem int32?_toInt (n : Int32) : int32? n.toInt = some n := by
  rw [int32?, if_pos ⟨n.le_toInt, n.toInt_lt⟩, Int32.ofInt_toInt]

theorem toInt_of_int64?_eq_some {i : Int} {n : Int64} (h : int64? i = some n) : n.toInt = i := by
  unfold int64? at h
  split at h
  · next hi =>
    cases h
    exact Int64.toInt_ofInt_of_le hi.1 hi.2
  · cases h

theorem int64?_toInt (n : Int64) : int64? n.toInt = some n := by
  rw [int64?, if_pos ⟨n.le_toInt, n.toInt_lt⟩, Int64.ofInt_toInt]

theorem toNat_of_uint32?_eq_some {i : Int} {n : UInt32} (h : uint32? i = some n) :
    (n.toNat : Int) = i := by
  unfold uint32? at h
  split at h
  · next hi =>
    cases h
    have hlt : i.toNat < 0x100000000 := by omega
    rw [UInt32.toNat_ofNat', Nat.mod_eq_of_lt hlt]
    omega
  · cases h

theorem uint32?_toNat (n : UInt32) : uint32? n.toNat = some n := by
  have h := n.toNat_lt
  rw [uint32?, if_pos (by omega), Int.toNat_natCast, UInt32.ofNat_toNat]

theorem toNat_of_uint64?_eq_some {i : Int} {n : UInt64} (h : uint64? i = some n) :
    (n.toNat : Int) = i := by
  unfold uint64? at h
  split at h
  · next hi =>
    cases h
    have hlt : i.toNat < 0x10000000000000000 := by omega
    rw [UInt64.toNat_ofNat', Nat.mod_eq_of_lt hlt]
    omega
  · cases h

theorem uint64?_toNat (n : UInt64) : uint64? n.toNat = some n := by
  have h := n.toNat_lt
  rw [uint64?, if_pos (by omega), Int.toNat_natCast, UInt64.ofNat_toNat]

end WritePath
