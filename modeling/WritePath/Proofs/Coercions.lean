import WritePath.Proofs.Agreement
import WritePath.Proofs.Casts

namespace WritePath

/-!
# The numbers of a reply as integers

The counts and codes of a reply, and whether it reports success, are integers, in whatever form the
server holds them. What is made of a number is that number, except for a few doubles that are taken
for an integer beside them.

* `Bson.IsMisread` — the values that stand for an integer which they are not.
* `Bson.toInteger?_of_not_isMisread`, `Bson.toCount?_of_not_isMisread` — no other value does.
* `Bson.coerced_exactly` — what values and replies are read as.
-/

namespace Bson

/-- Whether a value stands for an integer which it is not. -/
def IsMisread (v : Bson) : Prop :=
  ∃ q i, v.number? = some q ∧ Binary64.Misread q i

/-- What is misread is not the integer that is made of it. -/
theorem ne_of_misread {q : ℚ} {i : ℤ} (h : Binary64.Misread q i) : q ≠ i := by
  cases h with
  | zero hne => rwa [Int.cast_zero]
  | one => exact (Binary64.intCast_ne_nextToOne 1).symm
  | minusOne =>
    rw [Int.cast_neg, Ne, neg_inj]
    exact (Binary64.intCast_ne_nextToOne 1).symm
  | greatest => norm_num

theorem not_isMisread_of_number? {v : Bson} {i : ℤ} (h : v.number? = some (i : ℚ))
    (hi : i ≠ 0x8000000000000000) : ¬ v.IsMisread := by
  rintro ⟨q, j, hq, hmisread⟩
  rw [h, Option.some.injEq] at hq
  rw [← hq] at hmisread
  exact hi hmisread.eq_of_intCast

/-- **Integers.** A value stands for the integer that it is, and for no other. -/
theorem toInteger?_of_not_isMisread {v : Bson} (h : ¬ v.IsMisread) (n : Int64) :
    v.toInteger? = some n ↔ v.number? = some (n.toInt : ℚ) := by
  rw [toInteger?_eq_some_iff, or_iff_left]
  rintro ⟨q, hq, hmisread⟩
  exact h ⟨q, _, hq, hmisread⟩

theorem toInteger?_of_misread {v : Bson} {q : ℚ} {i : ℤ} (hq : v.number? = some q)
    (h : Binary64.Misread q i) : v.toInteger? = some (Int64.ofInt i) := by
  have hi : (Int64.ofInt i).toInt = i := by cases h <;> rfl
  rw [toInteger?_eq_some_iff, hi]
  exact .inr ⟨q, hq, h⟩

theorem toCount?_of_misread {v : Bson} {q : ℚ} {i : ℤ} (hq : v.number? = some q)
    (h : Binary64.Misread q i) : v.toCount? = uint64? i := by
  have hi : (Int64.ofInt i).toInt = i := by cases h <;> rfl
  rw [toCount?, toInteger?_of_misread hq h, Option.bind_some, hi]

/-- **Counts.** A count is the number that was sent, up to the greatest one. -/
theorem toCount?_of_not_isMisread {v : Bson} (h : ¬ v.IsMisread) (count : UInt64) :
    v.toCount? = some count ↔
      count.toNat ≤ greatestCount ∧ v.number? = some (count.toNat : ℚ) := by
  constructor
  · intro hcount
    -- The integer is not negative, or else it would be no count.
    obtain ⟨n, hn, hfits⟩ := Option.bind_eq_some_iff.1 hcount
    have hnat : (count.toNat : ℤ) = n.toInt := toNat_of_uint64?_eq_some hfits
    have hlt := n.toInt_lt
    rw [toInteger?_of_not_isMisread h, ← hnat, Int.cast_natCast] at hn
    exact ⟨by rw [greatestCount]; omega, hn⟩
  · rintro ⟨hle, hnumber⟩
    exact toCount?_of_number? hnumber hle

/-! ### Values and replies -/

/-- **What values and replies are read as.** The integer of a double is that of the arithmetic on
    doubles. An integer within the range of an int64 is read as itself, whatever it is held in, and
    a value that is not misread is read as the number that it is, as an integer and as a count, or
    not at all.

    A value that is misread stands for the integer that goes with it, which it is not. A reply
    reports success by a one, or by the double next to it. -/
theorem coerced_exactly (v : Bson) (reply : Document) :
    (∀ x, v = .double x → v.toInteger? = x.castInteger?) ∧
    (∀ i : ℤ, -0x8000000000000000 ≤ i → i < 0x8000000000000000 → v.number? = some (i : ℚ) →
      v.toInteger? = some (Int64.ofInt i)) ∧
    (¬ v.IsMisread →
      (∀ n : Int64, v.toInteger? = some n ↔ v.number? = some (n.toInt : ℚ)) ∧
      ∀ count : UInt64, v.toCount? = some count ↔
        count.toNat ≤ greatestCount ∧ v.number? = some (count.toNat : ℚ)) ∧
    (∀ q i, v.number? = some q → Binary64.Misread q i →
      q ≠ i ∧ v.toInteger? = some (Int64.ofInt i) ∧ v.toCount? = uint64? i) ∧
    (Command.isOk reply = true ↔
      reply.numberAt? "ok" = some 1 ∨ reply.numberAt? "ok" = some Binary64.nextToOne) ∧
    (LastError.isOk reply = true ↔
      reply.numberAt? "ok" = some 1 ∨ reply.numberAt? "ok" = some Binary64.nextToOne) := by
  refine ⟨?_, ?_, ?_, ?_, Command.isOk_iff, LastError.isOk_iff⟩
  · rintro x rfl
    rw [toInteger?_double, Binary64.castInteger?_eq_nearInteger?]
  · intro i hlow hhigh hnumber
    exact toInteger?_of_number? hnumber hlow hhigh
  · intro hmisread
    exact ⟨toInteger?_of_not_isMisread hmisread, toCount?_of_not_isMisread hmisread⟩
  · intro q i hq hmisread
    exact ⟨ne_of_misread hmisread, toInteger?_of_misread hq hmisread,
      toCount?_of_misread hq hmisread⟩

/-- A count that is held in a double, in a reply that reports success. -/
theorem coerced_exactly_three :
    let v : Bson := .double ⟨0x4008000000000000⟩
    let reply : Document := [("ok", .int32 1), ("n", v)]
    (v.number? = some 3 ∧ ¬ v.IsMisread) ∧
    v.toInteger? = Binary64.castInteger? ⟨0x4008000000000000⟩ ∧ v.toInteger? = some 3 ∧
    v.toCount? = some 3 ∧ LastError.isOk reply = true := by
  intro v reply
  have hvalue : Binary64.value ⟨0x4008000000000000⟩ = ((3 : ℤ) : ℚ) := by
    rw [Binary64.value_of_fields (m := 3 * 2 ^ 51) (e := -51) (by decide) (by decide) (by decide)]
    norm_num
  have hnumber : v.number? = some ((3 : ℤ) : ℚ) := number?_double_eq_some_iff.2 ⟨by decide, hvalue⟩
  have hmisread : ¬ v.IsMisread := not_isMisread_of_number? hnumber (by decide)
  have hok : reply.numberAt? "ok" = some ((1 : ℤ) : ℚ) := rfl
  obtain ⟨hcast, hself, hothers, -, -, hisOk⟩ := coerced_exactly v reply
  refine ⟨⟨by rw [hnumber]; rfl, hmisread⟩, hcast _ rfl,
    hself 3 (by decide) (by decide) hnumber, ?_, hisOk.2 (.inl (by rw [hok, Int.cast_one]))⟩
  refine ((hothers hmisread).2 3).2 ⟨by decide, ?_⟩
  rw [hnumber]
  rfl

/-- The least double that is not zero is read as zero, and `2 ^ 63` as the greatest int64. A reply
    whose `ok` is the double next to one reports success. -/
theorem coerced_exactly_beside :
    let least : Bson := .double ⟨1⟩
    let beyond : Bson := .double ⟨0x43e0000000000000⟩
    let reply : Document := [("ok", .double ⟨0x3ff0000000000001⟩), ("n", beyond)]
    (least.toInteger? = some 0 ∧ least.number? ≠ some 0) ∧
    (beyond.toCount? = some 9223372036854775807 ∧ beyond.number? = some (2 ^ 63)) ∧
    LastError.isOk reply = true ∧ reply.numberAt? "ok" ≠ some 1 := by
  intro least beyond reply
  have hbeyond : beyond.number? = some (2 ^ 63) := by
    refine number?_double_eq_some_iff.2 ⟨by decide, ?_⟩
    rw [Binary64.value_of_fields (m := 2 ^ 52) (e := 11) (by decide) (by decide) (by decide)]
    norm_num
  have hok : reply.numberAt? "ok" = some Binary64.nextToOne :=
    number?_double_eq_some_iff.2 ⟨by decide, Binary64.value_nextToOne⟩
  refine ⟨⟨by decide +kernel, ?_⟩, ⟨by decide, hbeyond⟩, by decide, ?_⟩
  · -- A power of two is not zero, however small it is.
    intro hzero
    obtain ⟨-, hvalue⟩ := number?_double_eq_some_iff.1 hzero
    rw [Binary64.value_of_fields (m := 1) (e := -1074) (by decide) (by decide) (by decide),
      Nat.cast_one, one_mul] at hvalue
    exact zpow_ne_zero _ two_ne_zero hvalue
  · rw [hok, Ne, Option.some.injEq, Binary64.nextToOne]
    norm_num

end Bson

end WritePath
