import Mathlib.Algebra.Order.Floor.Semifield
import Mathlib.Data.Rat.Floor
import Mathlib.Tactic.Linarith
import Mathlib.Tactic.NormNum
import Mathlib.Tactic.Positivity
import WritePath.Bson.Number

namespace WritePath

/-!
# Exact numbers, and the integers they stand for

A finite double has an exact value, by which it can be compared with integers of either width.

* `Binary64.value` — the exact value of a finite double.
* `Binary64.wholePart_eq_floor`, `Binary64.isNearlyWhole_iff` — what its integer part is, and how
  little may lie beyond that.
* `Binary64.eq_one_or_next` — the doubles that hardly differ from one: itself and the next one.
* `Binary64.magnitude_eq_wholePart` — no others hardly differ from an integer beyond one.
* `Binary64.nearInteger?_eq_some_iff` — what a double stands for: the integer that it is, or one of
  a few that it is not.
* `Bson.number?` — the exact number that a numeric value is.
* `Bson.toInteger?_of_number?` — a whole number within the range of an int64 stands for itself.
* `Bson.toInteger?_eq_some_iff` — what stands for an integer; `Bson.toInteger?_eq_some_one_iff` and
  `Bson.toInteger?_eq_some_iff_number?` tell it for one and for the integers beyond.
-/

namespace Binary64

variable {x : Binary64}

/-! ### The value of a double -/

/-- The exact magnitude of a finite double. -/
def magnitude (x : Binary64) : ℚ :=
  x.significand * (2 : ℚ) ^ x.exponent

/-- The exact value of a finite double. -/
def value (x : Binary64) : ℚ :=
  if x.isNegative then -x.magnitude else x.magnitude

theorem magnitude_nonneg (x : Binary64) : 0 ≤ x.magnitude := by
  unfold magnitude
  exact mul_nonneg (Nat.cast_nonneg _) (zpow_nonneg (by norm_num) _)

theorem value_cases (x : Binary64) :
    x.isNegative = true ∧ x.value = -x.magnitude ∨
      x.isNegative = false ∧ x.value = x.magnitude := by
  rw [value]
  cases x.isNegative with
  | true => exact .inl ⟨rfl, rfl⟩
  | false => exact .inr ⟨rfl, rfl⟩

theorem abs_value (x : Binary64) : |x.value| = x.magnitude := by
  rcases x.value_cases with ⟨-, h⟩ | ⟨-, h⟩
  · rw [h, abs_neg, abs_of_nonneg x.magnitude_nonneg]
  · rw [h, abs_of_nonneg x.magnitude_nonneg]

theorem magnitude_of_nonneg (h : 0 ≤ x.exponent) :
    x.magnitude = (x.significand * 2 ^ x.exponent.toNat : ℕ) := by
  have hpow : (2 : ℚ) ^ x.exponent = 2 ^ x.exponent.toNat := by
    rw [← zpow_natCast, Int.toNat_of_nonneg h]
  rw [magnitude, hpow]
  push_cast
  rfl

theorem magnitude_of_neg (h : x.exponent < 0) :
    x.magnitude = (x.significand : ℚ) / (2 ^ (-x.exponent).toNat : ℕ) := by
  have hpow : (2 : ℚ) ^ x.exponent = (2 ^ (-x.exponent).toNat)⁻¹ := by
    rw [← zpow_natCast, ← zpow_neg, Int.toNat_of_nonneg (by omega), neg_neg]
  rw [magnitude, hpow, div_eq_mul_inv]
  push_cast
  rfl

/-! ### Its integer part -/

/-- The integer part is the magnitude rounded down. -/
theorem wholePart_eq_floor (x : Binary64) : x.wholePart = ⌊x.magnitude⌋₊ := by
  unfold wholePart
  split
  · next h => rw [magnitude_of_nonneg h, Nat.floor_natCast]; rfl
  · next h => rw [magnitude_of_neg (by omega), Nat.floor_div_eq_div]; rfl

theorem wholePart_le_magnitude (x : Binary64) : (x.wholePart : ℚ) ≤ x.magnitude := by
  rw [wholePart_eq_floor]
  exact Nat.floor_le x.magnitude_nonneg

/-- A multiple of one has no rest at all. -/
theorem magnitude_sub_wholePart_of_nonneg (h : 0 ≤ x.exponent) :
    x.magnitude - x.wholePart = 0 := by
  rw [wholePart_eq_floor, magnitude_of_nonneg h, Nat.floor_natCast, sub_self]

theorem magnitude_sub_wholePart_of_neg (h : x.exponent < 0) :
    x.magnitude - x.wholePart
      = (x.significand % 2 ^ (-x.exponent).toNat : ℕ) / (2 ^ (-x.exponent).toNat : ℕ) := by
  obtain ⟨p, hp⟩ : ∃ p, p = 2 ^ (-x.exponent).toNat := ⟨_, rfl⟩
  have hpos : (p : ℚ) ≠ 0 := by
    rw [hp]
    positivity
  have hsplit : (x.significand : ℚ) = p * (x.significand / p : ℕ) + (x.significand % p : ℕ) := by
    exact_mod_cast (Nat.div_add_mod _ _).symm
  rw [wholePart_eq_floor, magnitude_of_neg h, Nat.floor_div_eq_div, ← hp, eq_div_iff hpos, sub_mul,
    div_mul_cancel₀ _ hpos]
  linarith

/-- What is small in this sense leaves no room for another integer. -/
theorem tolerance_lt_one : (1 : ℚ) / 2 ^ 52 < 1 := by norm_num

/-- The rest is small in just this sense. -/
theorem isNearlyWhole_iff (x : Binary64) :
    x.isNearlyWhole = true ↔ x.magnitude - x.wholePart ≤ 1 / 2 ^ 52 := by
  rw [isNearlyWhole, Bool.or_eq_true, decide_eq_true_eq, decide_eq_true_eq]
  by_cases h : 0 ≤ x.exponent
  · rw [magnitude_sub_wholePart_of_nonneg h]
    exact iff_of_true (.inl h) (by positivity)
  · obtain ⟨p, hp⟩ : ∃ p, p = 2 ^ (-x.exponent).toNat := ⟨_, rfl⟩
    have hpos : (0 : ℚ) < p := by
      rw [hp]
      positivity
    have hpow : Nat.pow 2 (-x.exponent).toNat = p := hp.symm
    rw [hpow, magnitude_sub_wholePart_of_neg (by omega), ← hp, div_le_div_iff₀ hpos (by positivity),
      or_iff_right h, one_mul]
    exact_mod_cast Iff.rfl

/-! ### Whole doubles -/

theorem wholePart_of_magnitude_eq {k : ℕ} (h : x.magnitude = k) : x.wholePart = k := by
  rw [wholePart_eq_floor, h, Nat.floor_natCast]

/-- Nothing lies beyond the integer part of a whole double. -/
theorem isNearlyWhole_of_magnitude_eq {k : ℕ} (h : x.magnitude = k) : x.isNearlyWhole = true := by
  rw [isNearlyWhole_iff, wholePart_of_magnitude_eq h, h, sub_self]
  positivity

/-- A whole double is the magnitude of its integer, and has its sign. -/
theorem exists_magnitude_eq {i : ℤ} (h : x.value = i) :
    ∃ k : ℕ, x.magnitude = k ∧ i = if x.isNegative then -(k : ℤ) else k := by
  have hnonneg := x.magnitude_nonneg
  rw [value] at h
  split at h
  · next hneg =>
    have hi : x.magnitude = (-i : ℤ) := by
      push_cast
      linarith
    rw [hi] at hnonneg
    obtain ⟨k, hk⟩ := Int.eq_ofNat_of_zero_le (Int.cast_nonneg_iff.1 hnonneg)
    refine ⟨k, ?_, ?_⟩
    · rw [hi, hk, Int.cast_natCast]
    · rw [if_pos hneg]
      omega
  · next hneg =>
    rw [h] at hnonneg
    obtain ⟨k, hk⟩ := Int.eq_ofNat_of_zero_le (Int.cast_nonneg_iff.1 hnonneg)
    refine ⟨k, ?_, ?_⟩
    · rw [h, hk, Int.cast_natCast]
    · rw [if_neg hneg]
      exact hk

theorem truncate_of_wholePart_eq_zero (h : x.wholePart = 0) : x.truncate = 0 := by
  rw [truncate, h]
  cases x.isNegative <;> rfl

theorem truncate_of_value_eq {i : ℤ} (h : x.value = i) : x.truncate = i := by
  obtain ⟨k, hk, hi⟩ := exists_magnitude_eq h
  rw [truncate, wholePart_of_magnitude_eq hk, hi]

/-- A double that is cut down to an integer below the greatest int64 stands for it if hardly
anything lies beyond. -/
theorem nearInteger?_eq (hfinite : x.isFinite = true) (hnear : x.isNearlyWhole = true)
    (hlow : -0x8000000000000000 ≤ x.truncate) (hhigh : x.truncate < 0x8000000000000000) :
    x.nearInteger? = some (Int64.ofInt x.truncate) := by
  have hmin : min x.truncate 0x7fffffffffffffff = x.truncate := by omega
  rw [nearInteger?, hfinite, hnear, Bool.and_self, if_pos rfl, if_pos ⟨hlow, hhigh.le⟩, hmin]

/-- **Whole doubles.** A double that is an integer within the range of an int64 stands for it. -/
theorem nearInteger?_of_value_eq {i : ℤ} (hfinite : x.isFinite = true) (h : x.value = i)
    (hlow : -0x8000000000000000 ≤ i) (hhigh : i < 0x8000000000000000) :
    x.nearInteger? = some (Int64.ofInt i) := by
  obtain ⟨k, hk, -⟩ := exists_magnitude_eq h
  have htruncate := truncate_of_value_eq h
  rw [nearInteger?_eq hfinite (isNearlyWhole_of_magnitude_eq hk) (by omega) (by omega), htruncate]

/-! ### Between the integers -/

/-- The next number to one that a double can be. -/
def nextToOne : ℚ := 1 + 1 / 2 ^ 52

/-- It is no integer. -/
theorem intCast_ne_nextToOne (i : ℤ) : (i : ℚ) ≠ nextToOne := by
  intro h
  have hlow : (1 : ℚ) < i := by
    rw [h, nextToOne]
    norm_num
  have hhigh : (i : ℚ) < 2 := by
    rw [h, nextToOne]
    norm_num
  have hone : 1 < i := by exact_mod_cast hlow
  have htwo : i < 2 := by exact_mod_cast hhigh
  omega

theorem significand_lt (x : Binary64) : x.significand < 2 ^ 53 := by
  have hfraction := x.fractionField_lt
  unfold significand
  split <;> omega

/-- From `2 ^ j` on, doubles are multiples of the step that `2 ^ j` has. -/
theorem exists_eq_grid {j : ℕ} (hj : j ≤ 52) (h : 2 ^ j ≤ x.magnitude) :
    ∃ n : ℕ, x.magnitude = n / 2 ^ (52 - j) := by
  by_cases hexponent : 0 ≤ x.exponent
  · refine ⟨x.significand * 2 ^ x.exponent.toNat * 2 ^ (52 - j), ?_⟩
    rw [magnitude_of_nonneg hexponent]
    push_cast
    exact (mul_div_cancel_right₀ _ (by positivity)).symm
  · obtain ⟨k, hk⟩ : ∃ k, k = (-x.exponent).toNat := ⟨_, rfl⟩
    have hmagnitude : x.magnitude = (x.significand : ℚ) / (2 ^ k : ℕ) := by
      rw [hk]
      exact magnitude_of_neg (by omega)
    -- A smaller exponent would leave too few of the fifty-three bits before the point.
    have hjk : j + k ≤ 52 := by
      rw [hmagnitude, le_div_iff₀ (by positivity)] at h
      have hle : 2 ^ (j + k) ≤ x.significand := by
        rw [pow_add]
        exact_mod_cast h
      have hlt : 2 ^ (j + k) < 2 ^ 53 := hle.trans_lt x.significand_lt
      have := (Nat.pow_lt_pow_iff_right (by norm_num)).1 hlt
      omega
    refine ⟨x.significand * 2 ^ (52 - j - k), ?_⟩
    have hpow : (2 : ℚ) ^ (52 - j) = 2 ^ k * 2 ^ (52 - j - k) := by
      rw [← pow_add, Nat.add_sub_cancel' (by omega)]
    rw [hmagnitude, hpow]
    push_cast
    exact (mul_div_mul_right _ _ (by positivity)).symm

/-- Between one and the next double there are no others. -/
theorem eq_one_or_next (hone : 1 ≤ x.magnitude) (hnext : x.magnitude ≤ nextToOne) :
    x.magnitude = 1 ∨ x.magnitude = nextToOne := by
  obtain ⟨n, hn⟩ : ∃ n : ℕ, x.magnitude = n / 2 ^ 52 :=
    exists_eq_grid (Nat.zero_le 52) (by rwa [pow_zero])
  have hpos : (0 : ℚ) < 2 ^ 52 := by positivity
  have hstep : nextToOne = ((2 ^ 52 + 1 : ℕ) : ℚ) / 2 ^ 52 := by
    rw [nextToOne]
    norm_num
  rw [hn, one_le_div hpos] at hone
  rw [hn, hstep, div_le_div_iff_of_pos_right hpos] at hnext
  have hlow : 2 ^ 52 ≤ n := by exact_mod_cast hone
  have hhigh : n ≤ 2 ^ 52 + 1 := by exact_mod_cast hnext
  obtain rfl | rfl : n = 2 ^ 52 ∨ n = 2 ^ 52 + 1 := by omega
  · left
    rw [hn]
    norm_num
  · right
    rw [hn, hstep]

/-- The value of a double whose fields are known. -/
theorem value_of_fields {m : ℕ} {e : ℤ} (hneg : x.isNegative = false) (hm : x.significand = m)
    (he : x.exponent = e) : x.value = m * 2 ^ e := by
  rw [value, hneg, if_neg Bool.false_ne_true, magnitude, hm, he]

theorem value_one : value ⟨0x3ff0000000000000⟩ = 1 := by
  rw [value_of_fields (m := 2 ^ 52) (e := -52) (by decide) (by decide) (by decide)]
  norm_num

theorem value_nextToOne : value ⟨0x3ff0000000000001⟩ = nextToOne := by
  rw [value_of_fields (m := 2 ^ 52 + 1) (e := -52) (by decide) (by decide) (by decide), nextToOne]
  norm_num

theorem value_of_one_le (h : 1 ≤ x.value) : x.isNegative = false ∧ x.value = x.magnitude := by
  have hnonneg := x.magnitude_nonneg
  rcases x.value_cases with ⟨-, hvalue⟩ | hpos
  · linarith
  · exact hpos

/-- From two on, the smallest step is too great to lie beyond an integer part unnoticed. -/
theorem magnitude_eq_wholePart (hnear : x.isNearlyWhole = true) (htwo : 2 ≤ x.wholePart) :
    x.magnitude = x.wholePart := by
  have hfloor := x.wholePart_le_magnitude
  have htwo' : (2 : ℚ) ^ 1 ≤ x.magnitude := by
    rw [pow_one]
    exact le_trans (by exact_mod_cast htwo) hfloor
  obtain ⟨n, hn⟩ : ∃ n : ℕ, x.magnitude = n / 2 ^ 51 := exists_eq_grid (by norm_num) htwo'
  rw [isNearlyWhole_iff] at hnear
  have hhalf : (n : ℚ) < (x.wholePart * 2 ^ 51 + 1 : ℕ) := by
    have hscaled : (n : ℚ) = x.magnitude * 2 ^ 51 := by
      rw [hn, div_mul_cancel₀ _ (by positivity)]
    rw [hscaled]
    push_cast
    linarith
  have hsteps : n ≤ x.wholePart * 2 ^ 51 := by
    have hlt : n < x.wholePart * 2 ^ 51 + 1 := by exact_mod_cast hhalf
    omega
  refine le_antisymm ?_ hfloor
  rw [hn, div_le_iff₀ (by positivity)]
  exact_mod_cast hsteps

theorem value_eq_truncate (h : x.magnitude = x.wholePart) : x.value = x.truncate := by
  rw [value, truncate, h]
  split <;> simp

/-! ### What a double stands for -/

/-- The numbers that stand for an integer which they are not, each with that integer: what hardly
differs from zero, what comes next to one and to minus one, and `2 ^ 63`. -/
inductive Misread : ℚ → ℤ → Prop
  | zero {q : ℚ} (hne : q ≠ 0) (hle : |q| ≤ 1 / 2 ^ 52) : Misread q 0
  | one : Misread nextToOne 1
  | minusOne : Misread (-nextToOne) (-1)
  | greatest : Misread (2 ^ 63) 0x7fffffffffffffff

/-- The only integer among them is the one that no int64 reaches. -/
theorem Misread.eq_of_intCast {i j : ℤ} (h : Misread i j) : i = 0x8000000000000000 := by
  obtain ⟨q, hq⟩ : ∃ q : ℚ, q = i := ⟨_, rfl⟩
  rw [← hq] at h
  cases h with
  | zero hne hle =>
    -- An integer other than zero is at least one away from it.
    rw [hq, ← Int.cast_abs] at hle
    have hone : (1 : ℚ) ≤ (|i| : ℤ) := by
      rw [hq, Int.cast_ne_zero] at hne
      exact_mod_cast Int.one_le_abs hne
    have hlt := tolerance_lt_one
    linarith
  | one => exact absurd hq.symm (intCast_ne_nextToOne i)
  | minusOne =>
    refine absurd ?_ (intCast_ne_nextToOne (-i))
    rw [Int.cast_neg, ← hq, neg_neg]
  | greatest => exact_mod_cast hq.symm

theorem misread_one_iff {q : ℚ} : Misread q 1 ↔ q = nextToOne := by
  constructor
  · intro h
    cases h
    rfl
  · rintro rfl
    exact .one

/-- A double just beyond an integer stands for it. -/
theorem nearInteger?_of_near {k : ℕ} (hfinite : x.isFinite = true) (hle : k ≤ x.magnitude)
    (hnear : x.magnitude - k ≤ 1 / 2 ^ 52) (hk : k < 0x8000000000000000) :
    x.nearInteger? = some (Int64.ofInt (if x.isNegative then -(k : ℤ) else k)) := by
  have hwhole : x.wholePart = k := by
    have hlt := tolerance_lt_one
    rw [wholePart_eq_floor, Nat.floor_eq_iff x.magnitude_nonneg]
    exact ⟨hle, by linarith⟩
  have hnear' : x.isNearlyWhole = true := by rwa [isNearlyWhole_iff, hwhole]
  have htruncate : x.truncate = if x.isNegative then -(k : ℤ) else k := by rw [truncate, hwhole]
  have hrange : -0x8000000000000000 ≤ x.truncate ∧ x.truncate < 0x8000000000000000 := by
    split at htruncate <;> omega
  rw [nearInteger?_eq hfinite hnear' hrange.1 hrange.2, htruncate]

theorem nearInteger?_of_misread {i : ℤ} (hfinite : x.isFinite = true) (h : Misread x.value i) :
    x.nearInteger? = some (Int64.ofInt i) := by
  obtain ⟨q, hq⟩ : ∃ q, q = x.value := ⟨_, rfl⟩
  rw [← hq] at h
  cases h with
  | zero hne hle =>
    rw [hq, abs_value] at hle
    have hzero : (if x.isNegative then -((0 : ℕ) : ℤ) else (0 : ℕ)) = 0 := by split <;> rfl
    rw [nearInteger?_of_near hfinite (k := 0) (by exact_mod_cast x.magnitude_nonneg)
      (by rwa [Nat.cast_zero, sub_zero]) (by norm_num), hzero]
  | one =>
    obtain ⟨hneg, hmagnitude⟩ := value_of_one_le (x := x) (by rw [← hq, nextToOne]; norm_num)
    rw [← hq] at hmagnitude
    rw [nearInteger?_of_near hfinite (k := 1) (by rw [← hmagnitude, nextToOne]; norm_num)
      (by rw [← hmagnitude, nextToOne]; norm_num) (by norm_num), hneg]
    rfl
  | minusOne =>
    have hnext : (0 : ℚ) < nextToOne := by
      rw [nextToOne]
      norm_num
    have hnonneg := x.magnitude_nonneg
    rcases x.value_cases with ⟨hneg, hvalue⟩ | ⟨-, hvalue⟩
    · have hmagnitude : x.magnitude = nextToOne := by linarith
      rw [nearInteger?_of_near hfinite (k := 1) (by rw [hmagnitude, nextToOne]; norm_num)
        (by rw [hmagnitude, nextToOne]; norm_num) (by norm_num), hneg]
      rfl
    · linarith
  | greatest =>
    -- This one is out of the range of `nearInteger?_of_near`: it is cut down to the greatest int64.
    obtain ⟨hneg, hmagnitude⟩ := value_of_one_le (x := x) (by rw [← hq]; norm_num)
    have hmagnitude' : x.magnitude = (2 ^ 63 : ℕ) := by
      rw [← hmagnitude, ← hq]
      norm_num
    have htruncate : x.truncate = 0x8000000000000000 := by
      rw [truncate, hneg, wholePart_of_magnitude_eq hmagnitude']
      rfl
    rw [nearInteger?, hfinite, isNearlyWhole_of_magnitude_eq hmagnitude', htruncate]
    rfl

/-- The integer that a double stands for is its integer part, unless that is `2 ^ 63`, and hardly
anything lies beyond it. -/
theorem of_nearInteger?_eq_some {n : Int64} (h : x.nearInteger? = some n) :
    x.isFinite = true ∧ x.isNearlyWhole = true ∧ x.truncate ≤ 0x8000000000000000 ∧
      n.toInt = min x.truncate 0x7fffffffffffffff := by
  unfold nearInteger? at h
  split at h
  · next hboth =>
    obtain ⟨hfinite, hnear⟩ := Bool.and_eq_true_iff.1 hboth
    split at h
    · next hrange =>
      cases h
      exact ⟨hfinite, hnear, hrange.2, Int64.toInt_ofInt_of_le (by omega) (by omega)⟩
    · cases h
  · cases h

/-- With an integer part below two, something may lie beyond it. -/
theorem value_of_wholePart_lt (hnear : x.isNearlyWhole = true) (hlt : x.wholePart < 2) :
    x.value = x.truncate ∨ Misread x.value x.truncate := by
  rw [isNearlyWhole_iff] at hnear
  obtain hzero | hone : x.wholePart = 0 ∨ x.wholePart = 1 := by omega
  · rw [hzero, Nat.cast_zero, sub_zero, ← abs_value] at hnear
    rw [truncate_of_wholePart_eq_zero hzero, Int.cast_zero]
    by_cases hvalue : x.value = 0
    · exact .inl hvalue
    · exact .inr (.zero hvalue hnear)
  · have hle := x.wholePart_le_magnitude
    rw [hone, Nat.cast_one] at hle hnear
    rcases eq_one_or_next hle (by rw [nextToOne]; linarith) with hmagnitude | hmagnitude
    · exact .inl (value_eq_truncate (by rw [hmagnitude, hone, Nat.cast_one]))
    · right
      rw [value, truncate, hmagnitude, hone]
      split
      · exact .minusOne
      · exact .one

theorem value_of_nearInteger? {n : Int64} (h : x.nearInteger? = some n) :
    x.value = n.toInt ∨ Misread x.value n.toInt := by
  obtain ⟨-, hnear, hhigh, hmin⟩ := of_nearInteger?_eq_some h
  rcases Nat.lt_or_ge x.wholePart 2 with hsmall | htwo
  · have hbound : x.truncate ≤ 1 := by
      rw [truncate]
      split <;> omega
    rw [hmin, min_eq_left (by omega)]
    exact value_of_wholePart_lt hnear hsmall
  · have hvalue := value_eq_truncate (magnitude_eq_wholePart hnear htwo)
    -- Above the greatest int64 only `2 ^ 63` is left, which stands for that one.
    rcases Int.lt_or_le 0x7fffffffffffffff x.truncate with hbeyond | hle
    · have htruncate : x.truncate = 2 ^ 63 := by omega
      have hn : n.toInt = 0x7fffffffffffffff := by omega
      right
      rw [hvalue, hn, htruncate, Int.cast_pow, Int.cast_ofNat]
      exact .greatest
    · left
      rw [hvalue, hmin, min_eq_left hle]

/-- **What doubles stand for.** A double stands for the integer that it is, and apart from that only
for those it is misread as. -/
theorem nearInteger?_eq_some_iff {n : Int64} :
    x.nearInteger? = some n ↔
      x.isFinite = true ∧ (x.value = n.toInt ∨ Misread x.value n.toInt) := by
  constructor
  · intro h
    exact ⟨(of_nearInteger?_eq_some h).1, value_of_nearInteger? h⟩
  · rintro ⟨hfinite, hvalue | hmisread⟩
    · rw [nearInteger?_of_value_eq hfinite hvalue n.le_toInt n.toInt_lt, Int64.ofInt_toInt]
    · rw [nearInteger?_of_misread hfinite hmisread, Int64.ofInt_toInt]

end Binary64

namespace Bson

/-! ### Numeric values -/

/-- The exact number that a numeric value is. -/
def number? : Bson → Option ℚ
  | .int32 n => some n.toInt
  | .int64 n => some n.toInt
  | .double x => if x.isFinite then some x.value else none
  | _ => none

theorem number?_double_eq_some_iff {x : Binary64} {q : ℚ} :
    (double x).number? = some q ↔ x.isFinite = true ∧ x.value = q := by
  rw [number?]
  cases x.isFinite <;> simp

/-- **Whole numbers.** A whole number within the range of an int64 stands for itself, whatever it is
held in. -/
theorem toInteger?_of_number? {v : Bson} {i : ℤ} (h : v.number? = some (i : ℚ))
    (hlow : -0x8000000000000000 ≤ i) (hhigh : i < 0x8000000000000000) :
    v.toInteger? = some (Int64.ofInt i) := by
  cases v with
  | int32 n =>
    have hn : n.toInt = i := by exact_mod_cast Option.some.inj h
    rw [toInteger?_int32, ← hn, ← Int32.toInt_toInt64, Int64.ofInt_toInt]
  | int64 n =>
    have hn : n.toInt = i := by exact_mod_cast Option.some.inj h
    rw [toInteger?_int64, ← hn, Int64.ofInt_toInt]
  | double x =>
    obtain ⟨hfinite, hvalue⟩ := number?_double_eq_some_iff.1 h
    rw [toInteger?_double, Binary64.nearInteger?_of_value_eq hfinite hvalue hlow hhigh]
  | _ => cases h

/-- **What values stand for.** A value stands for the integer that it is, and apart from that only
for those that doubles are misread as. -/
theorem toInteger?_eq_some_iff {v : Bson} {n : Int64} :
    v.toInteger? = some n ↔ v.number? = some (n.toInt : ℚ) ∨
      ∃ q, v.number? = some q ∧ Binary64.Misread q n.toInt := by
  constructor
  · intro h
    cases v with
    | int32 m =>
      left
      rw [← Option.some.inj h, Int32.toInt_toInt64]
      rfl
    | int64 m =>
      left
      rw [← Option.some.inj h]
      rfl
    | double x =>
      obtain ⟨hfinite, hvalue⟩ := Binary64.nearInteger?_eq_some_iff.1 h
      exact hvalue.imp (fun hself => number?_double_eq_some_iff.2 ⟨hfinite, hself⟩)
        fun hmisread => ⟨_, number?_double_eq_some_iff.2 ⟨hfinite, rfl⟩, hmisread⟩
    | _ => cases h
  · rintro (hself | ⟨q, hq, hmisread⟩)
    · rw [toInteger?_of_number? hself n.le_toInt n.toInt_lt, Int64.ofInt_toInt]
    · cases v with
      | int32 m =>
        -- No integer but one that is too great is misread.
        rw [← Option.some.inj hq] at hmisread
        have hm := hmisread.eq_of_intCast
        have hlt := m.toInt_lt
        omega
      | int64 m =>
        rw [← Option.some.inj hq] at hmisread
        have hm := hmisread.eq_of_intCast
        have hlt := m.toInt_lt
        omega
      | double x =>
        obtain ⟨hfinite, rfl⟩ := number?_double_eq_some_iff.1 hq
        exact Binary64.nearInteger?_eq_some_iff.2 ⟨hfinite, .inr hmisread⟩
      | _ => cases hq

/-- **One.** The numbers that stand for one are one and the next double. -/
theorem toInteger?_eq_some_one_iff {v : Bson} :
    v.toInteger? = some 1 ↔ v.number? = some 1 ∨ v.number? = some Binary64.nextToOne := by
  have hone : (1 : Int64).toInt = 1 := rfl
  simp only [toInteger?_eq_some_iff, hone, Int.cast_one, Binary64.misread_one_iff, exists_eq_right]

/-- **Other integers.** The only number that stands for an integer beyond one, below the greatest
int64, is that integer. -/
theorem toInteger?_eq_some_iff_number? {v : Bson} {n : Int64} (hlow : 2 ≤ n.toInt.natAbs)
    (hhigh : n.toInt < 0x7fffffffffffffff) :
    v.toInteger? = some n ↔ v.number? = some (n.toInt : ℚ) := by
  rw [toInteger?_eq_some_iff, or_iff_left]
  rintro ⟨q, -, hmisread⟩
  obtain ⟨i, hi⟩ : ∃ i, i = n.toInt := ⟨_, rfl⟩
  rw [← hi] at hlow hhigh hmisread
  cases hmisread <;> omega

/-- The only number that stands for a code beyond one is that code. -/
theorem toInt32?_eq_some_iff {v : Bson} {code : Int32} (hlow : 2 ≤ code.toInt.natAbs) :
    v.toInt32? = some code ↔ v.number? = some (code.toInt : ℚ) := by
  have hhigh := code.toInt_lt
  have hcode : code.toInt64.toInt = code.toInt := Int32.toInt_toInt64 code
  rw [← hcode, ← toInteger?_eq_some_iff_number? (by rwa [hcode]) (by omega), toInt32?,
    Option.bind_eq_some_iff]
  constructor
  · rintro ⟨n, hn, hfits⟩
    rw [hn, ← Int64.toInt_inj.1 ((toInt_of_int32?_eq_some hfits).symm.trans hcode.symm).symm]
  · intro h
    exact ⟨code.toInt64, h, by rw [hcode, int32?_toInt]⟩

end Bson

end WritePath
