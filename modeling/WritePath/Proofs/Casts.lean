import WritePath.Proofs.Doubles
import WritePath.Proofs.Rounding

namespace WritePath

/-!
# The integer of a double in floating-point arithmetic

The integer that a double stands for is told by arithmetic on doubles: a double is cast to an int64,
which stops at the least and the greatest of them, and cast back, and the two may differ by at most
the distance of one from the next double.

* `Binary64.castInteger?` — that computation, in the logical model of floating-point numbers.
* `Binary64.unpack_toModel` — a double in that model.
* `Binary64.toInt64_toModel`, `Binary64.exists_unpack_ofInt64` — the two casts.
* `Binary64.abs_difference_le_iff` — the difference is rounded, but not across the bound.
* `Binary64.castInteger?_eq_nearInteger?` — the outcome, in exact numbers.
-/

namespace Binary64

open Float.Model (Format UnpackedFloat)
open Float.Model.Format (binary64)
open Float.Model.UnpackedFloat (Sign ExtendedMantissa roundToInt shiftToExponent decreaseExponent
  unpackSign unpackExponent unpackMantissa)

variable {x : Binary64} {s : Sign} {m r : ℕ} {e t : ℤ}

/-! ### The computation -/

/-- A double as a floating-point number. -/
def toModel (x : Binary64) : Float.Model :=
  .ofBits x.bits

/-- The distance of one from the next double, `2 ^ (-52)`. -/
def epsilon : Float.Model :=
  .ofBits 0x3cb0000000000000

/-- The integer a double is cast to, unless the cast back is too far away from it. -/
def castInteger? (x : Binary64) : Option Int64 :=
  let n := x.toModel.toInt64
  if (x.toModel - .ofInt64 n).abs ≤ epsilon then some n else none

/-! ### Doubles in the model -/

/-- The sign of a double. -/
def sign (x : Binary64) : Sign :=
  if x.isNegative then .negative else .positive

theorem apply_sign (x : Binary64) (n : ℕ) :
    x.sign.apply n = if x.isNegative then -(n : ℤ) else n := by
  rw [sign]
  cases x.isNegative <;> rfl

theorem toNat_unpackExponent (x : Binary64) :
    BitVec.toNat (@unpackExponent binary64 x.bits.toBitVec) = x.exponentField := by
  rw [unpackExponent, BitVec.toNat_cast, BitVec.extractLsb_toNat, Nat.shiftRight_eq_div_pow]
  rfl

theorem toNat_unpackMantissa (x : Binary64) :
    BitVec.toNat (@unpackMantissa binary64 x.bits.toBitVec) = x.fractionField := by
  rw [unpackMantissa, BitVec.toNat_cast, BitVec.extractLsb_toNat, Nat.shiftRight_eq_div_pow,
    pow_zero, Nat.div_one]
  rfl

theorem ofBitVec_unpackSign (x : Binary64) :
    Sign.ofBitVec (@unpackSign binary64 x.bits.toBitVec) = x.sign := by
  have hbit : BitVec.toNat (@unpackSign binary64 x.bits.toBitVec)
      = x.bits.toNat / 2 ^ 63 := by
    have hlt := x.bits.toNat_lt
    rw [unpackSign, BitVec.toNat_cast, BitVec.extractLsb_toNat, Nat.shiftRight_eq_div_pow]
    exact Nat.mod_eq_of_lt (show x.bits.toNat / 2 ^ 63 < 2 by omega)
  rw [sign, isNegative, Sign.ofBitVec]
  by_cases h : 0x8000000000000000 ≤ x.bits.toNat
  · rw [decide_eq_true h, if_pos rfl, if_neg]
    intro hzero
    rw [hzero, BitVec.toNat_ofNat] at hbit
    omega
  · rw [decide_eq_false h, if_neg Bool.false_ne_true, if_pos]
    refine BitVec.eq_of_toNat_eq ?_
    rw [hbit, BitVec.toNat_ofNat]
    omega

theorem isRounded_significand (h : 0 < x.significand) :
    IsRounded x.significand x.exponent := by
  refine ⟨h, x.significand_lt, by rw [exponent]; omega, ?_⟩
  rw [significand, exponent]
  split
  · next hzero => exact .inr (by rw [hzero]; rfl)
  · exact .inl (by omega)

theorem exponent_le (hfinite : x.isFinite = true) : x.exponent ≤ 971 := by
  rw [isFinite, decide_eq_true_eq] at hfinite
  rw [exponent]
  omega

theorem unpack_bits (hfinite : x.isFinite = true) (h : 0 < x.significand) :
    UnpackedFloat.unpack binary64 x.bits.toBitVec
      = .finite x.sign x.significand x.exponent h := by
  rw [isFinite, decide_eq_true_eq] at hfinite
  rw [← ofBitVec_unpackSign]
  -- With no bits of exponent the word holds the mantissa as it is, else it lacks the first bit.
  by_cases hzero : x.exponentField = 0
  · have hsignificand : x.significand = x.fractionField := if_pos hzero
    have hexponent : x.exponent = -1074 := by rw [exponent, hzero]; rfl
    rw [unpack_subnormal (by rw [toNat_unpackExponent, hzero])
      (by rw [toNat_unpackMantissa, hsignificand]) h, hexponent]
  · have hsignificand : x.significand = 2 ^ 52 + x.fractionField := if_neg hzero
    have hexponent : x.exponent = x.exponentField - 1075 := by rw [exponent]; omega
    rw [unpack_normal x.toNat_unpackExponent (by omega) hfinite
      (by rw [toNat_unpackMantissa, hsignificand]) h, hexponent]

/-- **Finite doubles.** They are in the model what they are here. -/
theorem unpack_toModel (hfinite : x.isFinite = true) (h : 0 < x.significand) :
    x.toModel.unpack = .finite x.sign x.significand x.exponent h := by
  rw [toModel, Float.Model.ofBits, unpack_bits hfinite h, (isRounded_significand h).unpack_pack,
    if_pos (exponent_le hfinite)]

theorem unpack_toModel_of_zero (h : x.significand = 0) : x.toModel.unpack = .zero x.sign := by
  have hfields : x.exponentField = 0 ∧ x.fractionField = 0 := by
    rw [significand] at h
    split at h
    · next hexponent => exact ⟨hexponent, h⟩
    · omega
  rw [toModel, Float.Model.ofBits, unpack_zero (by rw [toNat_unpackExponent, hfields.1])
    (by rw [toNat_unpackMantissa, hfields.2]), ofBitVec_unpackSign, unpack_pack_zero]

theorem unpack_toModel_of_not_isFinite (h : x.isFinite = false) :
    x.toModel.unpack = .infinity x.sign ∨ x.toModel.unpack = .notANumber := by
  have hexponent : x.exponentField = 2047 := by
    have hlt := x.exponentField_lt
    rw [isFinite, decide_eq_false_iff_not] at h
    omega
  rw [toModel, Float.Model.ofBits]
  by_cases hzero : x.fractionField = 0
  · left
    rw [unpack_infinity (by rw [toNat_unpackExponent, hexponent])
      (by rw [toNat_unpackMantissa, hzero]), ofBitVec_unpackSign, unpack_pack_infinity]
  · right
    rw [unpack_notANumber (by rw [toNat_unpackExponent, hexponent])
      (by rwa [toNat_unpackMantissa]), unpack_pack_notANumber]

/-! ### The cast to an integer -/

/-- The cast drops what lies beyond the integer part. -/
theorem roundToInt_eq (x : Binary64) :
    roundToInt x.sign x.significand x.exponent = x.truncate := by
  have hwhole : ((ExtendedMantissa.mk (x.significand <<< x.exponent.toNat) false false)
      >>> (-x.exponent).toNat).mantissa = x.wholePart := by
    rw [mantissa_shiftRight, Nat.shiftLeft_eq, wholePart]
    split
    · have hzero : (-x.exponent).toNat = 0 := by omega
      rw [hzero, pow_zero, Nat.div_one]
      rfl
    · have hzero : x.exponent.toNat = 0 := by omega
      rw [hzero, pow_zero, Nat.mul_one]
      rfl
  -- One of the two shifts is by nothing: to the left where the exponent is negative, to the right
  -- where it is not.
  have hshift : (0 - (x.exponent - x.exponent.toNat)).toNat = (-x.exponent).toNat := by omega
  rw [roundToInt, decreaseExponent, sub_zero]
  dsimp only
  rw [shiftToExponent, hshift, truncate, ← apply_sign, ← hwhole]
  rfl

/-- It stops at the least and the greatest int64. -/
theorem toInt_ofIntClamp (i : ℤ) :
    (Int64.ofIntClamp i).toInt = max (-0x8000000000000000) (min i 0x7fffffffffffffff) := by
  have hmin : Int64.minValue.toInt = -0x8000000000000000 := rfl
  have hmax : Int64.maxValue.toInt = 0x7fffffffffffffff := rfl
  by_cases hlow : Int64.minValue.toInt ≤ i
  · by_cases hhigh : i ≤ Int64.maxValue.toInt
    · rw [Int64.toInt_ofIntClamp hlow hhigh]
      omega
    · rw [Int64.ofIntClamp, dif_pos hlow, dif_neg hhigh, hmax]
      omega
  · rw [Int64.ofIntClamp, dif_neg hlow, hmin]
    omega

theorem magnitude_of_zero (h : x.significand = 0) : x.magnitude = 0 := by
  rw [magnitude, h, Nat.cast_zero, zero_mul]

theorem wholePart_of_zero (h : x.significand = 0) : x.wholePart = 0 := by
  rw [wholePart_eq_floor, magnitude_of_zero h, Nat.floor_zero]

theorem toInt64_toModel (hfinite : x.isFinite = true) :
    x.toModel.toInt64 = Int64.ofIntClamp x.truncate := by
  rw [Float.Model.toInt64, UnpackedFloat.toInt64]
  by_cases h : 0 < x.significand
  · rw [unpack_toModel hfinite h, UnpackedFloat.toInt, roundToInt_eq]
  · have hzero : x.significand = 0 := by omega
    rw [unpack_toModel_of_zero hzero, UnpackedFloat.toInt,
      truncate_of_wholePart_eq_zero (wholePart_of_zero hzero)]

/-! ### The cast back -/

theorem normalize_apply (s z : Sign) (hm : 0 < m) (e : ℤ) :
    UnpackedFloat.normalize binary64 (s.apply m) e z = UnpackedFloat.round binary64 s m e := by
  cases s with
  | negative =>
    have hlt : compare (-(m : ℤ)) 0 = .lt := by
      rw [compare_lt_iff_lt]
      omega
    rw [Sign.apply, UnpackedFloat.normalize, hlt, neg_neg, Int.toNat_natCast]
  | positive =>
    have hgt : compare (m : ℤ) 0 = .gt := by
      rw [compare_gt_iff_gt]
      omega
    rw [Sign.apply, UnpackedFloat.normalize, hgt, Int.toNat_natCast]

theorem ofInt64_eq (n : Int64) :
    Float.Model.ofInt64 n = .pack (UnpackedFloat.normalize binary64 n.toInt 0 .positive) := rfl

/-- The magnitude that is left after both casts. -/
def clampedPart (x : Binary64) : ℕ :=
  min x.wholePart (2 ^ 63)

theorem clampedPart_le_magnitude (x : Binary64) : (x.clampedPart : ℚ) ≤ x.magnitude := by
  have hle : (x.clampedPart : ℚ) ≤ x.wholePart := by exact_mod_cast min_le_left _ _
  exact hle.trans x.wholePart_le_magnitude

theorem isRounded_two_pow : IsRounded (2 ^ 52) 11 :=
  ⟨by norm_num, by norm_num, by norm_num, .inl le_rfl⟩

/-- An integer part has no more bits than its double. -/
theorem fitsMantissa_wholePart (x : Binary64) : FitsMantissa x.wholePart := by
  have hlt := x.significand_lt
  by_cases h : 0 ≤ x.exponent
  · refine ⟨x.significand, x.exponent, ?_, hlt, by omega⟩
    rw [← magnitude, ← sub_eq_zero, ← neg_eq_zero, neg_sub, magnitude_sub_wholePart_of_nonneg h]
  · rw [wholePart, if_neg h]
    exact ⟨_, 0, by rw [zpow_zero, mul_one], (Nat.div_le_self _ _).trans_lt hlt, by norm_num⟩

theorem IsRounded.exponent_le (h : IsRounded r t) (hle : (r : ℚ) * 2 ^ t ≤ 2 ^ 63) : t ≤ 971 := by
  by_contra hhigh
  -- All bits of the mantissa are in use, which is far too great.
  have hfull : 2 ^ 52 ≤ r := h.full.resolve_right (by omega)
  have hbound : (2 : ℚ) ^ (52 : ℤ) * 2 ^ (12 : ℤ) ≤ r * 2 ^ t :=
    mul_le_mul (by exact_mod_cast hfull) (zpow_le_zpow_right₀ one_le_two (by omega))
      (by positivity) (by positivity)
  have hless : (2 : ℚ) ^ 63 < 2 ^ (52 : ℤ) * 2 ^ (12 : ℤ) := by norm_num
  linarith

/-- What is left is itself a double. -/
theorem exists_clampedPart_eq (h : 0 < x.wholePart) :
    ∃ r t, IsRounded r t ∧ (r : ℚ) * 2 ^ t = x.clampedPart ∧ t ≤ 971 := by
  rw [clampedPart]
  rcases le_total x.wholePart (2 ^ 63) with hle | hle
  · obtain ⟨r, t, hr, heq⟩ :=
      x.fitsMantissa_wholePart.exists_isRounded (by exact_mod_cast h)
    have hle' : (r : ℚ) * 2 ^ t ≤ 2 ^ 63 := by
      rw [heq]
      exact_mod_cast hle
    exact ⟨r, t, hr, by rw [min_eq_left hle, heq], hr.exponent_le hle'⟩
  · refine ⟨2 ^ 52, 11, isRounded_two_pow, ?_, by norm_num⟩
    rw [min_eq_right hle]
    norm_num

/-- The greatest int64 is no double. The next one is `2 ^ 63`. -/
theorem round_greatest (s : Sign) :
    UnpackedFloat.round binary64 s 0x7fffffffffffffff 0
      = .finite s (2 ^ 52) 11 (Nat.two_pow_pos 52) :=
  rfl

/-- **Both casts.** What is left of a double has its sign. -/
theorem exists_unpack_ofInt64 (h : 0 < x.wholePart) :
    ∃ r t, ∃ hr : IsRounded r t, (r : ℚ) * 2 ^ t = x.clampedPart ∧
      (Float.Model.ofInt64 (.ofIntClamp x.truncate)).unpack = .finite x.sign r t hr.pos := by
  rw [ofInt64_eq, toInt_ofIntClamp]
  -- The least int64 is a double, so that only the greatest one stands apart.
  by_cases hgreatest : x.isNegative = false ∧ 2 ^ 63 ≤ x.wholePart
  · obtain ⟨hneg, hlarge⟩ := hgreatest
    have hn : max (-0x8000000000000000) (min x.truncate 0x7fffffffffffffff)
        = Sign.positive.apply (0x7fffffffffffffff : ℕ) := by
      rw [truncate, hneg, if_neg Bool.false_ne_true, Sign.apply]
      omega
    have hsign : x.sign = .positive := by rw [sign, hneg, if_neg Bool.false_ne_true]
    refine ⟨2 ^ 52, 11, isRounded_two_pow, ?_, ?_⟩
    · rw [clampedPart, min_eq_right hlarge]
      norm_num
    · rw [hn, normalize_apply _ _ (by norm_num), round_greatest, isRounded_two_pow.unpack_pack,
        if_pos (by norm_num), hsign]
  · obtain ⟨r, t, hr, heq, hhigh⟩ := exists_clampedPart_eq h
    have hn : max (-0x8000000000000000) (min x.truncate 0x7fffffffffffffff)
        = x.sign.apply x.clampedPart := by
      rw [apply_sign, truncate, clampedPart]
      cases hneg : x.isNegative with
      | false =>
        rw [hneg, eq_self, true_and] at hgreatest
        rw [if_neg Bool.false_ne_true, if_neg Bool.false_ne_true]
        omega
      | true =>
        rw [if_pos rfl, if_pos rfl]
        omega
    have hpos : 0 < x.clampedPart := by
      rw [clampedPart]
      omega
    have heq' : (x.clampedPart : ℚ) * 2 ^ (0 : ℤ) = r * 2 ^ t := by
      rw [zpow_zero, mul_one, heq]
    exact ⟨r, t, hr, heq, by
      rw [hn, normalize_apply _ _ hpos, round_of_eq hr heq', hr.unpack_pack, if_pos hhigh]⟩

theorem unpack_ofInt64_of_zero (h : x.wholePart = 0) :
    (Float.Model.ofInt64 (.ofIntClamp x.truncate)).unpack = .zero .positive := by
  have hn : (Int64.ofIntClamp x.truncate).toInt = 0 := by
    rw [truncate_of_wholePart_eq_zero h]
    rfl
  rw [ofInt64_eq, hn]
  exact unpack_pack_zero _

theorem unpack_ofInt64_maxValue :
    (Float.Model.ofInt64 Int64.maxValue).unpack
      = .finite .positive (2 ^ 52) 11 (Nat.two_pow_pos 52) :=
  rfl

theorem unpack_ofInt64_minValue :
    (Float.Model.ofInt64 Int64.minValue).unpack
      = .finite .negative (2 ^ 52) 11 (Nat.two_pow_pos 52) :=
  rfl

/-! ### The difference -/

theorem sub_eq (a b : Float.Model) :
    a - b = .pack (UnpackedFloat.sub binary64 a.unpack b.unpack) := rfl

theorem apply_sub_apply (s : Sign) {k : ℕ} (h : k ≤ m) :
    s.apply m - s.apply k = s.apply ((m - k : ℕ) : ℤ) := by
  cases s <;> rw [Sign.apply, Sign.apply, Sign.apply] <;> omega

/-- The difference of two numbers of one sign is exact before it is rounded. -/
theorem exists_sub_eq {m₁ m₂ : ℕ} {e₁ e₂ : ℤ} (s : Sign) (h₁ : 0 < m₁) (h₂ : 0 < m₂)
    (hle : (m₂ : ℚ) * 2 ^ e₂ ≤ m₁ * 2 ^ e₁) :
    ∃ d : ℕ, ∃ e : ℤ, (d : ℚ) * 2 ^ e = m₁ * 2 ^ e₁ - m₂ * 2 ^ e₂ ∧
      UnpackedFloat.sub binary64 (.finite s m₁ e₁ h₁) (.finite s m₂ e₂ h₂)
        = if d = 0 then .zero .positive else UnpackedFloat.round binary64 s d e := by
  -- Both are brought to the smaller exponent, and then the mantissas are subtracted.
  obtain ⟨k₁, hk₁⟩ : ∃ k : ℕ, min e₁ e₂ = e₁ - k := ⟨(e₁ - min e₁ e₂).toNat, by omega⟩
  obtain ⟨k₂, hk₂⟩ : ∃ k : ℕ, min e₁ e₂ = e₂ - k := ⟨(e₂ - min e₁ e₂).toNat, by omega⟩
  have hm₁ : ((m₁ * 2 ^ k₁ : ℕ) : ℚ) * 2 ^ min e₁ e₂ = m₁ * 2 ^ e₁ := by
    rw [hk₁, mul_two_zpow_eq]
  have hm₂ : ((m₂ * 2 ^ k₂ : ℕ) : ℚ) * 2 ^ min e₁ e₂ = m₂ * 2 ^ e₂ := by
    rw [hk₂, mul_two_zpow_eq]
  have hd : m₂ * 2 ^ k₂ ≤ m₁ * 2 ^ k₁ := by
    rw [← hm₁, ← hm₂] at hle
    exact_mod_cast le_of_mul_le_mul_right hle (by positivity)
  refine ⟨m₁ * 2 ^ k₁ - m₂ * 2 ^ k₂, min e₁ e₂, by rw [Nat.cast_sub hd, sub_mul, hm₁, hm₂], ?_⟩
  have hs₁ : (e₁ - min e₁ e₂).toNat = k₁ := by omega
  have hs₂ : (e₂ - min e₁ e₂).toNat = k₂ := by omega
  rw [UnpackedFloat.sub, decreaseExponent, decreaseExponent, hs₁, hs₂]
  dsimp only
  rw [Nat.shiftLeft_eq, Nat.shiftLeft_eq, apply_sub_apply s hd]
  split
  · next hzero =>
    rw [hzero]
    cases s <;> rfl
  · next hne => rw [normalize_apply s _ (Nat.pos_of_ne_zero hne)]

/-! ### The bound -/

theorem unpack_epsilon : epsilon.unpack = .finite .positive (2 ^ 52) (-104) (Nat.two_pow_pos 52) :=
  rfl

theorem le_epsilon_iff (f : Float.Model) :
    f ≤ epsilon ↔ f.unpack.le (.finite .positive (2 ^ 52) (-104) (Nat.two_pow_pos 52)) = true := by
  rw [← unpack_epsilon]
  rfl

/-- Where packing loses nothing, the bound can be applied to what is packed. -/
theorem abs_le_iff_of_unpack {f : UnpackedFloat} (hf : (Float.Model.pack f).unpack = f)
    (habs : (Float.Model.pack f.abs).unpack = f.abs) :
    (Float.Model.pack f).abs ≤ epsilon ↔
      f.abs.le (.finite .positive (2 ^ 52) (-104) (Nat.two_pow_pos 52)) = true := by
  rw [le_epsilon_iff, Float.Model.abs, hf, habs]

theorem not_abs_infinity_le (s : Sign) : ¬ (Float.Model.pack (.infinity s)).abs ≤ epsilon := by
  rw [abs_le_iff_of_unpack (unpack_pack_infinity s) (unpack_pack_infinity .positive),
    UnpackedFloat.abs]
  decide

theorem not_abs_notANumber_le : ¬ (Float.Model.pack .notANumber).abs ≤ epsilon := by
  rw [abs_le_iff_of_unpack unpack_pack_notANumber unpack_pack_notANumber]
  decide

theorem abs_zero_le (s : Sign) : (Float.Model.pack (.zero s)).abs ≤ epsilon := by
  rw [abs_le_iff_of_unpack (unpack_pack_zero s) (unpack_pack_zero .positive), UnpackedFloat.abs]
  decide

/-- Rounded numbers are compared by their exponents first. -/
theorem finite_le_iff (hr : 0 < r) :
    (UnpackedFloat.finite .positive r t hr).le
        (.finite .positive (2 ^ 52) (-104) (Nat.two_pow_pos 52)) = true
      ↔ t < -104 ∨ t = -104 ∧ r ≤ 2 ^ 52 := by
  show ((compare t (-104)).then (compare r (2 ^ 52))).isLE = true ↔ _
  rw [Ordering.isLE_then_iff_or, compare_lt_iff_lt, compare_eq_iff_eq, Nat.isLE_compare]

theorem IsRounded.mul_two_zpow_le_iff (h : IsRounded r t) :
    (r : ℚ) * 2 ^ t ≤ 1 / 2 ^ 52 ↔ t < -104 ∨ t = -104 ∧ r ≤ 2 ^ 52 := by
  have hlt : (r : ℚ) ≤ 2 ^ (53 : ℤ) := by exact_mod_cast h.lt.le
  have hbound : (1 : ℚ) / 2 ^ 52 = 2 ^ (-52 : ℤ) := by norm_num
  rw [hbound]
  -- A mantissa has at most fifty-three bits, and above the least exponent it has no fewer.
  rcases lt_trichotomy t (-104) with hless | rfl | hgreater
  · refine iff_of_true ?_ (.inl hless)
    calc (r : ℚ) * 2 ^ t ≤ 2 ^ (53 : ℤ) * 2 ^ t := mul_le_mul_of_nonneg_right hlt (by positivity)
      _ = 2 ^ (53 + t) := (zpow_add₀ two_ne_zero _ _).symm
      _ ≤ 2 ^ (-52 : ℤ) := zpow_le_zpow_right₀ one_le_two (by omega)
  · have hsplit : (2 : ℚ) ^ (-52 : ℤ) = (2 ^ 52 : ℕ) * 2 ^ (-104 : ℤ) := by norm_num
    rw [hsplit, mul_le_mul_iff_left₀ (by positivity), Nat.cast_le, or_iff_right (lt_irrefl _),
      eq_self, true_and]
  · refine iff_of_false (not_le.2 ?_) (by omega)
    have hfull : (2 : ℚ) ^ (52 : ℤ) ≤ r := by exact_mod_cast h.full.resolve_right (by omega)
    calc (2 : ℚ) ^ (-52 : ℤ) < 2 ^ (52 + t) := zpow_lt_zpow_right₀ one_lt_two (by omega)
      _ = 2 ^ (52 : ℤ) * 2 ^ t := zpow_add₀ two_ne_zero _ _
      _ ≤ r * 2 ^ t := mul_le_mul_of_nonneg_right hfull (by positivity)

/-- A number that needs no rounding is within the bound if its magnitude is. -/
theorem IsRounded.abs_pack_le_iff (h : IsRounded r t) (s : Sign) :
    (Float.Model.pack (.finite s r t h.pos)).abs ≤ epsilon ↔ (r : ℚ) * 2 ^ t ≤ 1 / 2 ^ 52 := by
  rw [h.mul_two_zpow_le_iff]
  have hunpack (s : Sign) := h.unpack_pack s
  by_cases hhigh : t ≤ 971
  · simp only [if_pos hhigh] at hunpack
    rw [abs_le_iff_of_unpack (hunpack s) (hunpack .positive), UnpackedFloat.abs, finite_le_iff]
  · -- It is packed as an infinity.
    simp only [if_neg hhigh] at hunpack
    refine iff_of_false ?_ (by omega)
    rw [le_epsilon_iff, Float.Model.abs, hunpack, UnpackedFloat.abs, unpack_pack_infinity]
    decide

/-- Rounding does not take a number across the bound if it is exact, or if the number is far
    beyond. -/
theorem abs_pack_round_le_iff {q : ℚ} (s : Sign) (hm : 0 < m) (hq : (m : ℚ) * 2 ^ e = q)
    (h : FitsMantissa q ∨ 1 ≤ q) :
    (Float.Model.pack (UnpackedFloat.round binary64 s m e)).abs ≤ epsilon ↔ q ≤ 1 / 2 ^ 52 := by
  subst hq
  rcases h with hfits | hone
  · obtain ⟨r, t, hr, heq⟩ := hfits.exists_isRounded (by positivity)
    rw [round_of_eq hr heq.symm, hr.abs_pack_le_iff, heq]
  · obtain ⟨r, t, hr, hround, ht⟩ := exists_round_of_one_le s hone
    rw [hround, hr.abs_pack_le_iff, hr.mul_two_zpow_le_iff]
    exact iff_of_false (by omega) (not_le.2 (tolerance_lt_one.trans_le hone))

/-! ### The outcome -/

/-- What lies beyond the integer part has no more bits than the double. -/
theorem fitsMantissa_rest (x : Binary64) : FitsMantissa (x.magnitude - x.wholePart) := by
  by_cases h : 0 ≤ x.exponent
  · exact ⟨0, 0, by rw [magnitude_sub_wholePart_of_nonneg h, Nat.cast_zero, zero_mul],
      by norm_num, by norm_num⟩
  · obtain ⟨n, hn⟩ : ∃ n : ℕ, x.exponent = -n := ⟨(-x.exponent).toNat, by omega⟩
    have hn' : (-x.exponent).toNat = n := by omega
    refine ⟨x.significand % 2 ^ n, x.exponent, ?_, (Nat.mod_le _ _).trans_lt x.significand_lt,
      by rw [exponent]; omega⟩
    rw [magnitude_sub_wholePart_of_neg (by omega), hn', hn, zpow_neg, zpow_natCast, div_eq_mul_inv]
    push_cast
    rfl

theorem one_le_of_wholePart_gt (h : 2 ^ 63 < x.wholePart) : 1 ≤ x.magnitude - x.clampedPart := by
  have hle := x.wholePart_le_magnitude
  have hwhole : (2 : ℚ) ^ 63 + 1 ≤ x.wholePart := by exact_mod_cast h
  rw [clampedPart, min_eq_right h.le]
  push_cast
  linarith

/-- **The difference.** It is within the bound if the exact one is. -/
theorem abs_difference_le_iff (hfinite : x.isFinite = true) :
    (x.toModel - .ofInt64 (.ofIntClamp x.truncate)).abs ≤ epsilon
      ↔ x.magnitude - x.clampedPart ≤ 1 / 2 ^ 52 := by
  rw [sub_eq]
  by_cases hsignificand : 0 < x.significand
  · rw [unpack_toModel hfinite hsignificand]
    by_cases hwhole : 0 < x.wholePart
    · obtain ⟨r, t, hr, hclamped, hunpack⟩ := exists_unpack_ofInt64 hwhole
      obtain ⟨d, e, hd, hsub⟩ := exists_sub_eq x.sign hsignificand hr.pos
        (by rw [hclamped]; exact x.clampedPart_le_magnitude)
      rw [hclamped, ← magnitude] at hd
      rw [hunpack, hsub]
      split
      · next hzero =>
        rw [← hd, hzero, Nat.cast_zero, zero_mul]
        exact iff_of_true (abs_zero_le _) (by positivity)
      · next hne =>
        -- Up to `2 ^ 63` the rest is exact, and beyond that it is at least one.
        refine abs_pack_round_le_iff x.sign (Nat.pos_of_ne_zero hne) hd ?_
        rcases le_or_gt x.wholePart (2 ^ 63) with hsmall | hlarge
        · rw [clampedPart, min_eq_left hsmall]
          exact .inl x.fitsMantissa_rest
        · exact .inr (one_le_of_wholePart_gt hlarge)
    · have hzero : x.wholePart = 0 := by omega
      rw [unpack_ofInt64_of_zero hzero, clampedPart, hzero, Nat.zero_min, Nat.cast_zero, sub_zero]
      exact (isRounded_significand hsignificand).abs_pack_le_iff x.sign
  · have hzero : x.significand = 0 := by omega
    rw [unpack_toModel_of_zero hzero, unpack_ofInt64_of_zero (wholePart_of_zero hzero), clampedPart,
      magnitude_of_zero hzero, wholePart_of_zero hzero, Nat.zero_min, Nat.cast_zero, sub_zero]
    refine iff_of_true ?_ (by positivity)
    cases x.sign <;> exact abs_zero_le _

theorem castInteger?_of_not_isFinite (h : x.isFinite = false) : x.castInteger? = none := by
  rw [castInteger?]
  refine if_neg ?_
  rw [sub_eq, Float.Model.toInt64]
  -- An infinity is still one when any int64 is taken from it.
  rcases unpack_toModel_of_not_isFinite h with hinfinity | hnan
  · rw [hinfinity]
    cases x.sign with
    | negative =>
      have hcast : UnpackedFloat.toInt64 (.infinity .negative) = Int64.minValue := rfl
      rw [hcast, unpack_ofInt64_minValue]
      exact not_abs_infinity_le _
    | positive =>
      have hcast : UnpackedFloat.toInt64 (.infinity .positive) = Int64.maxValue := rfl
      rw [hcast, unpack_ofInt64_maxValue]
      exact not_abs_infinity_le _
  · rw [hnan]
    exact not_abs_notANumber_le

/-- **The integer of a double.** The arithmetic yields the integer that is told in exact numbers. -/
theorem castInteger?_eq_nearInteger? (x : Binary64) : x.castInteger? = x.nearInteger? := by
  cases hfinite : x.isFinite with
  | false =>
    rw [castInteger?_of_not_isFinite hfinite, nearInteger?, hfinite, Bool.false_and,
      if_neg Bool.false_ne_true]
  | true =>
    have htruncate : x.truncate = x.wholePart ∨ x.truncate = -x.wholePart := by
      rw [truncate]
      cases x.isNegative with
      | false => exact .inl rfl
      | true => exact .inr rfl
    have hiff := abs_difference_le_iff hfinite
    rw [castInteger?, nearInteger?, hfinite, Bool.true_and, toInt64_toModel hfinite]
    rcases le_or_gt x.wholePart (2 ^ 63) with hsmall | hlarge
    · have hrange : -0x8000000000000000 ≤ x.truncate ∧ x.truncate ≤ 0x8000000000000000 := by omega
      have hcast : Int64.ofIntClamp x.truncate
          = Int64.ofInt (min x.truncate 0x7fffffffffffffff) := by
        rw [← Int64.toInt_inj, toInt_ofIntClamp, Int64.toInt_ofInt_of_le (by omega) (by omega)]
        omega
      rw [clampedPart, min_eq_left hsmall, ← isNearlyWhole_iff] at hiff
      rw [if_pos hrange, ← hcast]
      exact if_congr hiff rfl rfl
    · have hrange : ¬ (-0x8000000000000000 ≤ x.truncate ∧ x.truncate ≤ 0x8000000000000000) := by
        omega
      have hfar := tolerance_lt_one.trans_le (one_le_of_wholePart_gt hlarge)
      rw [if_neg (hiff.not.2 (not_le.2 hfar)), if_neg hrange, ite_self]

end Binary64

end WritePath
