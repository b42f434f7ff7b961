import Mathlib

namespace WritePath

/-!
# Rounding to doubles

The logical model of floating-point numbers computes on a sign, a mantissa and an exponent, rounds
the outcome to fifty-three bits and packs it into a word. Here is what rounding and packing do to
numbers of which the exact value is known.

* `Binary64.IsRounded` — the mantissas and exponents that are left as they are;
  `Binary64.FitsMantissa` — the magnitudes that have such ones.
* `Binary64.round_of_eq` — a number that needs no rounding is itself.
* `Binary64.exists_round_of_one_le` — a number from one on is not rounded to one much smaller.
* `Binary64.unpack_normal` and its siblings — what a word is, by its fields.
* `Binary64.IsRounded.unpack_pack` — what is packed comes out again, unless it is too great.
-/

namespace Binary64

open Float.Model (Format UnpackedFloat totalExponent)
open Float.Model.Format (binary64)
open Float.Model.UnpackedFloat (Sign Accuracy ExtendedMantissa shiftToExponent
  shiftToTargetExponent roundWithAccuracy decreaseExponent packComponents packedInfinity unpackSign
  unpackExponent unpackMantissa)

variable {s : Sign} {m r k : ℕ} {e t : ℤ}

/-! ### Mantissas and exponents -/

theorem log2_mul_two_pow (hm : 0 < m) (k : ℕ) : (m * 2 ^ k).log2 = m.log2 + k := by
  induction k with
  | zero => rw [pow_zero, mul_one, add_zero]
  | succ k ih =>
    have hpos : m * 2 ^ k ≠ 0 := by positivity
    have hstep : m * 2 ^ (k + 1) = 2 * (m * 2 ^ k) := by ring
    rw [hstep, Nat.log2_two_mul hpos, ih, add_assoc]

/-- A shift of the mantissa is made up for by the exponent. -/
theorem mul_two_zpow_eq (m k : ℕ) (e : ℤ) : ((m * 2 ^ k : ℕ) : ℚ) * 2 ^ (e - k) = m * 2 ^ e := by
  rw [zpow_sub₀ two_ne_zero, zpow_natCast]
  push_cast
  rw [mul_assoc, mul_div_cancel₀ _ (by positivity)]

theorem exists_shift_of_le (hle : e ≤ t) (heq : (m : ℚ) * 2 ^ e = r * 2 ^ t) :
    ∃ k : ℕ, m = r * 2 ^ k ∧ e = t - k := by
  refine ⟨(t - e).toNat, ?_, by omega⟩
  have he : e = t - ((t - e).toNat : ℕ) := by omega
  rw [← mul_two_zpow_eq r (t - e).toNat t, ← he] at heq
  exact_mod_cast mul_right_cancel₀ (by positivity) heq

/-- Two ways to write one number differ by a shift. -/
theorem exists_shift_of_eq (heq : (m : ℚ) * 2 ^ e = r * 2 ^ t) :
    ∃ k : ℕ, m = r * 2 ^ k ∧ e = t - k ∨ r = m * 2 ^ k ∧ t = e - k := by
  rcases le_total e t with hle | hle
  · obtain ⟨k, hk⟩ := exists_shift_of_le hle heq
    exact ⟨k, .inl hk⟩
  · obtain ⟨k, hk⟩ := exists_shift_of_le hle heq.symm
    exact ⟨k, .inr hk⟩

/-- A mantissa and an exponent that are left as they are: the mantissa has fifty-three bits, or
    fewer where the exponent is the least one. -/
structure IsRounded (m : ℕ) (e : ℤ) : Prop where
  pos : 0 < m
  lt : m < 2 ^ 53
  low : -1074 ≤ e
  full : 2 ^ 52 ≤ m ∨ e = -1074

/-- The exponent to which a mantissa with an exponent is rounded. -/
def unitExponent (m : ℕ) (e : ℤ) : ℤ :=
  max (m.log2 + e - 52) (-1074)

theorem targetExponent_eq (m : ℕ) (e : ℤ) :
    binary64.targetExponent (totalExponent m e) = unitExponent m e := by
  have hmin : binary64.minExponent = -1074 := rfl
  have hbits : binary64.mantissaBits = 53 := rfl
  rw [Format.targetExponent, totalExponent, hmin, hbits, unitExponent]
  omega

/-- It does not depend on how the number is written. -/
theorem unitExponent_mul_two_pow (hm : 0 < m) (k : ℕ) (e : ℤ) :
    unitExponent (m * 2 ^ k) (e - k) = unitExponent m e := by
  rw [unitExponent, unitExponent, log2_mul_two_pow hm]
  omega

theorem IsRounded.unitExponent_eq (h : IsRounded m e) : unitExponent m e = e := by
  have hlow := h.low
  have hlog : m.log2 < 53 := (Nat.log2_lt h.pos.ne').2 h.lt
  rw [unitExponent]
  rcases h.full with hfull | hleast
  · have hlog' : 52 ≤ m.log2 := (Nat.le_log2 h.pos.ne').2 hfull
    omega
  · omega

/-- The magnitudes that a mantissa of at most fifty-three bits is enough for. -/
def FitsMantissa (q : ℚ) : Prop :=
  ∃ m : ℕ, ∃ e : ℤ, q = m * 2 ^ e ∧ m < 2 ^ 53 ∧ -1074 ≤ e

/-- Such a mantissa can be filled up. -/
theorem FitsMantissa.exists_isRounded {q : ℚ} (h : FitsMantissa q) (hq : 0 < q) :
    ∃ r t, IsRounded r t ∧ (r : ℚ) * 2 ^ t = q := by
  obtain ⟨m, e, rfl, hlt, hlow⟩ := h
  have hm : 0 < m := by
    rw [Nat.pos_iff_ne_zero]
    rintro rfl
    rw [Nat.cast_zero, zero_mul] at hq
    exact hq.false
  have hlog : m.log2 < 53 := (Nat.log2_lt hm.ne').2 hlt
  obtain ⟨k, hk⟩ : ∃ k : ℕ, unitExponent m e = e - k :=
    ⟨(e - unitExponent m e).toNat, by rw [unitExponent]; omega⟩
  rw [unitExponent] at hk
  refine ⟨m * 2 ^ k, e - k, ⟨by positivity, ?_, by omega, ?_⟩, mul_two_zpow_eq m k e⟩
  · rw [← Nat.log2_lt (by positivity), log2_mul_two_pow hm]
    omega
  · rw [← Nat.le_log2 (by positivity), log2_mul_two_pow hm]
    omega

/-! ### Shifts -/

theorem mantissa_shiftRight (em : ExtendedMantissa) (n : ℕ) :
    (em >>> n).mantissa = em.mantissa / 2 ^ n := by
  induction n with
  | zero => exact (Nat.div_one _).symm
  | succ n ih =>
    show (em >>> n).mantissa / 2 = _
    rw [ih, Nat.div_div_eq_div_mul, ← pow_succ]

/-- Bits that are not set are dropped without loss. -/
theorem shiftRight_mul_two_pow (m n : ℕ) :
    (ExtendedMantissa.mk (m * 2 ^ n) false false) >>> n = ⟨m, false, false⟩ := by
  induction n generalizing m with
  | zero => rw [pow_zero, mul_one]; rfl
  | succ n ih =>
    have hstep : m * 2 ^ (n + 1) = (2 * m) * 2 ^ n := by ring
    show ((ExtendedMantissa.mk (m * 2 ^ (n + 1)) false false) >>> n).shiftRightOne = _
    rw [hstep, ih, ExtendedMantissa.shiftRightOne, Nat.mul_div_cancel_left m two_pos,
      Nat.mul_mod_right]
    rfl

/-- Rounding leaves a mantissa as it is or takes the next one. -/
theorem roundToNearestEven_bounds (m : ℕ) (a : Accuracy) :
    m ≤ a.roundToNearestEven m ∧ a.roundToNearestEven m ≤ m + 1 := by
  cases a with
  | exact => exact ⟨le_rfl, Nat.le_succ m⟩
  | inexact position =>
    cases position with
    | lt => exact ⟨le_rfl, Nat.le_succ m⟩
    | eq =>
      show m ≤ m + m % 2 ∧ m + m % 2 ≤ m + 1
      omega
    | gt => exact ⟨Nat.le_succ m, le_rfl⟩

theorem shiftToTargetExponent_eq (h : e ≤ unitExponent m e) :
    shiftToTargetExponent binary64 m e .exact
      = ((ExtendedMantissa.mk m false false) >>> (unitExponent m e - e).toNat,
        unitExponent m e) := by
  have hsum : e + ((unitExponent m e - e).toNat : ℤ) = unitExponent m e := by omega
  rw [shiftToTargetExponent, targetExponent_eq, shiftToExponent, hsum]
  rfl

theorem IsRounded.shift_mul (h : IsRounded r t) (k : ℕ) :
    shiftToTargetExponent binary64 (r * 2 ^ k) (t - k) .exact = (⟨r, false, false⟩, t) := by
  have hunit : unitExponent (r * 2 ^ k) (t - k) = t := by
    rw [unitExponent_mul_two_pow h.pos, h.unitExponent_eq]
  have hk : (t - (t - k)).toNat = k := by omega
  rw [shiftToTargetExponent_eq (by omega), hunit, hk, shiftRight_mul_two_pow]

theorem IsRounded.shift_self (h : IsRounded r t) :
    shiftToTargetExponent binary64 r t .exact = (⟨r, false, false⟩, t) := by
  have hmul := h.shift_mul 0
  rwa [pow_zero, mul_one, Nat.cast_zero, sub_zero] at hmul

/-! ### Rounding -/

/-- There are two shifts: the first one drops bits, and the second one is for a mantissa that gets
    too long when it is rounded up. -/
theorem roundWithAccuracy_eq {em : ExtendedMantissa} {e' : ℤ}
    (hfirst : shiftToTargetExponent binary64 m e .exact = (em, e'))
    (hsecond : shiftToTargetExponent binary64 em.roundedMantissa e' .exact
      = (⟨r, false, false⟩, t)) (hr : 0 < r) :
    roundWithAccuracy binary64 s m e .exact = .finite s r t hr := by
  rw [roundWithAccuracy, hfirst]
  dsimp only
  rw [hsecond]
  exact dif_neg hr.ne'

theorem IsRounded.roundWithAccuracy_mul (h : IsRounded r t) (s : Sign) (k : ℕ) :
    roundWithAccuracy binary64 s (r * 2 ^ k) (t - k) .exact = .finite s r t h.pos :=
  roundWithAccuracy_eq (h.shift_mul k) h.shift_self h.pos

/-- Before all that, a mantissa that is too short is made longer. -/
theorem round_eq (s : Sign) (m : ℕ) (e : ℤ) :
    UnpackedFloat.round binary64 s m e = roundWithAccuracy binary64 s
      (m * 2 ^ (e - unitExponent m e).toNat) (e - (e - unitExponent m e).toNat) .exact := by
  rw [UnpackedFloat.round, targetExponent_eq, decreaseExponent]
  dsimp only
  rw [Nat.shiftLeft_eq]

theorem round_of_le (h : e ≤ unitExponent m e) :
    UnpackedFloat.round binary64 s m e = roundWithAccuracy binary64 s m e .exact := by
  have hzero : (e - unitExponent m e).toNat = 0 := by omega
  rw [round_eq, hzero, pow_zero, mul_one, Nat.cast_zero, sub_zero]

/-- **Exact numbers.** A number that has a mantissa and an exponent of a double is rounded to just
    these, however it is written. -/
theorem round_of_eq (h : IsRounded r t) (heq : (m : ℚ) * 2 ^ e = r * 2 ^ t) :
    UnpackedFloat.round binary64 s m e = .finite s r t h.pos := by
  -- Either the mantissa is too long, by bits that are not set, or it is too short.
  obtain ⟨k, ⟨rfl, rfl⟩ | ⟨rfl, rfl⟩⟩ := exists_shift_of_eq heq
  · have hunit : unitExponent (r * 2 ^ k) (t - k) = t := by
      rw [unitExponent_mul_two_pow h.pos, h.unitExponent_eq]
    rw [round_of_le (by omega), h.roundWithAccuracy_mul]
  · have hm : 0 < m := Nat.pos_of_mul_pos_right h.pos
    have hunit : unitExponent m e = e - k := by
      rw [← unitExponent_mul_two_pow hm k, h.unitExponent_eq]
    have hk : (e - unitExponent m e).toNat = k := by omega
    rw [round_eq, hk]
    exact roundWithAccuracy_eq h.shift_self h.shift_self h.pos

theorem log2_add_nonneg (h : (1 : ℚ) ≤ m * 2 ^ e) : 0 ≤ m.log2 + e := by
  by_contra hneg
  have hm : (m : ℚ) < 2 ^ ((m.log2 : ℤ) + 1) := by exact_mod_cast Nat.lt_log2_self
  have hlt : (m : ℚ) * 2 ^ e < 1 := calc
    (m : ℚ) * 2 ^ e < 2 ^ ((m.log2 : ℤ) + 1) * 2 ^ e :=
      mul_lt_mul_of_pos_right hm (by positivity)
    _ = 2 ^ ((m.log2 : ℤ) + 1 + e) := (zpow_add₀ two_ne_zero _ _).symm
    _ ≤ 1 := zpow_le_one_of_nonpos₀ one_le_two (by omega)
  linarith

/-- A mantissa of at least fifty-three bits keeps so many of them, and does not shrink by being
    rounded. -/
theorem exists_roundWithAccuracy_of_log2 (s : Sign) {n : ℕ} (hlog : m.log2 = n + 52)
    (hlow : -1074 ≤ e + n) :
    ∃ r t, ∃ hr : IsRounded r t,
      roundWithAccuracy binary64 s m e .exact = .finite s r t hr.pos ∧ e + n ≤ t := by
  have hm : m ≠ 0 := by
    rintro rfl
    simp at hlog
  have hunit : unitExponent m e = e + n := by
    rw [unitExponent]
    omega
  -- The first shift leaves just fifty-three bits.
  obtain ⟨em, hem⟩ : ∃ em, em = (ExtendedMantissa.mk m false false) >>> n := ⟨_, rfl⟩
  have hfirst : shiftToTargetExponent binary64 m e .exact = (em, e + n) := by
    have hn : (e + n - e).toNat = n := by omega
    rw [shiftToTargetExponent_eq (by omega), hunit, hn, hem]
  have hmantissa : em.mantissa = m / 2 ^ n := by rw [hem, mantissa_shiftRight]
  have hge : 2 ^ 52 ≤ em.mantissa := by
    rw [hmantissa, Nat.le_div_iff_mul_le (by positivity), ← pow_add, ← Nat.le_log2 hm]
    omega
  have hlt : em.mantissa < 2 ^ 53 := by
    rw [hmantissa, Nat.div_lt_iff_lt_mul (by positivity), ← pow_add, ← Nat.log2_lt hm]
    omega
  have hbounds : em.mantissa ≤ em.roundedMantissa ∧ em.roundedMantissa ≤ em.mantissa + 1 :=
    roundToNearestEven_bounds em.mantissa em.accuracy
  rcases Nat.lt_or_ge em.roundedMantissa (2 ^ 53) with h | h
  · have hr : IsRounded em.roundedMantissa (e + n) := ⟨by omega, h, hlow, .inl (by omega)⟩
    exact ⟨_, _, hr, roundWithAccuracy_eq hfirst hr.shift_self hr.pos, le_rfl⟩
  · -- It is rounded up to the next power of two, which has one bit more.
    have hr : IsRounded (2 ^ 52) (e + n + 1) := ⟨by norm_num, by norm_num, by omega, .inl le_rfl⟩
    have hsecond := hr.shift_mul 1
    have hpower : em.roundedMantissa = 2 ^ 52 * 2 ^ 1 := by omega
    rw [Nat.cast_one, add_sub_cancel_right, ← hpower] at hsecond
    exact ⟨_, _, hr, roundWithAccuracy_eq hfirst hsecond hr.pos, by omega⟩

/-- **Numbers from one on.** They are rounded to multiples of `2 ^ (-52)`. -/
theorem exists_round_of_one_le (s : Sign) (h : (1 : ℚ) ≤ m * 2 ^ e) :
    ∃ r t, ∃ hr : IsRounded r t,
      UnpackedFloat.round binary64 s m e = .finite s r t hr.pos ∧ -52 ≤ t := by
  have hlog := log2_add_nonneg h
  have hm : 0 < m := by
    rw [Nat.pos_iff_ne_zero]
    rintro rfl
    rw [Nat.cast_zero, zero_mul] at h
    linarith
  obtain ⟨k, hk⟩ : ∃ k, k = (e - unitExponent m e).toNat := ⟨_, rfl⟩
  rw [round_eq, ← hk]
  rw [unitExponent] at hk
  have hlog' : (m * 2 ^ k).log2 = m.log2 + k := log2_mul_two_pow hm k
  obtain ⟨r, t, hr, hround, hle⟩ := exists_roundWithAccuracy_of_log2 s (m := m * 2 ^ k)
    (e := e - k) (n := m.log2 + k - 52) (by omega) (by omega)
  exact ⟨r, t, hr, hround, by omega⟩

/-! ### Words by their fields -/

section Fields

variable {b : BitVec binary64.numBits}

theorem unpackExponent_ne (he : (unpackExponent b).toNat < 2047) : unpackExponent b ≠ -1#_ := by
  intro h
  rw [h] at he
  revert he
  decide

theorem unpack_infinity (he : (unpackExponent b).toNat = 2047)
    (hm : (unpackMantissa b).toNat = 0) :
    UnpackedFloat.unpack binary64 b = .infinity (.ofBitVec (unpackSign b)) := by
  have he' : unpackExponent b = -1#_ := BitVec.eq_of_toNat_eq he
  have hm' : unpackMantissa b = 0#_ := BitVec.eq_of_toNat_eq hm
  unfold UnpackedFloat.unpack
  dsimp only
  rw [if_pos he', if_pos hm']

theorem unpack_notANumber (he : (unpackExponent b).toNat = 2047)
    (hm : (unpackMantissa b).toNat ≠ 0) : UnpackedFloat.unpack binary64 b = .notANumber := by
  have he' : unpackExponent b = -1#_ := BitVec.eq_of_toNat_eq he
  have hm' : unpackMantissa b ≠ 0#_ := fun h => hm (congrArg BitVec.toNat h)
  unfold UnpackedFloat.unpack
  dsimp only
  rw [if_pos he', if_neg hm']

theorem unpack_zero (he : (unpackExponent b).toNat = 0) (hm : (unpackMantissa b).toNat = 0) :
    UnpackedFloat.unpack binary64 b = .zero (.ofBitVec (unpackSign b)) := by
  have hne := unpackExponent_ne (he.trans_lt (by norm_num))
  have he' : unpackExponent b = 0#_ := BitVec.eq_of_toNat_eq he
  have hm' : unpackMantissa b = 0#_ := BitVec.eq_of_toNat_eq hm
  unfold UnpackedFloat.unpack
  dsimp only
  rw [if_neg hne, if_pos he', dif_pos hm']

theorem unpack_subnormal (he : (unpackExponent b).toNat = 0)
    (hm : (unpackMantissa b).toNat = r) (hr : 0 < r) :
    UnpackedFloat.unpack binary64 b = .finite (.ofBitVec (unpackSign b)) r (-1074) hr := by
  subst hm
  have hne := unpackExponent_ne (he.trans_lt (by norm_num))
  have he' : unpackExponent b = 0#_ := BitVec.eq_of_toNat_eq he
  have hm' : unpackMantissa b ≠ 0#_ := fun h => hr.ne' (congrArg BitVec.toNat h)
  unfold UnpackedFloat.unpack
  dsimp only
  rw [if_neg hne, if_pos he', dif_neg hm', he']
  rfl

/-- The first bit of the mantissa is not kept in the word. -/
theorem toNat_append_one (v : BitVec 52) : (1#1 ++ v).toNat = 2 ^ 52 + v.toNat := by
  have hone : 2 ^ 52 * (1#1).toNat = 2 ^ 52 := rfl
  rw [BitVec.toNat_append, Nat.shiftLeft_eq, Nat.mul_comm, ← Nat.two_pow_add_eq_or_of_lt v.isLt,
    hone]

theorem unpack_normal {e : ℕ} (he : (unpackExponent b).toNat = e) (hpos : 0 < e) (hlt : e < 2047)
    (hm : 2 ^ 52 + (unpackMantissa b).toNat = r) (hr : 0 < r) :
    UnpackedFloat.unpack binary64 b = .finite (.ofBitVec (unpackSign b)) r (e - 1075) hr := by
  subst hm he
  have hne := unpackExponent_ne hlt
  have he' : unpackExponent b ≠ 0#_ := fun h => hpos.ne' (congrArg BitVec.toNat h)
  have hbias : ((binary64.exponentBias : ℕ) : ℤ) + (binary64.mantissaBitsWithoutImplicit : ℕ)
      = 1075 := rfl
  unfold UnpackedFloat.unpack
  dsimp only
  rw [if_neg hne, if_neg he']
  simp only [toNat_append_one, hbias]

end Fields

/-! ### Packing -/

theorem unpack_pack (f : UnpackedFloat) :
    (Float.Model.pack f).unpack = UnpackedFloat.unpack binary64 (UnpackedFloat.pack binary64 f) :=
  rfl

theorem unpack_packedInfinity (s : Sign) :
    UnpackedFloat.unpack binary64 (packedInfinity binary64 s) = .infinity s := by
  simp [UnpackedFloat.unpack, packedInfinity]

theorem unpack_pack_infinity (s : Sign) :
    (Float.Model.pack (.infinity s)).unpack = .infinity s :=
  unpack_packedInfinity s

theorem unpack_pack_zero (s : Sign) : (Float.Model.pack (.zero s)).unpack = .zero s :=
  UnpackedFloat.unpack_packedZero

theorem unpack_pack_notANumber : (Float.Model.pack .notANumber).unpack = .notANumber :=
  UnpackedFloat.unpack_packedNaN

theorem biasedExponent_eq (e : ℕ) :
    ((e : ℤ) - 1075 + (binary64.exponentBias : ℕ)
      + (binary64.mantissaBitsWithoutImplicit : ℕ)).toNat = e := by
  have hbias : ((binary64.exponentBias : ℕ) : ℤ) = 1023 := rfl
  have hwidth : ((binary64.mantissaBitsWithoutImplicit : ℕ) : ℤ) = 52 := rfl
  rw [hbias, hwidth]
  omega

theorem pack_of_overflow {e : ℕ} (he : 2047 ≤ e) (hr : 0 < r) :
    UnpackedFloat.pack binary64 (.finite s r (e - 1075) hr) = packedInfinity binary64 s := by
  have hover : 2 ^ 11 ≤ e + 1 := by omega
  rw [UnpackedFloat.pack, biasedExponent_eq, if_pos hover]

theorem pack_normal {e : ℕ} (he : e < 2047) (hlow : 2 ^ 52 ≤ r) (hlt : r < 2 ^ 53) (hr : 0 < r) :
    UnpackedFloat.pack binary64 (.finite s r (e - 1075) hr)
      = packComponents binary64 s (BitVec.ofNat _ e) (BitVec.ofNat _ r) := by
  have hover : ¬ 2 ^ 11 ≤ e + 1 := by omega
  have hbits : binary64.mantissaBits = 53 := rfl
  have hlog : r.log2 + 1 = binary64.mantissaBits := by
    have hge := (Nat.le_log2 hr.ne').2 hlow
    have hle := (Nat.log2_lt hr.ne').2 hlt
    omega
  rw [UnpackedFloat.pack, biasedExponent_eq, if_neg hover, if_pos hlog]

theorem pack_subnormal (hlt : r < 2 ^ 52) (hr : 0 < r) :
    UnpackedFloat.pack binary64 (.finite s r (-1074) hr)
      = packComponents binary64 s 0#_ (BitVec.ofNat _ r) := by
  have hbits : binary64.mantissaBits = 53 := rfl
  have hlog : r.log2 + 1 ≠ binary64.mantissaBits := by
    have hle := (Nat.log2_lt hr.ne').2 hlt
    omega
  have he : (-1074 : ℤ) = (1 : ℕ) - 1075 := by norm_num
  rw [UnpackedFloat.pack, he, biasedExponent_eq, if_neg (by decide), if_neg hlog]

/-- **Packing.** What needs no rounding is kept, up to the greatest exponent there is. -/
theorem IsRounded.unpack_pack (h : IsRounded r t) (s : Sign) :
    (Float.Model.pack (.finite s r t h.pos)).unpack
      = if t ≤ 971 then .finite s r t h.pos else .infinity s := by
  have hlow := h.low
  have hlt := h.lt
  rw [Binary64.unpack_pack]
  -- A mantissa that is not full goes with the least exponent, of which the word holds no bits.
  by_cases hfull : 2 ^ 52 ≤ r
  · obtain ⟨e, rfl⟩ : ∃ e : ℕ, t = e - 1075 := ⟨(t + 1075).toNat, by omega⟩
    by_cases hhigh : (e : ℤ) - 1075 ≤ 971
    · rw [if_pos hhigh, pack_normal (by omega) hfull hlt, unpack_normal (e := e) (r := r),
        UnpackedFloat.unpackSign_packComponents, Sign.ofBitVec_toBitVec]
      · rw [UnpackedFloat.unpackExponent_packComponents, BitVec.toNat_ofNat]
        exact Nat.mod_eq_of_lt (show e < 2 ^ 11 by omega)
      · omega
      · omega
      · rw [UnpackedFloat.unpackMantissa_packComponents, BitVec.toNat_ofNat]
        show 2 ^ 52 + r % 2 ^ 52 = r
        omega
    · rw [if_neg hhigh, pack_of_overflow (by omega), unpack_packedInfinity]
  · obtain rfl : t = -1074 := h.full.resolve_left hfull
    rw [if_pos (by norm_num), pack_subnormal (by omega), unpack_subnormal (r := r),
      UnpackedFloat.unpackSign_packComponents, Sign.ofBitVec_toBitVec]
    · rw [UnpackedFloat.unpackExponent_packComponents]
      rfl
    · rw [UnpackedFloat.unpackMantissa_packComponents, BitVec.toNat_ofNat]
      exact Nat.mod_eq_of_lt (show r < 2 ^ 52 by omega)

end Binary64

end WritePath
