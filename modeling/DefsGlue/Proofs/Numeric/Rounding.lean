import DefsGlue.Proofs.Numeric.Grid
import DefsGlue.Proofs.Numeric.Worth

/-! The double of a decimal is the correctly rounded one: the nearest finite double, the even one of
two, or infinity from the middle between the largest finite double and the next power of two on. -/
namespace DefsGlue.Binary64

open Decimal (size)

def negative (x : Binary64) : Bool := decide (2 ^ 63 ≤ x.bits.toNat)

def exponent (x : Binary64) : Nat := x.bits.toNat / 2 ^ 52 % 2 ^ 11

def fraction (x : Binary64) : Nat := x.bits.toNat % 2 ^ 52

def IsFinite (x : Binary64) : Prop := x.exponent ≠ 2047

def IsInfinite (x : Binary64) : Prop := x.exponent = 2047 ∧ x.fraction = 0

def IsNaN (x : Binary64) : Prop := x.exponent = 2047 ∧ x.fraction ≠ 0

/-- The leading one is not among the bits; a subnormal number has none. -/
def significand (x : Binary64) : Nat :=
  if x.exponent = 0 then x.fraction else 2 ^ 52 + x.fraction

def signed (negative : Bool) (q : ℚ) : ℚ := if negative then -q else q

/-- The number that a finite double stands for. -/
def value (x : Binary64) : ℚ :=
  signed x.negative (x.significand * 2 ^ ((max x.exponent 1 : ℤ) - 1075))

/-- Of the finite doubles `x` is nearest to `q`; if another number is as near, its significand is
even. -/
structure NearestFinite (q : ℚ) (x : Binary64) : Prop where
  finite : x.IsFinite
  le : ∀ y : Binary64, y.IsFinite → |x.value - q| ≤ |y.value - q|
  even : ∀ y : Binary64, y.IsFinite → y.value ≠ x.value → |y.value - q| = |x.value - q| →
    x.significand % 2 = 0

/-- The double that stands for a number of the given sign and size. A zero has a sign as well. -/
structure RoundsTo (negative : Bool) (q : ℚ) (x : Binary64) : Prop where
  sign : x.negative = negative
  infinite : 2 ^ 1024 - 2 ^ 970 ≤ q → x.IsInfinite
  nearest : q < 2 ^ 1024 - 2 ^ 970 → NearestFinite (signed negative q) x

/-- All bits but the sign. -/
def magnitude (x : Binary64) : Nat := x.bits.toNat % 2 ^ 63

variable {x y : Binary64} {q : ℚ} {negative : Bool} {k : Nat}

theorem infinityBits_eq : infinityBits = 2047 * 2 ^ 52 := rfl

theorem infinityBits_lt : infinityBits < 2 ^ 63 := by decide

theorem isFinite_iff : x.IsFinite ↔ x.magnitude < infinityBits := by
  rw [infinityBits_eq, IsFinite, exponent, magnitude]
  omega

theorem isInfinite_iff : x.IsInfinite ↔ x.magnitude = infinityBits := by
  rw [infinityBits_eq, IsInfinite, exponent, fraction, magnitude]
  omega

theorem significand_parity (x : Binary64) : x.significand % 2 = x.magnitude % 2 := by
  rw [significand, fraction, magnitude]
  split <;> omega

theorem eq_of_magnitude (hn : x.negative = y.negative) (hm : x.magnitude = y.magnitude) :
    x = y := by
  obtain ⟨a⟩ := x
  obtain ⟨b⟩ := y
  have ha := a.toNat_lt
  have hb := b.toNat_lt
  simp only [DefsGlue.Binary64.negative, magnitude, decide_eq_decide] at hn hm
  congr
  exact UInt64.toNat_inj.mp (by omega)

theorem toNat_ofNat (hk : k < 2 ^ 63) (negative : Bool) :
    (UInt64.ofNat ((if negative then 2 ^ 63 else 0) + k)).toNat =
      (if negative then 2 ^ 63 else 0) + k := by
  apply UInt64.toNat_ofNat_of_lt'
  change _ < 2 ^ 64
  split <;> omega

theorem negative_ofNat (hk : k < 2 ^ 63) (negative : Bool) :
    (⟨UInt64.ofNat ((if negative then 2 ^ 63 else 0) + k)⟩ : Binary64).negative = negative := by
  rw [DefsGlue.Binary64.negative, toNat_ofNat hk]
  cases negative
  · simpa using hk
  · simp

theorem magnitude_ofNat (hk : k < 2 ^ 63) (negative : Bool) :
    (⟨UInt64.ofNat ((if negative then 2 ^ 63 else 0) + k)⟩ : Binary64).magnitude = k := by
  rw [magnitude, toNat_ofNat hk]
  split <;> omega

theorem units_magnitude (x : Binary64) :
    units x.magnitude = x.significand * 2 ^ (max x.exponent 1 - 1) := by
  have hexp : x.magnitude / 2 ^ 52 = x.exponent := by
    rw [magnitude, exponent]
    omega
  have hfrac : x.magnitude % 2 ^ 52 = x.fraction := by
    rw [magnitude, fraction]
    omega
  rw [units, significand, hexp, hfrac]
  by_cases hzero : x.exponent = 0
  · rw [if_pos (by omega), if_pos hzero, hzero, Nat.max_eq_right (by omega), Nat.sub_self, pow_zero]
    omega
  · rw [if_neg (by omega), if_neg hzero, Nat.max_eq_left (by omega)]

theorem value_eq (x : Binary64) : x.value = signed x.negative (units x.magnitude / 2 ^ 1074) := by
  have hexp : (max x.exponent 1 : ℤ) - 1075 = (max x.exponent 1 - 1 : Nat) - (1074 : Nat) := by
    omega
  rw [value, hexp, zpow_sub₀ two_ne_zero, zpow_natCast, zpow_natCast, units_magnitude, Nat.cast_mul,
    Nat.cast_pow, Nat.cast_ofNat, mul_div_assoc]

theorem scale_pos : (0 : ℚ) < 2 ^ 1074 := by positivity

theorem signed_sub (negative : Bool) (a b : ℚ) :
    |signed negative a - signed negative b| = |a - b| := by
  cases negative
  · rfl
  · rw [signed, signed, if_pos rfl, if_pos rfl, neg_sub_neg, abs_sub_comm]

theorem signed_sub_not {a b : ℚ} (ha : 0 ≤ a) (hb : 0 ≤ b) (negative : Bool) :
    |signed (!negative) a - signed negative b| = a + b := by
  cases negative
  · calc |-a - b| = |-(a + b)| := by rw [neg_add']
      _ = a + b := by rw [abs_neg, abs_of_nonneg (add_nonneg ha hb)]
  · calc |a - -b| = |a + b| := by rw [sub_neg_eq_add]
      _ = a + b := abs_of_nonneg (add_nonneg ha hb)

/-- A double with the sign of a number is as far from it as their magnitudes are apart. -/
theorem distance_same (hn : y.negative = negative) (q : ℚ) :
    |y.value - signed negative q| = |(units y.magnitude : ℚ) - q * 2 ^ 1074| / 2 ^ 1074 := by
  rw [value_eq, hn, signed_sub, eq_div_iff scale_pos.ne', ← abs_of_pos scale_pos, ← abs_mul,
    sub_mul, abs_of_pos scale_pos, div_mul_cancel₀ _ scale_pos.ne']

/-- A double with the other sign is as far from the number as zero, or farther. -/
theorem distance_other (hn : y.negative ≠ negative) (hq : 0 ≤ q) :
    |y.value - signed negative q| = ((units y.magnitude : ℚ) + q * 2 ^ 1074) / 2 ^ 1074 := by
  have hsize : (0 : ℚ) ≤ units y.magnitude / 2 ^ 1074 := div_nonneg (Nat.cast_nonneg _) scale_pos.le
  rw [value_eq, Bool.eq_not_of_ne hn, signed_sub_not hsize hq, add_div,
    mul_div_cancel_right₀ _ scale_pos.ne']

theorem value_eq_iff (hn : y.negative = x.negative) :
    y.value = x.value ↔ y.magnitude = x.magnitude := by
  rw [← sub_eq_zero, ← abs_eq_zero, value_eq, value_eq, hn, signed_sub, abs_eq_zero, sub_eq_zero,
    div_left_inj' scale_pos.ne', Nat.cast_inj, units_inj]

theorem exists_magnitude (hk : k < infinityBits) (negative : Bool) :
    ∃ y : Binary64, y.negative = negative ∧ y.magnitude = k :=
  have hsmall : k < 2 ^ 63 := hk.trans infinityBits_lt
  ⟨_, negative_ofNat hsmall negative, magnitude_ofNat hsmall negative⟩

theorem NearestFinite.magnitude (h : NearestFinite (signed x.negative q) x) :
    Nearest infinityBits (q * 2 ^ 1074) x.magnitude := by
  refine ⟨isFinite_iff.mp h.finite, fun k hk => ?_, fun k hk hne htie => ?_⟩
  · obtain ⟨y, hn, rfl⟩ := exists_magnitude hk x.negative
    have hle := h.le y (isFinite_iff.mpr hk)
    rwa [distance_same rfl, distance_same hn, div_le_div_iff_of_pos_right scale_pos] at hle
  · obtain ⟨y, hn, rfl⟩ := exists_magnitude hk x.negative
    rw [← significand_parity]
    refine h.even y (isFinite_iff.mpr hk) (fun heq => hne ((value_eq_iff hn).mp heq)) ?_
    rw [distance_same rfl, distance_same hn, htie]

/-- Among the doubles of the number's own sign only the magnitudes count, and zero is among them; so
no double of the other sign is nearer, nor as near unless zero is. -/
theorem nearestFinite_of_magnitude (hq : 0 ≤ q)
    (h : Nearest infinityBits (q * 2 ^ 1074) x.magnitude) :
    NearestFinite (signed x.negative q) x := by
  have hzero : |(units 0 : ℚ) - q * 2 ^ 1074| = q * 2 ^ 1074 := by
    rw [show units 0 = 0 from rfl, Nat.cast_zero, zero_sub, abs_neg,
      abs_of_nonneg (mul_nonneg hq scale_pos.le)]
  have hnear : |(units x.magnitude : ℚ) - q * 2 ^ 1074| ≤ q * 2 ^ 1074 :=
    (h.le 0 (by decide)).trans_eq hzero
  refine ⟨isFinite_iff.mpr h.lt, fun y hy => ?_, fun y hy hne htie => ?_⟩
  · by_cases hn : y.negative = x.negative
    · rw [distance_same rfl, distance_same hn, div_le_div_iff_of_pos_right scale_pos]
      exact h.le _ (isFinite_iff.mp hy)
    · rw [distance_same rfl, distance_other hn hq, div_le_div_iff_of_pos_right scale_pos]
      exact hnear.trans (le_add_of_nonneg_left (Nat.cast_nonneg _))
  · rw [significand_parity]
    by_cases hn : y.negative = x.negative
    · rw [distance_same rfl, distance_same hn, div_left_inj' scale_pos.ne'] at htie
      exact h.even _ (isFinite_iff.mp hy) (fun heq => hne ((value_eq_iff hn).mpr heq)) htie
    · rw [distance_same rfl, distance_other hn hq, div_left_inj' scale_pos.ne'] at htie
      have hfar : q * 2 ^ 1074 ≤ |(units x.magnitude : ℚ) - q * 2 ^ 1074| :=
        (le_add_of_nonneg_left (Nat.cast_nonneg _)).trans_eq htie
      by_cases hm : x.magnitude = 0
      · rw [hm]
      · exact h.even 0 (by decide) (Ne.symm hm) (hzero.trans (le_antisymm hfar hnear))

theorem overflow_scaled (q : ℚ) : q < 2 ^ 1024 - 2 ^ 970 ↔ q * 2 ^ 1074 < overflow := by
  have hover : overflow = (2 ^ 1024 - 2 ^ 970) * 2 ^ 1074 := by
    rw [overflow, sub_mul, sub_mul, one_mul, ← pow_add, ← pow_add, ← pow_add]
  rw [hover, mul_lt_mul_iff_left₀ scale_pos]

theorem magnitudeBits_lt (num den : Nat) : magnitudeBits num den < 2 ^ 63 :=
  (min_le_left _ _).trans_lt infinityBits_lt

theorem ofDecimal_negative (d : Decimal) : (ofDecimal d).negative = d.negative :=
  negative_ofNat (magnitudeBits_lt _ _) d.negative

theorem ofDecimal_magnitude (d : Decimal) :
    (ofDecimal d).magnitude = magnitudeBits d.digits (10 ^ d.places) :=
  magnitude_ofNat (magnitudeBits_lt _ _) d.negative

theorem size_units (d : Decimal) :
    d.size * 2 ^ 1074 = (d.digits * 2 ^ 1074 : ℚ) / (10 ^ d.places : Nat) := by
  rw [size, Nat.cast_pow, Nat.cast_ofNat, div_mul_eq_mul_div]

/-- The double of a decimal is correctly rounded. -/
theorem roundsTo_ofDecimal (d : Decimal) : RoundsTo d.negative d.size (ofDecimal d) := by
  have hden : 0 < 10 ^ d.places := Nat.pow_pos (by decide)
  refine ⟨ofDecimal_negative d, fun h => ?_, fun h => ?_⟩
  · rw [← not_lt, overflow_scaled, size_units, not_lt] at h
    rw [isInfinite_iff, ofDecimal_magnitude]
    exact magnitudeBits_overflow hden h
  · have hsize : 0 ≤ d.size := div_nonneg (Nat.cast_nonneg _) (by positivity)
    rw [← ofDecimal_negative d]
    apply nearestFinite_of_magnitude hsize
    rw [overflow_scaled, size_units] at h
    rw [ofDecimal_magnitude, size_units]
    exact magnitudeBits_nearest hden h

/-- There is only one correctly rounded double. -/
theorem RoundsTo.unique (hx : RoundsTo negative q x) (hy : RoundsTo negative q y) : x = y := by
  obtain rfl := hx.sign
  refine eq_of_magnitude hy.sign.symm ?_
  rcases lt_or_ge q (2 ^ 1024 - 2 ^ 970) with h | h
  · have hfinite := hy.nearest h
    rw [← hy.sign] at hfinite
    exact (hx.nearest h).magnitude.unique hfinite.magnitude
  · rw [isInfinite_iff.mp (hx.infinite h), isInfinite_iff.mp (hy.infinite h)]

theorem RoundsTo.not_nan (h : RoundsTo negative q x) : ¬ x.IsNaN := by
  intro hnan
  rcases lt_or_ge q (2 ^ 1024 - 2 ^ 970) with hlt | hge
  · exact (h.nearest hlt).finite hnan.1
  · exact hnan.2 (h.infinite hge).2

end DefsGlue.Binary64
