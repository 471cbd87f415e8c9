import DefsGlue.Numeric.Binary64
import Mathlib.Algebra.Order.Field.Rat
import Mathlib.Order.Monotone.Basic
import Mathlib.Tactic.FieldSimp
import Mathlib.Tactic.Linarith
import Mathlib.Tactic.NormNum
import Mathlib.Tactic.Positivity
import Mathlib.Tactic.Ring

/-! The magnitudes of doubles as points on a grid. In units of the smallest subnormal every
magnitude is an integer, and from each power of two on all of them are multiples of one step. So the
integer nearest to a number of steps gives the nearest magnitude, provided that the step is that of
the number. -/
namespace DefsGlue.Binary64

/-- The worth of a magnitude, in units of the smallest subnormal, by its bits. The exponents have no
upper end here: infinity stands for the power of two that would come next. -/
def units (m : Nat) : Nat :=
  if m < 2 ^ 52 then m else (2 ^ 52 + m % 2 ^ 52) * 2 ^ (m / 2 ^ 52 - 1)

/-- Of the magnitudes below a limit `m` is nearest to `u`; if another one is as near, `m` is
even. -/
structure Nearest (limit : Nat) (u : ℚ) (m : Nat) : Prop where
  lt : m < limit
  le : ∀ k < limit, |(units m : ℚ) - u| ≤ |(units k : ℚ) - u|
  even : ∀ k < limit, k ≠ m → |(units k : ℚ) - u| = |(units m : ℚ) - u| → m % 2 = 0

variable {num den limit m k r s : Nat} {u t : ℚ}

theorem units_scaled (hr : r ≤ 2 ^ 53) (hs : s = 0 ∨ 2 ^ 52 ≤ r) :
    units (s * 2 ^ 52 + r) = r * 2 ^ s := by
  unfold units
  split
  · next hlt =>
    obtain rfl : s = 0 := by omega
    simp
  · next hge =>
    rcases Nat.lt_or_eq_of_le hr with hlt | rfl
    · have hexp : (s * 2 ^ 52 + r) / 2 ^ 52 - 1 = s := by omega
      have hfrac : 2 ^ 52 + (s * 2 ^ 52 + r) % 2 ^ 52 = r := by omega
      rw [hexp, hfrac]
    · have hexp : (s * 2 ^ 52 + 2 ^ 53) / 2 ^ 52 - 1 = s + 1 := by omega
      have hfrac : 2 ^ 52 + (s * 2 ^ 52 + 2 ^ 53) % 2 ^ 52 = 2 ^ 52 := by omega
      rw [hexp, hfrac, pow_succ]
      ring

/-- Every magnitude is a number of steps, of at most 53 bits; it has fewer only where the step is
the smallest. -/
theorem exists_scaled (m : Nat) :
    ∃ s r, m = s * 2 ^ 52 + r ∧ r < 2 ^ 53 ∧ (s = 0 ∨ 2 ^ 52 ≤ r) := by
  by_cases h : m < 2 ^ 53
  · exact ⟨0, m, by omega, h, .inl rfl⟩
  · exact ⟨m / 2 ^ 52 - 1, 2 ^ 52 + m % 2 ^ 52, by omega, by omega, .inr (by omega)⟩

theorem units_strictMono : StrictMono units := by
  refine strictMono_nat_of_lt_succ fun m => ?_
  obtain ⟨s, r, rfl, hr, hs⟩ := exists_scaled m
  have hs' : s = 0 ∨ 2 ^ 52 ≤ r + 1 := by omega
  rw [Nat.add_assoc, units_scaled hr.le hs, units_scaled hr hs']
  exact Nat.mul_lt_mul_of_pos_right (Nat.lt_succ_self r) (Nat.two_pow_pos s)

theorem units_inj : units k = units m ↔ k = m := units_strictMono.injective.eq_iff

theorem cast_units_lt (h : k < m) : (units k : ℚ) < units m := by
  exact_mod_cast units_strictMono h

theorem cast_units_le (h : k ≤ m) : (units k : ℚ) ≤ units m := by
  exact_mod_cast units_strictMono.monotone h

/-- From the 53-bit multiples of a step on, all magnitudes are multiples of it. -/
theorem dvd_units (h : 2 ^ 52 * 2 ^ s ≤ units m) : 2 ^ s ∣ units m := by
  obtain ⟨s', r, rfl, hr, hs⟩ := exists_scaled m
  rw [units_scaled hr.le hs] at h ⊢
  have hstep : s ≤ s' := by
    by_contra hlt
    have hpow : 2 ^ (s' + 1) ≤ 2 ^ s := Nat.pow_le_pow_right (by decide) (by omega)
    have hsmall : r * 2 ^ s' < 2 ^ 53 * 2 ^ s' :=
      Nat.mul_lt_mul_of_pos_right hr (Nat.two_pow_pos s')
    rw [pow_succ] at hpow
    omega
  exact Dvd.dvd.mul_left (pow_dvd_pow 2 hstep) r

/-- A rounded quotient times the divisor misses the dividend by half the divisor at most; where it
does so by just half, it is even. -/
theorem roundHalfEven_mul (num : Nat) (hd : 0 < den) :
    2 * (roundHalfEven num den * den) ≤ 2 * num + den ∧
    2 * num ≤ 2 * (roundHalfEven num den * den) + den ∧
    (2 * (roundHalfEven num den * den) = 2 * num + den ∨
      2 * num = 2 * (roundHalfEven num den * den) + den → roundHalfEven num den % 2 = 0) := by
  have hsplit := Nat.div_add_mod' num den
  have hrem := Nat.mod_lt num hd
  simp only [roundHalfEven, Bool.or_eq_true, decide_eq_true_eq, Bool.and_eq_true, beq_iff_eq]
  generalize num / den = n at *
  split
  · omega
  · rw [Nat.add_mul, Nat.one_mul]
    omega

theorem roundHalfEven_half (num : Nat) (hd : 0 < den) :
    |(roundHalfEven num den : ℚ) - (num : ℚ) / den| ≤ 1 / 2 ∧
      (|(roundHalfEven num den : ℚ) - (num : ℚ) / den| = 1 / 2 →
        roundHalfEven num den % 2 = 0) := by
  obtain ⟨habove, hbelow, htie⟩ := roundHalfEven_mul num hd
  generalize roundHalfEven num den = n at *
  have hden : (0 : ℚ) < den := by exact_mod_cast hd
  have hscale : (n : ℚ) - (num : ℚ) / den = ((n * den : Nat) - (num : Nat) : ℚ) / den := by
    push_cast
    field_simp
  have habove' : (2 : ℚ) * (n * den : Nat) ≤ 2 * (num : Nat) + (den : Nat) := by
    exact_mod_cast habove
  have hbelow' : (2 : ℚ) * (num : Nat) ≤ 2 * (n * den : Nat) + (den : Nat) := by
    exact_mod_cast hbelow
  rw [hscale, abs_div, abs_of_pos hden, div_le_div_iff₀ hden two_pos,
    div_eq_div_iff hden.ne' two_ne_zero]
  constructor
  · have habs : |((n * den : Nat) : ℚ) - (num : Nat)| ≤ (den : ℚ) / 2 := by
      rw [abs_le]
      constructor <;> linarith
    linarith
  · intro h
    apply htie
    rcases abs_cases (((n * den : Nat) : ℚ) - (num : Nat)) with ⟨habs, -⟩ | ⟨habs, -⟩
    · rw [habs] at h
      left
      have : (2 : ℚ) * (n * den : Nat) = 2 * (num : Nat) + (den : Nat) := by linarith
      exact_mod_cast this
    · rw [habs] at h
      right
      have : (2 : ℚ) * (num : Nat) = 2 * (n * den : Nat) + (den : Nat) := by linarith
      exact_mod_cast this

/-- An integer half a unit away at most is nearest, and another one is as near only if both are half
a unit away. -/
theorem nearest_integer (h : |(r : ℚ) - t| ≤ 1 / 2) (k : Nat) :
    |(r : ℚ) - t| ≤ |(k : ℚ) - t| ∧
      (k ≠ r → |(k : ℚ) - t| = |(r : ℚ) - t| → |(r : ℚ) - t| = 1 / 2) := by
  by_cases hk : k = r
  · exact ⟨by rw [hk], fun hne => absurd hk hne⟩
  · have hunit : (1 : ℚ) ≤ |(k : ℚ) - r| := by
      have hint : (1 : ℤ) ≤ |(k : ℤ) - r| := Int.one_le_abs (by omega)
      exact_mod_cast hint
    have htriangle := abs_sub_le (k : ℚ) t r
    rw [abs_sub_comm t] at htriangle
    constructor
    · linarith
    · intro _ heq
      linarith

theorem rounded_le (h : |(r : ℚ) - t| ≤ 1 / 2) (ht : t < k) : r ≤ k := by
  have hlt : (r : ℚ) < (k + 1 : Nat) := by
    push_cast
    linarith [(abs_le.mp h).2]
  exact Nat.le_of_lt_succ (by exact_mod_cast hlt)

theorem le_rounded (h : |(r : ℚ) - t| ≤ 1 / 2) (ht : k ≤ t) : k ≤ r := by
  have hlt : (k : ℚ) < (r + 1 : Nat) := by
    push_cast
    linarith [(abs_le.mp h).1]
  exact Nat.le_of_lt_succ (by exact_mod_cast hlt)

theorem abs_steps (s k : Nat) (u : ℚ) :
    |((k * 2 ^ s : Nat) : ℚ) - u| = |(k : ℚ) - u / 2 ^ s| * 2 ^ s := by
  have hpow : (0 : ℚ) < 2 ^ s := by positivity
  calc |((k * 2 ^ s : Nat) : ℚ) - u| = |((k : ℚ) - u / 2 ^ s) * 2 ^ s| := by
        push_cast
        rw [sub_mul, div_mul_cancel₀ _ hpow.ne']
    _ = |(k : ℚ) - u / 2 ^ s| * 2 ^ s := by rw [abs_mul, abs_of_pos hpow]

/-- A magnitude between the steps lies below the first step of 53 bits, which lies below the
number. -/
theorem first_step_nearer (hu : s = 0 ∨ (2 : ℚ) ^ 52 * 2 ^ s ≤ u) (hk : ¬ 2 ^ s ∣ units k) :
    |((2 ^ 52 * 2 ^ s : Nat) : ℚ) - u| < |(units k : ℚ) - u| := by
  have hpos : s ≠ 0 := by
    rintro rfl
    simp at hk
  have hbelow : units k < 2 ^ 52 * 2 ^ s := not_le.mp fun h => hk (dvd_units h)
  have hbelow' : (units k : ℚ) < (2 ^ 52 * 2 ^ s : Nat) := by exact_mod_cast hbelow
  have habove : ((2 ^ 52 * 2 ^ s : Nat) : ℚ) ≤ u := by exact_mod_cast hu.resolve_left hpos
  rw [abs_of_nonpos (sub_nonpos.mpr habove), abs_of_nonpos (by linarith)]
  linarith

/-- The nearest number of steps is the nearest magnitude. -/
theorem nearest_scaled (hr : r ≤ 2 ^ 53) (hs : s = 0 ∨ 2 ^ 52 ≤ r)
    (hu : s = 0 ∨ (2 : ℚ) ^ 52 * 2 ^ s ≤ u) (hhalf : |(r : ℚ) - u / 2 ^ s| ≤ 1 / 2)
    (heven : |(r : ℚ) - u / 2 ^ s| = 1 / 2 → r % 2 = 0) (hl : s * 2 ^ 52 + r < limit) :
    Nearest limit u (s * 2 ^ 52 + r) := by
  have hpow : (0 : ℚ) < 2 ^ s := by positivity
  have hunits : units (s * 2 ^ 52 + r) = r * 2 ^ s := units_scaled hr hs
  have hparity : r % 2 = 0 → (s * 2 ^ 52 + r) % 2 = 0 := by omega
  have hsteps : ∀ j : Nat, |(units (s * 2 ^ 52 + r) : ℚ) - u| ≤ |((j * 2 ^ s : Nat) : ℚ) - u| := by
    intro j
    rw [hunits, abs_steps, abs_steps]
    exact mul_le_mul_of_nonneg_right (nearest_integer hhalf j).1 hpow.le
  have hbetween : ∀ k, ¬ 2 ^ s ∣ units k →
      |(units (s * 2 ^ 52 + r) : ℚ) - u| < |(units k : ℚ) - u| :=
    fun k hk => (hsteps _).trans_lt (first_step_nearer hu hk)
  refine ⟨hl, fun k _ => ?_, fun k _ hk htie => hparity ?_⟩
  · by_cases hdvd : 2 ^ s ∣ units k
    · obtain ⟨j, hj⟩ := hdvd
      rw [hj, Nat.mul_comm (2 ^ s) j]
      exact hsteps j
    · exact (hbetween k hdvd).le
  · by_cases hdvd : 2 ^ s ∣ units k
    · obtain ⟨j, hj⟩ := hdvd
      rw [Nat.mul_comm] at hj
      have hne : j ≠ r := by
        rintro rfl
        exact hk (units_inj.mp (hj.trans hunits.symm))
      rw [hj, hunits, abs_steps, abs_steps] at htie
      exact heven ((nearest_integer hhalf j).2 hne (mul_right_cancel₀ hpow.ne' htie))
    · exact absurd htie (hbetween k hdvd).ne'

theorem Nearest.mono {limit' : Nat} (h : Nearest limit u m) (hm : m < limit')
    (hl : limit' ≤ limit) : Nearest limit' u m :=
  ⟨hm, fun k hk => h.le k (hk.trans_le hl), fun k hk => h.even k (hk.trans_le hl)⟩

/-- Two magnitudes that are both nearest are as far below as above, and both even; but then one of
the magnitudes between them is nearer. -/
theorem Nearest.ge (h : Nearest limit u m) (h' : Nearest limit u k) : k ≤ m := by
  by_contra hle
  have hlt : m < k := by omega
  have hdist : |(units k : ℚ) - u| = |(units m : ℚ) - u| :=
    le_antisymm (h'.le m h.lt) (h.le k h'.lt)
  have hm := h.even k h'.lt hlt.ne' hdist
  have hk := h'.even m h.lt hlt.ne hdist.symm
  have hgap : m + 1 < k := by omega
  have hlow := cast_units_lt (Nat.lt_succ_self m)
  have hhigh := cast_units_lt hgap
  have hmiddle : (units k : ℚ) - u = -((units m : ℚ) - u) := by
    rcases abs_eq_abs.mp hdist with heq | heq
    · linarith
    · exact heq
  have hnearer : |(units (m + 1) : ℚ) - u| < |(units m : ℚ) - u| := by
    rw [abs_of_nonpos (by linarith : (units m : ℚ) - u ≤ 0), abs_lt]
    constructor <;> linarith
  exact absurd hnearer (h.le (m + 1) (hgap.trans h'.lt)).not_gt

theorem Nearest.unique (h : Nearest limit u m) (h' : Nearest limit u k) : m = k :=
  Nat.le_antisymm (h'.ge h) (h.ge h')

/-- From the middle between an odd magnitude and the next one on, the odd one is not nearest: in the
middle they tie, and the next one is even. -/
theorem Nearest.lt_middle (h : Nearest limit u m) (hk : k + 1 < limit) (hodd : k % 2 = 1)
    (hm : m ≤ k) : u < ((units k : ℚ) + units (k + 1)) / 2 := by
  by_contra hu
  have hmiddle := le_of_not_gt hu
  have hbelow := cast_units_le hm
  have hstep := cast_units_lt (Nat.lt_succ_self k)
  have hdist : |(units m : ℚ) - u| = u - units m := by
    rw [abs_of_nonpos (by linarith), neg_sub]
  have hnext : |(units (k + 1) : ℚ) - u| ≤ u - units k := by
    rw [abs_le]
    constructor <;> linarith
  have hle := h.le (k + 1) hk
  rw [hdist] at hle
  have heven := h.even (k + 1) hk (by omega) (by linarith)
  have heq : (units m : ℚ) = units k := by linarith
  have hmk : m = k := units_inj.mp (by exact_mod_cast heq)
  omega

theorem Nearest.le_of_lt_middle (h : Nearest limit u m) (hk : k < limit)
    (hu : u < ((units k : ℚ) + units (k + 1)) / 2) : m ≤ k := by
  by_contra hm
  have habove : (units (k + 1) : ℚ) ≤ units m := cast_units_le (by omega)
  have hstep := cast_units_lt (Nat.lt_succ_self k)
  have hle := h.le k hk
  rw [abs_of_nonneg (by linarith : (0 : ℚ) ≤ units m - u)] at hle
  have hnear : |(units k : ℚ) - u| < units m - u := by
    rw [abs_lt]
    constructor <;> linarith
  linarith

theorem scale_bounds (n : Nat) (hd : 0 < den) :
    (n : ℚ) / den < 2 ^ 53 * 2 ^ ((n / den).log2 - 52) ∧
      ((n / den).log2 - 52 = 0 ∨
        2 ^ 52 * 2 ^ ((n / den).log2 - 52) ≤ (n : ℚ) / den) := by
  have hden : (0 : ℚ) < den := by exact_mod_cast hd
  generalize hs : (n / den).log2 - 52 = s
  rw [div_lt_iff₀ hden, le_div_iff₀ hden, ← pow_add, ← pow_add]
  constructor
  · have hlt : n / den < 2 ^ (53 + s) :=
      Nat.lt_log2_self.trans_le (Nat.pow_le_pow_right (by decide) (by omega))
    exact_mod_cast (Nat.div_lt_iff_lt_mul hd).mp hlt
  · by_cases hzero : s = 0
    · exact .inl hzero
    · right
      have hne : n / den ≠ 0 := by
        intro hquot
        rw [hquot, Nat.log2_zero] at hs
        omega
      have hle : 2 ^ (52 + s) ≤ n / den := by
        have hself := Nat.log2_self_le hne
        rwa [show (n / den).log2 = 52 + s by omega] at hself
      exact_mod_cast (Nat.le_div_iff_mul_le hd).mp hle

/-- A quotient rounded to steps of its own size is nearest. -/
theorem nearest_rounded (n : Nat) (hd : 0 < den) (hs : (n / den).log2 - 52 = s)
    (hl : s * 2 ^ 52 + roundHalfEven n (den * 2 ^ s) < limit) :
    Nearest limit ((n : ℚ) / den) (s * 2 ^ 52 + roundHalfEven n (den * 2 ^ s)) := by
  obtain ⟨hlt, hge⟩ := scale_bounds n hd
  obtain ⟨hhalf, heven⟩ := roundHalfEven_half n (Nat.mul_pos hd (Nat.two_pow_pos s))
  have hpow : (0 : ℚ) < 2 ^ s := by positivity
  have hsteps : (n : ℚ) / (den * 2 ^ s : Nat) = (n : ℚ) / den / 2 ^ s := by
    push_cast
    rw [div_div]
  rw [hs] at hlt hge
  rw [hsteps] at hhalf heven
  generalize roundHalfEven n (den * 2 ^ s) = r at *
  have hr : r ≤ 2 ^ 53 := by
    apply rounded_le hhalf
    rw [div_lt_iff₀ hpow]
    exact_mod_cast hlt
  have hr' : s = 0 ∨ 2 ^ 52 ≤ r := by
    refine hge.imp_right fun hge => le_rounded hhalf ?_
    rw [le_div_iff₀ hpow]
    exact_mod_cast hge
  exact nearest_scaled hr hr' hge hhalf heven hl

/-- The middle between the largest finite magnitude and infinity, in units. -/
def overflow : ℚ := (2 ^ 54 - 1) * 2 ^ 2044

theorem units_middle (s : Nat) :
    ((units (s * 2 ^ 52 + (2 ^ 53 - 1)) : ℚ) + units (s * 2 ^ 52 + 2 ^ 53)) / 2 =
      (2 ^ 54 - 1) * (2 ^ s / 2) := by
  have hlast : units (s * 2 ^ 52 + (2 ^ 53 - 1)) = (2 ^ 53 - 1) * 2 ^ s :=
    units_scaled (Nat.sub_le _ _) (.inr (by omega))
  have hnext : units (s * 2 ^ 52 + 2 ^ 53) = 2 ^ 53 * 2 ^ s :=
    units_scaled le_rfl (.inr (by omega))
  rw [hlast, hnext]
  push_cast
  ring

theorem overflow_eq :
    ((units (infinityBits - 1) : ℚ) + units (infinityBits - 1 + 1)) / 2 = overflow := by
  have hlast : infinityBits - 1 = 2045 * 2 ^ 52 + (2 ^ 53 - 1) := rfl
  have hnext : infinityBits - 1 + 1 = 2045 * 2 ^ 52 + 2 ^ 53 := rfl
  rw [hnext, hlast, units_middle, overflow, pow_succ (2 : ℚ) 2044,
    mul_div_cancel_right₀ _ two_ne_zero]

theorem Nearest.lt_infinity_iff (h : Nearest limit u m) (hl : infinityBits < limit) :
    m < infinityBits ↔ u < overflow := by
  rw [← overflow_eq, Nat.lt_iff_le_pred (by decide)]
  exact ⟨h.lt_middle (k := infinityBits - 1) hl (by decide),
    h.le_of_lt_middle ((Nat.sub_le _ _).trans_lt hl)⟩

theorem magnitudeBits_eq (num : Nat) (hd : 0 < den) :
    ∃ m limit, infinityBits < limit ∧ Nearest limit ((num * 2 ^ 1074 : ℚ) / den) m ∧
      magnitudeBits num den = min infinityBits m := by
  -- With the exponent as a variable, no step evaluates the power.
  obtain ⟨e, he⟩ : ∃ e, 1074 = e := ⟨_, rfl⟩
  have hcast : (num * 2 ^ e : ℚ) = (num * Nat.pow 2 e : Nat) := by
    rw [Nat.cast_mul, Nat.pow_eq, Nat.cast_pow, Nat.cast_ofNat]
  simp only [magnitudeBits, he, hcast]
  exact ⟨_, _, Nat.lt_succ_of_le (le_max_left infinityBits _),
    nearest_rounded _ hd rfl (Nat.lt_succ_of_le (le_max_right _ _)), rfl⟩

theorem magnitudeBits_nearest (hd : 0 < den) (h : (num * 2 ^ 1074 : ℚ) / den < overflow) :
    Nearest infinityBits ((num * 2 ^ 1074 : ℚ) / den) (magnitudeBits num den) := by
  obtain ⟨m, limit, hlimit, hnear, heq⟩ := magnitudeBits_eq num hd
  have hm : m < infinityBits := (hnear.lt_infinity_iff hlimit).mpr h
  rw [heq, min_eq_right hm.le]
  exact hnear.mono hm hlimit.le

theorem magnitudeBits_overflow (hd : 0 < den) (h : overflow ≤ (num * 2 ^ 1074 : ℚ) / den) :
    magnitudeBits num den = infinityBits := by
  obtain ⟨m, limit, hlimit, hnear, heq⟩ := magnitudeBits_eq num hd
  have hm : ¬ m < infinityBits := fun hlt => ((hnear.lt_infinity_iff hlimit).mp hlt).not_ge h
  rw [heq, min_eq_left (Nat.le_of_not_lt hm)]

end DefsGlue.Binary64
