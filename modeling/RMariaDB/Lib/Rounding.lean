import RMariaDB.Lib.Floating
import RMariaDB.Lib.Scientific

-- Rounding to the nearest floating-point number, the even one of two.

namespace Floating

open Scientific

section Definition

variable (F : Format)

-- The exponent of the last bit of the numbers around x
def unit_exponent (x : ℚ) : ℤ := max F.least (Int.log 2 |x| - (F.precision - 1))

-- From here on a number is nearer to the power of two behind the greatest float.
def limit : ℚ := 2 ^ (F.greatest + F.precision) - 2 ^ (F.greatest - 1)

-- However large the number is
def round (x : ℚ) : ℚ := round_even (x / 2 ^ unit_exponent F x) * 2 ^ unit_exponent F x

end Definition

variable {F : Format} {x z : ℚ}

section Rounded

theorem isRounded_zero : IsRounded F 0 := ⟨0, F.least, by simp, le_refl _, by simp⟩

theorem isRounded_intCast {n : ℤ} (h : |n| < 2 ^ F.precision) : IsRounded F n := by
  have hwide := F.wide
  exact ⟨n, 0, h, by omega, by simp⟩

theorem IsRounded.neg (h : IsRounded F x) : IsRounded F (-x) := by
  obtain ⟨m, e, hm, he, rfl⟩ := h
  exact ⟨-m, e, by rwa [abs_neg], he, by push_cast; ring⟩

theorem IsRounded.abs (h : IsRounded F x) : IsRounded F |x| := by
  rcases abs_choice x with habs | habs
  · rwa [habs]
  · rw [habs]
    exact h.neg

-- What is left of a number without its whole part has fewer bits.
theorem IsRounded.fract (h : IsRounded F x) (h0 : 0 ≤ x) : IsRounded F (x - ⌊x⌋) := by
  obtain ⟨m, e, hm, he, rfl⟩ := h
  rcases le_or_gt 0 e with hwhole | hpart
  · rw [scaled m hwhole, zpow_zero, mul_one, Int.floor_intCast, sub_self]
    exact isRounded_zero
  · obtain ⟨k, rfl⟩ : ∃ k : ℕ, e = -(k : ℤ) := ⟨(-e).toNat, by omega⟩
    have hpow : (0 : ℚ) < 2 ^ k := by positivity
    have hm0 : 0 ≤ m := by
      have hnonneg := nonneg_of_mul_nonneg_left h0 (two_zpow_pos (-(k : ℤ)))
      exact_mod_cast hnonneg
    have hfloor : ⌊(m : ℚ) * 2 ^ (-(k : ℤ))⌋ = m / 2 ^ k := by
      rw [zpow_neg, zpow_natCast, ← div_eq_mul_inv]
      have hdiv := Int.floor_div_natCast (m : ℚ) (2 ^ k)
      rw [Int.floor_intCast] at hdiv
      push_cast at hdiv
      exact hdiv
    refine ⟨m % 2 ^ k, -k, ?_, he, ?_⟩
    · have hrest := Int.emod_nonneg m (show (2 : ℤ) ^ k ≠ 0 by positivity)
      have hless : m % 2 ^ k ≤ m := by
        have hsplit := Int.ediv_mul_add_emod m (2 ^ k)
        have hquotient : 0 ≤ m / 2 ^ k * 2 ^ k :=
          mul_nonneg (Int.ediv_nonneg hm0 (by positivity)) (by positivity)
        omega
      rw [abs_of_nonneg hrest]
      rw [abs_of_nonneg hm0] at hm
      exact hless.trans_lt hm
    · have hsplit : (m : ℚ) = ((m / 2 ^ k : ℤ) : ℚ) * 2 ^ k + ((m % 2 ^ k : ℤ) : ℚ) := by
        exact_mod_cast (Int.ediv_mul_add_emod m (2 ^ k)).symm
      rw [hfloor, zpow_neg, zpow_natCast]
      field_simp
      linarith

end Rounded

section Nearest

theorem log_add_one_le (F : Format) (x : ℚ) : Int.log 2 |x| + 1 ≤ F.precision + unit_exponent F x := by
  unfold unit_exponent
  omega

theorem abs_lt_scale (x : ℚ) : |x| < 2 ^ F.precision * 2 ^ unit_exponent F x := by
  have hlog := Int.lt_zpow_succ_log_self (b := 2) (by norm_num) |x|
  rw [← zpow_natCast, ← zpow_add₀ (by norm_num)]
  exact hlog.trans_le (zpow_le_zpow_right₀ (by norm_num) (log_add_one_le F x))

-- A number that is not too small fills the bits that it is rounded to.
theorem scale_le_of_log (hx : x ≠ 0) (h : unit_exponent F x = Int.log 2 |x| - (F.precision - 1)) :
    2 ^ (F.precision - 1) * 2 ^ unit_exponent F x ≤ |x| := by
  have hlog := Int.zpow_log_le_self (b := 2) (by norm_num) (abs_pos.mpr hx)
  have hpositive := F.positive
  have hexponent : ((F.precision - 1 : ℕ) : ℤ) + unit_exponent F x = Int.log 2 |x| := by omega
  rw [← zpow_natCast, ← zpow_add₀ (by norm_num), hexponent]
  exact hlog

theorem scale_le (h : 1 / 2 ≤ |x|) : 2 ^ (F.precision - 1) * 2 ^ unit_exponent F x ≤ |x| := by
  have hx : x ≠ 0 := by
    rintro rfl
    norm_num at h
  refine scale_le_of_log hx ?_
  have hlog : -1 ≤ Int.log 2 |x| := by
    apply (Int.zpow_le_iff_le_log (b := 2) (by norm_num) (abs_pos.mpr hx)).mp
    norm_num at h ⊢
    exact h
  have hwide := F.wide
  unfold unit_exponent
  omega

-- No multiple of the last bit is nearer.
theorem nearest_multiple (x : ℚ) (k : ℤ) : |x - round F x| ≤ |x - k * (2 : ℚ) ^ unit_exponent F x| := by
  have hunit := two_zpow_pos (unit_exponent F x)
  unfold round
  generalize (2 : ℚ) ^ unit_exponent F x = unit at *
  have hscale (n : ℤ) : |x - n * unit| = |(n : ℚ) - x / unit| * unit := by
    rw [← abs_of_pos hunit, ← abs_mul, abs_of_pos hunit, abs_sub_comm]
    congr 1
    field_simp
  rw [hscale, hscale]
  apply mul_le_mul_of_nonneg_right _ hunit.le
  have hclose := round_even_close (x / unit)
  by_cases hk : k = round_even (x / unit)
  · rw [hk]
  · -- another integer is at least one away from it
    have hne : 1 ≤ |(k : ℚ) - round_even (x / unit)| := by
      have hdistance : (1 : ℤ) ≤ |k - round_even (x / unit)| := Int.one_le_abs (sub_ne_zero.mpr hk)
      exact_mod_cast hdistance
    have htriangle := abs_sub_le (k : ℚ) (x / unit) (round_even (x / unit))
    rw [abs_sub_comm (x / unit)] at htriangle
    linarith

theorem isRounded_scaled {k : ℤ} (h : |k| ≤ 2 ^ F.precision) {e : ℤ} (he : F.least ≤ e) :
    IsRounded F (k * (2 : ℚ) ^ e) := by
  rcases h.lt_or_eq with hlt | heq
  · exact ⟨k, e, hlt, he, rfl⟩
  · -- the next power of two has fewer bits
    obtain ⟨p, hp⟩ : ∃ p, F.precision = p + 1 := ⟨F.precision - 1, by have := F.positive; omega⟩
    rw [hp, pow_succ] at heq
    have hpow : (0 : ℤ) < 2 ^ p := by positivity
    refine ⟨k / 2, e + 1, ?_, by omega, ?_⟩
    · rw [hp, pow_succ]
      rcases abs_cases k with ⟨habs, -⟩ | ⟨habs, -⟩
      · rw [abs_of_nonneg (by omega)]
        omega
      · rw [abs_of_neg (by omega)]
        omega
    · have hhalf : (k : ℚ) = ((k / 2 : ℤ) : ℚ) * 2 := by
        have heven : k = k / 2 * 2 := by
          rcases abs_cases k with ⟨habs, -⟩ | ⟨habs, -⟩ <;> omega
        exact_mod_cast heven
      rw [zpow_add_one₀ (by norm_num), hhalf]
      ring_nf

theorem isRounded_round (F : Format) (x : ℚ) : IsRounded F (round F x) := by
  have hunit := two_zpow_pos (unit_exponent F x)
  have hx := abs_lt_scale (F := F) x
  have hbound : |x / 2 ^ unit_exponent F x| < ((2 ^ F.precision : ℤ) : ℚ) := by
    rw [abs_div, abs_of_pos hunit, div_lt_iff₀ hunit]
    push_cast
    exact hx
  obtain ⟨hlow, hhigh⟩ := abs_lt.mp hbound
  refine isRounded_scaled (abs_le.mpr ⟨?_, round_even_le hhigh⟩) (le_max_left _ _)
  refine le_round_even ?_
  push_cast
  push_cast at hlow
  exact hlow.le

-- No number of the format is nearer.
theorem round_nearest (hz : IsRounded F z) (x : ℚ) : |x - round F x| ≤ |x - z| := by
  obtain ⟨n, f, hn, hf, rfl⟩ := hz
  rcases le_or_gt (unit_exponent F x) f with hle | hlt
  · rw [scaled n hle]
    exact nearest_multiple x _
  by_cases hx : x = 0
  · have hzero : round F 0 = 0 := by simp [round, round_even]
    rw [hx, hzero, sub_self, abs_zero]
    exact abs_nonneg _
  -- it is smaller than the power of two below x, which is a multiple of the last bit
  have hexponent : unit_exponent F x = Int.log 2 |x| - (F.precision - 1) := by
    unfold unit_exponent at hlt ⊢
    omega
  have hscale := scale_le_of_log hx hexponent
  have hsmall : |(n : ℚ) * 2 ^ f| ≤ 2 ^ (F.precision - 1) * 2 ^ unit_exponent F x := by
    refine (abs_scaled_le hn).trans ?_
    have hpositive := F.positive
    rw [← zpow_natCast, ← zpow_natCast, ← zpow_add₀ (by norm_num), ← zpow_add₀ (by norm_num)]
    exact zpow_le_zpow_right₀ (by norm_num) (by omega)
  have htriangle : |x| - |(n : ℚ) * 2 ^ f| ≤ |x - n * 2 ^ f| := abs_sub_abs_le_abs_sub _ _
  have hpower : |x - round F x| ≤ |x| - 2 ^ (F.precision - 1) * 2 ^ unit_exponent F x := by
    rcases le_or_gt 0 x with hx0 | hx0
    · have hnear := nearest_multiple (F := F) x (2 ^ (F.precision - 1))
      rw [abs_of_nonneg hx0] at hscale ⊢
      push_cast at hnear
      rwa [abs_of_nonneg (sub_nonneg.mpr hscale)] at hnear
    · have hnear := nearest_multiple (F := F) x (-2 ^ (F.precision - 1))
      rw [abs_of_neg hx0] at hscale ⊢
      push_cast at hnear
      rw [neg_mul, sub_neg_eq_add] at hnear
      have habs := abs_of_nonpos (show x + 2 ^ (F.precision - 1) * 2 ^ unit_exponent F x ≤ 0 by linarith)
      linarith
  linarith

end Nearest

section Order

theorem round_of_isRounded (h : IsRounded F x) : round F x = x := by
  have hnear := round_nearest h x
  rw [sub_self, abs_zero] at hnear
  have hzero := abs_eq_zero.mp (le_antisymm hnear (abs_nonneg _))
  linarith

theorem round_le (hz : IsRounded F z) (h : x ≤ z) : round F x ≤ z := by
  by_contra hgt
  have hnear := round_nearest hz x
  rw [abs_of_nonpos (by linarith), abs_of_nonpos (by linarith)] at hnear
  linarith

theorem le_round (hz : IsRounded F z) (h : z ≤ x) : z ≤ round F x := by
  by_contra hlt
  have hnear := round_nearest hz x
  rw [abs_of_nonneg (by linarith), abs_of_nonneg (by linarith)] at hnear
  linarith

-- The error is half of the last bit at most.
theorem two_mul_error_le (F : Format) (x : ℚ) : 2 * |x - round F x| ≤ 2 ^ unit_exponent F x := by
  have hunit := two_zpow_pos (unit_exponent F x)
  have hclose := round_even_close (x / 2 ^ unit_exponent F x)
  have herror : |x - round F x| =
      |(round_even (x / 2 ^ unit_exponent F x) : ℚ) - x / 2 ^ unit_exponent F x| * 2 ^ unit_exponent F x := by
    rw [round, ← abs_of_pos hunit, ← abs_mul, abs_of_pos hunit, abs_sub_comm]
    congr 1
    field_simp
  rw [herror]
  have hmul := mul_le_mul_of_nonneg_right hclose hunit.le
  linarith

theorem two_pow_precision (F : Format) : (2 : ℚ) ^ F.precision = 2 ^ (F.precision - 1) * 2 := by
  rw [← pow_succ, Nat.sub_add_cancel F.positive]

theorem round_error (h : 1 / 2 ≤ |x|) : 2 ^ F.precision * |x - round F x| ≤ |x| := by
  have hscale := scale_le (F := F) h
  have hp : (0 : ℚ) < 2 ^ (F.precision - 1) := by positivity
  have hmul := mul_le_mul_of_nonneg_left (two_mul_error_le F x) hp.le
  rw [two_pow_precision]
  linarith

theorem scale_le_abs_round (h : 1 / 2 ≤ |x|) :
    2 ^ (F.precision - 1) * 2 ^ unit_exponent F x ≤ |round F x| := by
  have hscale := scale_le (F := F) h
  have hrounded : IsRounded F (2 ^ (F.precision - 1) * 2 ^ unit_exponent F x) := by
    have hbound : |(2 : ℤ) ^ (F.precision - 1)| ≤ 2 ^ F.precision := by
      rw [abs_of_nonneg (by positivity)]
      exact pow_le_pow_right₀ (by norm_num) (Nat.sub_le _ _)
    have hscaled := isRounded_scaled (F := F) hbound (le_max_left F.least (Int.log 2 |x| - (F.precision - 1)))
    push_cast at hscaled
    exact hscaled
  rcases le_or_gt 0 x with hx | hx
  · rw [abs_of_nonneg hx] at hscale
    exact (le_round hrounded hscale).trans (le_abs_self _)
  · rw [abs_of_neg hx] at hscale
    have hround := round_le hrounded.neg (x := x) (by linarith)
    exact (le_neg_of_le_neg hround).trans (neg_le_abs _)

-- The same error by the number that is rounded to
theorem round_error_of_round (h : 1 / 2 ≤ |x|) : 2 ^ F.precision * |x - round F x| ≤ |round F x| := by
  have hscale := scale_le_abs_round (F := F) h
  have hp : (0 : ℚ) < 2 ^ (F.precision - 1) := by positivity
  have hmul := mul_le_mul_of_nonneg_left (two_mul_error_le F x) hp.le
  rw [two_pow_precision]
  linarith

-- What lies apart from a number of the format by as much as floats do is not rounded to it.
theorem round_lt_of_pos {n : ℚ} (hn : IsRounded F n) (h1 : 1 ≤ n) (hlt : x < n)
    (hgap : n ≤ 2 ^ F.precision * (n - x)) : round F x < n := by
  refine lt_of_le_of_ne (round_le hn hlt.le) fun heq => ?_
  rcases lt_or_ge x (n / 2) with hsmall | hlarge
  · -- zero is nearer
    have hnear := round_nearest (isRounded_zero (F := F)) x
    rw [heq, abs_of_neg (sub_neg.mpr hlt), sub_zero] at hnear
    rcases abs_cases x with ⟨habs, -⟩ | ⟨habs, -⟩ <;> linarith
  · have hx : |x| = x := abs_of_nonneg (by linarith)
    have herror := round_error (F := F) (x := x) (by rw [hx]; linarith)
    rw [heq, abs_of_neg (sub_neg.mpr hlt), hx] at herror
    linarith

theorem round_lt_of_neg {n : ℚ} (hn : IsRounded F n) (h1 : n ≤ -1) (hlt : x < n)
    (hgap : -x ≤ 2 ^ F.precision * (n - x)) : round F x < n := by
  refine lt_of_le_of_ne (round_le hn hlt.le) fun heq => ?_
  have hx : |x| = -x := abs_of_neg (by linarith)
  have herror := round_error_of_round (F := F) (x := x) (by rw [hx]; linarith)
  rw [heq, abs_of_neg (sub_neg.mpr hlt), abs_of_neg (by linarith)] at herror
  linarith

-- The quotient of a float is rounded to an integer other than 0 only if it is not below it.
theorem round_div_lt (hx : IsRounded F x) {k : ℕ} {n : ℤ} (hk : 0 < k) (hn : n ≠ 0)
    (hbound : |k * n| < 2 ^ F.precision) (hlt : x / k < n) : round F (x / k) < n := by
  have hkq : (0 : ℚ) < k := by exact_mod_cast hk
  have hsmall : |n| < 2 ^ F.precision := by
    refine lt_of_le_of_lt ?_ hbound
    rw [abs_mul, Nat.abs_cast]
    exact le_mul_of_one_le_left (abs_nonneg n) (by exact_mod_cast hk)
  have hproduct : IsRounded F ((k : ℚ) * n) := by
    have hcast := isRounded_intCast hbound
    push_cast at hcast
    exact hcast
  have hless : x < k * n := by
    rw [div_lt_iff₀ hkq] at hlt
    linarith
  have hdifference : (k : ℚ) * n - x = k * (n - x / k) := by
    field_simp
  rcases lt_or_gt_of_ne hn with hneg | hpos
  · refine round_lt_of_neg (isRounded_intCast hsmall) (by exact_mod_cast Int.le_sub_one_of_lt hneg) hlt ?_
    have hgap := gap hx hproduct hless.ne
    have hx0 : x < 0 := hless.trans (mul_neg_of_pos_of_neg hkq (by exact_mod_cast hneg))
    rw [abs_of_neg hx0, abs_of_neg (sub_neg.mpr hless), neg_sub, hdifference] at hgap
    have hscaled : k * -(x / k) ≤ (k : ℚ) * (2 ^ F.precision * (n - x / k)) := by
      have hquotient : (k : ℚ) * -(x / k) = -x := by field_simp
      rw [hquotient]
      linarith
    exact le_of_mul_le_mul_left hscaled hkq
  · refine round_lt_of_pos (isRounded_intCast hsmall) (by exact_mod_cast hpos) hlt ?_
    have hgap := gap hproduct hx hless.ne'
    rw [abs_of_pos (mul_pos hkq (by exact_mod_cast hpos)), abs_of_pos (sub_pos.mpr hless), hdifference] at hgap
    have hscaled : (k : ℚ) * n ≤ k * (2 ^ F.precision * (n - x / k)) := by linarith
    exact le_of_mul_le_mul_left hscaled hkq

theorem round_mul_lt (hx : IsRounded F x) (hlt : x < 1) {k : ℕ} (hk : 0 < k)
    (hbound : (k : ℤ) < 2 ^ F.precision) : round F (x * k) < k := by
  have hkq : (0 : ℚ) < k := by exact_mod_cast hk
  have hone : IsRounded F 1 := by
    have hcast := isRounded_intCast (F := F) (n := 1) (by
      rw [abs_one]
      exact one_lt_pow₀ (by norm_num) F.positive.ne')
    exact_mod_cast hcast
  have hrounded : IsRounded F (k : ℚ) := by
    have hcast := isRounded_intCast (F := F) (n := k) (by rwa [Nat.abs_cast])
    exact_mod_cast hcast
  refine round_lt_of_pos hrounded (by exact_mod_cast hk) ?_ ?_
  · exact mul_lt_of_lt_one_left hkq hlt
  · have hgap := gap hone hx hlt.ne'
    rw [abs_one, abs_of_pos (sub_pos.mpr hlt)] at hgap
    have hmul := mul_le_mul_of_nonneg_left hgap hkq.le
    linarith

-- Only what is at most half of the least positive number is rounded to zero.
theorem round_neg_iff : round F x < 0 ↔ x < -2 ^ (F.least - 1) := by
  have hhalf : (2 : ℚ) ^ F.least = 2 * 2 ^ (F.least - 1) := by
    rw [← zpow_one_add₀ (by norm_num)]
    congr 1
    omega
  have hpos := two_zpow_pos (F.least - 1)
  constructor
  · intro h
    by_contra hge
    have hx : x < 0 := by
      by_contra hx
      exact absurd (le_round isRounded_zero (not_lt.mp hx)) (not_le.mpr h)
    have hlog : Int.log 2 |x| < F.least := by
      apply (Int.lt_zpow_iff_log_lt (b := 2) (by norm_num) (abs_pos.mpr hx.ne)).mp
      rw [abs_of_neg hx]
      push_cast
      linarith
    have hexponent : unit_exponent F x = F.least := by
      have := F.positive
      unfold unit_exponent
      omega
    have hy : (-1 / 2 : ℚ) ≤ x / 2 ^ F.least := by
      rw [le_div_iff₀ (two_zpow_pos _)]
      linarith
    have hy0 : x / 2 ^ F.least < 0 := div_neg_of_neg_of_pos hx (two_zpow_pos _)
    have hround : round_even (x / 2 ^ F.least) = 0 := by
      have hfloor : ⌊x / 2 ^ F.least⌋ = -1 := by
        rw [Int.floor_eq_iff]
        push_cast
        constructor <;> linarith
      unfold round_even
      rw [hfloor, if_neg]
      · rfl
      · rintro (hlow | ⟨-, heven⟩)
        · push_cast at hlow
          linarith
        · revert heven
          decide
    rw [round, hexponent, hround, Int.cast_zero, zero_mul] at h
    exact lt_irrefl _ h
  · intro h
    have hleast : IsRounded F (-2 ^ F.least) := by
      have hone := isRounded_scaled (F := F) (k := -1) (by
        rw [abs_neg, abs_one]
        exact one_le_pow₀ (by norm_num)) (le_refl F.least)
      push_cast at hone
      rwa [neg_one_mul] at hone
    have hnear := round_nearest hleast x
    by_contra hge
    rw [abs_of_neg (by linarith : x - round F x < 0)] at hnear
    rcases abs_cases (x - -2 ^ F.least) with ⟨habs, -⟩ | ⟨habs, -⟩ <;> linarith

end Order

section Rounds

-- What rounding to p bits and not rounding at all have in common
structure Rounds (p : ℕ) (f : ℚ → ℚ) : Prop where
  again : ∀ x, f (f x) = f x
  neg : ∀ x, f x = x → f (-x) = -x
  le_int : ∀ (x : ℚ) (n : ℤ), |n| < 2 ^ p → x ≤ n → f x ≤ n
  int_le : ∀ (x : ℚ) (n : ℤ), |n| < 2 ^ p → n ≤ x → n ≤ f x
  fract : ∀ x, f x = x → 0 ≤ x → f (x - ⌊x⌋) = x - ⌊x⌋
  div_lt : ∀ x, f x = x → ∀ (k : ℕ) (n : ℤ), 0 < k → n ≠ 0 → |k * n| < 2 ^ p → x / k < n → f (x / k) < n
  mul_lt : ∀ x, f x = x → x < 1 → ∀ k : ℕ, 0 < k → (k : ℤ) < 2 ^ p → f (x * k) < k
  close : ∀ x, |x| ≤ 2 ^ (p - 1) → |x - f x| ≤ 1 / 2

theorem isRounded_of_round (h : round F x = x) : IsRounded F x := h ▸ isRounded_round F x

theorem rounds_round (F : Format) : Rounds F.precision (round F) where
  again x := round_of_isRounded (isRounded_round F x)
  neg _ hx := round_of_isRounded (isRounded_of_round hx).neg
  le_int _ _ hn h := round_le (isRounded_intCast hn) h
  int_le _ _ hn h := le_round (isRounded_intCast hn) h
  fract _ hx h0 := round_of_isRounded ((isRounded_of_round hx).fract h0)
  div_lt _ hx _ _ hk hn hbound hlt := round_div_lt (isRounded_of_round hx) hk hn hbound hlt
  mul_lt _ hx hlt _ hk hbound := round_mul_lt (isRounded_of_round hx) hlt hk hbound
  close x hx := by
    rcases le_or_gt (1 / 2) |x| with hlarge | hsmall
    · have herror := round_error (F := F) hlarge
      have hp : (0 : ℚ) < 2 ^ (F.precision - 1) := by positivity
      rw [two_pow_precision] at herror
      by_contra hgt
      have hmul := mul_lt_mul_of_pos_left (not_le.mp hgt) hp
      linarith
    · have hnear := round_nearest (isRounded_zero (F := F)) x
      rw [sub_zero] at hnear
      linarith

theorem rounds_id (p : ℕ) : Rounds p id where
  again _ := rfl
  neg _ _ := rfl
  le_int _ _ _ h := h
  int_le _ _ _ h := h
  fract _ _ _ := rfl
  div_lt _ _ _ _ _ _ _ hlt := hlt
  mul_lt _ _ hlt _ hk _ := mul_lt_of_lt_one_left (by exact_mod_cast hk) hlt
  close x _ := by
    rw [id, sub_self, abs_zero]
    norm_num

variable {p : ℕ} {f : ℚ → ℚ}

theorem Rounds.int (h : Rounds p f) {n : ℤ} (hn : |n| < 2 ^ p) : f n = n :=
  le_antisymm (h.le_int n n hn (le_refl _)) (h.int_le n n hn (le_refl _))

theorem Rounds.abs (h : Rounds p f) {x : ℚ} (hx : f x = x) : f |x| = |x| := by
  rcases abs_choice x with habs | habs
  · rw [habs, hx]
  · rw [habs, h.neg x hx]

theorem Rounds.nonneg (h : Rounds p f) {x : ℚ} (hx : 0 ≤ x) : 0 ≤ f x := by
  have hzero := h.int_le x 0 (by simp) (by exact_mod_cast hx)
  exact_mod_cast hzero

theorem Rounds.of_eq_int (h : Rounds p f) {x : ℚ} {n : ℤ} (hx : x = n) (hlow : -2 ^ p < n)
    (hhigh : n < 2 ^ p) : f x = x := by
  rw [hx]
  exact h.int (abs_lt.mpr ⟨hlow, hhigh⟩)

-- The whole part of a quotient, but for -1, which may be rounded to 0
theorem Rounds.floor_div (h : Rounds p f) {x : ℚ} (hx : f x = x) {k : ℕ} (hk : 0 < k)
    (hlow : -2 ^ p < k * ⌊x / k⌋) (hhigh : k * (⌊x / k⌋ + 1) < 2 ^ p) (hne : ⌊x / k⌋ ≠ -1) :
    ⌊f (x / k)⌋ = ⌊x / k⌋ := by
  have hkz : (1 : ℤ) ≤ k := by exact_mod_cast hk
  have hfloor : |⌊x / k⌋| < 2 ^ p := by
    rw [abs_lt]
    constructor <;> nlinarith
  have hnext : |k * (⌊x / k⌋ + 1)| < 2 ^ p := by
    rw [abs_lt]
    constructor <;> linarith
  have hbelow := h.int_le _ _ hfloor (Int.floor_le (x / k))
  have habove := h.div_lt x hx k (⌊x / k⌋ + 1) hk (by omega) hnext (by
    push_cast
    exact Int.lt_floor_add_one _)
  rw [Int.floor_eq_iff]
  push_cast at habove
  exact ⟨hbelow, habove⟩

end Rounds

end Floating
