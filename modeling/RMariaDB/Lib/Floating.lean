import Mathlib.Algebra.Order.Field.Rat
import Mathlib.Tactic.Linarith
import Mathlib.Tactic.Ring
import Mathlib.Tactic.FieldSimp
import Mathlib.Tactic.Positivity

-- Binary floating-point numbers, and the numbers that are read as one of them.

namespace Floating

structure Format where
  -- the bits of a significand
  precision : Nat
  least : ℤ
  greatest : ℤ
  positive : 0 < precision
  -- one has all its bits
  wide : least + precision ≤ 0

def double : Format := ⟨53, -1074, 971, by decide, by decide⟩

-- A significand of these bits, scaled by a power of two
def IsFloat (F : Format) (q : ℚ) : Prop :=
  ∃ m e : ℤ, |m| < 2 ^ F.precision ∧ F.least ≤ e ∧ e ≤ F.greatest ∧ q = m * 2 ^ e

-- The same however large the number is
def IsRounded (F : Format) (q : ℚ) : Prop :=
  ∃ m e : ℤ, |m| < 2 ^ F.precision ∧ F.least ≤ e ∧ q = m * 2 ^ e

-- The one float that is nearest to x
def ReadsAs (F : Format) (x q : ℚ) : Prop :=
  IsFloat F q ∧ ∀ z, IsFloat F z → z ≠ q → |x - q| < |x - z|

variable {F : Format} {x q z : ℚ}

theorem IsFloat.rounded (h : IsFloat F q) : IsRounded F q := by
  obtain ⟨m, e, hm, hleast, -, hq⟩ := h
  exact ⟨m, e, hm, hleast, hq⟩

theorem ReadsAs.unique (hq : ReadsAs F x q) (hz : ReadsAs F x z) : z = q := by
  by_contra hne
  have h := hq.2 z hz.1 hne
  have h' := hz.2 q hq.1 (Ne.symm hne)
  exact absurd (h.trans h') (lt_irrefl _)

section Gaps

-- Two multiples of one unit that differ, differ by a unit.
theorem unit_le {a b : ℤ} {unit : ℚ} (hunit : 0 < unit) (h : (a : ℚ) * unit ≠ b * unit) :
    unit ≤ |(a : ℚ) * unit - b * unit| := by
  have hne : a - b ≠ 0 := by
    intro hab
    exact h (by rw [sub_eq_zero.mp hab])
  have hone : (1 : ℚ) ≤ |((a - b : ℤ) : ℚ)| := by
    rw [← Int.cast_abs]
    exact_mod_cast Int.one_le_abs hne
  rw [← sub_mul, abs_mul, abs_of_pos hunit, ← Int.cast_sub]
  exact le_mul_of_one_le_left hunit.le hone

theorem two_zpow_pos (e : ℤ) : (0 : ℚ) < 2 ^ e := zpow_pos (by norm_num) e

-- The larger exponent as a multiple of the smaller one
theorem scaled (m : ℤ) {e f : ℤ} (h : f ≤ e) :
    (m : ℚ) * 2 ^ e = ((m * 2 ^ (e - f).toNat : ℤ) : ℚ) * 2 ^ f := by
  have hsplit : e = (e - f) + f := by omega
  have hnat : ((2 : ℚ) ^ (e - f)) = ((2 ^ (e - f).toNat : ℤ) : ℚ) := by
    conv_lhs => rw [← Int.toNat_of_nonneg (sub_nonneg.mpr h)]
    rw [zpow_natCast]
    norm_cast
  conv_lhs => rw [hsplit, zpow_add₀ (by norm_num), hnat]
  push_cast
  ring

theorem abs_scaled_le {m e : ℤ} {p : Nat} (hm : |m| < 2 ^ p) : |(m : ℚ) * 2 ^ e| ≤ 2 ^ p * 2 ^ e := by
  rw [abs_mul, abs_of_pos (two_zpow_pos e)]
  apply mul_le_mul_of_nonneg_right _ (two_zpow_pos e).le
  rw [← Int.cast_abs]
  exact_mod_cast hm.le

-- A float is followed and preceded by the next one at a distance of at least 2^-p of its value.
theorem gap (hq : IsRounded F q) (hz : IsRounded F z) (hne : q ≠ z) :
    |q| ≤ 2 ^ F.precision * |q - z| := by
  obtain ⟨m, e, hm, -, rfl⟩ := hq
  obtain ⟨n, f, hn, -, rfl⟩ := hz
  have hp : (0 : ℚ) < 2 ^ F.precision := by positivity
  rcases le_or_gt e f with hef | hfe
  · -- the unit of q divides both
    rw [scaled n hef] at hne ⊢
    have hunit := unit_le (two_zpow_pos e) hne
    exact (abs_scaled_le hm).trans (mul_le_mul_of_nonneg_left hunit hp.le)
  · rw [scaled m hfe.le] at hne ⊢
    generalize m * 2 ^ (e - f).toNat = M at *
    have hunit := unit_le (two_zpow_pos f) hne
    have hf := two_zpow_pos f
    rw [abs_mul, abs_of_pos hf]
    rw [← sub_mul, abs_mul, abs_of_pos hf, ← mul_assoc]
    apply mul_le_mul_of_nonneg_right _ hf.le
    rw [← sub_mul, abs_mul, abs_of_pos hf] at hunit
    have hone : (1 : ℚ) ≤ |(M : ℚ) - n| := (le_mul_iff_one_le_left hf).mp hunit
    have hn' : |(n : ℚ)| ≤ 2 ^ F.precision - 1 := by
      have hle : |n| ≤ 2 ^ F.precision - 1 := by omega
      rw [← Int.cast_abs]
      exact_mod_cast hle
    have htriangle : |(M : ℚ)| - |(n : ℚ)| ≤ |(M : ℚ) - n| := abs_sub_abs_le_abs_sub _ _
    have hp1 : (1 : ℚ) ≤ 2 ^ F.precision := one_le_pow₀ (by norm_num)
    rcases le_or_gt |(M : ℚ)| (2 ^ F.precision) with hsmall | hlarge
    · nlinarith
    · nlinarith

end Gaps

-- What is closer to a float than half the distance to the next one is read as it.
theorem readsAs_of_close (hq : IsFloat F q) (h : 2 ^ (F.precision + 1) * |x - q| < |q|) :
    ReadsAs F x q := by
  refine ⟨hq, fun z hz hne => ?_⟩
  have hgap := gap hq.rounded hz.rounded (Ne.symm hne)
  have htriangle : |q - z| ≤ |x - q| + |x - z| := by
    have hsplit : q - z = -(x - q) + (x - z) := by ring
    rw [hsplit]
    exact (abs_add_le _ _).trans (by rw [abs_neg])
  have hp : (0 : ℚ) < 2 ^ F.precision := by positivity
  rw [pow_succ] at h
  by_contra hge
  have hle : |x - z| ≤ |x - q| := not_lt.mp hge
  have hbound : (2 : ℚ) ^ F.precision * |q - z| ≤ 2 ^ F.precision * (2 * |x - q|) :=
    mul_le_mul_of_nonneg_left (by linarith) hp.le
  linarith

theorem readsAs_self (hq : IsFloat F q) : ReadsAs F q q := by
  refine ⟨hq, fun z _ hne => ?_⟩
  rw [sub_self, abs_zero]
  exact abs_pos.mpr (sub_ne_zero.mpr (Ne.symm hne))

end Floating
