import Mathlib.Data.Rat.Cast.Order
import Mathlib.Tactic.Linarith
import Mathlib.Tactic.FieldSimp
import Mathlib.Tactic.Ring
import RMariaDB.MariaBinding.Civil

-- The time of day: hours, minutes, seconds and microseconds of a number of seconds, and
-- back.

namespace RMariaDB

open CArith Floating

-- Whole seconds and microseconds of a duration.
def whole (time : ℚ) : ℤ := ⌊|time|⌋

def micros (c : Arith) (time : ℚ) : ℤ := ⌊c.double ((|time| - whole time) * 1000000)⌋

def with_time (c : Arith) (t : MYSQL_TIME) (time : ℚ) : MYSQL_TIME :=
  { t with
    hour := (whole time / 3600).toNat
    minute := (whole time / 60 % 60).toNat
    second := (whole time % 60).toNat
    second_part := (micros c time).toNat
    neg := time < 0 }

theorem whole_nonneg (time : ℚ) : 0 ≤ whole time := Int.floor_nonneg.mpr (abs_nonneg time)

theorem whole_le (time : ℚ) : (whole time : ℚ) ≤ |time| := Int.floor_le _

theorem lt_whole (time : ℚ) : |time| < whole time + 1 := Int.lt_floor_add_one _

theorem cast_int {inType : ℤ → Prop} [DecidablePred inType] {n : ℤ} (h : inType n) :
    MariaBinding.cast inType (n : ℚ) = some n := by
  rw [MariaBinding.cast, trunc_intCast, fits_of h]

section Splitting

variable {c : Arith} {time : ℚ}

theorem double_fraction (hr : Rounds 53 c.double) (hfixed : c.double time = time) :
    c.double (|time| - whole time) = |time| - whole time :=
  hr.fract _ (hr.abs hfixed) (abs_nonneg time)

theorem micros_bounds (hr : Rounds 53 c.double) (hfixed : c.double time = time) :
    0 ≤ micros c time ∧ micros c time < 1000000 := by
  have h0 := whole_le time
  have h1 := lt_whole time
  constructor
  · exact Int.floor_nonneg.mpr (hr.nonneg (by linarith))
  · have hless := hr.mul_lt _ (double_fraction hr hfixed) (by linarith) 1000000 (by decide) (by decide)
    exact Int.floor_lt.mpr (by exact_mod_cast hless)

theorem trunc_div (hr : Rounds 53 c.double) (hfixed : c.double time = time)
    {n : ℕ} (hn : 0 < n) (hbound : (n : ℤ) * (whole time / n + 1) < 2 ^ 53) :
    trunc (c.double (|time| / n)) = whole time / n := by
  have hfloor : ⌊|time| / n⌋ = whole time / n := Int.floor_div_natCast _ n
  have hnonneg : 0 ≤ whole time / n := Int.ediv_nonneg (whole_nonneg time) (by omega)
  have hproduct : 0 ≤ (n : ℤ) * (whole time / n) := mul_nonneg (by omega) hnonneg
  rw [trunc_of_nonneg (hr.nonneg (by positivity)),
    hr.floor_div (hr.abs hfixed) hn (by rw [hfloor]; omega) (by rw [hfloor]; exact hbound)
      (by rw [hfloor]; omega), hfloor]

theorem set_time_buffer_eq (hr : Rounds 53 c.double) (hfixed : c.double time = time)
    (t : MYSQL_TIME) (h : whole time / 3600 ≤ 4294967295) :
    MariaBinding.set_time_buffer c time t = some (with_time c t time) := by
  have h0 := whole_nonneg time
  have hm := micros_bounds hr hfixed
  have habs : (if time < 0 then -time else time) = |time| := by
    split
    · exact (abs_of_neg ‹_›).symm
    · exact (abs_of_nonneg (not_lt.mp ‹_›)).symm
  have hwhole : trunc |time| = whole time := trunc_of_nonneg (abs_nonneg time)
  have hminutes : trunc (c.double (|time| / 60)) = whole time / 60 :=
    trunc_div hr hfixed (n := 60) (by decide) (by push_cast; omega)
  have hhours : trunc (c.double (|time| / 3600)) = whole time / 3600 :=
    trunc_div hr hfixed (n := 3600) (by decide) (by push_cast; omega)
  -- the products and differences are integers without rounding
  have hint {n : ℤ} (hlow : -9007199254740992 < n) (hhigh : n < 9007199254740992) :
      c.double (n : ℚ) = n := hr.int (abs_lt.mpr ⟨hlow, hhigh⟩)
  have hhour : MariaBinding.cast InUnsigned ((whole time / 3600 : ℤ) : ℚ) =
      some (whole time / 3600) :=
    cast_int ⟨by omega, h⟩
  have hminute : MariaBinding.cast InUnsigned (c.double
      (((whole time / 60 : ℤ) : ℚ) - c.double (((whole time / 3600 : ℤ) : ℚ) * 60))) =
      some (whole time / 60 % 60) := by
    have hproduct : c.double (((whole time / 3600 : ℤ) : ℚ) * 60) =
        ((whole time / 3600 * 60 : ℤ) : ℚ) := by
      rw [← hint (n := whole time / 3600 * 60) (by omega) (by omega)]
      push_cast
      rfl
    have hz : whole time / 60 - whole time / 3600 * 60 = whole time / 60 % 60 := by omega
    rw [hproduct, ← Int.cast_sub, hz, hint (by omega) (by omega)]
    exact cast_int ⟨by omega, by omega⟩
  have hsecond : MariaBinding.cast InUnsigned (c.double
      ((whole time : ℚ) - c.double (((whole time / 60 : ℤ) : ℚ) * 60))) = some (whole time % 60) := by
    have hproduct : c.double (((whole time / 60 : ℤ) : ℚ) * 60) =
        ((whole time / 60 * 60 : ℤ) : ℚ) := by
      rw [← hint (n := whole time / 60 * 60) (by omega) (by omega)]
      push_cast
      rfl
    have hz : whole time - whole time / 60 * 60 = whole time % 60 := by omega
    rw [hproduct, ← Int.cast_sub, hz, hint (by omega) (by omega)]
    exact cast_int ⟨by omega, by omega⟩
  have hpart : MariaBinding.cast MariaBinding.InUnsignedLong
      (c.double (c.double (|time| - (whole time : ℚ)) * 1000000)) = some (micros c time) := by
    have htrunc : trunc (c.double ((|time| - (whole time : ℚ)) * 1000000)) = micros c time :=
      trunc_of_nonneg (hr.nonneg (by linarith [whole_le time]))
    rw [double_fraction hr hfixed, MariaBinding.cast, htrunc]
    exact fits_of ⟨by omega, by omega⟩
  simp only [MariaBinding.set_time_buffer, MariaBinding.time_parts, habs, hwhole, hminutes, hhours, ↓bind_step hhour,
    ↓bind_step hminute, ↓bind_step hsecond, ↓bind_step hpart]
  rfl

end Splitting

-- Splitting a number of seconds and adding it up again keeps the whole microseconds.
theorem sum_with_time {time : ℚ} (h : 0 ≤ time) (t : MYSQL_TIME) :
    ((with_time ideal t time).hour : ℚ) * (60 * 60) + ((with_time ideal t time).minute : ℚ) * 60 +
      ((with_time ideal t time).second : ℚ) + ((with_time ideal t time).second_part : ℚ) / 1000000 =
      (⌊time * 1000000⌋ : ℚ) / 1000000 := by
  have h0 := whole_nonneg time
  have hfixed : ideal.double time = time := rfl
  have hm := micros_bounds ideal_rounds hfixed
  have hour : ((whole time / 3600).toNat : ℚ) = ((whole time / 3600 : ℤ) : ℚ) := by
    exact_mod_cast Int.toNat_of_nonneg (a := whole time / 3600) (by omega)
  have minute : ((whole time / 60 % 60).toNat : ℚ) = ((whole time / 60 % 60 : ℤ) : ℚ) := by
    exact_mod_cast Int.toNat_of_nonneg (a := whole time / 60 % 60) (by omega)
  have second : ((whole time % 60).toNat : ℚ) = ((whole time % 60 : ℤ) : ℚ) := by
    exact_mod_cast Int.toNat_of_nonneg (a := whole time % 60) (by omega)
  have part : ((micros ideal time).toNat : ℚ) = (micros ideal time : ℚ) := by
    exact_mod_cast Int.toNat_of_nonneg hm.1
  have hclock : ((whole time / 3600 : ℤ) : ℚ) * (60 * 60) + ((whole time / 60 % 60 : ℤ) : ℚ) * 60 +
      ((whole time % 60 : ℤ) : ℚ) = whole time := by
    have hz : whole time / 3600 * (60 * 60) + whole time / 60 % 60 * 60 + whole time % 60 =
        whole time := by omega
    exact_mod_cast hz
  have hmicros : micros ideal time = ⌊time * 1000000⌋ - whole time * 1000000 := by
    have he : (|time| - (whole time : ℚ)) * 1000000 =
        time * 1000000 - ((whole time * 1000000 : ℤ) : ℚ) := by
      rw [abs_of_nonneg h]
      push_cast
      ring
    rw [micros, ideal_double, he, Int.floor_sub_intCast]
  simp only [with_time, hour, minute, second, part, hclock]
  rw [hmicros]
  push_cast
  field_simp
  ring

end RMariaDB
