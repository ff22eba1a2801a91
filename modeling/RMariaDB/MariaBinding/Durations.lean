import Mathlib.Data.Sign.Basic
import RMariaDB.MariaBinding.RoundTrip

-- Times of either sign, and back.

namespace RMariaDB

open CArith

@[simp] theorem whole_of_abs (time : ℚ) : whole |time| = whole time := by
  unfold whole
  rw [abs_abs]

@[simp] theorem micros_of_abs (c : Arith) (time : ℚ) : micros c |time| = micros c time := by
  unfold micros
  rw [whole_of_abs, abs_abs]

-- The fields are those of the magnitude.
theorem with_time_abs (c : Arith) (t : MYSQL_TIME) (time : ℚ) :
    with_time c t time = { with_time c t |time| with neg := time < 0 } := by
  unfold with_time
  rw [whole_of_abs, micros_of_abs]

theorem whole_div_le {val : ℚ} (h : |val| < 4294967296 * 3600) : whole val / 3600 ≤ 4294967295 := by
  have hwhole : whole val < 4294967296 * 3600 := Int.floor_lt.mpr (by exact_mod_cast h)
  omega

theorem time_of_ideal (t : MYSQL_TIME) : MariaRow.time_of ideal t =
    (if t.neg then -1 else 1) * ((t.hour : ℚ) * 3600 + (t.minute : ℚ) * 60 + (t.second : ℚ) +
      (t.second_part : ℚ) / 1000000) := rfl

theorem time_of_with_time (t : MYSQL_TIME) (val : ℚ) : MariaRow.time_of ideal (with_time ideal t val) =
    (SignType.sign val : ℚ) * ((⌊|val| * 1000000⌋ : ℚ) / 1000000) := by
  have hsum := sum_with_time (abs_nonneg val) t
  have hparts : MariaRow.time_of ideal (with_time ideal t val) = (if val < 0 then -1 else 1) *
      ((⌊|val| * 1000000⌋ : ℚ) / 1000000) := by
    rw [← hsum, with_time_abs ideal t val, time_of_ideal]
    simp only [decide_eq_true_eq]
    norm_num
  rw [hparts]
  rcases lt_trichotomy val 0 with hneg | rfl | hpos
  · rw [if_pos hneg, sign_neg hneg, SignType.coe_neg_one]
  · simp
  · rw [if_neg (not_lt.mpr hpos.le), sign_pos hpos, SignType.coe_one]

-- A time that a server can keep: fields in their ranges, and no negative zero.
structure MYSQL_TIME.Duration (t : MYSQL_TIME) : Prop where
  date : t.year = 0 ∧ t.month = 0 ∧ t.day = 0
  hour : t.hour < 4294967296
  minute : t.minute < 60
  second : t.second < 60
  second_part : t.second_part < 1000000
  neg : t.neg = true → ¬(t.hour = 0 ∧ t.minute = 0 ∧ t.second = 0 ∧ t.second_part = 0)

def MYSQL_TIME.seconds (t : MYSQL_TIME) : ℕ := t.hour * 3600 + t.minute * 60 + t.second

theorem time_of_eq (t : MYSQL_TIME) : MariaRow.time_of ideal t =
    (if t.neg then -1 else 1) * ((t.seconds : ℚ) + (t.second_part : ℚ) / 1000000) := by
  rw [time_of_ideal]
  unfold MYSQL_TIME.seconds
  push_cast
  rfl

-- What is read of a time: the seconds are whole numbers, and only what is less than a second is
-- rounded.
theorem time_of_rounded {c : Arith} (hr : Floating.Rounds 53 c.double) {t : MYSQL_TIME}
    (hhour : t.hour < 4294967296) (hminute : t.minute < 60) (hsecond : t.second < 60)
    (hpart : t.second_part < 1000000) : MariaRow.time_of c t = (if t.neg then -1 else 1) *
      c.double ((t.seconds : ℚ) + c.double (t.second_part / 1000000)) := by
  have hours : c.double ((t.hour : ℚ) * 3600) = (t.hour : ℚ) * 3600 :=
    hr.of_eq_int (n := t.hour * 3600) (by push_cast; rfl) (by omega) (by omega)
  have minutes : c.double ((t.minute : ℚ) * 60) = (t.minute : ℚ) * 60 :=
    hr.of_eq_int (n := t.minute * 60) (by push_cast; rfl) (by omega) (by omega)
  have clock : c.double ((t.hour : ℚ) * 3600 + t.minute * 60) = (t.hour : ℚ) * 3600 + t.minute * 60 :=
    hr.of_eq_int (n := t.hour * 3600 + t.minute * 60) (by push_cast; ring) (by omega) (by omega)
  have whole : c.double ((t.hour : ℚ) * 3600 + t.minute * 60 + t.second) =
      (t.hour : ℚ) * 3600 + t.minute * 60 + t.second :=
    hr.of_eq_int (n := t.hour * 3600 + t.minute * 60 + t.second) (by push_cast; ring) (by omega) (by omega)
  have part : c.double (t.second_part : ℚ) = t.second_part :=
    hr.of_eq_int (n := t.second_part) (by push_cast; rfl) (by omega) (by omega)
  unfold MariaRow.time_of
  dsimp only
  rw [hours, minutes, clock, whole, part]
  congr 3
  unfold MYSQL_TIME.seconds
  push_cast
  ring

theorem abs_time_of (t : MYSQL_TIME) :
    |MariaRow.time_of ideal t| = (t.seconds : ℚ) + (t.second_part : ℚ) / 1000000 := by
  have hnonneg : (0 : ℚ) ≤ (t.seconds : ℚ) + (t.second_part : ℚ) / 1000000 := by positivity
  rw [time_of_eq, abs_mul, abs_of_nonneg hnonneg]
  split <;> simp

theorem whole_time_of {t : MYSQL_TIME} (h : t.Duration) : whole (MariaRow.time_of ideal t) = t.seconds := by
  have hpart : (t.second_part : ℚ) < 1000000 := by exact_mod_cast h.second_part
  unfold whole
  rw [abs_time_of, Int.floor_eq_iff]
  push_cast
  constructor
  · linarith [show (0 : ℚ) ≤ (t.second_part : ℚ) / 1000000 by positivity]
  · linarith [(div_lt_one (by norm_num)).mpr hpart]

theorem micros_time_of {t : MYSQL_TIME} (h : t.Duration) :
    micros ideal (MariaRow.time_of ideal t) = t.second_part := by
  unfold micros
  rw [whole_time_of h, abs_time_of]
  have hpart : ideal.double (((t.seconds : ℚ) + (t.second_part : ℚ) / 1000000 -
      ((t.seconds : ℕ) : ℤ)) * 1000000) =
      ((t.second_part : ℤ) : ℚ) := by
    rw [ideal_double]
    push_cast
    ring
  rw [hpart, Int.floor_intCast]

theorem time_of_neg {t : MYSQL_TIME} (h : t.Duration) :
    decide (MariaRow.time_of ideal t < 0) = t.neg := by
  have hnonneg : (0 : ℚ) ≤ (t.seconds : ℚ) + (t.second_part : ℚ) / 1000000 := by positivity
  cases hneg : t.neg with
  | false =>
      rw [time_of_eq, hneg]
      simpa using hnonneg
  | true =>
      have hpos : (0 : ℚ) < (t.seconds : ℚ) + (t.second_part : ℚ) / 1000000 := by
        by_contra hzero
        have hsum : (t.seconds : ℚ) + (t.second_part : ℚ) / 1000000 = 0 :=
          le_antisymm (not_lt.mp hzero) hnonneg
        have hseconds : (t.seconds : ℚ) = 0 := by
          linarith [show (0 : ℚ) ≤ (t.second_part : ℚ) / 1000000 by positivity,
            show (0 : ℚ) ≤ (t.seconds : ℚ) by positivity]
        have hpart : (t.second_part : ℚ) = 0 := by
          rw [hseconds, zero_add] at hsum
          linarith [mul_eq_zero_of_left hsum (1000000 : ℚ)]
        have hsecondsNat : t.seconds = 0 := by exact_mod_cast hseconds
        have hpartNat : t.second_part = 0 := by exact_mod_cast hpart
        unfold MYSQL_TIME.seconds at hsecondsNat
        exact h.neg hneg ⟨by omega, by omega, by omega, hpartNat⟩
      rw [time_of_eq, hneg, if_pos rfl]
      exact decide_eq_true (by linarith)

theorem with_time_of {t : MYSQL_TIME} (h : t.Duration) (t₀ : MYSQL_TIME) :
    with_time ideal (MariaBinding.clear_date_buffer t₀) (MariaRow.time_of ideal t) = t := by
  have hminute := h.minute
  have hsecond := h.second
  unfold with_time
  rw [whole_time_of h, micros_time_of h, time_of_neg h]
  obtain ⟨hyear, hmonth, hday⟩ := h.date
  have hours : ((t.seconds : ℤ) / 3600).toNat = t.hour := by
    unfold MYSQL_TIME.seconds
    omega
  have minutes : ((t.seconds : ℤ) / 60 % 60).toNat = t.minute := by
    unfold MYSQL_TIME.seconds
    omega
  have seconds : ((t.seconds : ℤ) % 60).toNat = t.second := by
    unfold MYSQL_TIME.seconds
    omega
  rw [hours, minutes, seconds, Int.toNat_natCast]
  obtain ⟨year, month, day, hour, minute, second, second_part, neg⟩ := t
  cases hyear
  cases hmonth
  cases hday
  rfl

theorem abs_time_of_lt {t : MYSQL_TIME} (h : t.Duration) :
    |MariaRow.time_of ideal t| < 4294967296 * 3600 := by
  have hseconds : t.seconds + 1 ≤ 4294967296 * 3600 := by
    have hhour := h.hour
    have hminute := h.minute
    have hsecond := h.second
    unfold MYSQL_TIME.seconds
    omega
  have hbound : (t.seconds : ℚ) + 1 ≤ 4294967296 * 3600 := by exact_mod_cast hseconds
  have hpart : (t.second_part : ℚ) < 1000000 := by exact_mod_cast h.second_part
  rw [abs_time_of]
  linarith [(div_lt_one (by norm_num : (0 : ℚ) < 1000000)).mpr hpart]

theorem value_time_echoed (t : MYSQL_TIME) :
    MariaRow.value_time (echoed .MY_TIME t) ideal = .ok (.finite (MariaRow.time_of ideal t)) := rfl

theorem floor_hours (val : ℚ) : whole val / 3600 = ⌊|val| / 3600⌋ := by
  have h := Int.floor_div_natCast |val| 3600
  exact_mod_cast h.symm

-- A time is written with the fields of its magnitude and its sign, and what was written is read
-- as the time without what is less than a microsecond, where the numbers are taken exact.
theorem durations_round_trip :
    (∀ (val : ℚ) (t : MYSQL_TIME), |val| < 4294967296 * 3600 → ∃ t',
      MariaBinding.set_time_buffer ideal val t = some t' ∧ t'.minute < 60 ∧ t'.second < 60 ∧
      t'.second_part < 1000000 ∧ (t'.neg = true ↔ val < 0) ∧ (t'.hour : ℤ) = ⌊|val| / 3600⌋ ∧
      MariaRow.value_time (echoed .MY_TIME t') ideal =
        .ok (.finite ((SignType.sign val : ℚ) * ((⌊|val| * 1000000⌋ : ℚ) / 1000000)))) ∧
    (∀ t t₀ : MYSQL_TIME, t.Duration → ∃ val,
      MariaRow.value_time (echoed .MY_TIME t) ideal = .ok (.finite val) ∧
      MariaBinding.time_buffer ideal (.finite val) t₀ = some t) := by
  constructor
  · intro val t hval
    have hwhole := whole_nonneg val
    have hfixed : ideal.double val = val := rfl
    have hmicros := micros_bounds ideal_rounds hfixed
    refine ⟨with_time ideal t val, set_time_buffer_eq ideal_rounds rfl t (whole_div_le hval), ?_⟩
    refine ⟨?_, ?_, ?_, ?_, ?_, ?_⟩
    · simp only [with_time]
      omega
    · simp only [with_time]
      omega
    · simp only [with_time]
      omega
    · exact decide_eq_true_iff
    · rw [← floor_hours]
      simp only [with_time]
      omega
    · rw [value_time_echoed, time_of_with_time]
  · intro t t₀ ht
    refine ⟨MariaRow.time_of ideal t, rfl, ?_⟩
    have hfixed : ideal.double (MariaRow.time_of ideal t) = MariaRow.time_of ideal t := rfl
    have hwritten := set_time_buffer_eq ideal_rounds hfixed
      (MariaBinding.clear_date_buffer t₀) (whole_div_le (abs_time_of_lt ht))
    rw [with_time_of ht] at hwritten
    exact hwritten

-- Minus a second and a half
theorem durations_round_trip_negative :
    (∃ t', MariaBinding.set_time_buffer ideal (-3 / 2) {} = some t' ∧ t'.minute < 60 ∧ t'.second < 60 ∧
      t'.second_part < 1000000 ∧ (t'.neg = true ↔ (-3 / 2 : ℚ) < 0) ∧
      (t'.hour : ℤ) = ⌊|(-3 / 2 : ℚ)| / 3600⌋ ∧
      MariaRow.value_time (echoed .MY_TIME t') ideal = .ok (.finite ((SignType.sign (-3 / 2 : ℚ) : ℚ) *
        ((⌊|(-3 / 2 : ℚ)| * 1000000⌋ : ℚ) / 1000000)))) ∧
    ∃ val, MariaRow.value_time (echoed .MY_TIME { second := 1, second_part := 500000, neg := true })
        ideal =
        .ok (.finite val) ∧
      MariaBinding.time_buffer ideal (.finite val) {} =
        some { second := 1, second_part := 500000, neg := true } := by
  constructor
  · exact durations_round_trip.1 (-3 / 2) {} (by decide +kernel)
  · apply durations_round_trip.2
    exact ⟨⟨rfl, rfl, rfl⟩, by decide, by decide, by decide, by decide, by decide⟩

end RMariaDB
