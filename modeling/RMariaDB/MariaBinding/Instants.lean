import RMariaDB.MariaBinding.Days
import RMariaDB.MariaBinding.RoundTrip

-- A date and time that is read, rounded to a double and written again.

namespace RMariaDB

open Program CArith

namespace MYSQL_TIME

def days (t : MYSQL_TIME) : ℤ := Calendar.dayOf t.civil - 719468

def seconds_of_day (t : MYSQL_TIME) : ℕ := t.hour * 3600 + t.minute * 60 + t.second

-- The exact number of seconds since 1970 that value_date_time() approximates
def instant (t : MYSQL_TIME) : ℚ :=
  (t.days : ℚ) * 86400 + (t.seconds_of_day : ℚ) + (t.second_part : ℚ) / 1000000

theorem Valid.seconds_of_day_lt {t : MYSQL_TIME} (h : t.Valid) : t.seconds_of_day < 86400 := by
  have hhour := h.hour
  have hminute := h.minute
  have hsecond := h.second
  unfold seconds_of_day
  omega

theorem Valid.time_of_day {t : MYSQL_TIME} (h : t.Valid) :
    0 ≤ t.instant - t.days * 86400 ∧ t.instant - t.days * 86400 < 86400 := by
  have hseconds : (t.seconds_of_day : ℚ) + 1 ≤ 86400 := by
    exact_mod_cast h.seconds_of_day_lt
  have hpart : (t.second_part : ℚ) < 1000000 := by exact_mod_cast h.second_part
  have hfraction := (div_lt_one (by norm_num : (0 : ℚ) < 1000000)).mpr hpart
  have hnonneg : (0 : ℚ) ≤ (t.second_part : ℚ) / 1000000 := by positivity
  have hsecond : (0 : ℚ) ≤ (t.seconds_of_day : ℚ) := by positivity
  unfold instant
  constructor
  · linarith
  · linarith

theorem Valid.floor_instant {t : MYSQL_TIME} (h : t.Valid) : ⌊t.instant / 86400⌋ = t.days := by
  obtain ⟨h0, h1⟩ := h.time_of_day
  rw [Int.floor_eq_iff]
  constructor
  · linarith
  · linarith

-- Within 2^31 seconds of 1970
theorem days_bounds {t : MYSQL_TIME} (h : t.Valid) (hinstant : |t.instant| < 2147483648) :
    -24856 ≤ t.days ∧ t.days ≤ 24855 := by
  obtain ⟨hlow, hhigh⟩ := abs_lt.mp hinstant
  rw [← h.floor_instant]
  constructor
  · apply Int.le_floor.mpr
    push_cast
    linarith
  · have hlt : ⌊t.instant / 86400⌋ < 24856 := by
      apply Int.floor_lt.mpr
      push_cast
      linarith
    omega

theorem Valid.civil {t : MYSQL_TIME} (h : t.Valid) : t.civil.Valid := h.date

theorem with_date_civil {t : MYSQL_TIME} (h : t.Valid) :
    with_date t (Calendar.dateOf (t.days + 719468)) = t := by
  rw [days, dateOf_dayOf_shifted h.civil]
  rfl

theorem representable_days {t : MYSQL_TIME} (h : t.Valid) (hinstant : |t.instant| < 2147483648) :
    Representable t.days := by
  have hdays := days_bounds h hinstant
  unfold Representable
  omega

theorem date_time_of_instant {t : MYSQL_TIME} (h : t.Valid) (hdays : Representable t.days) :
    MariaRow.date_time_of ideal t = some t.instant := by
  have hdays := days_of_with_date ideal_agrees t hdays
  rw [with_date_civil h] at hdays
  rw [MariaRow.date_time_of, bind_step hdays, instant, seconds_of_day]
  simp only [ideal_double, Option.pure_def, Option.some.injEq]
  push_cast
  ring

-- What is read of it: the seconds are whole numbers, and only what is less than a second is
-- rounded.
theorem date_time_of_eq {c : Arith} (hc : Agrees c) (hr : Floating.Rounds 53 c.double) {t : MYSQL_TIME}
    (h : t.Valid) (hdays : Representable t.days) : MariaRow.date_time_of c t = some (c.double
      (((t.days * 86400 + t.seconds_of_day : ℤ) : ℚ) + c.double (t.second_part / 1000000))) := by
  have hread := days_of_with_date hc t hdays
  rw [with_date_civil h] at hread
  obtain ⟨hlow, hhigh⟩ := hdays
  have hhour := h.hour
  have hminute := h.minute
  have hsecond := h.second
  have hpart := h.second_part
  have date : c.double ((t.days : ℚ) * 86400) = (t.days : ℚ) * 86400 :=
    hr.of_eq_int (n := t.days * 86400) (by push_cast; rfl) (by omega) (by omega)
  have hours : c.double ((t.hour : ℚ) * (60 * 60)) = (t.hour : ℚ) * (60 * 60) :=
    hr.of_eq_int (n := t.hour * 3600) (by push_cast; ring) (by omega) (by omega)
  have minutes : c.double ((t.minute : ℚ) * 60) = (t.minute : ℚ) * 60 :=
    hr.of_eq_int (n := t.minute * 60) (by push_cast; rfl) (by omega) (by omega)
  have hour : c.double ((t.days : ℚ) * 86400 + t.hour * (60 * 60)) =
      (t.days : ℚ) * 86400 + t.hour * (60 * 60) :=
    hr.of_eq_int (n := t.days * 86400 + t.hour * 3600) (by push_cast; ring) (by omega) (by omega)
  have clock : c.double ((t.days : ℚ) * 86400 + t.hour * (60 * 60) + t.minute * 60) =
      (t.days : ℚ) * 86400 + t.hour * (60 * 60) + t.minute * 60 :=
    hr.of_eq_int (n := t.days * 86400 + t.hour * 3600 + t.minute * 60) (by push_cast; ring) (by omega)
      (by omega)
  have whole : c.double ((t.days : ℚ) * 86400 + t.hour * (60 * 60) + t.minute * 60 + t.second) =
      (t.days : ℚ) * 86400 + t.hour * (60 * 60) + t.minute * 60 + t.second :=
    hr.of_eq_int (n := t.days * 86400 + t.hour * 3600 + t.minute * 60 + t.second) (by push_cast; ring)
      (by omega) (by omega)
  have part : c.double (t.second_part : ℚ) = t.second_part :=
    hr.of_eq_int (n := t.second_part) (by push_cast; rfl) (by omega) (by omega)
  rw [MariaRow.date_time_of, bind_step hread]
  dsimp only
  rw [date, hours, minutes, hour, clock, whole, part]
  simp only [Option.pure_def, Option.some.injEq]
  congr 2
  unfold seconds_of_day
  push_cast
  ring

theorem instant_injective {t t' : MYSQL_TIME} (h : t.Valid) (h' : t'.Valid)
    (heq : t.instant = t'.instant) : t = t' := by
  have hdays : t.days = t'.days := by rw [← h.floor_instant, heq, h'.floor_instant]
  have hcivil : t.civil = t'.civil := by
    apply Calendar.dayOf_injective h.civil h'.civil
    unfold days at hdays
    omega
  have hclock : t.seconds_of_day * 1000000 + t.second_part =
      t'.seconds_of_day * 1000000 + t'.second_part := by
    have hrational : (t.seconds_of_day : ℚ) * 1000000 + t.second_part =
        t'.seconds_of_day * 1000000 + t'.second_part := by
      unfold instant at heq
      rw [hdays] at heq
      linarith
    exact_mod_cast hrational
  obtain ⟨year, month, day, hour, minute, second, second_part, neg⟩ := t
  obtain ⟨year', month', day', hour', minute', second', second_part', neg'⟩ := t'
  have hminute := h.minute
  have hminute' := h'.minute
  have hsecond := h.second
  have hsecond' := h'.second
  have hpart := h.second_part
  have hpart' := h'.second_part
  obtain rfl : neg = neg' := h.neg.trans h'.neg.symm
  simp only [civil, Calendar.Date.mk.injEq, seconds_of_day, MYSQL_TIME.mk.injEq, and_true] at *
  omega

end MYSQL_TIME

open MYSQL_TIME

-- The microseconds of a number of seconds near that of a date and time
theorem floor_near {t : MYSQL_TIME} {val : ℚ} (hval : |val - t.instant| ≤ 1 / 8388608) :
    ((⌊val * 1000000⌋ : ℚ) / 1000000 = t.instant) ↔ t.instant ≤ val := by
  have hwhole : ∃ n : ℤ, t.instant * 1000000 = n := by
    refine ⟨t.days * 86400000000 + t.seconds_of_day * 1000000 + t.second_part, ?_⟩
    unfold instant
    push_cast
    ring
  obtain ⟨n, hn⟩ := hwhole
  obtain ⟨hlow, hhigh⟩ := abs_le.mp hval
  constructor
  · intro h
    have hfloor := Int.floor_le (val * 1000000)
    linarith
  · intro h
    have hfloor : ⌊val * 1000000⌋ = n := by
      rw [Int.floor_eq_iff]
      constructor
      · linarith
      · linarith
    rw [hfloor, ← hn]
    ring

-- What the encoder writes has the microseconds of its value.
theorem written_instant {val : ℚ} (t₀ : MYSQL_TIME) (h : Representable ⌊val / 86400⌋) :
    ∃ t, MariaBinding.date_time_buffer ideal (.finite val) t₀ = some t ∧ t.Valid ∧
      t.instant = (⌊val * 1000000⌋ : ℚ) / 1000000 := by
  obtain ⟨t, hbuffer, hvalid, hdecode⟩ := date_time_of_buffer val t₀ h
  refine ⟨t, hbuffer, hvalid, ?_⟩
  have hdays : t.days = ⌊val / 86400⌋ := by
    rw [date_time_buffer_eq ideal_agrees ideal_rounds t₀ h] at hbuffer
    have hcivil := civil_with_date t₀ (calendar ⟨_, h⟩)
    have ht : t.civil = Calendar.dateOf (⌊val / 86400⌋ + 719468) := by
      rw [← Option.some.inj hbuffer]
      exact hcivil
    rw [days, ht, Calendar.dayOf_dateOf]
    omega
  rw [date_time_of_instant hvalid (hdays ▸ h)] at hdecode
  exact Option.some.inj hdecode

theorem representable_near {t : MYSQL_TIME} {val : ℚ} (hinstant : |t.instant| < 2147483648)
    (hval : |val - t.instant| ≤ 1 / 8388608) : Representable ⌊val / 86400⌋ := by
  obtain ⟨hlow, hhigh⟩ := abs_lt.mp hinstant
  obtain ⟨hbelow, habove⟩ := abs_le.mp hval
  constructor
  · apply Int.le_floor.mpr
    push_cast
    linarith
  · apply Int.floor_le_iff.mpr
    push_cast
    linarith

-- What bind_next_row() writes for an element of a date and time column
theorem bind_date_time {slot : MariaBinding.Slot} {klass : List String} {cells : List RealCell}
    {i : Nat} {val : ℚ} {int64 : ℤ} (htype : slot.type = .MY_DATE_TIME)
    (hcell : cells[i]? = some ⟨.finite val, int64⟩) {t : MYSQL_TIME}
    (hbuffer : MariaBinding.date_time_buffer ideal (.finite val) slot.time_buffer = some t) :
    MariaBinding.bind_value slot (.REALSXP klass cells) i ideal = .ok (some { slot with
      time_buffer := t, buffer := some (.time t), buffer_length := sizeof_MYSQL_TIME }) := by
  have hreal : REAL (.REALSXP klass cells) i = .ok (.finite val) := by
    simp only [REAL, index_eq_ok hcell, map_ok]
  simp [MariaBinding.bind_value, htype, hreal, ISNAN, MariaBinding.bind_value.bind_time, hbuffer,
    ofOption]

variable {slot : MariaBinding.Slot} {klass : List String} {cells : List RealCell} {i : Nat}
  {t : MYSQL_TIME} {val : ℚ} {int64 : ℤ}

-- A date and time that was read as the double `val` is written back as it was exactly when the
-- double is not below it: the encoder, whose conversions are taken exact, cuts off what is less
-- than a microsecond.
theorem rewritten_iff (ht : t.Valid) (hinstant : |t.instant| < 2147483648)
    (hval : |val - t.instant| ≤ 1 / 8388608) (htype : slot.type = .MY_DATE_TIME)
    (hcell : cells[i]? = some ⟨.finite val, int64⟩) :
    MariaRow.value_date_time (echoed .MY_DATE_TIME t) ideal = .ok (.finite t.instant) ∧
    ((∃ slot', MariaBinding.bind_value slot (.REALSXP klass cells) i ideal = .ok (some slot') ∧
      slot'.buffer = some (.time t)) ↔ t.instant ≤ val) := by
  constructor
  · have hdecode := date_time_of_instant ht (representable_days ht hinstant)
    simp [MariaRow.value_date_time, echoed_null, mytime_echoed, hdecode, ofOption]
  · obtain ⟨written, hbuffer, hvalid, hwritten⟩ :=
      written_instant slot.time_buffer (representable_near hinstant hval)
    rw [bind_date_time htype hcell hbuffer, ← floor_near hval, ← hwritten]
    constructor
    · rintro ⟨slot', hslot', hsame⟩
      cases hslot'
      cases hsame
      rfl
    · intro h
      rw [instant_injective hvalid ht h]
      exact ⟨_, rfl, rfl⟩

-- 2001-09-09 01:46:40.3
def moment : MYSQL_TIME :=
  { year := 2001, month := 9, day := 9, hour := 1, minute := 46, second := 40, second_part := 300000 }

-- The nearest double
def near_moment : ℚ := 4194304001258291 / 4194304

theorem moment_valid : moment.Valid := ⟨⟨by decide, by decide⟩, by decide, by decide, by decide, by decide, rfl⟩

def moment_slot : MariaBinding.Slot := { buffer_type := .MYSQL_TYPE_DATETIME, type := .MY_DATE_TIME }

theorem moment_instant : moment.instant = 10000000003 / 10 := by decide +kernel

theorem moment_near : |moment.instant| < 2147483648 ∧ |near_moment - moment.instant| ≤ 1 / 8388608 := by
  rw [moment_instant]
  decide +kernel

-- It loses a microsecond.
theorem moment_changed : moment.Valid ∧
    (|moment.instant| < 2147483648 ∧ |near_moment - moment.instant| ≤ 1 / 8388608) ∧
    ¬∃ slot', MariaBinding.bind_value moment_slot
      (.REALSXP ["POSIXct", "POSIXt"] [⟨.finite near_moment, 0⟩]) 0 ideal = .ok (some slot') ∧
        slot'.buffer = some (.time moment) := by
  refine ⟨moment_valid, moment_near, ?_⟩
  rintro ⟨slot', hslot', hsame⟩
  have hbuffer : MariaBinding.date_time_buffer ideal (.finite near_moment)
      moment_slot.time_buffer = some { moment with second_part := 299999 } := by decide +kernel
  rw [bind_date_time rfl rfl hbuffer] at hslot'
  cases hslot'
  cases hsame

theorem rewritten_iff_moment :
    MariaRow.value_date_time (echoed .MY_DATE_TIME moment) ideal = .ok (.finite moment.instant) ∧
    ((∃ slot', MariaBinding.bind_value moment_slot
      (.REALSXP ["POSIXct", "POSIXt"] [⟨.finite near_moment, 0⟩]) 0 ideal = .ok (some slot') ∧
        slot'.buffer = some (.time moment)) ↔ moment.instant ≤ near_moment) :=
  rewritten_iff moment_valid moment_near.1 moment_near.2 rfl rfl

end RMariaDB
