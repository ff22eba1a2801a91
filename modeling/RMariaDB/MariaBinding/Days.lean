import RMariaDB.Lib.Calendar.Order
import RMariaDB.MariaBinding.Civil

-- The days that set_date_buffer() is made for and the dates that it makes of them.

namespace RMariaDB

open CArith

def last_date : Calendar.Date := ⟨5879610, 9, 9⟩

-- The days from 0000-01-01 on, as long as an int can count them from 0000-03-01
abbrev Day : Type := {date : ℤ // Representable date}

abbrev CivilDate : Type := {date : Calendar.Date // date.Valid ∧ 0 ≤ date.year ∧ date ≤ last_date}

theorem last_date_valid : last_date.Valid := ⟨by decide, by decide⟩

theorem representable_iff (date : ℤ) : Representable date ↔
    0 ≤ (Calendar.dateOf (date + 719468)).year ∧ Calendar.dateOf (date + 719468) ≤ last_date := by
  have hfirst : Calendar.dayOf ⟨0, 1, 1⟩ = -60 := by decide
  have hlast : Calendar.dayOf last_date = 2147483647 := by decide
  rw [Calendar.year_dateOf_iff, ← Calendar.dayOf_le_iff (Calendar.dateOf_valid _) last_date_valid,
    Calendar.dayOf_dateOf, hfirst, hlast]
  unfold Representable
  omega

theorem dateOf_dayOf_shifted {date : Calendar.Date} (h : date.Valid) :
    Calendar.dateOf (Calendar.dayOf date - 719468 + 719468) = date := by
  rw [Int.sub_add_cancel, Calendar.dateOf_dayOf h]

def calendar : Day ≃o CivilDate where
  toFun date := ⟨Calendar.dateOf (date.1 + 719468), Calendar.dateOf_valid _,
    (representable_iff date.1).mp date.2⟩
  invFun date := ⟨Calendar.dayOf date.1 - 719468, by
    rw [representable_iff, dateOf_dayOf_shifted date.2.1]
    exact date.2.2⟩
  left_inv := by
    intro date
    apply Subtype.ext
    show Calendar.dayOf (Calendar.dateOf (date.1 + 719468)) - 719468 = date.1
    rw [Calendar.dayOf_dateOf]
    omega
  right_inv date := Subtype.ext (dateOf_dayOf_shifted date.2.1)
  map_rel_iff' := by
    intro date date'
    show Calendar.civil (date.1 + 719468) ≤ Calendar.civil (date'.1 + 719468) ↔ date.1 ≤ date'.1
    rw [Calendar.civil.le_iff_le]
    omega

-- The date in a buffer
def MYSQL_TIME.civil (t : MYSQL_TIME) : Calendar.Date := ⟨t.year, t.month, t.day⟩

theorem civil_with_date (t : MYSQL_TIME) (date : CivilDate) : (with_date t date.1).civil = date.1 := by
  obtain ⟨⟨year, month, day⟩, ⟨⟨hm, _⟩, hd, _⟩, hy, _⟩ := date
  have hmonth : 0 ≤ month := le_trans Int.one_pos.le hm
  have hday : 0 ≤ day := le_trans Int.one_pos.le hd
  simp only [MYSQL_TIME.civil, with_date]
  rw [Int.toNat_of_nonneg hy, Int.toNat_of_nonneg hmonth, Int.toNat_of_nonneg hday]

theorem set_date_buffer_calendar {c : Arith} (hc : Agrees c) (date : Day) (t : MYSQL_TIME) :
    MariaBinding.set_date_buffer c date.1 t = some (with_date t (calendar date).1) :=
  set_date_buffer_eq hc t date.2

theorem days_from_civil_calendar {c : Arith} (hc : Agrees c) (date : CivilDate) :
    days_from_civil c date.1.year date.1.month date.1.day = some (calendar.symm date).1 := by
  have hinverse : (calendar.symm date).1 = Calendar.dayOf date.1 - 719468 := rfl
  have hlast := (calendar.symm date).2.2
  have hday : Calendar.dayOf date.1 ≤ 2147483647 := by omega
  exact days_from_civil_eq hc date.2.1 date.2.2.1 hday

-- The two routines are the two directions of an order isomorphism between the days and the
-- dates, and neither leaves the range of an int or unsigned on the way.
theorem calendar_correct :
    (∀ (date : Day) (t : MYSQL_TIME),
      MariaBinding.set_date_buffer exact date.1 t = some (with_date t (calendar date).1) ∧
      MariaBinding.set_date_buffer machine date.1 t = some (with_date t (calendar date).1) ∧
      (with_date t (calendar date).1).civil = (calendar date).1) ∧
    (∀ date : CivilDate,
      days_from_civil exact date.1.year date.1.month date.1.day = some (calendar.symm date).1 ∧
      days_from_civil machine date.1.year date.1.month date.1.day = some (calendar.symm date).1) ∧
    (calendar ⟨0, by decide⟩).1 = ⟨1970, 1, 1⟩ := by
  refine ⟨fun date t => ⟨?_, ?_, ?_⟩, fun date => ⟨?_, ?_⟩, ?_⟩
  · exact set_date_buffer_calendar exact_agrees date t
  · exact set_date_buffer_calendar machine_agrees date t
  · exact civil_with_date t (calendar date)
  · exact days_from_civil_calendar exact_agrees date
  · exact days_from_civil_calendar machine_agrees date
  · decide

end RMariaDB
