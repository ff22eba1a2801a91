import RMariaDB.Lib.Calendar
import RMariaDB.MariaBinding
import RMariaDB.MariaRow

-- The two calendar routines of the source compute the proleptic Gregorian
-- calendar on the days from 0000-01-01 up to the largest that an int can count.

namespace RMariaDB

open CArith

def Representable (date : ℤ) : Prop := -719528 ≤ date ∧ date ≤ 2147483647 - 719468

instance : DecidablePred Representable := fun _ => inferInstanceAs (Decidable (_ ∧ _))

def with_date (t : MYSQL_TIME) (date : Calendar.Date) : MYSQL_TIME :=
  { t with year := date.year.toNat, month := date.month.toNat, day := date.day.toNat }

-- The 60 days before 0000-03-01 are the last days of the era before.
theorem yearOfEra_last {doe : ℤ} (h0 : 146037 ≤ doe) (h1 : doe ≤ 146096) :
    Calendar.yearOfEra doe = 399 := by
  unfold Calendar.yearOfEra
  omega

theorem dateOf_year_bounds {z : ℤ} (h0 : -60 ≤ z) (h1 : z ≤ 2147483647) :
    0 ≤ (Calendar.dateOf z).year ∧ (Calendar.dateOf z).year ≤ 5880000 := by
  have hyoe := Calendar.yearOfEra_bounds (z % 146097) (by omega) (by omega)
  by_cases hneg : z < 0
  · have hlast : Calendar.yearOfEra (z % 146097) = 399 := yearOfEra_last (by omega) (by omega)
    simp only [Calendar.dateOf, hlast, Calendar.yearStart, Calendar.monthOfYear, Calendar.carry,
      Calendar.fromMarch]
    split <;> split <;> omega
  · simp only [Calendar.dateOf, Calendar.carry]
    split <;> omega

-- The unsigned part of the routine, on a day of an era.
theorem year_of_era_steps {c : Arith} (hc : Agrees c) {doe : ℤ} (h0 : 0 ≤ doe)
    (h1 : doe ≤ 146096) :
    c.unsigned (doe - doe / 1460) = some (doe - doe / 1460) ∧
    c.unsigned (doe - doe / 1460 + doe / 36524) = some (doe - doe / 1460 + doe / 36524) ∧
    c.unsigned (doe - doe / 1460 + doe / 36524 - doe / 146096) =
      some (doe - doe / 1460 + doe / 36524 - doe / 146096) ∧
    c.unsigned ((doe - doe / 1460 + doe / 36524 - doe / 146096) / 365) =
      some (Calendar.yearOfEra doe) := by
  refine ⟨?_, ?_, ?_, ?_⟩
  · exact hc.unsigned_eq (by omega) (by omega)
  · exact hc.unsigned_eq (by omega) (by omega)
  · exact hc.unsigned_eq (by omega) (by omega)
  · exact hc.unsigned_eq (by omega) (by omega)

theorem day_of_year_steps {c : Arith} (hc : Agrees c) {doe yoe : ℤ} (h0 : 0 ≤ yoe)
    (h1 : yoe ≤ 399) (hd0 : 0 ≤ doe - Calendar.yearStart yoe)
    (hd1 : doe - Calendar.yearStart yoe ≤ 365) :
    c.unsigned (365 * yoe) = some (365 * yoe) ∧
    c.unsigned (365 * yoe + yoe / 4) = some (365 * yoe + yoe / 4) ∧
    c.unsigned (365 * yoe + yoe / 4 - yoe / 100) = some (Calendar.yearStart yoe) ∧
    c.unsigned (doe - Calendar.yearStart yoe) = some (doe - Calendar.yearStart yoe) := by
  refine ⟨?_, ?_, ?_, ?_⟩
  · exact hc.unsigned_eq (by omega) (by omega)
  · exact hc.unsigned_eq (by omega) (by omega)
  · exact hc.unsigned_eq (by omega) (by omega)
  · exact hc.unsigned_eq (by omega) (by omega)

theorem month_steps {c : Arith} (hc : Agrees c) {doy mp : ℤ} (h0 : 0 ≤ doy) (h1 : doy ≤ 365)
    (hmp : mp = Calendar.monthOfYear doy) :
    c.unsigned (5 * doy) = some (5 * doy) ∧
    c.unsigned (5 * doy + 2) = some (5 * doy + 2) ∧
    c.unsigned ((5 * doy + 2) / 153) = some mp ∧
    c.unsigned (153 * mp) = some (153 * mp) ∧
    c.unsigned (153 * mp + 2) = some (153 * mp + 2) ∧
    c.unsigned (doy - (153 * mp + 2) / 5) = some (doy - Calendar.monthStart mp) ∧
    c.unsigned (doy - Calendar.monthStart mp + 1) = some (doy - Calendar.monthStart mp + 1) ∧
    (if mp < 10 then c.unsigned (mp + 3) else c.unsigned (mp - 9)) =
      some (Calendar.fromMarch mp) := by
  unfold Calendar.monthOfYear at hmp
  unfold Calendar.monthStart
  refine ⟨?_, ?_, ?_, ?_, ?_, ?_, ?_, ?_⟩
  · exact hc.unsigned_eq (by omega) (by omega)
  · exact hc.unsigned_eq (by omega) (by omega)
  · rw [hmp]
    exact hc.unsigned_eq (by omega) (by omega)
  · exact hc.unsigned_eq (by omega) (by omega)
  · exact hc.unsigned_eq (by omega) (by omega)
  · exact hc.unsigned_eq (by omega) (by omega)
  · exact hc.unsigned_eq (by omega) (by omega)
  · unfold Calendar.fromMarch
    split
    · exact hc.unsigned_eq (by omega) (by omega)
    · exact hc.unsigned_eq (by omega) (by omega)

-- The signed part: the era of a day, and the day within it.
theorem era_steps {c : Arith} (hc : Agrees c) {z : ℤ} (h0 : -2147337552 ≤ z) (h1 : z ≤ 2147483647) :
    (if z ≥ 0 then some z else c.int (z - 146096)) =
      some (if 0 ≤ z then z else z - (146097 - 1)) ∧
    c.int ((if 0 ≤ z then z else z - (146097 - 1)).tdiv 146097) = some (z / 146097) ∧
    c.int (z / 146097 * 146097) = some (z / 146097 * 146097) ∧
    c.int (z - z / 146097 * 146097) = some (z % 146097) ∧
    c.unsigned (z % 146097) = some (z % 146097) ∧
    c.int (z / 146097 * 400) = some (z / 146097 * 400) := by
  have hrest : z - z / 146097 * 146097 = z % 146097 := by omega
  refine ⟨?_, ?_, ?_, ?_, ?_, ?_⟩
  · by_cases hneg : 0 ≤ z
    · rw [if_pos hneg, if_pos hneg]
    · rw [if_neg hneg, if_neg hneg]
      exact hc.int_eq (by omega) (by omega)
  · rw [tdiv_shift z 146097 (by decide)]
    exact hc.int_eq (by omega) (by omega)
  · exact hc.int_eq (by omega) (by omega)
  · rw [hrest]
    exact hc.int_eq (by omega) (by omega)
  · exact hc.unsigned_eq (by omega) (by omega)
  · exact hc.int_eq (by omega) (by omega)

theorem year_steps {c : Arith} (hc : Agrees c) {yoe carry : ℤ} (era : ℤ) (h0 : 0 ≤ yoe)
    (h1 : yoe ≤ 399) (hera : -14700 ≤ era ∧ era ≤ 14700) (hcarry : 0 ≤ carry ∧ carry ≤ 1) :
    c.int yoe = some yoe ∧
    c.int (yoe + era * 400) = some (yoe + era * 400) ∧
    c.int (yoe + era * 400 + carry) = some (yoe + era * 400 + carry) := by
  refine ⟨?_, ?_, ?_⟩
  · exact hc.int_eq (by omega) (by omega)
  · exact hc.int_eq (by omega) (by omega)
  · exact hc.int_eq (by omega) (by omega)

theorem carry_bounds (month : ℤ) : 0 ≤ Calendar.carry month ∧ Calendar.carry month ≤ 1 := by
  unfold Calendar.carry
  split <;> omega

-- Only the year may leave its type, where it is before the year 0.
theorem civil_from_days_wide {c : Arith} (hc : Agrees c) {date : ℤ} (hlo : -2147337552 ≤ date + 719468)
    (hhi : date + 719468 ≤ 2147483647) : MariaBinding.civil_from_days c date =
      (c.unsigned (Calendar.dateOf (date + 719468)).year).map fun year =>
        (year, (Calendar.dateOf (date + 719468)).month, (Calendar.dateOf (date + 719468)).day) := by
  have hz : c.int (date + 719468) = some (date + 719468) := hc.int_eq (by omega) (by omega)
  obtain ⟨z, hdate⟩ : ∃ z, date + 719468 = z := ⟨_, rfl⟩
  rw [hdate] at hlo hhi
  have hd : 0 ≤ z % 146097 ∧ z % 146097 ≤ 146096 := by omega
  have hd0 := (Calendar.dayOfYear_bounds (z % 146097) hd.1 hd.2).1
  have hd1 := Calendar.dayOfYear_le (z % 146097) hd.1 hd.2
  have hy := Calendar.yearOfEra_bounds (z % 146097) hd.1 hd.2
  obtain ⟨he1, he2, he3, he4, he5, he6⟩ := era_steps hc hlo hhi
  obtain ⟨hy1, hy2, hy3, hy4⟩ := year_of_era_steps hc hd.1 hd.2
  obtain ⟨hs1, hs2, hs3, hs4⟩ := day_of_year_steps hc hy.1 hy.2 hd0 hd1
  obtain ⟨hm1, hm2, hm3, hm4, hm5, hm6, hm7, hm8⟩ := month_steps hc hd0 hd1 rfl
  obtain ⟨hc1, hc2, hc3⟩ := year_steps hc (z / 146097) hy.1 hy.2 (by omega)
    (carry_bounds (Calendar.dateOf z).month)
  rw [hdate] at hz ⊢
  unfold Calendar.dateOf at hc3
  unfold Calendar.carry at hc3
  simp only [MariaBinding.civil_from_days, hdate, ↓bind_step hz, ↓bind_step he1, ↓bind_step he2,
    ↓bind_step he3, ↓bind_step he4, ↓bind_step he5, ↓bind_step hy1, ↓bind_step hy2, ↓bind_step hy3,
    ↓bind_step hy4, ↓bind_step hc1, ↓bind_step he6, ↓bind_step hc2, ↓bind_step hs1,
    ↓bind_step hs2, ↓bind_step hs3, ↓bind_step hs4, ↓bind_step hm1, ↓bind_step hm2,
    ↓bind_step hm3, ↓bind_step hm4, ↓bind_step hm5, ↓bind_step hm6, ↓bind_step hm7,
    ↓bind_step hm8, ↓bind_step hc3]
  simp only [Calendar.dateOf, Calendar.carry]
  exact (Option.map_eq_bind ..).symm

theorem civil_from_days_eq {c : Arith} (hc : Agrees c) {date : ℤ} (h : Representable date) :
    MariaBinding.civil_from_days c date =
      some ((Calendar.dateOf (date + 719468)).year, (Calendar.dateOf (date + 719468)).month,
        (Calendar.dateOf (date + 719468)).day) := by
  obtain ⟨hlo, hhi⟩ := h
  have hyear := dateOf_year_bounds (z := date + 719468) (by omega) (by omega)
  rw [civil_from_days_wide hc (by omega) (by omega), hc.unsigned_eq hyear.1 (by omega)]
  rfl

theorem set_date_buffer_eq {c : Arith} (hc : Agrees c) {date : ℤ} (t : MYSQL_TIME)
    (h : Representable date) : MariaBinding.set_date_buffer c date t =
      some (with_date t (Calendar.dateOf (date + 719468))) := by
  rw [MariaBinding.set_date_buffer, bind_step (civil_from_days_eq hc h)]
  rfl

theorem days_from_civil_steps {c : Arith} (hc : Agrees c) {y m d : ℤ} (hy0 : 0 ≤ y)
    (hy1 : y ≤ 5880000) (hm : 1 ≤ m ∧ m ≤ 12) (hd : 1 ≤ d ∧ d ≤ 31) :
    c.int (y - if m ≤ 2 then 1 else 0) = some (y - Calendar.carry m) ∧
    c.int (153 * Calendar.toMarch m) = some (153 * Calendar.toMarch m) ∧
    c.int (153 * Calendar.toMarch m + 2) = some (153 * Calendar.toMarch m + 2) ∧
    c.int (m + if m > 2 then -3 else 9) = some (Calendar.toMarch m) ∧
    c.int ((153 * Calendar.toMarch m + 2).tdiv 5 + d) =
      some (Calendar.monthStart (Calendar.toMarch m) + d) ∧
    c.int (Calendar.monthStart (Calendar.toMarch m) + d - 1) =
      some (Calendar.monthStart (Calendar.toMarch m) + d - 1) := by
  have hcarry := carry_bounds m
  have hmarch : 0 ≤ Calendar.toMarch m ∧ Calendar.toMarch m ≤ 11 := by
    unfold Calendar.toMarch
    split <;> omega
  have hstart : (153 * Calendar.toMarch m + 2).tdiv 5 =
      Calendar.monthStart (Calendar.toMarch m) :=
    Int.tdiv_eq_ediv_of_nonneg (by omega)
  have hbounds : 0 ≤ Calendar.monthStart (Calendar.toMarch m) ∧
      Calendar.monthStart (Calendar.toMarch m) ≤ 337 := by
    unfold Calendar.monthStart
    omega
  refine ⟨?_, ?_, ?_, ?_, ?_, ?_⟩
  · exact hc.int_eq (x := y - Calendar.carry m) (by omega) (by omega)
  · exact hc.int_eq (by omega) (by omega)
  · exact hc.int_eq (by omega) (by omega)
  · exact hc.int_eq (x := Calendar.toMarch m) (by omega) (by omega)
  · rw [hstart]
    exact hc.int_eq (by omega) (by omega)
  · exact hc.int_eq (by omega) (by omega)

theorem civil_era_steps {c : Arith} (hc : Agrees c) {y : ℤ} (h0 : -1 ≤ y) (h1 : y / 400 ≤ 14699) :
    (if y ≥ 0 then some y else c.int (y - 399)) = some (if 0 ≤ y then y else y - (400 - 1)) ∧
    c.int ((if 0 ≤ y then y else y - (400 - 1)).tdiv 400) = some (y / 400) ∧
    c.int (y / 400 * 400) = some (y / 400 * 400) ∧
    c.int (y - y / 400 * 400) = some (y % 400) ∧
    c.unsigned (y % 400) = some (y % 400) ∧
    c.int (y % 400) = some (y % 400) ∧
    c.int (y / 400 * 146097) = some (y / 400 * 146097) := by
  have hrest : y - y / 400 * 400 = y % 400 := by omega
  refine ⟨?_, ?_, ?_, ?_, ?_, ?_, ?_⟩
  · by_cases hneg : 0 ≤ y
    · rw [if_pos hneg, if_pos hneg]
    · rw [if_neg hneg, if_neg hneg]
      exact hc.int_eq (by omega) (by omega)
  · rw [tdiv_shift y 400 (by decide)]
    exact hc.int_eq (by omega) (by omega)
  · exact hc.int_eq (by omega) (by omega)
  · rw [hrest]
    exact hc.int_eq (by omega) (by omega)
  · exact hc.unsigned_eq (by omega) (by omega)
  · exact hc.int_eq (by omega) (by omega)
  · exact hc.int_eq (by omega) (by omega)

-- The day of the era, and the day.
theorem civil_day_steps {c : Arith} (hc : Agrees c) (era yoe doy : ℤ) (h0 : 0 ≤ yoe)
    (h1 : yoe ≤ 399) (hd0 : 0 ≤ doy) (hd1 : doy ≤ 367) (hera : -1 ≤ era)
    (hday : era * 146097 + Calendar.yearStart yoe + doy ≤ 2147483647) :
    c.int (yoe * 365) = some (yoe * 365) ∧
    c.int (yoe * 365 + yoe.tdiv 4) = some (yoe * 365 + yoe / 4) ∧
    c.int (yoe * 365 + yoe / 4 - yoe.tdiv 100) = some (Calendar.yearStart yoe) ∧
    c.int (Calendar.yearStart yoe + doy) = some (Calendar.yearStart yoe + doy) ∧
    c.int (era * 146097 + (Calendar.yearStart yoe + doy)) =
      some (era * 146097 + Calendar.yearStart yoe + doy) ∧
    c.int (era * 146097 + Calendar.yearStart yoe + doy - 719468) =
      some (era * 146097 + Calendar.yearStart yoe + doy - 719468) := by
  have hstart : yoe * 365 + yoe / 4 - yoe / 100 = Calendar.yearStart yoe := by
    unfold Calendar.yearStart
    omega
  have hbounds : 0 ≤ Calendar.yearStart yoe ∧ Calendar.yearStart yoe ≤ 145731 := by
    unfold Calendar.yearStart
    omega
  rw [Int.tdiv_eq_ediv_of_nonneg h0, Int.tdiv_eq_ediv_of_nonneg h0, hstart, ← Int.add_assoc]
  refine ⟨?_, ?_, ?_, ?_, ?_, ?_⟩
  · exact hc.int_eq (by omega) (by omega)
  · exact hc.int_eq (by omega) (by omega)
  · exact hc.int_eq (by omega) (by omega)
  · exact hc.int_eq (by omega) (by omega)
  · exact hc.int_eq (by omega) (by omega)
  · exact hc.int_eq (by omega) (by omega)

theorem monthStart_bounds {mp : ℤ} (h0 : 0 ≤ mp) (h1 : mp ≤ 11) :
    0 ≤ Calendar.monthStart mp ∧ Calendar.monthStart mp ≤ 337 := by
  unfold Calendar.monthStart
  omega

theorem toMarch_bounds {m : ℤ} (h : 1 ≤ m ∧ m ≤ 12) :
    0 ≤ Calendar.toMarch m ∧ Calendar.toMarch m ≤ 11 := by
  unfold Calendar.toMarch
  split <;> omega

theorem monthLength_le (year month : ℤ) : Calendar.monthLength year month ≤ 31 := by
  unfold Calendar.monthLength
  split
  · split <;> omega
  · split <;> omega

theorem days_from_civil_eq {c : Arith} (hc : Agrees c) {date : Calendar.Date}
    (hvalid : date.Valid) (hy : 0 ≤ date.year) (hday : Calendar.dayOf date ≤ 2147483647) :
    days_from_civil c date.year date.month date.day = some (Calendar.dayOf date - 719468) := by
  obtain ⟨hmonth, hd0, hd1⟩ := hvalid
  have hd31 := hd1.trans (monthLength_le _ _)
  have hcarry := carry_bounds date.month
  have hmarch := toMarch_bounds hmonth
  have hstart := monthStart_bounds hmarch.1 hmarch.2
  obtain ⟨y, hy'⟩ : ∃ y, date.year - Calendar.carry date.month = y := ⟨_, rfl⟩
  have hyear : 0 ≤ Calendar.yearStart (y % 400) := by
    unfold Calendar.yearStart
    omega
  simp only [Calendar.dayOf, hy'] at hday ⊢
  have hera : y / 400 ≤ 14699 := by omega
  obtain ⟨hm1, hm2, hm3, hm4, hm5, hm6⟩ :=
    days_from_civil_steps hc hy (by omega) hmonth ⟨hd0, hd31⟩
  rw [hy'] at hm1
  obtain ⟨he1, he2, he3, he4, he5, he6, he7⟩ := civil_era_steps hc (y := y) (by omega) hera
  obtain ⟨hr1, hr2, hr3, hr4, hr5, hr6⟩ := civil_day_steps hc (y / 400) (y % 400)
    (Calendar.monthStart (Calendar.toMarch date.month) + date.day - 1) (by omega) (by omega)
    (by omega) (by omega) (by omega) (by omega)
  simp only [days_from_civil, ↓bind_step hm1, ↓bind_step he1, ↓bind_step he2, ↓bind_step he3,
    ↓bind_step he4, ↓bind_step he5, ↓bind_step he6, ↓bind_step hm4, ↓bind_step hm2,
    ↓bind_step hm3, ↓bind_step hm5, ↓bind_step hm6, ↓bind_step hr1, ↓bind_step hr2,
    ↓bind_step hr3, ↓bind_step hr4, ↓bind_step he7, ↓bind_step hr5]
  rw [hr6]
  congr 1
  omega

-- Decoding the day that was encoded.
theorem days_of_with_date {c : Arith} (hc : Agrees c) {date : ℤ} (t : MYSQL_TIME)
    (h : Representable date) :
    MariaRow.days_of c (with_date t (Calendar.dateOf (date + 719468))) = some date := by
  obtain ⟨hlo, hhi⟩ := h
  have hvalid := Calendar.dateOf_valid (date + 719468)
  have hyear := dateOf_year_bounds (z := date + 719468) (by omega) (by omega)
  have hday := Calendar.dayOf_dateOf (date + 719468)
  have hdecode := days_from_civil_eq hc hvalid hyear.1 (by rw [hday]; omega)
  have hd31 := hvalid.day.2.trans (monthLength_le _ _)
  obtain ⟨⟨hm0, hm1⟩, hd0, -⟩ := hvalid
  generalize Calendar.dateOf (date + 719468) = civil at *
  have hy : c.int civil.year.toNat = some civil.year := by
    rw [Int.toNat_of_nonneg hyear.1]
    exact hc.int_eq (by omega) (by omega)
  have hm : c.int civil.month.toNat = some civil.month := by
    rw [Int.toNat_of_nonneg (by omega)]
    exact hc.int_eq (by omega) (by omega)
  have hd : c.int civil.day.toNat = some civil.day := by
    rw [Int.toNat_of_nonneg (by omega)]
    exact hc.int_eq (by omega) (by omega)
  simp only [MariaRow.days_of, with_date, ↓bind_step hy, ↓bind_step hm, ↓bind_step hd]
  rw [hdecode, hday]
  congr 1
  omega

end RMariaDB
