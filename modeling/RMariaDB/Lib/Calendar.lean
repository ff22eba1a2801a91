import Mathlib.Tactic.IntervalCases
import Mathlib.Algebra.Order.Ring.Int

-- The proleptic Gregorian calendar over all integer years. Days are numbered
-- from 0000-03-01, so that a leap day is the last day of its March-based year
-- and the 400-year eras are the residue classes of the day number.

namespace Calendar

def isLeap (year : ℤ) : Prop := year % 4 = 0 ∧ (year % 100 ≠ 0 ∨ year % 400 = 0)

instance : DecidablePred isLeap := fun _ => inferInstanceAs (Decidable (_ ∧ _))

def monthLength (year month : ℤ) : ℤ :=
  if month = 2 then
    if isLeap year then 29 else 28
  else if month = 4 ∨ month = 6 ∨ month = 9 ∨ month = 11 then 30
  else 31

structure Date where
  year : ℤ
  month : ℤ
  day : ℤ
deriving DecidableEq

structure Date.Valid (date : Date) : Prop where
  month : 1 ≤ date.month ∧ date.month ≤ 12
  day : 1 ≤ date.day ∧ date.day ≤ monthLength date.year date.month

-- Years of an era that lie wholly before the given day of the era.
def yearOfEra (doe : ℤ) : ℤ := (doe - doe / 1460 + doe / 36524 - doe / 146096) / 365

-- The first day of a March-based year, within its era.
def yearStart (yoe : ℤ) : ℤ := 365 * yoe + yoe / 4 - yoe / 100

def monthOfYear (doy : ℤ) : ℤ := (5 * doy + 2) / 153

def monthStart (mp : ℤ) : ℤ := (153 * mp + 2) / 5

-- Months counted from March, and back.
def toMarch (month : ℤ) : ℤ := month + (if month > 2 then -3 else 9)

def fromMarch (mp : ℤ) : ℤ := if mp < 10 then mp + 3 else mp - 9

-- January and February belong to the civil year after their March-based year.
def carry (month : ℤ) : ℤ := if month ≤ 2 then 1 else 0

def dateOf (z : ℤ) : Date :=
  let doe := z % 146097
  let yoe := yearOfEra doe
  let doy := doe - yearStart yoe
  let mp := monthOfYear doy
  { year := yoe + z / 146097 * 400 + carry (fromMarch mp)
    month := fromMarch mp
    day := doy - monthStart mp + 1 }

def dayOf (date : Date) : ℤ :=
  let y := date.year - carry date.month
  y / 400 * 146097 + yearStart (y % 400) + monthStart (toMarch date.month) + date.day - 1

-- Centuries, four-year cycles and years of a day of an era. Only the last
-- century and the last year of a cycle have a day more.
theorem exists_cycles (doe : ℤ) (h0 : 0 ≤ doe) (h1 : doe ≤ 146096) : ∃ century cycle year doy : ℤ,
    (0 ≤ century ∧ century ≤ 3) ∧ (0 ≤ cycle ∧ cycle ≤ 24) ∧ (0 ≤ year ∧ year ≤ 3) ∧
    (0 ≤ doy ∧ doy ≤ 365) ∧ (doy = 365 → year = 3 ∧ (cycle ≠ 24 ∨ century = 3)) ∧
    doe = 36524 * century + 1461 * cycle + 365 * year + doy := by
  obtain ⟨century, hcentury⟩ : ∃ a, a = min (doe / 36524) 3 := ⟨_, rfl⟩
  obtain ⟨cycle, hcycle⟩ : ∃ b, b = (doe - 36524 * century) / 1461 := ⟨_, rfl⟩
  obtain ⟨year, hyear⟩ : ∃ c, c = min ((doe - 36524 * century - 1461 * cycle) / 365) 3 := ⟨_, rfl⟩
  refine ⟨century, cycle, year, doe - 36524 * century - 1461 * cycle - 365 * year, ?_⟩
  refine ⟨?_, ?_, ?_, ?_, ?_, ?_⟩ <;> omega

-- The three corrections of the closed form are the leap days already passed.
theorem yearOfEra_cycles (century cycle year doy doe : ℤ) (hcentury : 0 ≤ century ∧ century ≤ 3)
    (hcycle : 0 ≤ cycle ∧ cycle ≤ 24) (hyear : 0 ≤ year ∧ year ≤ 3) (hdoy : 0 ≤ doy ∧ doy ≤ 365)
    (hleap : doy = 365 → year = 3 ∧ (cycle ≠ 24 ∨ century = 3))
    (hdoe : doe = 36524 * century + 1461 * cycle + 365 * year + doy) :
    yearOfEra doe = 100 * century + 4 * cycle + year := by
  have h1 : doe / 1460 = 25 * century + cycle +
      (if 1460 ≤ 24 * century + cycle + 365 * year + doy then 1 else 0) := by
    split <;> omega
  have h2 : doe / 36524 = century +
      (if 1461 * cycle + 365 * year + doy = 36524 then 1 else 0) := by
    split <;> omega
  have h3 : doe / 146096 =
      if century = 3 ∧ 1461 * cycle + 365 * year + doy = 36524 then 1 else 0 := by
    split <;> omega
  rw [yearOfEra, h1, h2, h3]
  split <;> split <;> split <;> omega

theorem yearOfEra_bounds (doe : ℤ) (h0 : 0 ≤ doe) (h1 : doe ≤ 146096) :
    0 ≤ yearOfEra doe ∧ yearOfEra doe ≤ 399 := by
  obtain ⟨century, cycle, year, doy, hc, hq, hy, hd, hl, he⟩ := exists_cycles doe h0 h1
  rw [yearOfEra_cycles century cycle year doy doe hc hq hy hd hl he]
  omega

-- A March-based year has its 366th day exactly when the February at its end is long.
theorem dayOfYear_bounds (doe : ℤ) (h0 : 0 ≤ doe) (h1 : doe ≤ 146096) :
    0 ≤ doe - yearStart (yearOfEra doe) ∧
      doe - yearStart (yearOfEra doe) ≤ if isLeap (yearOfEra doe + 1) then 365 else 364 := by
  obtain ⟨century, cycle, year, doy, hc, hq, hy, hd, hl, he⟩ := exists_cycles doe h0 h1
  rw [yearOfEra_cycles century cycle year doy doe hc hq hy hd hl he]
  have hstart : yearStart (100 * century + 4 * cycle + year) =
      36524 * century + 1461 * cycle + 365 * year := by
    have h4 : (100 * century + 4 * cycle + year) / 4 = 25 * century + cycle := by omega
    have h100 : (100 * century + 4 * cycle + year) / 100 = century := by omega
    rw [yearStart, h4, h100]
    omega
  rw [hstart]
  refine ⟨by omega, ?_⟩
  split
  · omega
  · rename_i hn
    have h365 : doy ≠ 365 := by
      intro h
      apply hn
      unfold isLeap
      omega
    omega

theorem dayOfYear_le (doe : ℤ) (h0 : 0 ≤ doe) (h1 : doe ≤ 146096) :
    doe - yearStart (yearOfEra doe) ≤ 365 := by
  apply (dayOfYear_bounds doe h0 h1).2.trans
  split <;> omega

theorem monthOfYear_bounds (doy : ℤ) (h0 : 0 ≤ doy) (h1 : doy ≤ 365) :
    0 ≤ monthOfYear doy ∧ monthOfYear doy ≤ 11 := by
  unfold monthOfYear
  omega

theorem toMarch_fromMarch (mp : ℤ) (h0 : 0 ≤ mp) (h1 : mp ≤ 11) : toMarch (fromMarch mp) = mp := by
  unfold toMarch fromMarch
  split <;> split <;> omega

theorem dateOf_valid (z : ℤ) : (dateOf z).Valid := by
  have h0 := Int.emod_nonneg z (show (146097 : ℤ) ≠ 0 by decide)
  have h1 : z % 146097 ≤ 146096 := by omega
  obtain ⟨hd0, hd1⟩ := dayOfYear_bounds (z % 146097) h0 h1
  simp only [dateOf]
  generalize hy : yearOfEra (z % 146097) = yoe at *
  generalize hd : z % 146097 - yearStart yoe = doy at *
  have hle : doy ≤ 365 := by
    rw [← hd, ← hy]
    exact dayOfYear_le _ h0 h1
  have hm := monthOfYear_bounds doy hd0 hle
  generalize hmp : monthOfYear doy = mp at *
  have hmp' : mp = (5 * doy + 2) / 153 := hmp.symm
  have hleap : isLeap (yoe + z / 146097 * 400 + 1) ↔ isLeap (yoe + 1) := by
    unfold isLeap
    omega
  refine ⟨?_, ?_⟩
  · simp only [fromMarch]
    split <;> omega
  · unfold monthStart monthLength carry fromMarch
    obtain ⟨hm0, hm1⟩ := hm
    interval_cases mp <;> simp [hleap] <;> (try split at hd1) <;> (try split) <;> omega

theorem dayOf_dateOf (z : ℤ) : dayOf (dateOf z) = z := by
  have h0 := Int.emod_nonneg z (show (146097 : ℤ) ≠ 0 by decide)
  have h1 : z % 146097 ≤ 146096 := by omega
  obtain ⟨hd0, hd1⟩ := dayOfYear_bounds (z % 146097) h0 h1
  have hy := yearOfEra_bounds (z % 146097) h0 h1
  have hm := monthOfYear_bounds _ hd0 (dayOfYear_le _ h0 h1)
  simp only [dateOf, dayOf, Int.add_sub_cancel, toMarch_fromMarch _ hm.1 hm.2]
  generalize yearOfEra (z % 146097) = yoe at *
  have he : (yoe + z / 146097 * 400) / 400 = z / 146097 := by omega
  have hr : (yoe + z / 146097 * 400) % 400 = yoe := by omega
  rw [he, hr]
  omega

-- The days before a March-based year.
def yearDay (y : ℤ) : ℤ := y / 400 * 146097 + yearStart (y % 400)

theorem yearDay_eq (y : ℤ) : yearDay y = 365 * y + y / 4 - y / 100 + y / 400 := by
  unfold yearDay yearStart
  omega

theorem yearDay_mono {y y' : ℤ} (h : y ≤ y') : yearDay y + 365 * (y' - y) ≤ yearDay y' := by
  rw [yearDay_eq, yearDay_eq]
  omega

-- The first of January, and the place of a date in its year.
theorem dayOf_newYear (year : ℤ) : dayOf ⟨year, 1, 1⟩ = yearDay (year - 1) + 306 := by
  simp only [dayOf, yearDay, carry, toMarch, monthStart]
  norm_num

theorem newYear_le_iff {date : Date} (h : date.Valid) (year : ℤ) :
    dayOf ⟨year, 1, 1⟩ ≤ dayOf date ↔ year ≤ date.year := by
  obtain ⟨⟨hm0, hm1⟩, hd0, hd1⟩ := h
  have hlen : monthLength date.year date.month ≤ 31 := by
    unfold monthLength
    split_ifs <;> omega
  have hday : dayOf date = yearDay (date.year - carry date.month) +
      monthStart (toMarch date.month) + date.day - 1 := rfl
  rw [dayOf_newYear, hday]
  unfold carry toMarch monthStart
  by_cases hmonth : date.month ≤ 2
  · rw [if_pos hmonth, if_neg (by omega)]
    constructor
    · intro hle
      by_contra hlt
      have := yearDay_mono (show date.year - 1 ≤ year - 1 by omega)
      omega
    · intro hle
      have := yearDay_mono (show year - 1 ≤ date.year - 1 by omega)
      omega
  · rw [if_neg hmonth, if_pos (by omega), Int.sub_zero]
    constructor
    · intro hle
      by_contra hlt
      have := yearDay_mono (show date.year ≤ year - 1 by omega)
      omega
    · intro hle
      have := yearDay_mono (show year - 1 ≤ date.year by omega)
      omega

theorem year_dateOf_iff (z year : ℤ) : year ≤ (dateOf z).year ↔ dayOf ⟨year, 1, 1⟩ ≤ z := by
  rw [← newYear_le_iff (dateOf_valid z), dayOf_dateOf]

end Calendar
