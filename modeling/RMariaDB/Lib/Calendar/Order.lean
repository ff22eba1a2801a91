import Mathlib.Data.Prod.Lex
import Mathlib.Order.Hom.Basic
import RMariaDB.Lib.Calendar

-- Dates are ordered as the days that they stand for.

namespace Calendar

-- Year, month and day, the year first
def Date.lex (date : Date) : ℤ ×ₗ ℤ ×ₗ ℤ := toLex (date.year, toLex (date.month, date.day))

theorem Date.lex_injective : Function.Injective Date.lex := by
  intro d e h
  obtain ⟨y, m, k⟩ := d
  obtain ⟨y', m', k'⟩ := e
  cases h
  rfl

instance Date.linearOrder : LinearOrder Date := LinearOrder.lift' Date.lex Date.lex_injective

theorem Date.lt_iff {d e : Date} : d < e ↔ d.year < e.year ∨
    d.year = e.year ∧ (d.month < e.month ∨ d.month = e.month ∧ d.day < e.day) := by
  show d.lex < e.lex ↔ _
  rw [Date.lex, Date.lex, Prod.Lex.toLex_lt_toLex, Prod.Lex.toLex_lt_toLex]

theorem dayOf_eq (date : Date) : dayOf date =
    yearDay (date.year - carry date.month) + monthStart (toMarch date.month) + date.day - 1 := rfl

-- A year has as many days as its Februaries say: it begins in March.
theorem yearDay_february (year : ℤ) : yearDay year = yearDay (year - 1) + 337 + monthLength year 2 := by
  rw [yearDay_eq, yearDay_eq, monthLength, if_pos rfl]
  by_cases hleap : isLeap year
  · rw [if_pos hleap]
    unfold isLeap at hleap
    omega
  · rw [if_neg hleap]
    unfold isLeap at hleap
    omega

-- A month begins on the day after the last one of the month before.
theorem dayOf_next_month (year month : ℤ) (h0 : 1 ≤ month) (h1 : month < 12) :
    dayOf ⟨year, month + 1, 1⟩ = dayOf ⟨year, month, 1⟩ + monthLength year month := by
  by_cases hfebruary : month = 2
  · have hlength := yearDay_february year
    subst hfebruary
    simp only [dayOf_eq, carry, toMarch, monthStart]
    norm_num
    omega
  · have hcarry : carry (month + 1) = carry month := by
      unfold carry
      split <;> split <;> omega
    simp only [dayOf_eq, hcarry, monthLength, if_neg hfebruary, toMarch, monthStart]
    interval_cases month <;> norm_num at * <;> omega

theorem dayOf_later_month (year : ℤ) {month month' : ℤ} (h0 : 1 ≤ month) (h1 : month' ≤ 12)
    (h : month < month') :
    dayOf ⟨year, month, 1⟩ + monthLength year month ≤ dayOf ⟨year, month', 1⟩ := by
  induction month', h using Int.leInduction with
  | base => exact (dayOf_next_month year month h0 (by omega)).ge
  | succ later hlater ih =>
      have hnext := dayOf_next_month year later (by omega) (by omega)
      have hlength : 28 ≤ monthLength year later := by
        unfold monthLength
        split_ifs <;> omega
      have hprevious := ih (by omega)
      omega

theorem dayOf_strictMono {d e : Date} (hd : d.Valid) (he : e.Valid) (h : d < e) :
    dayOf d < dayOf e := by
  have hday (date : Date) : dayOf date = dayOf ⟨date.year, date.month, 1⟩ + date.day - 1 := by
    simp only [dayOf_eq]
    omega
  rcases Date.lt_iff.mp h with hyear | ⟨hyear, hmonth | ⟨hmonth, hlast⟩⟩
  · have hbefore := mt (newYear_le_iff hd e.year).mp (not_le.mpr hyear)
    have hwithin := (newYear_le_iff he e.year).mpr le_rfl
    omega
  · have hlater := dayOf_later_month d.year hd.month.1 he.month.2 hmonth
    rw [hday d, hday e, ← hyear]
    have hlength := hd.day.2
    have hfirst := he.day.1
    omega
  · rw [hday d, hday e, hyear, hmonth]
    omega

theorem dayOf_injective {d e : Date} (hd : d.Valid) (he : e.Valid) (h : dayOf d = dayOf e) : d = e := by
  rcases lt_trichotomy d e with hlt | heq | hgt
  · exact absurd h (dayOf_strictMono hd he hlt).ne
  · exact heq
  · exact absurd h.symm (dayOf_strictMono he hd hgt).ne

theorem dateOf_dayOf {date : Date} (h : date.Valid) : dateOf (dayOf date) = date :=
  dayOf_injective (dateOf_valid _) h (dayOf_dateOf _)

theorem dayOf_le_iff {d e : Date} (hd : d.Valid) (he : e.Valid) : dayOf d ≤ dayOf e ↔ d ≤ e := by
  constructor
  · intro h
    by_contra hlt
    exact absurd (dayOf_strictMono he hd (not_le.mp hlt)) (not_lt.mpr h)
  · intro h
    rcases h.eq_or_lt with rfl | hlt
    · exact le_rfl
    · exact (dayOf_strictMono hd he hlt).le

-- The days and the valid dates, in the same order
def civil : ℤ ≃o {date : Date // date.Valid} where
  toFun z := ⟨dateOf z, dateOf_valid z⟩
  invFun date := dayOf date.1
  left_inv := dayOf_dateOf
  right_inv date := Subtype.ext (dateOf_dayOf date.2)
  map_rel_iff' := by
    intro z z'
    show dateOf z ≤ dateOf z' ↔ z ≤ z'
    rw [← dayOf_le_iff (dateOf_valid z) (dateOf_valid z'), dayOf_dateOf, dayOf_dateOf]

end Calendar
