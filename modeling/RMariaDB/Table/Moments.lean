import Mathlib.Data.List.TakeWhile
import RMariaDB.MariaBinding.Years
import RMariaDB.Table.Fields

-- What a DATE, TIME or DATETIME column stores of a field, and that the texts written for
-- dates and times are read as these.

namespace RMariaDB.Table

open Decimal

inductive TemporalType where
  | date
  | time
  | datetime
deriving DecidableEq, Repr

inductive Moment where
  | date (date : Calendar.Date)
  | time (micros : ℤ)
  | datetime (date : Calendar.Date) (micros : Nat)
  -- a parameter that is not of such a type
  | converted (value : ParamValue)
deriving DecidableEq

section Reading

def zero_date : Calendar.Date := ⟨0, 0, 0⟩

def AllDigits (s : Bytes) : Prop := ∀ c ∈ s, IsDigit c

instance : DecidablePred AllDigits := fun s => List.decidableBAll IsDigit s

-- YYYY-MM-DD
def parse_date (s : Bytes) : Option Calendar.Date :=
  match s.splitOn 45 with
  | [y, m, d] =>
      if y.length = 4 ∧ m.length = 2 ∧ d.length = 2 ∧ AllDigits (y ++ m ++ d) then
        some ⟨number y, number m, number d⟩
      else none
  | _ => none

-- H:MM:SS, and HHMMSS without the leading parts
def parse_seconds (s : Bytes) : Option Nat :=
  match s.splitOn 58 with
  | [h, m, s] =>
      if AllDigits (h ++ m ++ s) ∧ number m < 60 ∧ number s < 60 then
        some (number h * 3600 + number m * 60 + number s)
      else none
  | [s] =>
      let n := number s
      if AllDigits s ∧ n / 100 % 100 < 60 ∧ n % 100 < 60 then
        some (n / 10000 * 3600 + n / 100 % 100 * 60 + n % 100)
      else none
  | _ => none

-- Up to six digits behind the point, as microseconds.
def parse_fraction (s : Bytes) : Option Nat :=
  if s.length ≤ 6 ∧ AllDigits s then some (number s * 10 ^ (6 - s.length)) else none

def parse_micros (s : Bytes) : Option Nat :=
  match s.splitOn 46 with
  | [s] => (parse_seconds s).map fun n => n * 1000000
  | [s, fraction] => do
      let n ← parse_seconds s
      let micros ← parse_fraction fraction
      pure (n * 1000000 + micros)
  | _ => none

def parse_time : Bytes → Option ℤ
  | 45 :: s => (parse_micros s).map fun n : Nat => -(n : ℤ)
  | s => (parse_micros s).map fun n : Nat => (n : ℤ)

-- A date, and a time behind a T or a blank.
def parse_datetime (s : Bytes) : Option (Calendar.Date × Nat) := do
  let date ← parse_date (s.takeWhile fun c => c ≠ 84 ∧ c ≠ 32)
  match s.dropWhile fun c => c ≠ 84 ∧ c ≠ 32 with
  | [] => pure (date, 0)
  | _ :: s => do
      let micros ← parse_micros s
      pure (date, micros)

-- LOAD DATA IGNORE stores the zero value for a field that is empty or not of the form.
def loaded_moment : TemporalType → Bytes → Moment
  | .date, s => .date ((parse_date s).getD zero_date)
  | .time, s => .time ((parse_time s).getD 0)
  | .datetime, s =>
      let (date, micros) := (parse_datetime s).getD (zero_date, 0)
      .datetime date micros

end Reading

section Parameters

def micros_of (t : MYSQL_TIME) : Nat :=
  (t.hour * 3600 + t.minute * 60 + t.second) * 1000000 + t.second_part

def date_of_buffer (t : MYSQL_TIME) : Calendar.Date := ⟨t.year, t.month, t.day⟩

-- What a parameter stands for.
def moment_of (type : TemporalType) : ParamValue → Moment
  | .time t =>
      match type with
      | .date => .date (date_of_buffer t)
      | .time => .time (if t.neg then -(micros_of t : ℤ) else micros_of t)
      | .datetime => .datetime (date_of_buffer t) (micros_of t)
  | value => .converted value

-- From -838:59:59 to 838:59:59, and the years that the server supports, 1000 to 9999.
def Moment.InRange : Moment → Prop
  | .date d | .datetime d _ => 1000 ≤ d.year ∧ d.year ≤ 9999
  | .time micros => -3020399000000 ≤ micros ∧ micros ≤ 3020399000000
  | .converted _ => True

-- The days of these years, and those of all years with four digits
def Supported (day : ℤ) : Prop := -354285 ≤ day ∧ day ≤ 2932896

instance : DecidablePred Supported := fun _ => inferInstanceAs (Decidable (_ ∧ _))

def SqlDate (day : ℤ) : Prop := -719528 ≤ day ∧ day ≤ 2932896

instance : DecidablePred SqlDate := fun _ => inferInstanceAs (Decidable (_ ∧ _))

theorem Supported.sqlDate {day : ℤ} (h : Supported day) : SqlDate day := by
  unfold Supported at h
  unfold SqlDate
  omega

end Parameters

section RoundTrip

theorem AllDigits.append {s t : Bytes} (hs : AllDigits s) (ht : AllDigits t) : AllDigits (s ++ t) := by
  intro c hc
  rcases List.mem_append.mp hc with hc | hc
  · exact hs c hc
  · exact ht c hc

theorem AllDigits.not_mem {s : Bytes} (h : AllDigits s) {c : UInt8} (hc : ¬IsDigit c) : c ∉ s :=
  fun hmem => hc (h c hmem)

theorem padded_digits (w n : Nat) : AllDigits (padded w n) := isDigit_padded w n

theorem sqlDate_iff (day : ℤ) : SqlDate day ↔ 0 ≤ (Calendar.dateOf (day + 719468)).year ∧
    (Calendar.dateOf (day + 719468)).year ≤ 9999 := by
  have h0 := Calendar.year_dateOf_iff (day + 719468) 0
  have h1 := Calendar.year_dateOf_iff (day + 719468) 10000
  have hfirst : Calendar.dayOf ⟨0, 1, 1⟩ = -60 := by decide
  have hlast : Calendar.dayOf ⟨10000, 1, 1⟩ = 3652365 := by decide
  rw [hfirst] at h0
  rw [hlast] at h1
  unfold SqlDate
  omega

theorem supported_iff (day : ℤ) : Supported day ↔ 1000 ≤ (Calendar.dateOf (day + 719468)).year ∧
    (Calendar.dateOf (day + 719468)).year ≤ 9999 := by
  have h0 := Calendar.year_dateOf_iff (day + 719468) 1000
  have h1 := Calendar.year_dateOf_iff (day + 719468) 10000
  have hfirst : Calendar.dayOf ⟨1000, 1, 1⟩ = 365183 := by decide
  have hlast : Calendar.dayOf ⟨10000, 1, 1⟩ = 3652365 := by decide
  rw [hfirst] at h0
  rw [hlast] at h1
  unfold Supported
  omega

theorem dateOf_fields (z : ℤ) :
    (1 ≤ (Calendar.dateOf z).month ∧ (Calendar.dateOf z).month ≤ 12) ∧
    (1 ≤ (Calendar.dateOf z).day ∧ (Calendar.dateOf z).day ≤ 31) := by
  have hvalid := Calendar.dateOf_valid z
  exact ⟨hvalid.month, hvalid.day.1, hvalid.day.2.trans (monthLength_le _ _)⟩

variable (lib : RLibrary)

-- The dates whose year is written with four digits
def FourDigits (day : ℤ) : Prop := Supported day ∨ SqlDate day ∧ lib.year_width = 4

instance : DecidablePred (FourDigits lib) := fun _ => inferInstanceAs (Decidable (_ ∨ _))

theorem FourDigits.sqlDate {lib : RLibrary} {day : ℤ} (h : FourDigits lib day) : SqlDate day := by
  rcases h with h | h
  · exact h.sqlDate
  · exact h.1

theorem fourDigits_iff (day : ℤ) : FourDigits lib day ↔
    0 ≤ (Calendar.dateOf (day + 719468)).year ∧
      (padded lib.year_width (Calendar.dateOf (day + 719468)).year.natAbs).length = 4 := by
  have hwidth := lib.year_width_le
  rw [FourDigits, supported_iff, sqlDate_iff]
  generalize (Calendar.dateOf (day + 719468)).year = year
  constructor
  · rintro (⟨hlow, hhigh⟩ | ⟨⟨hlow, hhigh⟩, hfour⟩)
    · exact ⟨by omega, length_padded_long hwidth (by decide) (by omega) (by omega)⟩
    · exact ⟨hlow, by rw [hfour, length_padded_iff (by decide)]; omega⟩
  · rintro ⟨hpos, hlength⟩
    have hhigh : year.natAbs < 10 ^ 4 := by
      refine (length_decimal_le (by decide)).mp ?_
      rw [padded, List.length_append, List.length_replicate] at hlength
      omega
    by_cases hlow : 1000 ≤ year
    · exact .inl ⟨hlow, by omega⟩
    · refine .inr ⟨⟨hpos, by omega⟩, ?_⟩
      by_contra hfour
      have hshort := length_padded_le (w := lib.year_width) (k := 3) (n := year.natAbs) (by omega)
        (by decide) (by omega)
      omega

theorem splitOn_date (w y m d : Nat) :
    (padded w y ++ ascii "-" ++ padded 2 m ++ ascii "-" ++ padded 2 d).splitOn 45 =
      [padded w y, padded 2 m, padded 2 d] := by
  have hdash : ∀ w n, (45 : UInt8) ∉ padded w n := fun w n => (padded_digits w n).not_mem (by decide)
  have htext : padded w y ++ ascii "-" ++ padded 2 m ++ ascii "-" ++ padded 2 d =
      padded w y ++ 45 :: (padded 2 m ++ 45 :: padded 2 d) := by
    simp [ascii]
  rw [htext, List.splitOn_append_cons_self_of_not_mem (hdash _ _),
    List.splitOn_append_cons_self_of_not_mem (hdash _ _), List.splitOn_eq_singleton (hdash _ _)]

variable {lib}

theorem parse_date_text {day : ℤ} (h : FourDigits lib day) :
    parse_date (date_text lib day) = some (Calendar.dateOf (day + 719468)) := by
  obtain ⟨hyear, hlength⟩ := (fourDigits_iff lib day).mp h
  obtain ⟨hmonth, hday⟩ := dateOf_fields (day + 719468)
  unfold date_text
  generalize Calendar.dateOf (day + 719468) = date at *
  obtain ⟨year, month, day'⟩ := date
  dsimp only at *
  rw [if_neg (by omega), List.nil_append, parse_date, splitOn_date]
  dsimp only
  rw [if_pos ⟨hlength, length_padded (by decide) (by omega), length_padded (by decide) (by omega),
    ((padded_digits _ _).append (padded_digits _ _)).append (padded_digits _ _)⟩]
  simp only [number_padded, Option.some.injEq, Calendar.Date.mk.injEq]
  refine ⟨?_, ?_, ?_⟩ <;> omega

theorem parse_date_none {day : ℤ} (h : ¬FourDigits lib day) : parse_date (date_text lib day) = none := by
  rw [fourDigits_iff, not_and] at h
  unfold date_text
  generalize Calendar.dateOf (day + 719468) = date at *
  by_cases hneg : date.year < 0
  · have hsign := List.splitOn_append_cons_self_of_not_mem (List.not_mem_nil : (45 : UInt8) ∉ [])
      (padded lib.year_width date.year.natAbs ++ ascii "-" ++ padded 2 date.month.toNat ++ ascii "-" ++
        padded 2 date.day.toNat)
    rw [List.nil_append, splitOn_date] at hsign
    have htext : ascii "-" ++ padded lib.year_width date.year.natAbs ++ ascii "-" ++
        padded 2 date.month.toNat ++ ascii "-" ++ padded 2 date.day.toNat =
          45 :: (padded lib.year_width date.year.natAbs ++ ascii "-" ++ padded 2 date.month.toNat ++
            ascii "-" ++ padded 2 date.day.toNat) := by
      simp [ascii]
    dsimp only
    rw [if_pos hneg, htext, parse_date, hsign]
  · have hlength := h (not_lt.mp hneg)
    simp only [if_neg hneg, List.nil_append, parse_date, splitOn_date]
    exact if_neg fun hall => hlength hall.1

-- A clock time, and a point with six digits or none behind it.
theorem parse_seconds_text (seconds : Nat) : parse_seconds (clock_text seconds) = some seconds := by
  have hcolon : ∀ w n, (58 : UInt8) ∉ padded w n := fun w n => (padded_digits w n).not_mem (by decide)
  have htext : clock_text seconds = padded 2 (seconds / 3600) ++
      58 :: (padded 2 (seconds / 60 % 60) ++ 58 :: padded 2 (seconds % 60)) := by
    simp [clock_text, ascii]
  rw [htext, parse_seconds, List.splitOn_append_cons_self_of_not_mem (hcolon _ _),
    List.splitOn_append_cons_self_of_not_mem (hcolon _ _), List.splitOn_eq_singleton (hcolon _ _)]
  simp only [number_padded]
  rw [if_pos ⟨((padded_digits _ _).append (padded_digits _ _)).append (padded_digits _ _), by omega, by omega⟩,
    Option.some.injEq]
  omega

theorem clock_text_no_point (seconds : Nat) : (46 : UInt8) ∉ clock_text seconds := by
  have hpoint : ∀ w n, (46 : UInt8) ∉ padded w n := fun w n => (padded_digits w n).not_mem (by decide)
  simp [clock_text, ascii, hpoint]

theorem parse_micros_text {micros : Nat} (h : micros < 1000000) (seconds : Nat) :
    parse_micros (clock_text seconds ++ 46 :: padded 6 micros) = some (seconds * 1000000 + micros) := by
  have hpoint : (46 : UInt8) ∉ padded 6 micros := (padded_digits _ _).not_mem (by decide)
  have hlen : (padded 6 micros).length = 6 := length_padded (by decide) (by omega)
  rw [parse_micros, List.splitOn_append_cons_self_of_not_mem (clock_text_no_point seconds),
    List.splitOn_eq_singleton hpoint]
  have hfraction : parse_fraction (padded 6 micros) = some micros := by
    rw [parse_fraction, if_pos ⟨by omega, padded_digits _ _⟩, hlen, number_padded]
    simp
  simp [parse_seconds_text, hfraction]

theorem parse_micros_clock (seconds : Nat) :
    parse_micros (clock_text seconds) = some (seconds * 1000000) := by
  rw [parse_micros, List.splitOn_eq_singleton (clock_text_no_point seconds)]
  simp [parse_seconds_text]

-- No clock time begins with a sign.
theorem clock_text_head (seconds : Nat) (s : Bytes) : (clock_text seconds ++ s).head? ≠ some 45 := by
  have hne : padded 2 (seconds / 3600) ≠ [] := by
    rw [padded]
    simp [decimal_ne_nil]
  obtain ⟨c, rest, hc⟩ := List.exists_cons_of_ne_nil hne
  have hdigit := padded_digits 2 (seconds / 3600) c (hc ▸ List.mem_cons_self)
  simp only [clock_text, List.append_assoc, hc, List.cons_append, List.head?_cons]
  intro h
  cases h
  revert hdigit
  decide

theorem parse_time_text (t : ℤ) : parse_time (hms_text t) = some t := by
  have hmicros : parse_micros (clock_text (t.natAbs / 1000000) ++
      if t.natAbs % 1000000 = 0 then [] else ascii "." ++ padded 6 (t.natAbs % 1000000)) =
      some t.natAbs := by
    split
    · rw [List.append_nil, parse_micros_clock, Option.some.injEq]
      omega
    · rw [show ascii "." = [46] from rfl, List.singleton_append, parse_micros_text (by omega),
        Option.some.injEq]
      omega
  unfold hms_text
  rw [List.append_assoc]
  split
  · rw [show ascii "-" = [45] from rfl, List.singleton_append, parse_time, hmicros, Option.map_some,
      Option.some.injEq]
    omega
  · rw [List.nil_append, parse_time, hmicros, Option.map_some, Option.some.injEq]
    · omega
    · intro s hs
      exact clock_text_head _ _ (by rw [hs]; rfl)

variable (lib) in
theorem date_text_separator (day : ℤ) : ∀ c ∈ date_text lib day, c ≠ 84 ∧ c ≠ 32 := by
  have hdigits : ∀ w n, ∀ c ∈ padded w n, c ≠ 84 ∧ c ≠ 32 := by
    intro w n c hc
    have hdigit := padded_digits w n c hc
    constructor
    · rintro rfl
      exact absurd hdigit (by decide)
    · rintro rfl
      exact absurd hdigit (by decide)
  have hdash : ∀ c ∈ ascii "-", c ≠ 84 ∧ c ≠ 32 := by
    intro c hc
    obtain rfl : c = 45 := List.mem_singleton.mp hc
    decide
  intro c hc
  simp only [date_text, List.mem_append] at hc
  rcases hc with ((((hc | hc) | hc) | hc) | hc) | hc
  · split at hc
    · exact hdash c hc
    · exact absurd hc List.not_mem_nil
  · exact hdigits _ _ c hc
  · exact hdash c hc
  · exact hdigits _ _ c hc
  · exact hdash c hc
  · exact hdigits _ _ c hc

variable (lib) in
-- The date ends at the separator or with the text.
theorem date_part (day : ℤ) {s : Bytes} (hs : ∀ c, s.head? = some c → c = 84 ∨ c = 32) :
    (date_text lib day ++ s).takeWhile (fun c => c ≠ 84 ∧ c ≠ 32) = date_text lib day ∧
      (date_text lib day ++ s).dropWhile (fun c => c ≠ 84 ∧ c ≠ 32) = s := by
  have hdate : ∀ c ∈ date_text lib day, decide (c ≠ 84 ∧ c ≠ 32) = true := by
    simpa using date_text_separator lib day
  rw [List.takeWhile_append_of_pos hdate, List.dropWhile_append_of_pos hdate]
  cases s with
  | nil => simp
  | cons c s =>
      rcases hs c rfl with rfl | rfl
      · simp
      · simp

theorem parse_datetime_midnight {day : ℤ} (h : FourDigits lib day) :
    parse_datetime (date_text lib day) = some (Calendar.dateOf (day + 719468), 0) := by
  obtain ⟨htake, hdrop⟩ := date_part lib day (s := []) (by simp)
  rw [List.append_nil] at htake hdrop
  simp only [parse_datetime, htake, hdrop, parse_date_text h]
  rfl

theorem parse_datetime_append {day : ℤ} (h : FourDigits lib day) {c : UInt8} (hc : c = 84 ∨ c = 32) (s : Bytes) :
    parse_datetime (date_text lib day ++ c :: s) =
      (parse_micros s).map fun micros => (Calendar.dateOf (day + 719468), micros) := by
  obtain ⟨htake, hdrop⟩ := date_part lib day (s := c :: s) (fun c' hc' => by cases hc'; exact hc)
  simp only [parse_datetime, htake, hdrop, parse_date_text h]
  cases parse_micros s <;> rfl

theorem parse_datetime_none {day : ℤ} (h : ¬FourDigits lib day) {s : Bytes}
    (hs : ∀ c, s.head? = some c → c = 84 ∨ c = 32) : parse_datetime (date_text lib day ++ s) = none := by
  simp only [parse_datetime, (date_part lib day hs).1, parse_date_none h]
  rfl

theorem time_of_day_bounds (v : ℚ) : 0 ≤ time_of_day v ∧ time_of_day v < 86400 := rest_of_day v

-- The microseconds of the day that are written.
def micros_of_day (lib : RLibrary) (v : ℚ) : Nat :=
  ⌊time_of_day v⌋.toNat * 1000000 + lib.subseconds (time_of_day v)

variable (lib) in
theorem subseconds_of_day (v : ℚ) : lib.subseconds (time_of_day v) < 1000000 :=
  lib.subseconds_lt _ (time_of_day_bounds v).1 (time_of_day_bounds v).2

variable (lib) in
theorem micros_of_day_lt (v : ℚ) : micros_of_day lib v < 86400000000 := by
  have hpart := subseconds_of_day lib v
  have hfloor : ⌊time_of_day v⌋ < 86400 := by
    apply Int.floor_lt.mpr
    exact_mod_cast (time_of_day_bounds v).2
  unfold micros_of_day
  omega

theorem datetime_text_eq (lib : RLibrary) (v : ℚ) : datetime_text lib v =
    date_text lib (day_of v) ++ 84 :: (clock_text ⌊time_of_day v⌋.toNat ++
      46 :: padded 6 (lib.subseconds (time_of_day v))) := by
  simp [datetime_text, ascii]

theorem parse_datetime_text {v : ℚ} (h : FourDigits lib (day_of v)) :
    parse_datetime (datetime_text lib v) =
      some (Calendar.dateOf (day_of v + 719468), micros_of_day lib v) := by
  rw [datetime_text_eq, parse_datetime_append h (.inl rfl),
    parse_micros_text (subseconds_of_day lib v), Option.map_some]
  rfl

theorem parse_POSIXct_text {v : ℤ} (h : FourDigits lib (v / 86400)) : parse_datetime (POSIXct_text lib v) =
    some (Calendar.dateOf (v / 86400 + 719468), (v % 86400).toNat * 1000000) := by
  unfold POSIXct_text
  split
  · rename_i hmidnight
    rw [List.append_nil, parse_datetime_midnight h, hmidnight]
    rfl
  · rw [show ascii " " = [32] from rfl, List.singleton_append, parse_datetime_append h (.inr rfl),
      parse_micros_clock]
    rfl

end RoundTrip

section Buffers

open CArith MariaBinding

theorem SqlDate.representable {day : ℤ} (h : SqlDate day) : Representable day := by
  unfold SqlDate at h
  unfold Representable
  omega

-- A year before 0 wraps around to one that no DATE has.
theorem sqlDate_of_buffer {date : ℤ} {t : MYSQL_TIME} (h : set_date_buffer machine date {} = some t)
    (hyear : t.year ≤ 9999) : SqlDate date := by
  rw [set_date_buffer_cases] at h
  obtain ⟨r, hcivil, rfl⟩ := Option.map_eq_some_iff.mp h
  obtain ⟨hlo, hhi⟩ := civil_range machine_agrees hcivil
  rw [civil_from_days_wide machine_agrees hlo hhi] at hcivil
  obtain ⟨year, hwrap, rfl⟩ := Option.map_eq_some_iff.mp hcivil
  have hwrapped : (Calendar.dateOf (date + 719468)).year % 4294967296 = year := Option.some.inj hwrap
  rw [sqlDate_iff]
  have hlow := Calendar.year_dateOf_iff (date + 719468) (-5880000)
  have hhigh := Calendar.year_dateOf_iff (date + 719468) 5890000
  have hfirst : Calendar.dayOf ⟨-5880000, 1, 1⟩ = -2147625960 := by decide
  have hlast : Calendar.dayOf ⟨5890000, 1, 1⟩ = 2151278265 := by decide
  rw [hfirst] at hlow
  rw [hlast] at hhigh
  dsimp only at hyear
  omega

theorem date_of_with_date {day : ℤ} (h : SqlDate day) :
    date_of_buffer (with_date {} (Calendar.dateOf (day + 719468))) = Calendar.dateOf (day + 719468) := by
  obtain ⟨hyear, -⟩ := (sqlDate_iff day).mp h
  obtain ⟨hmonth, hday⟩ := dateOf_fields (day + 719468)
  generalize Calendar.dateOf (day + 719468) = date at *
  obtain ⟨year, month, day'⟩ := date
  simp only [date_of_buffer, with_date, Calendar.Date.mk.injEq] at *
  refine ⟨?_, ?_, ?_⟩ <;> omega

theorem date_buffer_moment {q : ℚ} (h : SqlDate ⌊q⌋) : ∃ t, date_buffer machine (.finite q) {} = some t ∧
    date_of_buffer t = Calendar.dateOf (⌊q⌋ + 719468) := by
  refine ⟨_, date_buffer_eq machine_agrees {} h.representable, ?_⟩
  exact date_of_with_date h

theorem of_cast_int {n date : ℤ} (h : MariaBinding.cast InInt (n : ℚ) = some date) : date = n := by
  rw [MariaBinding.cast, trunc_intCast, fits] at h
  split at h
  · exact (Option.some.inj h).symm
  · cases h

theorem sqlDate_of_date_buffer {q : ℚ} {t : MYSQL_TIME} (h : date_buffer machine (.finite q) {} = some t)
    (hyear : t.year ≤ 9999) : SqlDate ⌊q⌋ := by
  obtain ⟨date, hdate, hrest⟩ := Option.bind_eq_some_iff.mp h
  obtain ⟨t', ht', hclear⟩ := Option.bind_eq_some_iff.mp hrest
  cases of_cast_int hdate
  cases hclear
  exact sqlDate_of_buffer ht' hyear

-- The whole microseconds of some seconds, where the fraction of a second is multiplied as
-- a double.
def double_micros (s : ℚ) : ℤ := ⌊s⌋ * 1000000 + ⌊machine.double ((s - ⌊s⌋) * 1000000)⌋

theorem double_micros_abs (time : ℚ) : double_micros |time| = whole time * 1000000 + micros machine time := rfl

theorem micros_of_with_time {time : ℚ} (hfixed : machine.double time = time) (t : MYSQL_TIME) :
    (micros_of (with_time machine t time) : ℤ) = double_micros |time| := by
  have h0 := whole_nonneg time
  have hm := micros_bounds machine_rounds hfixed
  rw [double_micros_abs]
  simp only [micros_of, with_time]
  omega

theorem date_time_buffer_moment {q : ℚ} (h : SqlDate (sent_day machine q)) :
    ∃ t, date_time_buffer machine (.finite q) {} = some t ∧
      date_of_buffer t = Calendar.dateOf (sent_day machine q + 719468) ∧
      (micros_of t : ℤ) = double_micros |sent_time machine q| := by
  refine ⟨_, date_time_buffer_eq machine_agrees machine_rounds {} h.representable, ?_, ?_⟩
  · exact date_of_with_date h
  · exact micros_of_with_time (machine_rounds.again _) _

theorem sqlDate_of_date_time_buffer {q : ℚ} {t : MYSQL_TIME}
    (h : date_time_buffer machine (.finite q) {} = some t) (hyear : t.year ≤ 9999) :
    SqlDate (sent_day machine q) := by
  obtain ⟨date, hdate, hrest⟩ := Option.bind_eq_some_iff.mp h
  obtain ⟨t', ht', htime⟩ := Option.bind_eq_some_iff.mp hrest
  cases of_cast_int hdate
  refine sqlDate_of_buffer ht' ?_
  rw [set_time_buffer_cases] at htime
  obtain ⟨r, -, rfl⟩ := Option.map_eq_some_iff.mp htime
  exact hyear

-- The time that a duration is bound as, in microseconds.
def bound_micros (time : ℚ) : ℤ := if time < 0 then -double_micros |time| else double_micros |time|

theorem time_buffer_moment {q : ℚ} (hfixed : machine.double q = q) {t : MYSQL_TIME}
    (h : time_buffer machine (.finite q) {} = some t) :
    (if t.neg then -(micros_of t : ℤ) else micros_of t) = bound_micros q := by
  by_cases hhours : whole q / 3600 ≤ 4294967295
  · have ht : some (with_time machine (clear_date_buffer {}) q) = some t :=
      (set_time_buffer_eq machine_rounds hfixed _ hhours).symm.trans h
    cases ht
    rw [micros_of_with_time hfixed]
    simp [with_time, bound_micros]
  · have habs : (if q < 0 then -q else q) = |q| := by
      split
      · exact (abs_of_neg ‹_›).symm
      · exact (abs_of_nonneg (not_lt.mp ‹_›)).symm
    -- the hours do not fit
    have hlarge : 4294967296 ≤ trunc (machine.double (|q| / 3600)) := by
      have hhigh : (4294967296 : ℤ) ≤ |q| / 3600 := by
        have hfloor : ⌊|q| / 3600⌋ = whole q / 3600 := Int.floor_div_natCast _ 3600
        exact Int.le_floor.mp (by omega)
      have hround := machine_rounds.int_le _ _ (by decide) hhigh
      rw [trunc_of_nonneg (machine_rounds.nonneg (by positivity))]
      exact Int.le_floor.mpr hround
    have hhour : MariaBinding.cast InUnsigned ((trunc (machine.double (|q| / 3600)) : ℤ) : ℚ) = none := by
      rw [MariaBinding.cast, trunc_intCast]
      refine if_neg ?_
      unfold InUnsigned
      omega
    rw [time_buffer, set_time_buffer, habs, time_parts] at h
    simp only [hhour] at h
    cases h

theorem time_buffer_bound {q : ℚ} (hfixed : machine.double q = q) (h : whole q / 3600 ≤ 4294967295) :
    ∃ t, time_buffer machine (.finite q) {} = some t :=
  ⟨_, set_time_buffer_eq machine_rounds hfixed _ h⟩

end Buffers

end RMariaDB.Table
