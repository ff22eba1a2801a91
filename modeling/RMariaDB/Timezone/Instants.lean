import RMariaDB.MariaBinding.Instants
import RMariaDB.Table.Agreement
import RMariaDB.Timezone.Usable

-- Times that are written in the time zone of a connection are read back as the same instants.

namespace RMariaDB.Timezone

open Program RVector Table CArith

variable {lib : RLibrary} {lub : Lubridate lib}

section Writing

-- With a time zone that is accepted the conversion is the one of sql_data().
theorem posixlt_to_posixct_eq {timezone : String} (h : lub.accepts timezone = true)
    (value : List RVector) : posixlt_to_posixct lub value timezone =
      .ok (value.map (Coerce.posixlt_to_posixct lib timezone)) := by
  refine mapM_eq_map (fun x => ?_) value
  rw [Coerce.posixlt_to_posixct, to_database]
  split
  · dsimp only
    split
    · have hforce := force_tz_ok (x := with_tz (Coerce.as_POSIXct x) timezone) h lub.accepts_UTC
      rw [hforce]
      simp [with_tz, lub.same_clock_UTC]
    · rfl
  · rfl

variable {timezone : String} {x : RVector} {klass : List String} {cells : List RealCell}
  {i : Nat} {t : ℤ}

-- The time that the clocks of a zone show
def clock (lib : RLibrary) (timezone : String) (t : ℚ) : ℚ := t + lib.offset timezone t

theorem clock_int (lib : RLibrary) (timezone : String) (t : ℤ) :
    clock lib timezone t = ((t + lib.offset timezone t : ℤ) : ℚ) := by
  rw [clock]
  push_cast
  rfl

theorem plain_value_time (hx : x.sexp = .REALSXP klass cells) (hclass : Classed "POSIXt" [] x)
    (ht : cells[i]?.map RealCell.real = some (.finite t))
    (hday : Supported ((t + lib.offset timezone t) / 86400)) : ∃ sent,
      plain_value lib timezone x i = .ok (some (.time sent)) ∧ sent.Valid ∧
      moment_of .datetime (.time sent) = clock_moment lib (clock lib timezone t) := by
  obtain ⟨hposix, hothers⟩ := hclass.inherits (by simp [hx])
  obtain ⟨cell, hcell, hreal⟩ := Option.map_eq_some_iff.mp ht
  have hlast : klass.getLast? = some "POSIXt" := by
    have hlast := hclass.last
    rwa [hx] at hlast
  have hsql := sql_data_POSIXct_double lib timezone hx (hothers "factor" (by decide) (by decide))
    (hothers "Date" (by decide) (by decide)) (hothers "difftime" (by decide) (by decide)) hposix
    (hothers "POSIXlt" (by decide) (by decide))
  have hplain := plain_value_bound lib timezone .datetime (i := i) hsql hlast
    (by rw [List.getElem?_map, hcell, Option.map_some])
  rw [clock_int]
  generalize hw : t + lib.offset timezone t = w at *
  obtain ⟨sent, hsent, hmoment⟩ := bound_of_inType (by simp) ((inType_int hday.sqlDate.lt).mpr hday)
  have hvalid : sent.Valid := by
    have hdays : Representable (sent_day machine (w : ℚ)) := by
      rw [sent_day_int hday.sqlDate]
      exact hday.sqlDate.representable
    have hfixed : machine.double (sent_time machine (w : ℚ)) = sent_time machine (w : ℚ) :=
      machine_rounds.again _
    have htime := sent_time_int hday.sqlDate
    have hnonneg : 0 ≤ sent_time machine (w : ℚ) := by
      rw [htime]
      exact_mod_cast Int.emod_nonneg w (by decide)
    have hbelow : sent_time machine (w : ℚ) < 86400 := by
      rw [htime]
      exact_mod_cast Int.emod_lt_of_pos w (show (0 : ℤ) < 86400 by decide)
    obtain rfl : sent = _ :=
      Option.some.inj (hsent.symm.trans (date_time_buffer_eq machine_agrees machine_rounds {} hdays))
    exact with_time_valid machine_rounds hfixed hnonneg hbelow hdays _
  refine ⟨sent, ?_, hvalid, hmoment.trans (moment_at_int lib hday.sqlDate)⟩
  have hclock : clock_time lib timezone (.finite t) = .finite (w : ℚ) := by
    rw [clock_time_int (by rw [hw]; exact hday.sqlDate.lt), hw]
  have hbound : bound .datetime (.finite (w : ℚ)) =
      MariaBinding.time_value (buffer .datetime (.finite (w : ℚ))) := rfl
  rw [hplain, hreal, hclock, hbound, hsent]
  rfl

theorem fast_value_time (hx : x.sexp = .REALSXP klass cells) (hclass : Classed "POSIXt" [] x)
    (ht : cells[i]?.map RealCell.real = some (.finite t)) :
    fast_value lib timezone x i = .ok (some (datetime_text lib (clock lib timezone t))) := by
  obtain ⟨hposix, hothers⟩ := hclass.inherits (by simp [hx])
  obtain ⟨cell, hcell, hreal⟩ := Option.map_eq_some_iff.mp ht
  have hfast := fast_value_double lib timezone hx (hothers "factor" (by decide) (by decide))
    (hothers "integer64" (by decide) (by decide)) (hothers "POSIXlt" (by decide) (by decide))
    (.inr (.inr hposix)) i
  rw [hfast, hcell, Option.bind_some, hreal, double_text,
    if_neg (by simp [hothers "Date" (by decide) (by decide)]),
    if_neg (by simp [hothers "difftime" (by decide) (by decide)])]
  rfl

end Writing

section Reading

variable {stored : MYSQL_TIME} {v : ℤ}

theorem days_of_moment (h : moment_of .datetime (.time stored) = clock_moment lib v) :
    stored.days = v / 86400 ∧ micros_of stored = (v % 86400).toNat * 1000000 := by
  rw [clock_moment_int] at h
  obtain ⟨hdate, hmicros⟩ := Moment.datetime.inj h
  have hcivil : stored.civil = Calendar.dateOf (v / 86400 + 719468) := hdate
  refine ⟨?_, hmicros⟩
  rw [MYSQL_TIME.days, hcivil, Calendar.dayOf_dateOf]
  omega

theorem seconds_of_moment (hvalid : stored.Valid)
    (h : moment_of .datetime (.time stored) = clock_moment lib v) :
    stored.days * 86400 + stored.seconds_of_day = v ∧ stored.second_part = 0 := by
  obtain ⟨hdays, hmicros⟩ := days_of_moment h
  have hpart := hvalid.second_part
  unfold micros_of at hmicros
  unfold MYSQL_TIME.seconds_of_day
  omega

-- A clock time in whole seconds is read back from any value that stands for it.
theorem value_date_time_moment (hvalid : stored.Valid) (hday : SqlDate (v / 86400))
    (h : moment_of .datetime (.time stored) = clock_moment lib v) :
    MariaRow.value_date_time (echoed .MY_DATE_TIME stored) = .ok (.finite v) := by
  have hdays : Representable stored.days := by
    rw [(days_of_moment h).1]
    exact hday.representable
  obtain ⟨hseconds, hpart⟩ := seconds_of_moment hvalid h
  have hread := MYSQL_TIME.date_time_of_eq machine_agrees machine_rounds hvalid hdays
  have hzero := double_int (w := 0) (by decide)
  push_cast at hzero
  rw [hseconds, hpart, Nat.cast_zero, zero_div, hzero, add_zero, double_int hday.lt] at hread
  simp [MariaRow.value_date_time, echoed_null, mytime_echoed, hread, ofOption]

end Reading

section Fetching

-- The columns of times in what fix_timezone() is given and returns
def TimeAt (ret : List RVector) (c k : Nat) (d : Double) : Prop := ∃ y v, ret[c]? = some y ∧
  y.sexp = .REALSXP ["POSIXct", "POSIXt"] v ∧ v[k]?.map RealCell.real = some d

-- The clock times of UTC that were read as those of the time zone of the connection
theorem fix_timezone_eq {conn : Zones} (h : lub.accepts conn.timezone = true) (ret : List RVector) :
    fix_timezone lub ret conn = .ok (ret.map fun x => if x.inherits "POSIXt" then { x with
      sexp := Coerce.onDoubles (lub.same_clock "UTC" conn.timezone) x.sexp.klass
        (Coerce.as_double x.sexp)
      tzone := conn.timezone_out } else x) := by
  refine mapM_eq_map (fun x => ?_) ret
  split
  · have hforce := force_tz_ok (x := with_tz x "UTC") lub.accepts_UTC h
    rw [from_database, hforce]
    rfl
  · rfl

theorem fix_timezone_times (conn : Zones) (h : lub.accepts conn.timezone = true)
    {ret : List RVector} {c k : Nat} {d : Double} (hd : TimeAt ret c k d) : ∃ ret', fix_timezone lub ret conn = .ok ret' ∧
      TimeAt ret' c k (lub.same_clock "UTC" conn.timezone d) := by
  refine ⟨_, fix_timezone_eq h ret, ?_⟩
  obtain ⟨y, v, hy, hsexp, hv⟩ := hd
  have hposix : y.inherits "POSIXt" = true := by
    rw [inherits, hsexp]
    rfl
  refine ⟨_, v.map fun cell => { cell with real := lub.same_clock "UTC" conn.timezone cell.real },
    by rw [List.getElem?_map, hy, Option.map_some, if_pos hposix], ?_, ?_⟩
  · rw [hsexp]
    rfl
  · obtain ⟨cell, hcell, hreal⟩ := Option.map_eq_some_iff.mp hv
    rw [List.getElem?_map, hcell, Option.map_some, Option.map_some, hreal]

end Fetching

section Survival

variable {timezone timezone_out : String} {x : RVector} {klass : List String}
  {cells : List RealCell} {i : Nat} {t : ℤ}

def local_year (lib : RLibrary) (timezone : String) (t : ℚ) : ℤ :=
  (Calendar.dateOf (day_of (clock lib timezone t) + 719468)).year

-- What becomes of a DATETIME that is read: the instant it is fetched as
def FetchedAs (lub : Lubridate lib) (conn : Zones) (stored : MYSQL_TIME) (d : Double) : Prop :=
  ∃ read, MariaRow.value_date_time (echoed .MY_DATE_TIME stored) = .ok read ∧
    ∀ ret c k, TimeAt ret c k read →
      ∃ ret', fix_timezone lub ret conn = .ok ret' ∧ TimeAt ret' c k d

-- Both ways of writing a time store its clock time in the zone of the connection, and
-- the only instant with this clock time is read back.
theorem instants_survive (haccepts : lub.accepts timezone = true)
    (hx : x.sexp = .REALSXP klass cells) (hclass : Classed "POSIXt" [] x)
    (ht : cells[i]?.map RealCell.real = some (.finite t))
    (hyear : 1000 ≤ local_year lib timezone t ∧ local_year lib timezone t ≤ 9999)
    (honly : ∀ u : ℚ, clock lib timezone u = clock lib timezone t → u = t) :
    ∃ sent text, plain_value lib timezone x i = .ok (some (.time sent)) ∧ sent.Valid ∧
      fast_value lib timezone x i = .ok (some text) ∧
      loaded_moment .datetime text = moment_of .datetime (.time sent) ∧
      ∀ stored : MYSQL_TIME, stored.Valid →
        moment_of .datetime (.time stored) = moment_of .datetime (.time sent) →
        FetchedAs lub ⟨timezone, timezone_out⟩ stored (.finite t) := by
  have hclock := clock_int lib timezone t
  have hday : Supported ((t + lib.offset timezone t) / 86400) := by
    rw [← day_of_int, ← hclock, supported_iff]
    exact hyear
  obtain ⟨sent, hplain, hvalid, hmoment⟩ := plain_value_time hx hclass ht hday
  refine ⟨sent, _, hplain, hvalid, fast_value_time hx hclass ht, ?_, fun stored hstored hsame => ?_⟩
  · rw [hmoment]
    refine loaded_datetime ?_
    rw [hclock, day_of_int]
    exact .inl hday
  · rw [hmoment, hclock] at hsame
    refine ⟨_, value_date_time_moment hstored hday.sqlDate hsame, fun ret c k htime => ?_⟩
    obtain ⟨ret', hret', htime'⟩ :=
      fix_timezone_times ⟨timezone, timezone_out⟩ haccepts htime
    refine ⟨ret', hret', ?_⟩
    obtain ⟨v, hv, hshows⟩ := lub.same_clock_shows "UTC" timezone (t + lib.offset timezone t) t
      (by
        rw [lib.offset_UTC, add_zero]
        exact hday.sqlDate.lt)
      (by
        rw [lib.offset_UTC]
        push_cast
        ring)
    have honlyt : v = t := by
      refine honly v ?_
      rw [clock, hshows, lib.offset_UTC, hclock]
      push_cast
      ring
    have hinstant : lub.same_clock "UTC" timezone (.finite ((t + lib.offset timezone t : ℤ) : ℚ)) =
        .finite t := by
      rw [hv, honlyt]
    rwa [hinstant] at htime'

end Survival

section Summer

-- The first second of summer time
def change : RVector where
  sexp := .REALSXP ["POSIXct", "POSIXt"] [⟨.finite 1616893200, 0⟩]
  tzone := "UTC"

theorem instants_survive_change : ∃ sent text,
    plain_value berlin "Europe/Berlin" change 0 = .ok (some (.time sent)) ∧ sent.Valid ∧
    fast_value berlin "Europe/Berlin" change 0 = .ok (some text) ∧
    loaded_moment .datetime text = moment_of .datetime (.time sent) ∧
    ∀ stored : MYSQL_TIME, stored.Valid →
      moment_of .datetime (.time stored) = moment_of .datetime (.time sent) →
      FetchedAs berlin_zones ⟨"Europe/Berlin", "UTC"⟩ stored (.finite ((1616893200 : ℤ) : ℚ)) := by
  have hyear : local_year berlin "Europe/Berlin" ((1616893200 : ℤ) : ℚ) = 2021 := by
    decide +kernel
  have honly : ∀ u : ℚ, clock berlin "Europe/Berlin" u =
      clock berlin "Europe/Berlin" ((1616893200 : ℤ) : ℚ) → u = ((1616893200 : ℤ) : ℚ) := by
    intro u hu
    have hafter : ¬((1616893200 : ℤ) : ℚ) < summer := by norm_num [summer]
    simp only [clock, berlin, zoned, berlin_offset, if_pos, if_neg hafter] at hu
    split at hu
    · rename_i hbefore
      unfold summer at hbefore
      push_cast at hu
      linarith
    · push_cast at hu ⊢
      linarith
  refine instants_survive rfl rfl ⟨rfl, by decide⟩ rfl ?_ honly
  rw [hyear]
  decide

end Summer

end RMariaDB.Timezone
