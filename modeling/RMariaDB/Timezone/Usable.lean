import RMariaDB.Table.Lossless
import RMariaDB.Timezone

-- On which connections every fetch and every bind gets through the time zone conversions.

namespace RMariaDB.Timezone

open Program RVector

variable {lib : RLibrary} {lub : Lubridate lib}

section Conversions

theorem force_tz_ok {x : RVector} {zone : String} (hx : lub.accepts x.tzone = true)
    (hzone : lub.accepts zone = true) : force_tz lub x zone = .ok { x with
      sexp := Coerce.onDoubles (lub.same_clock x.tzone zone) x.sexp.klass (Coerce.as_double x.sexp)
      tzone := zone } := by
  simp [force_tz, hx, hzone]

theorem force_tz_error {x : RVector} {zone : String} (hx : lub.accepts x.tzone = true)
    (hzone : lub.accepts zone = false) :
    force_tz lub x zone = .error (.stop (lub.unrecognized zone)) := by
  simp [force_tz, hx, hzone]

theorem mapM_passes {f : RVector → Except Exc RVector} {xs : List RVector}
    (h : ∀ x ∈ xs, ∃ y, f x = .ok y) : ∃ ys, xs.mapM f = .ok ys := by
  obtain ⟨ys, hys, -⟩ := mapM_eq_ok (P := fun _ _ => True) fun x hx => by
    obtain ⟨y, hy⟩ := h x hx
    exact ⟨y, hy, trivial⟩
  exact ⟨ys, hys⟩

theorem fix_timezone_passes {conn : Zones} (h : lub.accepts conn.timezone = true)
    (ret : List RVector) : ∃ ret', fix_timezone lub ret conn = .ok ret' := by
  refine mapM_passes fun x _ => ?_
  split
  · have hforce := force_tz_ok (x := with_tz x "UTC") lub.accepts_UTC h
    rw [from_database, hforce]
    exact ⟨_, rfl⟩
  · exact ⟨x, rfl⟩

theorem posixlt_to_posixct_passes {timezone : String} (h : lub.accepts timezone = true)
    (value : List RVector) : ∃ value', posixlt_to_posixct lub value timezone = .ok value' := by
  refine mapM_passes fun x _ => ?_
  split
  · rw [to_database]
    split
    · have hforce := force_tz_ok (x := with_tz (Coerce.as_POSIXct x) timezone) h lub.accepts_UTC
      rw [hforce]
      exact ⟨_, rfl⟩
    · exact ⟨_, rfl⟩
  · exact ⟨x, rfl⟩

end Conversions

section Connect

-- A zone is accepted when check_tz() raises no warning.
theorem check_tz_warns (arg_name timezone : String) :
    (check_tz lub arg_name timezone).2 = [] ↔ lub.accepts (normalized timezone) = true := by
  have hlocal : lub.accepts (some_time lub).tzone = true := lub.accepts_local
  cases hzone : lub.accepts (normalized timezone) with
  | true => simp [check_tz, force_tz_ok hlocal hzone]
  | false => simp [check_tz, force_tz_error hlocal hzone]

-- The slots are set to the zones that were asked for, accepted or not.
theorem connect_zones_slots {server : ServerZone} {timezone timezone_out : Option String}
    {conn : Zones} {warnings : List String}
    (h : connect_zones lub server timezone timezone_out = .ok (conn, warnings)) :
    conn.timezone = normalized (timezone.getD server.session) ∧
      conn.timezone_out = (timezone_out.map normalized).getD conn.timezone := by
  obtain ⟨session, hsession, h⟩ := of_bind_eq_ok h
  cases h
  have hgiven : session = timezone.getD server.session := by
    cases timezone with
    | none =>
        cases hsession
        rfl
    | some timezone =>
        obtain ⟨-, -, hsession⟩ := of_bind_eq_ok hsession
        cases hsession
        rfl
  refine ⟨by rw [← hgiven], ?_⟩
  cases timezone_out with
  | none => rfl
  | some timezone_out => rfl

-- What is promised of a connection.
structure Usable (lub : Lubridate lib) (conn : Zones) : Prop where
  timezone : lub.accepts conn.timezone = true
  timezone_out : lub.accepts conn.timezone_out = true
  fetch : ∀ ret, ∃ ret', fix_timezone lub ret conn = .ok ret'
  bind : ∀ value, ∃ value', posixlt_to_posixct lub value conn.timezone = .ok value'

theorem usable_iff {server : ServerZone} {timezone timezone_out : Option String} {conn : Zones}
    {warnings : List String}
    (h : connect_zones lub server timezone timezone_out = .ok (conn, warnings)) :
    Usable lub conn ↔ lub.accepts (normalized (timezone.getD server.session)) = true ∧
      ∀ zone ∈ timezone_out, lub.accepts (normalized zone) = true := by
  obtain ⟨htimezone, hout⟩ := connect_zones_slots h
  rw [← htimezone]
  constructor
  · intro husable
    refine ⟨husable.timezone, fun zone hzone => ?_⟩
    have haccepts := husable.timezone_out
    rw [hout, Option.mem_def.mp hzone] at haccepts
    exact haccepts
  · rintro ⟨haccepts, hzones⟩
    refine ⟨haccepts, ?_, fix_timezone_passes haccepts, posixlt_to_posixct_passes haccepts⟩
    rw [hout]
    cases timezone_out with
    | none => exact haccepts
    | some zone => exact hzones zone rfl

end Connect

section Berlin

-- 2021-03-28 01:00:00 UTC
def summer : ℚ := 1616893200

def berlin_offset (zone : String) (v : ℚ) : ℤ :=
  if zone = "Europe/Berlin" then (if v < summer then 3600 else 7200) else 0

def berlin_clock (zone : String) (clock : ℚ) : Double :=
  if zone = "Europe/Berlin" then
    if clock - 3600 < summer then .finite (clock - 3600)
    else if clock - 7200 < summer then .NA
    else .finite (clock - 7200)
  else .finite clock

theorem berlin_clock_shows (zone : String) (clock u : ℚ) (h : u + berlin_offset zone u = clock) :
    ∃ v, berlin_clock zone clock = .finite v ∧ v + berlin_offset zone v = clock := by
  unfold berlin_offset berlin_clock at *
  by_cases hzone : zone = "Europe/Berlin"
  · simp only [if_pos hzone] at h ⊢
    by_cases hwinter : clock - 3600 < summer
    · refine ⟨clock - 3600, by rw [if_pos hwinter], ?_⟩
      rw [if_pos hwinter]
      push_cast
      ring
    · have hsummer : ¬u < summer := by
        intro hu
        rw [if_pos hu] at h
        push_cast at h
        exact hwinter (by linarith)
      rw [if_neg hsummer] at h
      push_cast at h
      obtain rfl : u = clock - 7200 := by linarith
      refine ⟨clock - 7200, by rw [if_neg hwinter, if_neg hsummer], ?_⟩
      rw [if_neg hsummer]
      push_cast
      ring
  · rw [if_neg hzone] at h ⊢
    exact ⟨clock, rfl, by rw [if_neg hzone]; simp⟩

def berlin : RLibrary := Table.zoned berlin_offset fun _ => rfl

def berlin_same_clock (zone zone' : String) (d : Double) : Double :=
  if zone' = "UTC" then berlin.local_time zone d
  else match d with
    | .finite q => berlin_clock zone' (q + berlin_offset zone q)
    | d => d

theorem berlin_same_clock_shows (zone zone' : String) (q : ℤ) (u : ℚ)
    (hq : |q + berlin_offset zone q| < 2 ^ 53)
    (hu : u + berlin_offset zone' u = q + berlin_offset zone q) :
    ∃ v, berlin_same_clock zone zone' (.finite q) = .finite v ∧
      v + berlin_offset zone' v = q + berlin_offset zone q := by
  unfold berlin_same_clock
  split
  · rename_i hUTC
    have hint := CArith.machine_rounds.int hq
    push_cast at hint
    refine ⟨q + berlin_offset zone q, congrArg Double.finite hint, ?_⟩
    rw [hUTC]
    simp [berlin_offset]
  · exact berlin_clock_shows zone' _ u hu

def berlin_zones : Lubridate berlin where
  accepts := fun zone => ["", "UTC", "Europe/Berlin"].contains zone
  accepts_UTC := rfl
  accepts_local := rfl
  unrecognized := fun zone => "CCTZ: Unrecognized output timezone: \"" ++ zone ++ "\""
  same_clock := berlin_same_clock
  same_clock_UTC := fun _ => funext fun _ => if_pos rfl
  same_clock_shows := berlin_same_clock_shows

def agreeing : ServerZone where
  set_time_zone := fun _ => .ok ()
  session := "SYSTEM"

theorem usable_iff_utc : Usable berlin_zones ⟨"UTC", "Europe/Berlin"⟩ ↔
    berlin_zones.accepts (normalized ((some "+00:00").getD agreeing.session)) = true ∧
      ∀ zone ∈ some "Europe/Berlin", berlin_zones.accepts (normalized zone) = true := by
  have hconnect : connect_zones berlin_zones agreeing (some "+00:00") (some "Europe/Berlin") =
      .ok (⟨"UTC", "Europe/Berlin"⟩, []) := rfl
  exact usable_iff hconnect

def one_time : RVector := { sexp := .REALSXP ["POSIXct", "POSIXt"] [⟨.finite 0, 0⟩] }

-- The warning promises local time; the slot keeps the zone, and no time can be fetched
-- or bound.
theorem numeric_zone_unusable : ∃ conn warning,
    connect_zones berlin_zones agreeing (some "+02:00") none = .ok (conn, [warning]) ∧
    conn = ⟨"+02:00", "+02:00"⟩ ∧ berlin_zones.accepts conn.timezone = false ∧
    fix_timezone berlin_zones [one_time] conn =
      .error (.stop "CCTZ: Unrecognized output timezone: \"+02:00\"") ∧
    posixlt_to_posixct berlin_zones [one_time] conn.timezone =
      .error (.stop "CCTZ: Unrecognized output timezone: \"+02:00\"") :=
  ⟨_, _, rfl, rfl, rfl, rfl, rfl⟩

end Berlin

end RMariaDB.Timezone
