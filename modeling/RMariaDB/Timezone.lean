import RMariaDB.Coerce

-- The time zones of a connection, and the conversions between instants and the clock times
-- that the database stores.

namespace RMariaDB

-- What is relied upon of lubridate.
structure Lubridate (lib : RLibrary) where
  accepts : String → Bool
  accepts_UTC : accepts "UTC" = true
  accepts_local : accepts "" = true
  -- the message of the error for another time zone
  unrecognized : String → String
  -- the instant at which the clock of the second zone shows what that of the first one shows
  same_clock : String → String → Double → Double
  same_clock_UTC : ∀ zone, same_clock zone "UTC" = lib.local_time zone
  same_clock_shows : ∀ zone zone' (q : ℤ) (u : ℚ), |q + lib.offset zone q| < 2 ^ 53 →
    u + lib.offset zone' u = q + lib.offset zone q →
    ∃ v, same_clock zone zone' (.finite q) = .finite v ∧
      v + lib.offset zone' v = q + lib.offset zone q

namespace Timezone

open RVector

-- The slots of a connection
structure Zones where
  timezone : String
  timezone_out : String
deriving DecidableEq, Repr

variable {lib : RLibrary} (lub : Lubridate lib)

section Conversions

-- The instants stay. A time zone that is not accepted raises a warning only.
def with_tz (x : RVector) (zone : String) : RVector := { x with tzone := zone }

def force_tz (x : RVector) (zone : String) : Except Exc RVector :=
  if lub.accepts x.tzone = false then throw (.stop (lub.unrecognized x.tzone))
  else if lub.accepts zone = false then throw (.stop (lub.unrecognized zone))
  else pure { x with
    sexp := Coerce.onDoubles (lub.same_clock x.tzone zone) x.sexp.klass (Coerce.as_double x.sexp)
    tzone := zone }

-- What fix_timezone() does with one column of class POSIXt.
def from_database (conn : Zones) (x : RVector) : Except Exc RVector := do
  let x := with_tz x "UTC"
  let x ← force_tz lub x conn.timezone
  pure (with_tz x conn.timezone_out)

def fix_timezone (ret : List RVector) (conn : Zones) : Except Exc (List RVector) :=
  ret.mapM fun x => if x.inherits "POSIXt" then from_database lub conn x else pure x

-- What posixlt_to_posixct() does with one column of class POSIXt.
def to_database (timezone : String) (x : RVector) : Except Exc RVector :=
  let x := Coerce.as_POSIXct x
  if timezone ≠ "UTC" then force_tz lub (with_tz x timezone) "UTC" else pure x

def posixlt_to_posixct (value : List RVector) (timezone : String) : Except Exc (List RVector) :=
  value.mapM fun x => if x.inherits "POSIXt" then to_database lub timezone x else pure x

end Conversions

section Connect

-- as.POSIXct("2021-03-01 10:40")
def some_time : RVector where
  sexp := .REALSXP ["POSIXct", "POSIXt"] [⟨lub.same_clock "UTC" "" (.finite 1614595200), 0⟩]

def warning_text (timezone arg_name message : String) : String :=
  "Invalid time zone '" ++ timezone ++ "', " ++
    "falling back to local time.\n" ++
    "Set the `" ++ arg_name ++ "` argument to a valid time zone.\n" ++ message

def normalized (timezone : String) : String := if timezone = "+00:00" then "UTC" else timezone

-- The time zone that is returned, and the warnings. The error handler of tryCatch() sets
-- a variable of its own to local time.
def check_tz (arg_name timezone : String) : String × List String :=
  let timezone := normalized timezone
  let warnings := match force_tz lub (some_time lub) timezone with
    | .error (.stop message) => [warning_text timezone arg_name message]
    | _ => []
  (timezone, warnings)

-- What the server answers to SET time_zone and to SELECT @@SESSION.time_zone.
structure ServerZone where
  set_time_zone : String → Except Exc Unit
  session : String

def session_zone (server : ServerZone) : Option String → Except Exc String
  | some timezone => do
      server.set_time_zone timezone
      pure timezone
  | none => pure server.session

def zone_out (timezone : String) : Option String → String × List String
  | some timezone_out => check_tz lub "timezone_out" timezone_out
  | none => (timezone, [])

-- The part of dbConnect() that chooses the time zones.
def connect_zones (server : ServerZone) (timezone timezone_out : Option String) :
    Except Exc (Zones × List String) := do
  let timezone ← session_zone server timezone
  let (timezone, warnings) := check_tz lub "timezone" timezone
  let (timezone_out, more) := zone_out lub timezone timezone_out
  pure (⟨timezone, timezone_out⟩, warnings ++ more)

end Connect

end Timezone

end RMariaDB
