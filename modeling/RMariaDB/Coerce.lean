import RMariaDB.Lib.CArith
import RMariaDB.MariaTypes

-- The columns of an R data frame, and what sql_data() makes of them before they are bound.

namespace RMariaDB

inductive Units where
  | secs
  | mins
  | hours
  | days
  | weeks
deriving DecidableEq, Repr

def Units.seconds : Units → ℤ
  | secs => 1
  | mins => 60
  | hours => 3600
  | days => 86400
  | weeks => 604800

-- A vector and those of its attributes that are not in the class.
structure RVector where
  sexp : SEXP
  -- of a factor
  levels : List (Option Bytes) := []
  -- of a difftime
  units : Units := .secs
  -- of a POSIXt
  tzone : String := ""
  -- of a POSIXlt, which is a list of the parts of its times: the instants they denote
  instants : List Double := []
deriving DecidableEq, Repr

-- The result of an operation on doubles
def Double.rounded (x : ℚ) : Double :=
  if Floating.limit Floating.double ≤ x then .Inf
  else if x ≤ -Floating.limit Floating.double then .NegInf
  else .finite (CArith.machine.double x)

-- What is relied upon of the libraries of R.
structure RLibrary where
  -- the offset of a time zone from UTC at an instant, in seconds
  offset : String → ℚ → ℤ
  offset_UTC : ∀ v, offset "UTC" v = 0
  -- hms::as_hms() multiplies by the seconds of the units.
  seconds : Units → Double → Double
  seconds_finite : ∀ units q, seconds units (.finite q) = .rounded (q * units.seconds)
  seconds_other : ∀ units d, (∀ q, d ≠ .finite q) → seconds units d = d
  -- with_tz() and force_tz(): the clock time of a zone, as an instant of UTC
  local_time : String → Double → Double
  local_time_number : ∀ zone q, |q + offset zone q| < 2 ^ 53 →
    local_time zone (.finite q) = .finite (CArith.machine.double (q + offset zone q))
  local_time_finite : ∀ zone d v, local_time zone d = .finite v →
    ∃ q, d = .finite q ∧ v = CArith.machine.double (q + offset zone q)
  local_time_missing : ∀ zone d, ISNAN d → ISNAN (local_time zone d)
  -- the digits to which the platform pads a year: none or four
  year_width : Nat := 4
  year_width_le : year_width ≤ 4 := by decide
  -- the microseconds that format() shows behind the whole seconds of a time of day
  subseconds : ℚ → Nat
  subseconds_whole : ∀ n : ℤ, subseconds n = 0
  subseconds_lt : ∀ t, 0 ≤ t → t < 86400 → subseconds t < 1000000
  -- the whole microseconds that hms shows of some microseconds
  ticks : ℚ → ℤ
  ticks_whole : ∀ n : ℤ, |n| < 2 ^ 53 → ticks n = n
  -- formatC(x, digits = 17, format = "E")
  formatE : ℚ → Bytes
  -- format() of a list element that is neither raw nor NULL
  format : String → Bytes

namespace RVector

def length (x : RVector) : Nat := x.sexp.xlength

-- A list without class attribute has the class "list".
def inherits (x : RVector) (what : String) : Bool :=
  match x.sexp with
  | .VECSXP [] _ => what = "list"
  | x => x.klass.contains what

def is_factor (x : RVector) : Bool := x.inherits "factor"

def is_integer (x : RVector) : Bool :=
  match x.sexp with
  | .INTSXP _ _ => !x.is_factor
  | _ => false

def is_integer64 (x : RVector) : Bool := x.inherits "integer64"

-- FALSE for dates, times and durations.
def is_numeric (x : RVector) : Bool :=
  match x.sexp with
  | .INTSXP _ _ | .REALSXP _ _ =>
      !x.is_factor && !x.inherits "Date" && !x.inherits "POSIXt" && !x.inherits "difftime"
  | _ => false

def is_logical (x : RVector) : Bool :=
  match x.sexp with
  | .LGLSXP _ _ => true
  | _ => false

def is_list (x : RVector) : Bool :=
  match x.sexp with
  | .VECSXP _ _ | .other "list" _ _ => true
  | _ => false

end RVector

namespace Coerce

open RVector

-- as.character() of a factor
def labels (levels : List (Option Bytes)) (codes : List ℤ) : List (Option Bytes) :=
  codes.map fun v => if v = NA_INTEGER then none else levels[v.toNat - 1]?.join

def factor_to_string (x : RVector) : RVector :=
  match x.sexp with
  | .INTSXP _ codes => if x.is_factor then { sexp := .STRSXP [] (labels x.levels codes) } else x
  | _ => x

def double_of_int (v : ℤ) : Double := if v = NA_INTEGER then .NA else .finite v

-- mode(x) <- "double"
def as_double : SEXP → SEXP
  | .INTSXP klass x => .REALSXP klass (x.map fun v => ⟨double_of_int v, 0⟩)
  | x => x

def onDoubles (f : Double → Double) (klass : List String) : SEXP → SEXP
  | .REALSXP _ x => .REALSXP klass (x.map fun cell => { cell with real := f cell.real })
  | x => x

def as_POSIXct (x : RVector) : RVector :=
  if x.inherits "POSIXlt" then
    { sexp := .REALSXP ["POSIXct", "POSIXt"] (x.instants.map fun v => ⟨v, 0⟩), tzone := x.tzone }
  else x

variable (lib : RLibrary)

def difftime_to_hms (x : RVector) : RVector :=
  if x.inherits "difftime" then
    { x with
      sexp := onDoubles (lib.seconds x.units) ["hms", "difftime"] (as_double x.sexp)
      units := .secs }
  else x

def posixlt_to_posixct (timezone : String) (x : RVector) : RVector :=
  if x.inherits "POSIXt" then
    let x := as_POSIXct x
    if timezone ≠ "UTC" then
      -- force_tz() returns a double
      { x with
        sexp := onDoubles (lib.local_time timezone) x.sexp.klass (as_double x.sexp)
        tzone := "UTC" }
    else x
  else x

def finite_or_NA : Double → Double
  | .finite q => .finite q
  | _ => .NA

-- The missing values of an integer64 stay as they are.
def numeric_to_finite (x : RVector) : RVector :=
  if x.is_numeric && !x.is_integer && !x.is_integer64 then
    { x with sexp := onDoubles finite_or_NA x.sexp.klass x.sexp }
  else x

def date_to_double (x : RVector) : RVector :=
  if x.inherits "Date" then { x with sexp := as_double x.sexp } else x

-- One column of sql_data(); strings are in UTF-8 already.
def sql_data (timezone : String) (x : RVector) : SEXP :=
  let x := factor_to_string x
  let x := difftime_to_hms lib x
  let x := posixlt_to_posixct lib timezone x
  let x := numeric_to_finite x
  (date_to_double x).sexp

end Coerce

end RMariaDB
