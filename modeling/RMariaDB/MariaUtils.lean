import RMariaDB.Lib.CArith
import RMariaDB.MariaTypes

namespace RMariaDB

-- An element of a column of a data frame. Freshly allocated numeric vectors have
-- no value yet.
inductive Cell where
  | undef
  | lgl (v : ℤ)
  | int (v : ℤ)
  | real (x : Double)
  | int64 (v : ℤ)
  | str (s : Option Bytes)
  | raw (b : Option Bytes)
deriving DecidableEq, Repr

structure Column where
  type : SEXPTYPE
  klass : List String := []
  units : Option String := none
  cells : List Cell
deriving DecidableEq, Repr

structure DataFrame where
  names : List String
  row_names : ℤ
  columns : List Column
deriving DecidableEq, Repr

def DataFrame.nrow (df : DataFrame) : ℤ := -df.row_names

-- What Rf_allocVector() leaves in a vector.
def allocated : SEXPTYPE → Cell
  | .LGLSXP | .INTSXP | .REALSXP => .undef
  | .STRSXP => .str (some [])
  | .VECSXP => .raw none

def allocVector (type : SEXPTYPE) (n : Nat) : Column :=
  { type := type, cells := List.replicate n (allocated type) }

-- What Rf_lengthgets() fills up with.
def padding : SEXPTYPE → Cell
  | .LGLSXP => .lgl NA_LOGICAL
  | .INTSXP => .int NA_INTEGER
  | .REALSXP => .real .NA
  | .STRSXP => .str none
  | .VECSXP => .raw none

-- Attributes other than names are dropped.
def lengthgets (x : Column) (n : Nat) : Column :=
  { type := x.type
    cells := x.cells.take n ++ List.replicate (n - x.cells.length) (padding x.type) }

def df_resize (df : DataFrame) (n : Nat) : DataFrame :=
  { names := df.names
    row_names := -n
    columns := df.columns.map (lengthgets · n) }

def s3_class (x : Column) : MariaFieldType → Column
  | .MY_DATE => { x with klass := ["Date"] }
  | .MY_DATE_TIME => { x with klass := ["POSIXct", "POSIXt"] }
  | .MY_TIME => { x with klass := ["hms", "difftime"], units := some "secs" }
  | .MY_INT64 => { x with klass := ["integer64"] }
  | _ => x

def df_s3 (df : DataFrame) (types : List MariaFieldType) : DataFrame :=
  { df with columns := df.columns.zipWith s3_class types }

def df_create (types : List MariaFieldType) (names : List String) (n : Nat) : DataFrame :=
  { names := names
    row_names := -n
    columns := types.map fun type => allocVector (type_sexp type) n }

def days_from_civil (c : CArith.Arith) (y m d : ℤ) : Option ℤ := do
  let y ← c.int (y - if m ≤ 2 then 1 else 0)
  let shifted ← (if y ≥ 0 then some y else c.int (y - 399) : Option ℤ)
  let era ← c.int (shifted.tdiv 400)
  let back ← c.int (era * 400)
  let rest ← c.int (y - back)
  let yoe ← c.unsigned rest
  let yoe ← c.int yoe
  let mp ← c.int (m + if m > 2 then -3 else 9)
  let start ← c.int (153 * mp)
  let start ← c.int (start + 2)
  let doy ← c.int (start.tdiv 5 + d)
  let doy ← c.int (doy - 1)
  let doe ← c.int (yoe * 365)
  let doe ← c.int (doe + yoe.tdiv 4)
  let doe ← c.int (doe - yoe.tdiv 100)
  let doe ← c.int (doe + doy)
  let days ← c.int (era * 146097)
  let days ← c.int (days + doe)
  c.int (days - 719468)

-- std::vector::resize
def resize {α : Type} (x : List α) (n : Nat) (fill : α) : List α :=
  x.take n ++ List.replicate (n - x.length) fill

end RMariaDB
