import RMariaDB.Coerce
import RMariaDB.Lib.CArith
import RMariaDB.Lib.Calendar
import RMariaDB.Lib.Decimal
import RMariaDB.Lib.Delimited
import RMariaDB.Quote

-- The fast path of dbAppendTable(): a data frame as a file for LOAD DATA LOCAL INFILE.

namespace RMariaDB

-- A data frame: all columns have a name and the same number of rows.
structure RFrame where
  names : List Text
  columns : List RVector
  nrow : Nat
  named : names.length = columns.length
  rows : ∀ x ∈ columns, x.length = nrow

namespace Table

open RVector Decimal

def ascii (s : String) : Bytes := s.toList.map fun c => UInt8.ofNat c.toNat

def TAB : UInt8 := 9

def LF : UInt8 := 10

def CR : UInt8 := 13

def backslash : UInt8 := 92

section Texts

variable (lib : RLibrary)

def date_text (day : ℤ) : Bytes :=
  let date := Calendar.dateOf (day + 719468)
  (if date.year < 0 then ascii "-" else []) ++ padded lib.year_width date.year.natAbs ++ ascii "-" ++
    padded 2 date.month.toNat ++ ascii "-" ++ padded 2 date.day.toNat

def clock_text (seconds : Nat) : Bytes :=
  padded 2 (seconds / 3600) ++ ascii ":" ++ padded 2 (seconds / 60 % 60) ++ ascii ":" ++
    padded 2 (seconds % 60)

-- as.character() of an hms, given its microseconds
def hms_text (t : ℤ) : Bytes :=
  (if t < 0 then ascii "-" else []) ++ clock_text (t.natAbs / 1000000) ++
    if t.natAbs % 1000000 = 0 then [] else ascii "." ++ padded 6 (t.natAbs % 1000000)

def day_of (v : ℚ) : ℤ := ⌊v / 86400⌋

def time_of_day (v : ℚ) : ℚ := v - day_of v * 86400

-- format(x, format = "%Y-%m-%dT%H:%M:%OS") with digits.secs = 6, of a clock time
def datetime_text (v : ℚ) : Bytes :=
  date_text lib (day_of v) ++ ascii "T" ++ clock_text ⌊time_of_day v⌋.toNat ++ ascii "." ++
    padded 6 (lib.subseconds (time_of_day v))

-- as.character() of a POSIXct in whole seconds, which leaves out midnight
def POSIXct_text (v : ℤ) : Bytes :=
  date_text lib (v / 86400) ++
    if v % 86400 = 0 then [] else ascii " " ++ clock_text (v % 86400).toNat

def hex_digit (n : Nat) : UInt8 := if n < 10 then UInt8.ofNat (48 + n) else UInt8.ofNat (87 + n)

-- paste(format(x), collapse = "") of a raw vector
def hex (b : Bytes) : Bytes := b.flatMap fun c => [hex_digit (c.toNat / 16), hex_digit (c.toNat % 16)]

end Texts

section Quoting

variable (lib : RLibrary)

def csv_quote_char (x : Bytes) : Bytes :=
  let x := Substitute.replaceAll [backslash] [backslash, backslash] x
  let x := Substitute.replaceAll [TAB] (ascii "\\t") x
  let x := Substitute.replaceAll [CR] (ascii "\\r") x
  Substitute.replaceAll [LF] (ascii "\\n") x

-- as.character() of an element of integer type, by the class of the vector
def as_character_integer (x : RVector) (v : ℤ) : Bytes :=
  if x.inherits "Date" then date_text lib v
  else if x.inherits "POSIXt" then POSIXct_text lib (v + lib.offset x.tzone v)
  else if x.inherits "hms" then hms_text (lib.ticks (v * 1000000))
  else signed v

def quote_integer (x : RVector) (v : ℤ) : Option Bytes :=
  if v = NA_INTEGER then none
  -- Failure to load BIT(1) columns with a verbatim 0 (???)
  else if v = 0 then some []
  else some (as_character_integer lib x v)

def quote_integer64 (v : ℤ) : Option Bytes :=
  if v = NA_INTEGER64 then none
  else if v = 0 then some []
  else some (signed v)

def is_integerish (q : ℚ) : Bool := -2147483647 ≤ q ∧ q ≤ 2147483647 ∧ q = (CArith.trunc q : ℚ)

def all_integerish (x : List Double) : Bool :=
  x.all fun
    | .finite q => is_integerish q
    | .NA | .NaN => true
    | .Inf | .NegInf => false

def quote_numeric (integerish : Bool) : Double → Option Bytes
  | .finite q => some (if integerish then signed (CArith.trunc q) else lib.formatE q)
  | _ => none

def quote_logical (v : ℤ) : Option Bytes := if v = NA_LOGICAL then none else some (signed v)

-- A text of the finite elements; the others are missing.
def quote_double (f : ℚ → Bytes) : Double → Option Bytes
  | .finite q => some (f q)
  | _ => none

def quote_element : VecElt → Option Bytes
  | .RAWSXP b => some (hex b)
  | .NILSXP => none
  | .other type => some (lib.format type)

def doubles : SEXP → List Double
  | .REALSXP _ x => x.map RealCell.real
  | _ => []

-- The instants of a POSIXct or POSIXlt.
def instants_of (x : RVector) : List Double :=
  if x.inherits "POSIXlt" then x.instants else doubles x.sexp

-- An AsIs class is dropped before the tests.
def without_AsIs (x : RVector) : RVector :=
  let drop (klass : List String) := klass.filter fun c => c ≠ "AsIs"
  { x with
    sexp := match x.sexp with
      | .LGLSXP k v => .LGLSXP (drop k) v
      | .INTSXP k v => .INTSXP (drop k) v
      | .REALSXP k v => .REALSXP (drop k) v
      | .STRSXP k v => .STRSXP (drop k) v
      | .VECSXP k v => .VECSXP (drop k) v
      | .other t k n => .other t (drop k) n }

def strings (x : List (Option Bytes)) : RVector := { sexp := .STRSXP [] x }

-- The storage type is asked for before the class.
def csv_quote_one (timezone : String) (x : RVector) : Except Exc RVector :=
  let x := without_AsIs x
  if x.is_factor then .ok { x with levels := x.levels.map fun s => s.map csv_quote_char }
  else match x.sexp with
    | .STRSXP _ v => .ok (strings (v.map fun s => s.map csv_quote_char))
    | .INTSXP _ v => .ok (strings (v.map (quote_integer lib x)))
    | sexp =>
        if x.is_integer64 then
          match sexp with
          | .REALSXP _ v => .ok (strings (v.map fun cell => quote_integer64 cell.int64))
          | _ => .ok x
        else if x.is_numeric then
          .ok (strings ((doubles sexp).map (quote_numeric lib (all_integerish (doubles sexp)))))
        else match sexp with
          | .LGLSXP _ v => .ok (strings (v.map quote_logical))
          | sexp =>
              if x.inherits "Date" then
                .ok (strings ((doubles sexp).map (quote_double fun q => date_text lib ⌊q⌋)))
              else if x.inherits "difftime" then
                .ok (strings ((doubles sexp).map fun d =>
                  quote_double (fun q => hms_text (lib.ticks (q * 1000000))) (lib.seconds x.units d)))
              else if x.inherits "POSIXt" then
                -- the parts of a POSIXlt are printed as they are
                let zone := if x.inherits "POSIXlt" then x.tzone else timezone
                .ok (strings ((instants_of x).map (quote_double fun q =>
                  datetime_text lib (q + lib.offset zone q))))
              else if x.inherits "list" then
                match sexp with
                | .VECSXP _ v => .ok (strings (v.map (quote_element lib)))
                | _ => .ok x
              else .error (.stop ("NYI: " ++ "/".intercalate x.sexp.klass))

def csv_quote (timezone : String) (columns : List RVector) : Except Exc (List RVector) := do
  let columns ← columns.mapM (csv_quote_one lib timezone)
  pure (columns.map Coerce.factor_to_string)

end Quoting

section Statement

inductive Target where
  | column (name : Text)
  | variable (k : Nat)
deriving DecidableEq, Repr

-- What the LOAD DATA statement says: the columns or variables that the fields of a line
-- go to, and the columns that are set from variables.
structure LoadData where
  targets : List Target
  set : List (Text × Nat)
deriving DecidableEq, Repr

-- The positions in vlapply(value, is.list), from 1
def target (name : Text) (x : RVector) (k : Nat) : Target :=
  if x.is_list then .variable k else .column name

def load_data (value : RFrame) : LoadData where
  targets := (value.names.zip value.columns).zipIdx 1 |>.map fun ((name, x), k) => target name x k
  set := (value.names.zip value.columns).zipIdx 1 |>.filterMap fun ((name, x), k) =>
    if x.is_list then some (name, k) else none

def Target.text : Target → Text
  | column name => Quote.quote name
  | .variable k => "@X".toList ++ (toString k).toList

def set_text (set : List (Text × Nat)) : Text :=
  if set = [] then []
  else "SET ".toList ++ (", ".toList).intercalate (set.map fun (name, k) =>
    Quote.quote name ++ " = UNHEX(@X".toList ++ (toString k).toList ++ ")".toList)

def sql (path quoted_name : Text) (statement : LoadData) : Text :=
  "LOAD DATA LOCAL INFILE ".toList ++ path ++ "\n".toList ++ "IGNORE\n".toList ++ "INTO TABLE ".toList ++
    quoted_name ++ "\n".toList ++ "CHARACTER SET utf8mb4 \n".toList ++ "(".toList ++
    (", ".toList).intercalate (statement.targets.map Target.text) ++ ")".toList ++
    set_text statement.set

-- readr::write_delim(quote = "none", delim = "\t", na = "\\N")
def field (x : Option Bytes) : Bytes := x.getD (ascii "\\N")

def cells (x : RVector) : List (Option Bytes) :=
  match x.sexp with
  | .STRSXP _ v => v
  | _ => []

def write_delim (nrow : Nat) (columns : List RVector) : Bytes :=
  Delimited.write TAB LF ((List.range nrow).map fun i =>
    columns.map fun x => field (cells x)[i]?.join)

-- What is in the file that the statement names.
def data_file (lib : RLibrary) (timezone : String) (value : RFrame) : Except Exc Bytes := do
  let columns ← csv_quote lib timezone value.columns
  pure (write_delim value.nrow columns)

end Statement

end Table

end RMariaDB
