import RMariaDB.MariaUtils
import RMariaDB.Table

-- dbWriteTable() and the functions it is made of, over anything that answers their SQL.

namespace RMariaDB

open Program Decimal

inductive Bigint where
  | integer64
  | integer
  | numeric
  | character
deriving DecidableEq, Repr

-- The slots that these functions read.
structure MariaDBConnection where
  load_data_local_infile : Bool := false
  bigint : Bigint := .integer64
  timezone : String := "UTC"
deriving DecidableEq, Repr

section Numbers

-- as.integer(), as.numeric() and as.character() of an integer64
def as_bigint : Bigint → ℤ → Cell
  | .integer64, v => .int64 v
  | .integer, v => .int (if -2147483647 ≤ v ∧ v ≤ 2147483647 then v else NA_INTEGER)
  | .numeric, v => .real (if v = NA_INTEGER64 then .NA else .finite (CArith.machine.double v))
  | .character, v => .str (if v = NA_INTEGER64 then none else some (signed v))

def convert_cell (bigint : Bigint) : Cell → Cell
  | .int64 v => as_bigint bigint v
  | cell => cell

def bigint_type : Bigint → SEXPTYPE
  | .integer64 | .numeric => .REALSXP
  | .integer => .INTSXP
  | .character => .STRSXP

def convert_bigint (bigint : Bigint) (df : DataFrame) : DataFrame :=
  { df with columns := df.columns.map fun x =>
      if bigint ≠ .integer64 ∧ "integer64" ∈ x.klass then
        { type := bigint_type bigint, cells := x.cells.map (convert_cell bigint) }
      else x }

-- dbGetQuery(conn, sql_count)[[1]]
def only_cell (df : DataFrame) : Except Exc Cell :=
  match df.columns with
  | [] => .error (.stop "subscript out of bounds")
  | x :: _ =>
      match x.cells with
      | [cell] => .ok cell
      | [] => .error (.stop "argument is of length zero")
      | _ => .error (.stop "the condition has length > 1")

def as_number : Cell → Except Exc Double
  | .lgl v | .int v => .ok (Coerce.double_of_int v)
  | .int64 v => .ok (if v = NA_INTEGER64 then .NA else .finite (CArith.machine.double v))
  | .real x => .ok x
  | _ => .error (.stop "non-numeric argument to binary operator")

-- The integer types are subtracted as such, and what does not fit is missing. The doubles that
-- stand for row counts are near enough to each other for an exact result.
def minus : Cell → Cell → Except Exc Double
  | .int a, .int b =>
      .ok (if a = NA_INTEGER ∨ b = NA_INTEGER ∨ 2147483647 < (a - b).natAbs then .NA
        else .finite (a - b : ℤ))
  | .int64 a, .int64 b =>
      .ok (if a = NA_INTEGER64 ∨ b = NA_INTEGER64 ∨ 9223372036854775807 < (a - b).natAbs then .NA
        else .finite (CArith.machine.double (a - b)))
  | a, b => do
      match ← as_number a, ← as_number b with
      | .finite x, .finite y => pure (.finite (x - y))
      | .NA, _ | _, .NA => pure .NA
      | .NaN, _ | _, .NaN | .Inf, .Inf | .NegInf, .NegInf => pure .NaN
      | .Inf, _ | _, .NegInf => pure .Inf
      | .NegInf, _ | _, .Inf => pure .NegInf

-- if (x < n) and if (x == 0)
def missing_condition : Except Exc Bool := .error (.stop "missing value where TRUE/FALSE needed")

def less (x : Double) (n : Nat) : Except Exc Bool :=
  match x with
  | .finite q => .ok (q < n)
  | .Inf => .ok false
  | .NegInf => .ok true
  | .NA | .NaN => missing_condition

def is_zero : Double → Except Exc Bool
  | .finite q => .ok (q = 0)
  | .Inf | .NegInf => .ok false
  | .NA | .NaN => missing_condition

end Numbers

section Types

-- nchar(): the bytes that do not continue a character
def nchar (s : Bytes) : Nat := (s.filter fun c => !(128 ≤ c ∧ c < 192)).length

def get_char_type (x : List (Option Bytes)) : Text :=
  let width := (x.filterMap id).foldl (fun width s => max width (nchar s)) 1
  if width > 255 then "TEXT".toList else "VARCHAR(".toList ++ (toString width).toList ++ ")".toList

def dbDataType (obj : RVector) : Except Exc Text :=
  if obj.is_factor then .ok (get_char_type obj.levels)
  else if obj.inherits "POSIXct" then .ok "DATETIME(6)".toList
  else if obj.inherits "Date" then .ok "DATE".toList
  else if obj.inherits "difftime" then .ok "TIME(6)".toList
  else if obj.inherits "integer64" then .ok "BIGINT".toList
  else match obj.sexp with
    | .LGLSXP _ _ => .ok "TINYINT".toList
    | .INTSXP _ _ => .ok "INTEGER".toList
    | .REALSXP _ _ => .ok "DOUBLE".toList
    | .STRSXP _ x => .ok (get_char_type x)
    | .VECSXP _ _ | .other "list" _ _ => .ok "BLOB".toList
    | .other _ _ _ => .error (.stop "Unsupported type")

-- The types that are asked for, by name, and the defaults for the other columns.
def combined_field_types (field_types : Option (List (Text × Text))) (value : RFrame) :
    Except Exc (List Text) :=
  match field_types with
  | none => value.columns.mapM dbDataType
  | some types =>
      if types.all fun t => t.1 ∈ value.names then
        value.columns.zipIdx.mapM fun (x, k) =>
          match types.find? fun t => value.names.idxOf t.1 = k with
          | some t => .ok t.2
          | none => dbDataType x
      else .error (.stop "!any(is.na(field_types_idx)) is not TRUE")

end Types

-- The SQL that is sent. The last two texts are templates of DBI.
inductive Statement where
  | select_null (name : Text)
  | count (name : Text)
  | drop (name : Text) (temporary fail_if_missing : Bool)
  | load_data (quoted_path name : Text) (value : RFrame)
  | create (name : Text) (fields : List (Text × Text)) (temporary : Bool)
  | insert (name : Text) (value : RFrame)

structure DBI where
  sqlCreateTable : Text → List (Text × Text) → Bool → Text
  sqlAppendTableTemplate : Text → List Text → Text

def Statement.sql (dbi : DBI) : Statement → Text
  | select_null name => "SELECT NULL FROM ".toList ++ Quote.quote name ++ " WHERE FALSE".toList
  | count name => "SELECT COUNT(*) FROM ".toList ++ Quote.quote name
  | drop name temporary fail_if_missing =>
      "DROP ".toList ++ (if temporary then "TEMPORARY ".toList else []) ++ "TABLE ".toList ++
        (if fail_if_missing then [] else "IF EXISTS ".toList) ++ Quote.quote name
  | load_data quoted_path name value =>
      Table.sql quoted_path (Quote.quote name) (Table.load_data value)
  | create name fields temporary =>
      dbi.sqlCreateTable (Quote.quote name) (fields.map fun (x, type) => (Quote.quote x, type)) temporary
  | insert name value => dbi.sqlAppendTableTemplate (Quote.quote name) (value.names.map Quote.quote)

-- What the functions call on a connection, with the name of the temporary file and the way in
-- which paste0() writes a number.
structure Driver (σ : Type) where
  quoted_tempfile : Text
  paste : Double → String
  dbIsValid : EStateM Exc σ Bool
  is_transacting : EStateM Exc σ Bool
  dbBegin : EStateM Exc σ Unit
  dbCommit : EStateM Exc σ Unit
  dbRollback : EStateM Exc σ Unit
  dbExecute : Statement → EStateM Exc σ ℤ
  dbGetQuery : Statement → EStateM Exc σ DataFrame
  write_file : Bytes → EStateM Exc σ Unit
  warning : String → EStateM Exc σ Unit

namespace WriteTable

variable {σ : Type} (d : Driver σ) (lib : RLibrary) (conn : MariaDBConnection)

def too_few (value : RFrame) (out : Double) : String :=
  "Error writing table: sent " ++ toString value.nrow ++ " rows, added " ++ d.paste out ++ " rows."

section Append

-- The rows that a statement adds, as dbGetRowsAffected() has them.
def dbExecute (statement : Statement) : EStateM Exc σ Double :=
  Coerce.double_of_int <$> d.dbExecute statement

-- Some servers don't return a record count here, need to count manually
def load_counted (name : Text) (value : RFrame) : EStateM Exc σ Double := do
  let count_before ← d.dbGetQuery (.count name)
  let count_before ← only_cell count_before
  let out ← dbExecute d (.load_data d.quoted_tempfile name value)
  if ← is_zero out then do
    let count_after ← d.dbGetQuery (.count name)
    let count_after ← only_cell count_after
    minus count_after count_before
  else
    pure out

def load_committed (name : Text) (value : RFrame) : EStateM Exc σ Double := do
  let out ← load_counted d name value
  if ← less out value.nrow then
    throw (.stop (too_few d value out))
  else do
    d.dbCommit
    pure out

def db_append_table (name : Text) (value : RFrame) (warn_factor safe transact : Bool) :
    EStateM Exc σ Double := do
  let content ← Table.data_file lib conn.timezone value
  (if warn_factor && value.columns.any RVector.is_factor then
      d.warning "Factors converted to character"
    else
      pure ())
  d.write_file content
  if safe then
    if transact then do
      d.dbBegin
      onError Exc.Ends (load_committed d name value) d.dbRollback
    else
      load_counted d name value
  else
    dbExecute d (.load_data d.quoted_tempfile name value)

-- DBI's default is one parameterised INSERT.
def dbAppendTable (name : Text) (value : RFrame) (safe : Bool) : EStateM Exc σ Double :=
  if conn.load_data_local_infile then
    db_append_table d lib conn name value true safe true
  else
    dbExecute d (.insert name value)

end Append

section Tables

-- tryCatch(error = ) does not catch an interrupt.
def dbExistsTable (name : Text) : EStateM Exc σ Bool := do
  if ← d.dbIsValid then
    tryCatch (do
      let _ ← d.dbGetQuery (.select_null name)
      pure true) fun e => if e.Ends ∨ e = .interrupt then throw e else pure false
  else
    throw (.stop "Invalid connection")

def dbRemoveTable (name : Text) (temporary fail_if_missing : Bool) : EStateM Exc σ Unit := do
  let _ ← d.dbExecute (.drop name temporary fail_if_missing)
  pure ()

def dbCreateTable (name : Text) (fields : List (Text × Text)) (temporary : Bool) :
    EStateM Exc σ Unit := do
  let _ ← d.dbExecute (.create name fields temporary)
  pure ()

end Tables

section Write

structure Flags where
  overwrite : Bool := false
  append : Bool := false
  temporary : Bool := false
  field_types : Option (List (Text × Text)) := none
deriving DecidableEq, Repr

def check_flags (flags : Flags) : Except Exc Unit :=
  if flags.overwrite && flags.append then
    .error (.stop "overwrite and append cannot both be TRUE")
  else if flags.field_types.any fun types => !(types.map Prod.fst).Nodup then
    .error (.stop "`field.types` must be a named character vector with unique names, or NULL")
  else if flags.append && flags.field_types.isSome then
    .error (.stop "Cannot specify `field.types` with `append = TRUE`")
  else .ok ()

-- Whether the table is there; a temporary table is not looked for.
def find_table (name : Text) (flags : Flags) : EStateM Exc σ Bool :=
  if !flags.temporary then do
    let found ← dbExistsTable d name
    if found && !flags.overwrite && !flags.append then
      throw (.stop ("Table " ++ String.ofList name ++ " exists in database, and both overwrite and" ++
        " append are FALSE"))
    else
      pure found
  else
    pure false

theorem length_factor_to_string (x : RVector) : (Coerce.factor_to_string x).length = x.length := by
  unfold Coerce.factor_to_string
  split
  · rename_i klass codes hx
    split
    · simp [RVector.length, hx, Coerce.labels, SEXP.xlength]
    · rfl
  · rfl

-- value <- factor_to_string(value)
def strings_frame (value : RFrame) : RFrame where
  names := value.names
  columns := value.columns.map Coerce.factor_to_string
  nrow := value.nrow
  named := by rw [List.length_map, value.named]
  rows := by
    intro y hy
    obtain ⟨x, hx, rfl⟩ := List.mem_map.mp hy
    rw [length_factor_to_string, value.rows x hx]

-- Within a transaction of the caller, missing rows only give a warning.
def insert_rows (name : Text) (value : RFrame) (need_transaction : Bool) : EStateM Exc σ Unit := do
  if value.nrow > 0 then do
    let out ← (if conn.load_data_local_infile then
        db_append_table d lib conn name value false true false
      else
        dbAppendTable d lib conn name value true)
    if ← less out value.nrow then
      if need_transaction then
        throw (.stop (too_few d value out))
      else
        d.warning (too_few d value out)
    else
      pure ()
  else
    pure ()

def write_rows (name : Text) (value : RFrame) (flags : Flags) (need_transaction : Bool) :
    EStateM Exc σ Unit := do
  let found ← find_table d name flags
  (if flags.overwrite then
      dbRemoveTable d name flags.temporary false
    else
      pure ())
  let value := strings_frame value
  (if !found || flags.overwrite then do
      let types ← combined_field_types flags.field_types value
      dbCreateTable d name (value.names.zip types) flags.temporary
    else
      pure ())
  insert_rows d lib conn name value need_transaction

-- The row names, if they are asked for, are a column of `value` already.
def dbWriteTable (name : Text) (value : RFrame) (flags : Flags) : EStateM Exc σ Unit := do
  check_flags flags
  if ← d.is_transacting then
    write_rows d lib conn name value flags false
  else do
    d.dbBegin
    onError Exc.Ends (write_rows d lib conn name value flags true) d.dbRollback
    d.dbCommit

end Write

end WriteTable

end RMariaDB
