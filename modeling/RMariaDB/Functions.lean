import RMariaDB.Quote
import RMariaDB.WriteTable.Connected

-- The functions of R that send something and clear its result themselves.

namespace RMariaDB.Functions

open Program World WriteTable

-- What they call besides a connection and its results: quoting of strings, and functions of R.
structure Library where
  dbQuoteString : List (Option Text) → Except Exc (List Text)
  -- the characters of a string that was fetched
  text : Bytes → Text
  make_names : List String → List String
  -- read.table(value, sep, header, skip, nrows) and normalizePath(value)
  read_table : Text → Text → Bool → ℤ → ℤ → Except String RFrame
  normalizePath : Text → Except String Text

structure Params where
  values : List RVector
  named : Bool := false

section Arguments

-- A condition of if (); what is no number is not used as one here.
def as_condition : SEXP → Except Exc Bool
  | .LGLSXP _ [v] => if v = NA_LOGICAL then missing_condition else .ok (v ≠ 0)
  | _ => .error (.stop "argument is not interpretable as logical")

-- The argument n of dbFetch(). The checked number is converted to an int.
def fetch_count (n : List Double) : Except Exc ℤ :=
  match n with
  | [.NA] | [.NaN] => .error (.stop "missing value where TRUE/FALSE needed")
  | [.Inf] => .ok (-1)
  | [.NegInf] => .error (.stop "n must be nonnegative or -1")
  | [.finite q] =>
      if q < -1 then .error (.stop "n must be nonnegative or -1")
      else if (CArith.trunc q : ℚ) ≠ q then .error (.stop "n must be a whole number")
      else if q ≤ 2147483647 then .ok (CArith.trunc q)
      else .error (.fault .arithmetic)
  | _ => .error (.stop "n must be scalar")

-- compatRowNames() and the checks of dbReadTable()
def check_row_names : Option SEXP → Except Exc Unit
  | none | some (.LGLSXP _ [_]) | some (.STRSXP _ [_]) => .ok ()
  | _ => .error (.stop "`row.names` must be a logical scalar or a string")

def check_check_names : SEXP → Except Exc Unit
  | .LGLSXP _ [_] => .ok ()
  | _ => .error (.stop "`check.names` must be a logical scalar")

end Arguments

variable (srv : Server) (client : Client) (lib : Library)

section Results

def dbBind (r : Nat) (params : Params) : EStateM Exc World Unit :=
  if params.named then
    throw (.stop "Cannot use named parameters for anonymous placeholders")
  else
    WriteTable.dbBind srv client r params.values

def dbSend (statement : Text) (params : Option Params) (is_statement immediate : Bool) :
    EStateM Exc World Nat := do
  let r ← result_of <$> call srv (.create (String.ofList statement) is_statement immediate)
  onError Exc.Ends (match params with
    | some params => dbBind srv client r params
    | none => pure ()) (dbClearResult srv r)
  pure r

def dbSendQuery (statement : Text) (params : Option Params) : EStateM Exc World Nat :=
  dbSend srv client statement params false false

def dbSendStatement (statement : Text) (params : Option Params) (immediate : Bool) :
    EStateM Exc World Nat :=
  dbSend srv client statement params true immediate

-- `fuel` bounds the rows; a run in which it is too small does not count.
def dbFetch (r : Nat) (n : List Double) (fuel : Nat) : EStateM Exc World DataFrame := do
  let n ← fetch_count n
  let ret ← frame_of <$> call srv (.fetch r n fuel)
  stop_if (client.fix (convert_bigint client.conn.bigint ret))

def dbHasCompleted (r : Nat) : EStateM Exc World Bool := bool_of <$> call srv (.has_completed r)

def dbGetRowsAffected (r : Nat) : EStateM Exc World ℤ := int_of <$> call srv (.rows_affected r)

end Results

section Statements

-- DBI's default methods
def dbGetQuery (statement : Text) (params : Option Params) (n : List Double) (fuel : Nat) :
    EStateM Exc World DataFrame := do
  let rs ← dbSendQuery srv client statement params
  onExit Exc.Ends (do
    let df ← dbFetch srv client rs n fuel
    (if !(← dbHasCompleted srv rs) then
        onConnection (warning "Pending rows")
      else
        pure ())
    pure df) (dbClearResult srv rs)

def dbExecute (statement : Text) (params : Option Params) (immediate : Bool) :
    EStateM Exc World ℤ := do
  let rs ← dbSendStatement srv client statement params immediate
  onExit Exc.Ends (dbGetRowsAffected srv rs) (dbClearResult srv rs)

-- n = -1
def all_rows : List Double := [.finite (-1)]

end Statements

section Reading

def read_table_sql (name : Text) : Text := "SELECT * FROM ".toList ++ ' ' :: Quote.quote name

def dbReadTable (name : Text) (row_names : Option SEXP) (check_names : SEXP) (fuel : Nat) :
    EStateM Exc World DataFrame := do
  check_row_names row_names
  check_check_names check_names
  let out ← dbGetQuery srv client (read_table_sql name) none all_rows fuel
  if ← as_condition check_names then
    pure { out with names := lib.make_names out.names }
  else
    pure out

def list_tables_sql : Text :=
  ("SELECT table_name FROM INFORMATION_SCHEMA.tables\n" ++
    "WHERE table_schema = DATABASE()").toList

def dbListTables (fuel : Nat) : EStateM Exc World Column := do
  let df ← dbGetQuery srv client list_tables_sql none all_rows fuel
  match df.columns with
  | x :: _ => pure x
  | [] => throw (.stop "subscript out of bounds")

end Reading

section Listing

-- What dbListObjects() is given, and what it finds
inductive Prefix where
  | id (x : Id)
  | sql (x : SQL)

def unquoted : Prefix → Except Exc (List Id)
  | .id x => .ok [x]
  | .sql x => Ids.ids <$> Quote.dbUnquoteIdentifier x

def has (x : Id) (label : String) : Bool := x.name.any fun c => c.1 = label

def is_prefix (x : Id) : Bool := has x "schema" && !has x "table"

-- x@name[["schema"]]
def schema_of (x : Id) : Option Text := ((x.name.find? fun c => c.1 = "schema").map Prod.snd).join

def list_all_sql : Text :=
  ("SELECT NULL AS " ++ "\x60schema\x60, table_name AS \x60table\x60 FROM INFORMATION_SCHEMA.tables\n" ++
    "WHERE table_schema = DATABASE()\n" ++ "UNION ALL\n" ++
    "SELECT DISTINCT table_schema AS \x60schema\x60, NULL AS \x60table\x60 FROM " ++
    "INFORMATION_SCHEMA.tables").toList

def list_schemas_sql (schema_strings : List Text) : Text :=
  ("SELECT table_schema AS \x60schema\x60, table_name AS \x60table\x60 FROM INFORMATION_SCHEMA.tables\n" ++
    "WHERE " ++ "(table_schema IN (").toList ++ (", ".toList).intercalate schema_strings ++ "))".toList

-- NULL, if there is nothing to ask for
def list_objects_sql : Option Prefix → Except Exc (Option Text)
  | none => .ok (some list_all_sql)
  | some x => do
      let unquoted ← unquoted x
      let schemas := (unquoted.filter is_prefix).map schema_of
      if schemas.length > 0 then do
        let schema_strings ← lib.dbQuoteString schemas
        pure (some (list_schemas_sql schema_strings))
      else
        pure none

-- as_table() leaves out what is NA or empty.
def as_table (schema table : Option Text) : Id :=
  ⟨[("schema", schema), ("table", table)].filter fun arg => arg.2 ≠ none ∧ arg.2 ≠ some []⟩

structure Object where
  table : Id
  is_prefix : Bool
deriving DecidableEq, Repr

def object (schema table : Option Text) : Object :=
  { table := as_table schema table, is_prefix := schema.isSome && table.isNone }

-- A column of strings, or one without any value
def texts (df : DataFrame) (name : String) : List (Option Text) :=
  match (df.names.zip df.columns).find? fun c => c.1 = name with
  | none => []
  | some (_, x) => x.cells.map fun
      | .str s => s.map lib.text
      | _ => none

def objects (df : DataFrame) : List Object :=
  (texts lib df "schema").zipWith object (texts lib df "table")

def dbListObjects (x : Option Prefix) (fuel : Nat) : EStateM Exc World (List Object) := do
  match ← list_objects_sql lib x with
  | none => pure []
  | some query => do
      let res ← dbGetQuery srv client query none all_rows fuel
      pure (objects lib res)

end Listing

section Files

-- What dbWriteTable() is told of a file
structure FileFormat where
  header : Bool := true
  nrows : ℤ := 50
  sep : Text := [',']
  eol : Text := ['\n']
  skip : ℤ := 0
  quote : Text := ['"']

-- paste0() of skip + as.integer(header)
def ignored (format : FileFormat) : Text :=
  (client.paste (.finite ((format.skip + if format.header then 1 else 0 : ℤ) : ℚ))).toList

def load_file_sql (format : FileFormat) (path name sep quote eol : Text) : Text :=
  "LOAD DATA LOCAL INFILE ".toList ++ path ++ "\n".toList ++
    "INTO TABLE ".toList ++ Quote.quote name ++ "\n".toList ++
    "FIELDS TERMINATED BY ".toList ++ sep ++ "\n".toList ++
    "OPTIONALLY ENCLOSED BY ".toList ++ quote ++ "\n".toList ++
    "LINES TERMINATED BY ".toList ++ eol ++ "\n".toList ++
    "IGNORE ".toList ++ ignored client format ++ " LINES".toList

-- dbQuoteString() of one string
def dbQuoteString_one (x : Text) : Except Exc Text := do
  match ← lib.dbQuoteString [some x] with
  | [y] => pure y
  | _ => throw (.stop "Invalid string")

-- The types of the first rows, unless types are given
def file_types (format : FileFormat) (value : Text) (field_types : Option (List (Text × Text))) :
    Except Exc (List (Text × Text)) :=
  match field_types with
  | some types => .ok types
  | none => do
      let d ← stop_if (lib.read_table value format.sep format.header format.skip format.nrows)
      let types ← d.columns.mapM dbDataType
      pure (d.names.zip types)

def create_file_table (name value : Text) (flags : Flags) (format : FileFormat) :
    EStateM Exc World Unit := do
  let types ← file_types lib format value flags.field_types
  let _ ← dbExecute srv client ((Statement.create name types flags.temporary).sql client.dbi) none false
  pure ()

def load_file (name value : Text) (format : FileFormat) : EStateM Exc World Unit := do
  let path ← stop_if (lib.normalizePath value)
  let path ← dbQuoteString_one lib path
  let sep ← dbQuoteString_one lib format.sep
  let quote ← dbQuoteString_one lib format.quote
  let eol ← dbQuoteString_one lib format.eol
  let _ ← dbExecute srv client (load_file_sql client format path name sep quote eol) none false
  pure ()

-- The method for a file, in a transaction of the caller or none. A table that is overwritten
-- is dropped only if it was found.
def dbWriteTable_file (name value : Text) (flags : Flags) (format : FileFormat) :
    EStateM Exc World Unit :=
  if flags.overwrite && flags.append then
    throw (.stop "overwrite and append cannot both be TRUE")
  else do
    let found ← dbExistsTable (connected srv client) name
    if found && !flags.overwrite && !flags.append then
      throw (.stop ("Table " ++ String.ofList name ++ " exists in database, and both overwrite and" ++
        " append are FALSE"))
    else do
      (if found && flags.overwrite then
          dbRemoveTable (connected srv client) name false true
        else
          pure ())
      if !found && flags.append then
        throw (.stop ("Table " ++ String.ofList name ++ " does not exists when appending"))
      else do
        (if !found || flags.overwrite then
            create_file_table srv client lib name value flags format
          else
            pure ())
        load_file srv client lib name value format

end Files

section Calls

inductive Function where
  | dbGetQuery (statement : Text) (params : Option Params) (n : List Double) (fuel : Nat)
  | dbExecute (statement : Text) (params : Option Params) (immediate : Bool)
  | dbExistsTable (name : Text)
  | dbRemoveTable (name : Text) (temporary fail_if_missing : Bool)
  | dbCreateTable (name : Text) (fields : List (Text × Text)) (temporary : Bool)
  | dbAppendTable (name : Text) (value : RFrame) (safe : Bool)
  | dbWriteTable (name : Text) (value : RFrame) (flags : Flags)
  | dbWriteTable_file (name value : Text) (flags : Flags) (format : FileFormat)
  | dbReadTable (name : Text) (row_names : Option SEXP) (check_names : SEXP) (fuel : Nat)
  | dbListTables (fuel : Nat)
  | dbListObjects (x : Option Prefix) (fuel : Nat)
  | dbBegin
  | dbCommit
  | dbRollback

def done {α : Type} (m : EStateM Exc World α) : EStateM Exc World Unit := do
  let _ ← m
  pure ()

def Function.run : Function → EStateM Exc World Unit
  | .dbGetQuery statement params n fuel =>
      done (Functions.dbGetQuery srv client statement params n fuel)
  | .dbExecute statement params immediate =>
      done (Functions.dbExecute srv client statement params immediate)
  | .dbExistsTable name => done (WriteTable.dbExistsTable (connected srv client) name)
  | .dbRemoveTable name temporary fail_if_missing =>
      WriteTable.dbRemoveTable (connected srv client) name temporary fail_if_missing
  | .dbCreateTable name fields temporary =>
      WriteTable.dbCreateTable (connected srv client) name fields temporary
  | .dbAppendTable name value safe =>
      done (WriteTable.dbAppendTable (connected srv client) client.lib client.conn name value safe)
  | .dbWriteTable name value flags =>
      WriteTable.dbWriteTable (connected srv client) client.lib client.conn name value flags
  | .dbWriteTable_file name value flags format =>
      Functions.dbWriteTable_file srv client lib name value flags format
  | .dbReadTable name row_names check_names fuel =>
      done (Functions.dbReadTable srv client lib name row_names check_names fuel)
  | .dbListTables fuel => done (Functions.dbListTables srv client fuel)
  | .dbListObjects x fuel => done (Functions.dbListObjects srv client lib x fuel)
  | .dbBegin => (connected srv client).dbBegin
  | .dbCommit => (connected srv client).dbCommit
  | .dbRollback => (connected srv client).dbRollback

-- One call. What R's own functions answer may differ from call to call.
structure Call where
  client : Client
  lib : Library
  function : Function

def Call.run (c : Call) : EStateM Exc World Unit := c.function.run srv c.client c.lib

def step (c : Call) (w : World) : Option World := after (c.run srv) w

end Calls

end RMariaDB.Functions
