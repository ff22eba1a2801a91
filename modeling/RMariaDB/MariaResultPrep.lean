import RMariaDB.MariaBinding
import RMariaDB.MariaRow

namespace RMariaDB

open Program

structure MariaResultPrep where
  pStatement_ : Option Nat := none
  pSpec_ : Option MYSQL_RES := none
  rowsAffected_ : Nat := 0
  rowsFetched_ : Nat := 0
  nCols_ : Nat := 0
  nParams_ : Nat := 0
  bound_ : Bool := false
  complete_ : Bool := false
  is_statement_ : Bool := false
  types_ : List MariaFieldType := []
  names_ : List String := []
  bindingInput_ : MariaBinding := {}
  bindingOutput_ : MariaRow := {}

namespace MariaResultPrep

variable (srv : Server)

def input {α : Type} (m : EStateM Exc (Obj MariaBinding) α) : EStateM Exc (Obj MariaResultPrep) α :=
  onMember MariaResultPrep.bindingInput_ (fun b s => { s with bindingInput_ := b }) m

def output {α : Type} (m : EStateM Exc (Obj MariaRow) α) : EStateM Exc (Obj MariaResultPrep) α :=
  onMember MariaResultPrep.bindingOutput_ (fun r s => { s with bindingOutput_ := r }) m

def throw_error {α : Type} : EStateM Exc (Obj MariaResultPrep) α := do
  let s ← get
  let error ← lib (mysql_stmt_error s.self.pStatement_)
  let errno ← lib (mysql_stmt_errno s.self.pStatement_)
  throw (.stop (error ++ " [" ++ toString errno ++ "]"))

def has_result (r : MariaResultPrep) : Bool := r.pSpec_.isSome

def close : EStateM Exc (Obj MariaResultPrep) Unit := do
  let s ← get
  match s.self.pSpec_ with
  | some spec => do
      lib (mysql_free_result spec)
      modifySelf fun r => { r with pSpec_ := none }
  | none => pure ()
  match s.self.pStatement_ with
  | some k => do
      lib (mysql_stmt_close (some k))
      modifySelf fun r => { r with pStatement_ := none }
  | none => pure ()
  onShared (DbConnection.autocommit srv)

def execute : EStateM Exc (Obj MariaResultPrep) Unit := do
  modifySelf fun r => { r with complete_ := false }
  let s ← get
  let status ← lib (mysql_stmt_execute srv s.self.pStatement_)
  if status ≠ 0 then
    throw_error
  else do
    if !s.self.has_result && !s.self.is_statement_ then do
      -- try again, in case the fields were not known before
      let spec ← lib (mysql_stmt_result_metadata s.self.pStatement_)
      modifySelf fun r => { r with pSpec_ := spec }
    else
      pure ()
    let s ← get
    if !s.self.has_result then do
      let affected ← lib (mysql_stmt_affected_rows s.self.pStatement_)
      modifySelf fun r => { r with rowsAffected_ := r.rowsAffected_ + affected }
    else
      pure ()

def field_type (field : MYSQL_FIELD) : MariaFieldType :=
  variable_type_from_field_type field.type (field.charsetnr = 63) (field.length = 1)

def cache_metadata (spec : MYSQL_RES) : EStateM Exc (Obj MariaResultPrep) Unit := do
  let fields ← lib (mysql_fetch_fields spec)
  modifySelf fun r => { r with
    nCols_ := fields.length
    names_ := r.names_ ++ fields.map MYSQL_FIELD.name
    types_ := r.types_ ++ fields.map field_type }
  onShared (modify fun s => { s with
    warnings := s.warnings ++ fields.filterMap fun field => unrecognized_field_type field.type })

def send_query (sql : String) : EStateM Exc (Obj MariaResultPrep) Unit := do
  let s ← get
  let status ← lib (mysql_stmt_prepare srv s.self.pStatement_ sql)
  if status ≠ 0 then do
    let errno ← lib (mysql_stmt_errno s.self.pStatement_)
    if errno = ER_UNSUPPORTED_PS then
      throw .unsupportedPS
    else
      throw_error
  else do
    let nParams ← lib (mysql_stmt_param_count s.self.pStatement_)
    modifySelf fun r => { r with nParams_ := nParams }
    let spec ← lib (mysql_stmt_result_metadata s.self.pStatement_)
    modifySelf fun r => { r with pSpec_ := spec }
    if nParams = 0 then do
      execute srv
      modifySelf fun r => { r with bound_ := true }
    else
      pure ()
    let s ← get
    match s.self.pSpec_ with
    | some spec => do
        cache_metadata spec
        let s ← get
        output (MariaRow.setup srv s.self.pStatement_ s.self.types_)
    | none => pure ()

-- while (bindingInput_.bind_next_row()) execute()
def execute_rows : Nat → EStateM Exc (Obj MariaResultPrep) Unit
  | 0 => throw .outOfFuel
  | fuel + 1 => do
      if ← input MariaBinding.bind_next_row then do
        execute srv
        execute_rows fuel
      else
        pure ()

-- The parameter rows still to be bound bound the loops over them.
def rows_left (b : MariaBinding) : Nat := b.n_rows - b.i

def bind (params : List SEXP) : EStateM Exc (Obj MariaResultPrep) Unit := do
  modifySelf fun r => { r with rowsAffected_ := 0 }
  let s ← get
  input (MariaBinding.setup s.self.pStatement_)
  input (MariaBinding.init_binding params)
  let s ← get
  if s.self.has_result then
    modifySelf fun r => { r with complete_ := true }
  else
    execute_rows srv (rows_left s.self.bindingInput_ + 1)
  modifySelf fun r => { r with bound_ := true }

def column_info (r : MariaResultPrep) : Except Exc (List (String × String)) :=
  (List.range r.nCols_).mapM fun i => do
    let name ← index r.names_ i
    let type ← index r.types_ i
    pure (name, type_name type)

def get_column_info : EStateM Exc (Obj MariaResultPrep) (List (String × String)) := do
  let s ← get
  column_info s.self

def fetch_row : EStateM Exc (Obj MariaResultPrep) Bool := do
  let s ← get
  if s.self.complete_ then
    pure false
  else do
    let result ← output (MariaRow.stmt_fetch srv s.self.pStatement_)
    match result with
    -- truncation is expected whenever there is a string or blob
    | .MYSQL_DATA_TRUNCATED | .ok => pure true
    | .error => throw_error
    | .MYSQL_NO_DATA => do
        modifySelf fun r => { r with complete_ := true }
        pure false

-- while (!fetch_row()) { if (!bind_next_row()) return false; execute(); }
def step_loop : Nat → EStateM Exc (Obj MariaResultPrep) Bool
  | 0 => throw .outOfFuel
  | fuel + 1 => do
      if ← fetch_row srv then
        pure true
      else if ← input MariaBinding.bind_next_row then do
        execute srv
        step_loop fuel
      else
        pure false

def step : EStateM Exc (Obj MariaResultPrep) Bool := do
  let s ← get
  if ← step_loop srv (rows_left s.self.bindingInput_ + 1) then do
    modifySelf fun r => { r with rowsFetched_ := r.rowsFetched_ + 1 }
    pure true
  else
    pure false

-- out[j] is replaced by what set_list_value() makes of it.
def set_list_values (i : Nat) : List Nat → DataFrame → EStateM Exc (Obj MariaResultPrep) DataFrame
  | [], out => pure out
  | j :: js, out => do
      let x ← index out.columns j
      let x ← output (MariaRow.set_list_value srv x i j)
      set_list_values i js { out with columns := out.columns.set j x }

def INT_MAX : Nat := 2147483647

def check_user_interrupt : EStateM Exc MYSQL Unit := do
  let t ← count_call
  if srv.interrupt t then throw .interrupt else pure ()

-- The loop of fetch(); the result is the row count, the capacity and the frame.
-- It has no bound of its own: rows are fetched as long as the server has some.
def fetch_loop (n_max : ℤ) : Nat → Nat → Nat → DataFrame →
    EStateM Exc (Obj MariaResultPrep) (Nat × Nat × DataFrame)
  | 0, _, _, _ => throw .outOfFuel
  | fuel + 1, i, n, out => do
      if i ≥ n ∧ n_max > 0 then
        pure (i, n, out)
      else if ← step srv then do
        if i ≥ n ∧ n * 2 > INT_MAX then
          throw (.fault .arithmetic)
        else do
          let grown := if i ≥ n then (n * 2, df_resize out (n * 2)) else (n, out)
          let s ← get
          let out ← set_list_values srv i (List.range s.self.nCols_) grown.2
          if (i + 1) % 1024 = 0 then
            lib (check_user_interrupt srv)
          else
            pure ()
          fetch_loop n_max fuel (i + 1) grown.1 out
      else
        pure (i, n, out)

def fetch (fuel : Nat) (n_max : ℤ) : EStateM Exc (Obj MariaResultPrep) DataFrame := do
  let s ← get
  if !s.self.bound_ then
    throw (.stop "Query needs to be bound before fetching")
  else if !s.self.has_result then do
    if s.self.names_.length = 0 then
      onShared (warning ("Use dbExecute() instead of dbGetQuery() for statements, and also " ++
        "avoid dbFetch()"))
    else
      pure ()
    pure (df_create s.self.types_ s.self.names_ 0)
  else do
    let n := if n_max < 0 then 100 else n_max.toNat
    let out := df_create s.self.types_ s.self.names_ n
    if n = 0 then
      pure out
    else do
      let (i, n, out) ← fetch_loop srv n_max fuel 0 n out
      -- trim back to what we actually used
      let out := if i < n then df_resize out i else out
      let s ← get
      pure (df_s3 out s.self.types_)

def as_int (n : Nat) : ℤ := (n : ℤ).bmod 4294967296

def n_rows_affected (r : MariaResultPrep) : ℤ :=
  if !r.bound_ then NA_INTEGER else as_int r.rowsAffected_

def n_rows_fetched (r : MariaResultPrep) : ℤ := if !r.bound_ then 0 else as_int r.rowsFetched_

def complete (r : MariaResultPrep) : Bool :=
  if !r.bound_ then false else !r.has_result || r.complete_

-- The constructor, on a fresh object.
def construct (is_statement : Bool) : EStateM Exc (Obj MariaResultPrep) Unit := do
  modifySelf fun _ => { is_statement_ := is_statement }
  let h ← lib (mysql_stmt_init srv)
  modifySelf fun r => { r with pStatement_ := h }
  if h.isNone then throw (.stop "Out of memory") else pure ()

end MariaResultPrep

end RMariaDB
