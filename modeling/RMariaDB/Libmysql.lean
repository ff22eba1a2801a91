import Mathlib.Logic.Function.Basic
import RMariaDB.Lib.Ledger
import RMariaDB.Lib.LittleEndian
import RMariaDB.MariaTypes

-- The client library and the server behind it, as far as the package calls them.
-- What the server answers is a parameter; what the client library does with the
-- answers (handles, unread rows, bound buffers) follows its documentation.

namespace RMariaDB

structure MYSQL_TIME where
  year : Nat := 0
  month : Nat := 0
  day : Nat := 0
  hour : Nat := 0
  minute : Nat := 0
  second : Nat := 0
  second_part : Nat := 0
  neg : Bool := false
deriving DecidableEq, Repr

def sizeof_MYSQL_TIME : Nat := 40

-- One value of a row, in the form in which the binary protocol carries it. A
-- decimal number counts as the double that it is converted to.
inductive SqlValue where
  | int (v : ℤ)
  | double (x : Double)
  | time (t : MYSQL_TIME)
  | bytes (b : Bytes)
deriving DecidableEq, Repr

abbrev Row := List (Option SqlValue)

structure MYSQL_FIELD where
  name : String
  type : enum_field_types
  charsetnr : Nat
  length : Nat
deriving DecidableEq, Repr

-- What the buffer pointer of a parameter leads to.
inductive ParamValue where
  | int (v : ℤ)
  | double (x : Double)
  | bytes (b : Bytes)
  | time (t : MYSQL_TIME)
  | int64 (v : ℤ)
deriving DecidableEq, Repr

-- A parameter as it is sent: its type, and its value unless it is NULL.
structure Param where
  type : enum_field_types
  value : Option ParamValue
deriving DecidableEq, Repr

-- A column of the bind array that mysql_stmt_bind_result copies. Every column is
-- bound as unsigned.
structure RESULT_BIND where
  buffer_type : enum_field_types
  buffer_length : Nat
deriving DecidableEq, Repr

inductive Buffer where
  | raw (bytes : Bytes)
  | dbl (x : Double)
  | time (t : MYSQL_TIME)
deriving DecidableEq, Repr

def Buffer.size : Buffer → Nat
  | raw bytes => bytes.length
  | dbl _ => 8
  | time _ => sizeof_MYSQL_TIME

-- What a fetch leaves in a bound column: the buffer, the length and the error flag.
def RESULT_BIND.store (b : RESULT_BIND) (v : SqlValue) (old : Buffer) : Buffer × Nat × Bool :=
  match b.buffer_type, v, old with
  | .MYSQL_TYPE_LONG, .int v, _ =>
      (.raw (LittleEndian.encode 4 v), 4, ¬(0 ≤ v ∧ v < 4294967296))
  | .MYSQL_TYPE_LONGLONG, .int v, _ =>
      (.raw (LittleEndian.encode 8 v), 8, ¬(0 ≤ v ∧ v < 18446744073709551616))
  | .MYSQL_TYPE_DOUBLE, .double x, _ => (.dbl x, 8, false)
  | .MYSQL_TYPE_DATE, .time t, _ => (.time t, sizeof_MYSQL_TIME, false)
  | .MYSQL_TYPE_DATETIME, .time t, _ => (.time t, sizeof_MYSQL_TIME, false)
  | .MYSQL_TYPE_TIME, .time t, _ => (.time t, sizeof_MYSQL_TIME, false)
  | .MYSQL_TYPE_STRING, .bytes s, .raw o | .MYSQL_TYPE_BLOB, .bytes s, .raw o =>
      (.raw (s.take b.buffer_length ++ o.drop (min b.buffer_length s.length)), s.length,
        b.buffer_length < s.length)
  -- a conversion that the types of the fields never ask for
  | _, _, old => (old, old.size, true)

structure Failure where
  error : String
  errno : Nat
deriving DecidableEq, Repr

structure Prepared where
  param_count : Nat
  fields : Option (List MYSQL_FIELD)

-- A successful execution. `rows` is empty when there is no result set, `dml`
-- says that data changed.
structure Executed where
  fields : Option (List MYSQL_FIELD) := none
  rows : Option (List Row) := none
  affected_rows : Nat := 0
  dml : Bool := false

-- A statement of a batch that succeeded: whether it has a result set.
structure Done where
  result : Bool := false
  dml : Bool := false
deriving DecidableEq, Repr

-- The outcomes of the statements of a query, had each of them been run.
structure Batch where
  first : Except Failure Done
  later : List (Except Failure Done) := []

def Batch.statements (batch : Batch) : List (Except Failure Done) := batch.first :: batch.later

-- The answers of the server. The first argument counts the calls made so far, so
-- that the same call may be answered differently each time.
structure Server where
  stmt_init : Nat → Bool
  prepare : Nat → String → Except Failure Prepared
  execute : Nat → String → List Param → Except Failure Executed
  fetch : Nat → Except Failure Unit
  fetch_column : Nat → Except Failure Unit
  bind_result : Nat → Except Failure Unit
  query : Nat → String → Batch
  -- COMMIT and ROLLBACK
  accepts : Nat → Bool
  -- the user's interrupt, which R checks for
  interrupt : Nat → Bool

-- A server that accepts every command and has nothing to return.
def Server.agreeable : Server where
  stmt_init := fun _ => true
  prepare := fun _ _ => .ok { param_count := 0, fields := none }
  execute := fun _ _ _ => .ok {}
  fetch := fun _ => .ok ()
  fetch_column := fun _ => .ok ()
  bind_result := fun _ => .ok ()
  query := fun _ _ => { first := .ok {} }
  accepts := fun _ => true
  interrupt := fun _ => false

structure MYSQL_STMT where
  sql : String := ""
  param_count : Nat := 0
  fields : Option (List MYSQL_FIELD) := none
  params : List Param := []
  bind : List RESULT_BIND := []
  row : Row := []
  affected_rows : Nat := 0
  error : String := ""
  errno : Nat := 0

structure MYSQL_RES where
  id : Nat
  fields : List MYSQL_FIELD
deriving DecidableEq, Repr

structure MYSQL where
  connected : Bool := true
  tick : Nat := 0
  ledger : Ledger := {}
  stmts : Nat → Option MYSQL_STMT := fun _ => none
  next_stmt : Nat := 0
  -- metadata handles that are not freed yet
  metas : List Nat := []
  next_meta : Nat := 0
  -- the statement whose result set is being read, and its unread rows
  reading : Option (Nat × List Row) := none
  -- the results of a batch still to be reported, and whether the reported one
  -- waits to be stored
  more : List (Except Failure Done) := []
  unstored : Bool := false
  error : String := ""

def ER_UNSUPPORTED_PS : Nat := 1295

def outOfSync : Failure := ⟨"Commands out of sync; you can't run this command now", 2014⟩

def lost : Failure := ⟨"Lost connection to MySQL server during query", 2013⟩

-- Rows or results of an earlier command are still unread.
def MYSQL.busy (m : MYSQL) : Bool := m.reading.isSome || !m.more.isEmpty || m.unstored

variable (srv : Server)

section Statements

def count_call : EStateM Exc MYSQL Nat :=
  modifyGet fun m => (m.tick, { m with tick := m.tick + 1 })

-- Every statement function reads through its handle first.
def deref (h : Option Nat) : EStateM Exc MYSQL (Nat × MYSQL_STMT) := do
  let m ← get
  match h with
  | none => throw (.fault .handle)
  | some k =>
      match m.stmts k with
      | none => throw (.fault .handle)
      | some st => pure (k, st)

def put_stmt (k : Nat) (st : MYSQL_STMT) : EStateM Exc MYSQL Unit :=
  modify fun m => { m with stmts := Function.update m.stmts k (some st) }

def fail_stmt (k : Nat) (st : MYSQL_STMT) (f : Failure) : EStateM Exc MYSQL Unit :=
  put_stmt k { st with error := f.error, errno := f.errno }

def mysql_stmt_init : EStateM Exc MYSQL (Option Nat) := do
  let t ← count_call
  if srv.stmt_init t then
    modifyGet fun m => (some m.next_stmt, { m with
      stmts := Function.update m.stmts m.next_stmt (some {}), next_stmt := m.next_stmt + 1 })
  else
    pure none

-- Why the statement k cannot send a command now.
def MYSQL.refuses (m : MYSQL) (k : Nat) : Option Failure :=
  if !m.connected then some lost
  else if !m.more.isEmpty || m.unstored then some outOfSync
  else match m.reading with
    | none => none
    | some (k', _) => if k' = k then none else some outOfSync

def mysql_stmt_prepare (h : Option Nat) (sql : String) : EStateM Exc MYSQL Nat := do
  let (k, st) ← deref h
  let t ← count_call
  let m ← get
  match m.refuses k, srv.prepare t sql with
  | some f, _ | none, .error f => do
      fail_stmt k st f
      pure 1
  | none, .ok r => do
      put_stmt k { st with sql := sql, param_count := r.param_count, fields := r.fields }
      pure 0

def mysql_stmt_errno (h : Option Nat) : EStateM Exc MYSQL Nat := do
  let (_, st) ← deref h
  pure st.errno

def mysql_stmt_error (h : Option Nat) : EStateM Exc MYSQL String := do
  let (_, st) ← deref h
  pure st.error

def mysql_stmt_param_count (h : Option Nat) : EStateM Exc MYSQL Nat := do
  let (_, st) ← deref h
  pure st.param_count

def mysql_stmt_result_metadata (h : Option Nat) : EStateM Exc MYSQL (Option MYSQL_RES) := do
  let (_, st) ← deref h
  match st.fields with
  | none => pure none
  | some fields =>
      modifyGet fun m => (some ⟨m.next_meta, fields⟩,
        { m with metas := m.next_meta :: m.metas, next_meta := m.next_meta + 1 })

def mysql_free_result (res : MYSQL_RES) : EStateM Exc MYSQL Unit := do
  let m ← get
  if res.id ∈ m.metas then
    set { m with metas := m.metas.erase res.id }
  else
    throw (.fault .handle)

def mysql_fetch_fields (res : MYSQL_RES) : EStateM Exc MYSQL (List MYSQL_FIELD) := do
  let m ← get
  if res.id ∈ m.metas then
    pure res.fields
  else
    throw (.fault .handle)

-- Closing a statement discards its unread rows.
def MYSQL.unread_dropped (m : MYSQL) (k : Nat) : MYSQL :=
  match m.reading with
  | some (k', _) => if k' = k then { m with reading := none } else m
  | none => m

def mysql_stmt_close (h : Option Nat) : EStateM Exc MYSQL Unit := do
  let (k, _) ← deref h
  modify fun m =>
    { m.unread_dropped k with stmts := Function.update m.stmts k none }

def mysql_stmt_bind_param (h : Option Nat) (params : List Param) : EStateM Exc MYSQL Unit := do
  let (k, st) ← deref h
  put_stmt k { st with params := params }

-- Executing discards the unread rows of the previous execution.
def mysql_stmt_execute (h : Option Nat) : EStateM Exc MYSQL Nat := do
  let (k, st) ← deref h
  let t ← count_call
  let m ← get
  match m.refuses k with
  | some f => do
      fail_stmt k st f
      pure 1
  | none => do
      modify fun m => { m with reading := none }
      match srv.execute t st.sql st.params with
      | .error f => do
          fail_stmt k st f
          pure 1
      | .ok r => do
          put_stmt k { st with
            fields := r.fields <|> st.fields
            affected_rows := r.affected_rows }
          modify fun m => { m with
            reading := r.rows.map (k, ·)
            ledger := if r.dml then m.ledger.run else m.ledger }
          pure 0

def mysql_stmt_affected_rows (h : Option Nat) : EStateM Exc MYSQL Nat := do
  let (_, st) ← deref h
  pure st.affected_rows

def mysql_stmt_bind_result (h : Option Nat) (bind : List RESULT_BIND) : EStateM Exc MYSQL Nat := do
  let (k, st) ← deref h
  let t ← count_call
  match srv.bind_result t with
  | .error f => do
      fail_stmt k st f
      pure 1
  | .ok _ => do
      put_stmt k { st with bind := bind }
      pure 0

-- A value that does not fit its bound column.
def RESULT_BIND.truncates (b : RESULT_BIND) : Option SqlValue → Bool
  | none => false
  | some (.bytes s) => b.buffer_length < s.length
  | some (.int v) =>
      match b.buffer_type with
      | .MYSQL_TYPE_LONG => ¬(0 ≤ v ∧ v < 4294967296)
      | .MYSQL_TYPE_LONGLONG => ¬(0 ≤ v ∧ v < 18446744073709551616)
      | _ => false
  | some _ => false

inductive FetchResult where
  | ok
  | MYSQL_DATA_TRUNCATED
  | error
  | MYSQL_NO_DATA
deriving DecidableEq, Repr

-- The rows of an execution come in order, then MYSQL_NO_DATA once.
def mysql_stmt_fetch (h : Option Nat) : EStateM Exc MYSQL FetchResult := do
  let (k, st) ← deref h
  let t ← count_call
  let m ← get
  match m.reading with
  | none => do
      fail_stmt k st outOfSync
      pure .error
  | some (k', rows) =>
      if k' ≠ k then do
        fail_stmt k st outOfSync
        pure .error
      else match srv.fetch t, rows with
        | .error f, _ => do
            fail_stmt k st f
            pure .error
        | .ok _, [] => do
            modify fun m => { m with reading := none }
            pure .MYSQL_NO_DATA
        | .ok _, row :: rows => do
            put_stmt k { st with row := row }
            modify fun m => { m with reading := some (k, rows) }
            if (st.bind.zip row).any (fun c => c.1.truncates c.2) then
              pure .MYSQL_DATA_TRUNCATED
            else
              pure .ok

-- Fetch the bytes of column j of the current row into a buffer of the given length.
def mysql_stmt_fetch_column (h : Option Nat) (j length : Nat) :
    EStateM Exc MYSQL (Except Unit Bytes) := do
  let (k, st) ← deref h
  let t ← count_call
  match srv.fetch_column t with
  | .error f => do
      fail_stmt k st f
      pure (.error ())
  | .ok _ =>
      match st.row[j]? with
      | some (some (.bytes b)) => pure (.ok (b.take length))
      | _ => pure (.ok (List.replicate length 0))

end Statements

section Connection

-- COMMIT or ROLLBACK; the value returned is true when the command failed.
def mysql_end (f : Ledger → Ledger) : EStateM Exc MYSQL Bool := do
  let t ← count_call
  let m ← get
  if m.busy || !srv.accepts t then
    pure true
  else do
    set { m with ledger := f m.ledger }
    pure false

def mysql_commit : EStateM Exc MYSQL Bool := mysql_end srv Ledger.commit

def mysql_rollback : EStateM Exc MYSQL Bool := mysql_end srv Ledger.discard

-- The server runs a batch in order and stops at the first failure.
def reported : List (Except Failure Done) → List (Except Failure Done)
  | [] => []
  | .error f :: _ => [.error f]
  | .ok d :: rest => .ok d :: reported rest

def run_batch (ledger : Ledger) : List (Except Failure Done) → Ledger
  | .ok d :: rest => run_batch (if d.dml then ledger.run else ledger) rest
  | _ => ledger

-- The status of a query is the status of its first statement.
def mysql_real_query (sql : String) : EStateM Exc MYSQL Nat := do
  let t ← count_call
  let m ← get
  if m.busy then do
    set { m with error := outOfSync.error }
    pure 1
  else
    match (srv.query t sql).first with
    | .error f => do
        set { m with error := f.error }
        pure 1
    | .ok d => do
        set { m with
          more := reported (srv.query t sql).later
          unstored := d.result
          ledger := run_batch m.ledger (srv.query t sql).statements }
        pure 0

-- The result set of the statement reported last, if it has one.
def mysql_store_result : EStateM Exc MYSQL Bool :=
  modifyGet fun m => (m.unstored, { m with unstored := false })

-- 0 for a further result, -1 when there is none, positive when a statement failed.
def mysql_next_result : EStateM Exc MYSQL ℤ := do
  let m ← get
  if m.unstored then do
    set { m with error := outOfSync.error }
    pure 1
  else
    match m.more with
    | [] => pure (-1)
    | .ok d :: rest => do
        set { m with more := rest, unstored := d.result }
        pure 0
    | .error f :: _ => do
        set { m with more := [], error := f.error }
        pure 1

-- The server discards what was not committed; statement handles stay allocated.
def mysql_close : EStateM Exc MYSQL Unit :=
  modify fun m => { m with
    connected := false
    ledger := m.ledger.discard
    reading := none
    more := []
    unstored := false }

end Connection

end RMariaDB
