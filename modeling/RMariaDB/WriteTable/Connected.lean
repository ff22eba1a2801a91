import RMariaDB.Libmysql.Raises
import RMariaDB.World
import RMariaDB.WriteTable

-- These functions on a connection: what DBI's defaults and the methods for results call.

namespace RMariaDB.WriteTable

open Program World

-- What there is besides the connection object: its slots, the templates of DBI, the temporary
-- file, and what dbFetch() does to columns of times and of blobs. Writing the file and the
-- conversion may raise an error with a message.
structure Client where
  dbi : DBI
  lib : RLibrary
  conn : MariaDBConnection
  quoted_tempfile : Text
  paste : Double → String
  write_file : Bytes → Except String Unit
  fix : DataFrame → Except String DataFrame

section Replies

def result_of : Reply → Nat
  | .result r => r
  | _ => 0

def int_of : Reply → ℤ
  | .int v => v
  | _ => NA_INTEGER

def bool_of : Reply → Bool
  | .bool b => b
  | _ => false

def frame_of : Reply → DataFrame
  | .frame df => df
  | _ => df_create [] [] 0

end Replies

variable (srv : Server) (client : Client)

section Results

def stop_if {α : Type} (x : Except String α) : Except Exc α := x.mapError .stop

def dbClearResult (r : Nat) : EStateM Exc World Unit := do
  if ← bool_of <$> call srv (.valid r) then do
    let _ ← call srv (.release r)
    pure ()
  else
    onConnection (warning "Expired, result set already closed")

-- The parameters have no names.
def dbBind (r : Nat) (params : List RVector) : EStateM Exc World Unit := do
  (if params.any RVector.is_factor then
      onConnection (warning "Factors converted to character")
    else
      pure ())
  let _ ← call srv (.bind r (params.map (Coerce.sql_data client.lib client.conn.timezone)))
  pure ()

def dbSend (statement : Text) (params : Option (List RVector)) (is_statement immediate : Bool) :
    EStateM Exc World Nat := do
  let r ← result_of <$> call srv (.create (String.ofList statement) is_statement immediate)
  onError Exc.Ends (match params with
    | some params => dbBind srv client r params
    | none => pure ()) (dbClearResult srv r)
  pure r

-- dbFetch(rs, n = -1), with the unread rows as the bound of its loop
def dbFetch (r : Nat) : EStateM Exc World DataFrame := do
  let w ← get
  let ret ← frame_of <$> call srv (.fetch r (-1) (w.mysql.unread + 1))
  stop_if (client.fix (convert_bigint client.conn.bigint ret))

end Results

section Statements

-- Of the statements only an INSERT has parameters.
def params_of : Statement → Option (List RVector)
  | .insert _ value => some value.columns
  | _ => none

-- DBI's dbExecute() and dbGetQuery()
def execute_statement (statement : Statement) : EStateM Exc World ℤ := do
  let rs ← dbSend srv client (statement.sql client.dbi) (params_of statement) true false
  onExit Exc.Ends (int_of <$> call srv (.rows_affected rs)) (dbClearResult srv rs)

def get_query (statement : Statement) : EStateM Exc World DataFrame := do
  let rs ← dbSend srv client (statement.sql client.dbi) none false false
  onExit Exc.Ends (dbFetch srv client rs) (dbClearResult srv rs)

def connected : Driver World where
  quoted_tempfile := client.quoted_tempfile
  paste := client.paste
  dbIsValid := do
    let w ← get
    pure (!w.released && w.conn.pConn_)
  is_transacting := bool_of <$> call srv .is_transacting
  dbBegin := do
    let _ ← call srv .begin_transaction
    pure ()
  dbCommit := do
    let _ ← call srv .commit
    pure ()
  dbRollback := do
    let _ ← call srv .rollback
    pure ()
  dbExecute := execute_statement srv client
  dbGetQuery := get_query srv client
  write_file := fun content => stop_if (client.write_file content)
  warning := fun message => onConnection (warning message)

end Statements

end RMariaDB.WriteTable
