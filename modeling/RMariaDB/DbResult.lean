import RMariaDB.MariaResultPrep

namespace RMariaDB

open Program

-- MariaResultSimple has no state of its own.
inductive MariaResultImpl where
  | prep (r : MariaResultPrep)
  | simple

namespace MariaResultSimple

variable (srv : Server)

def send_query (sql : String) : EStateM Exc Shared Unit := do
  let _ ← DbConnection.exec srv sql
  pure ()

def close : EStateM Exc Shared Unit := pure ()

def bind : EStateM Exc Shared Unit :=
  throw (.stop ("This query is not supported by the prepared statement protocol, no " ++
    "parameters can be bound."))

def get_column_info : EStateM Exc Shared (List (String × String)) := pure []

def fetch : EStateM Exc Shared DataFrame := do
  warning ("Use dbExecute() instead of dbGetQuery() for statements, and also avoid dbFetch()")
  pure (df_create [] [] 0)

end MariaResultSimple

structure DbResult where
  impl : Option MariaResultImpl := none

namespace DbResult

variable (srv : Server)

section Dispatch

variable {α : Type}

-- A call through the impl pointer.
def onImpl (prep : EStateM Exc (Obj MariaResultPrep) α) (simple : EStateM Exc Shared α) :
    EStateM Exc (Obj DbResult) α := do
  let s ← get
  match s.self.impl with
  | none => throw (.fault .memory)
  | some .simple => onShared simple
  | some (.prep r) =>
      zoom (fun s => ⟨s.toShared, r⟩) (fun t _ => ⟨t.toShared, ⟨some (.prep t.self)⟩⟩) prep

end Dispatch

def complete (r : DbResult) : Bool :=
  match r.impl with
  | none => true
  | some .simple => true
  | some (.prep r) => r.complete

def n_rows_fetched : EStateM Exc (Obj DbResult) ℤ :=
  onImpl (do let s ← get; pure s.self.n_rows_fetched) (pure 0)

def n_rows_affected : EStateM Exc (Obj DbResult) ℤ :=
  onImpl (do let s ← get; pure s.self.n_rows_affected) (pure 0)

-- The first parameter whose length differs from that of parameter 0.
def first_other (n : Nat) : Nat → List SEXP → Option Nat
  | _, [] => none
  | j, col :: params => if col.xlength ≠ n then some j else first_other n (j + 1) params

def validate_params : List SEXP → EStateM Exc (Obj DbResult) Unit
  | [] => pure ()
  | first_col :: params =>
      match first_other first_col.xlength 1 params with
      | none => pure ()
      | some j => throw (.stop ("Parameter " ++ toString (j + 1) ++ " does not have length " ++
          toString first_col.xlength ++ "."))

-- Nothing here asks whether the result is still the current one.
def bind (params : List SEXP) : EStateM Exc (Obj DbResult) Unit := do
  validate_params params
  onImpl (MariaResultPrep.bind srv params) MariaResultSimple.bind

-- `this` is the address of the object.
def fetch (this : Nat) (fuel : Nat) (n_max : ℤ) : EStateM Exc (Obj DbResult) DataFrame := do
  let s ← get
  if s.conn.pCurrentResult_ ≠ some this then
    throw (.stop "Inactive result set")
  else
    onImpl (MariaResultPrep.fetch srv fuel n_max) MariaResultSimple.fetch

def get_column_info : EStateM Exc (Obj DbResult) (List (String × String)) :=
  onImpl MariaResultPrep.get_column_info MariaResultSimple.get_column_info

def close : EStateM Exc (Obj DbResult) Unit := do
  let s ← get
  match s.self.impl with
  | none => pure ()
  | some _ => onImpl (MariaResultPrep.close srv) MariaResultSimple.close

end DbResult

end RMariaDB
