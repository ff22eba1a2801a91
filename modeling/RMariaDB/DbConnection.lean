import RMariaDB.Lib.Program
import RMariaDB.Libmysql

namespace RMariaDB

open Program

-- `pConn_` is whether the pointer is set; results are named by their addresses.
structure DbConnection where
  pConn_ : Bool := true
  pCurrentResult_ : Option Nat := none
  transacting_ : Bool := false
deriving DecidableEq, Repr

-- What all objects of one connection share.
structure Shared where
  conn : DbConnection := {}
  mysql : MYSQL := {}
  warnings : List String := []

-- A method of an object works on the object and on what it shares.
structure Obj (τ : Type) extends Shared where
  self : τ

section Parts

variable {τ κ α : Type}

def onMysql (m : EStateM Exc MYSQL α) : EStateM Exc Shared α :=
  zoom Shared.mysql (fun t s => { s with mysql := t }) m

def onShared (m : EStateM Exc Shared α) : EStateM Exc (Obj τ) α :=
  zoom Obj.toShared (fun t s => { s with toShared := t }) m

def lib (m : EStateM Exc MYSQL α) : EStateM Exc (Obj τ) α := onShared (onMysql m)

-- A method of a member of the object.
def onMember (get : τ → κ) (put : κ → τ → τ) (m : EStateM Exc (Obj κ) α) :
    EStateM Exc (Obj τ) α :=
  zoom (fun s => ⟨s.toShared, get s.self⟩) (fun t s => ⟨t.toShared, put t.self s.self⟩) m

def modifySelf (f : τ → τ) : EStateM Exc (Obj τ) Unit :=
  modify fun s => { s with self := f s.self }

@[simp] theorem onMysql_run (m : EStateM Exc MYSQL α) (s : Shared) :
    (onMysql m).run s = match m.run s.mysql with
      | .ok a t => .ok a { s with mysql := t }
      | .error e t => .error e { s with mysql := t } := by
  rw [onMysql, run_zoom]
  cases m.run s.mysql <;> rfl

@[simp] theorem onShared_run (m : EStateM Exc Shared α) (s : Obj τ) :
    (onShared m).run s = match m.run s.toShared with
      | .ok a t => .ok a { s with toShared := t }
      | .error e t => .error e { s with toShared := t } := by
  rw [onShared, run_zoom]
  cases m.run s.toShared <;> rfl

@[simp] theorem lib_run (m : EStateM Exc MYSQL α) (s : Obj τ) :
    (lib m).run s = match m.run s.mysql with
      | .ok a t => .ok a { s with mysql := t }
      | .error e t => .error e { s with mysql := t } := by
  simp only [lib, onShared_run, onMysql_run]
  cases m.run s.mysql <;> rfl

@[simp] theorem onMember_run (get : τ → κ) (put : κ → τ → τ) (m : EStateM Exc (Obj κ) α)
    (s : Obj τ) : (onMember get put m).run s = match m.run ⟨s.toShared, get s.self⟩ with
      | .ok a t => .ok a ⟨t.toShared, put t.self s.self⟩
      | .error e t => .error e ⟨t.toShared, put t.self s.self⟩ := by
  rw [onMember, run_zoom]
  cases m.run ⟨s.toShared, get s.self⟩ <;> rfl

@[simp] theorem modifySelf_run (f : τ → τ) (s : Obj τ) :
    (modifySelf f).run s = .ok () { s with self := f s.self } := rfl

-- What a part that returned says of the whole object.
theorem of_lib_ok {s t : Obj τ} {m : EStateM Exc MYSQL α} {a : α} (h : (lib m).run s = .ok a t) :
    m.run s.mysql = .ok a t.mysql ∧ t.self = s.self := by
  rw [lib_run] at h
  cases hm : m.run s.mysql with
  | ok b m' =>
      rw [hm] at h
      cases h
      exact ⟨rfl, rfl⟩
  | error e m' =>
      rw [hm] at h
      cases h

theorem of_shared_ok {s t : Obj τ} {m : EStateM Exc Shared α} {a : α}
    (h : (onShared m).run s = .ok a t) : t.self = s.self := by
  rw [onShared_run] at h
  cases hm : m.run s.toShared with
  | ok b u =>
      rw [hm] at h
      cases h
      rfl
  | error e u =>
      rw [hm] at h
      cases h

theorem of_onMember_ok {get : τ → κ} {put : κ → τ → τ} {s t : Obj τ} {m : EStateM Exc (Obj κ) α}
    {a : α} (h : (onMember get put m).run s = .ok a t) :
    ∃ u, m.run ⟨s.toShared, get s.self⟩ = .ok a u ∧ t = ⟨u.toShared, put u.self s.self⟩ := by
  rw [onMember_run] at h
  cases hm : m.run ⟨s.toShared, get s.self⟩ with
  | ok b u =>
      rw [hm] at h
      cases h
      exact ⟨u, rfl, rfl⟩
  | error e u =>
      rw [hm] at h
      cases h

theorem of_modifySelf_ok {s t : Obj τ} {f : τ → τ} (h : (modifySelf f).run s = .ok () t) :
    t.self = f s.self ∧ t.mysql = s.mysql := by
  cases h
  exact ⟨rfl, rfl⟩

def warning (message : String) : EStateM Exc Shared Unit :=
  modify fun s => { s with warnings := s.warnings ++ [message] }

end Parts

namespace DbConnection

variable (srv : Server)

def is_valid : EStateM Exc Shared Bool := do
  let s ← get
  pure s.conn.pConn_

def check_connection : EStateM Exc Shared Unit := do
  if ← is_valid then
    pure ()
  else
    throw (.stop "Invalid or closed connection")

def has_query : EStateM Exc Shared Bool := do
  let s ← get
  pure s.conn.pCurrentResult_.isSome

def is_transacting : EStateM Exc Shared Bool := do
  let s ← get
  pure s.conn.transacting_

def set_transacting (b : Bool) : EStateM Exc Shared Unit :=
  modify fun s => { s with conn.transacting_ := b }

def begin_transaction : EStateM Exc Shared Unit := do
  if ← is_transacting then
    throw (.stop "Nested transactions not supported.")
  else do
    check_connection
    set_transacting true

-- The value that mysql_commit returns is not looked at, here and below.
def commit : EStateM Exc Shared Unit := do
  if ← is_transacting then do
    check_connection
    let _ ← onMysql (mysql_commit srv)
    set_transacting false
  else
    throw (.stop "Call dbBegin() to start a transaction.")

def rollback : EStateM Exc Shared Unit := do
  if ← is_transacting then do
    check_connection
    let _ ← onMysql (mysql_rollback srv)
    set_transacting false
  else
    throw (.stop "Call dbBegin() to start a transaction.")

def autocommit : EStateM Exc Shared Unit := do
  let s ← get
  if !s.conn.transacting_ && s.conn.pConn_ then do
    let _ ← onMysql (mysql_commit srv)
    pure ()
  else
    pure ()

-- do { store and free a result } while (mysql_next_result(pConn_) == 0)
def exec_loop : Nat → EStateM Exc Shared Unit
  | 0 => throw .outOfFuel
  | fuel + 1 => do
      let _ ← onMysql mysql_store_result
      let status ← onMysql mysql_next_result
      if status = 0 then
        exec_loop fuel
      else
        pure ()

def exec (sql : String) : EStateM Exc Shared Bool := do
  check_connection
  let status ← onMysql (mysql_real_query srv sql)
  if status ≠ 0 then do
    let s ← get
    throw (.stop ("Error executing query: " ++ s.mysql.error))
  else do
    let s ← get
    exec_loop (s.mysql.more.length + 1)
    autocommit srv
    pure true

def disconnect : EStateM Exc Shared Unit := do
  if ← is_valid then do
    if ← has_query then
      warning ("There is a result object still in use.\n" ++
        "The connection will be automatically released when it is closed")
    else
      pure ()
    onMysql mysql_close
    modify fun s => { s with conn.pConn_ := false }
  else
    pure ()

end DbConnection

end RMariaDB
