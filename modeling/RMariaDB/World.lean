import RMariaDB.DbResult

-- One connection with all its result objects, and what R can do to them.

namespace RMariaDB

open Program

structure World extends Shared where
  -- whether R's pointer to the connection is gone
  released : Bool := false
  results : Nat → Option DbResult := fun _ => none
  next_result : Nat := 0

namespace World

variable (srv : Server)

section Heap

variable {α : Type}

def onConnection (m : EStateM Exc Shared α) : EStateM Exc World α :=
  zoom World.toShared (fun t w => { w with toShared := t }) m

-- A method of the object at an address. A pointer to a destroyed object is dangling.
def onResult (r : Nat) (m : EStateM Exc (Obj DbResult) α) : EStateM Exc World α := do
  let w ← get
  match w.results r with
  | none => throw (.fault .memory)
  | some x =>
      zoom (fun w => ⟨w.toShared, x⟩)
        (fun t w => { w with
          toShared := t.toShared, results := Function.update w.results r (some t.self) }) m

def set_current (r : Option Nat) : EStateM Exc World Unit :=
  modify fun w => { w with conn.pCurrentResult_ := r }

end Heap

section Current

-- DbConnection::set_current_result, with a result that is not NULL
def set_current_result (pResult : Nat) : EStateM Exc World Unit := do
  let w ← get
  if w.conn.pCurrentResult_ = some pResult then
    pure ()
  else do
    match w.conn.pCurrentResult_ with
    | some r => do
        onConnection (warning "Cancelling previous query")
        onResult r (DbResult.close srv)
    | none => pure ()
    set_current (some pResult)

def reset_current_result (pResult : Nat) : EStateM Exc World Unit := do
  let w ← get
  if w.conn.pCurrentResult_ = some pResult then do
    onResult pResult (DbResult.close srv)
    set_current none
  else
    pure ()

end Current

section Lifetime

def set_impl (r : Nat) (impl : MariaResultImpl) : EStateM Exc World Unit :=
  modify fun w => { w with results := Function.update w.results r (some ⟨some impl⟩) }

-- The destructor of DbResult catches what it can, then the scoped pointer destroys
-- the impl, which closes it.
def destroy (r : Nat) : EStateM Exc World Unit := do
  let w ← get
  if w.conn.pCurrentResult_ = some r then
    tryCatch (reset_current_result srv r) fun e => if e.Ends then throw e else pure ()
  else
    pure ()
  onResult r (DbResult.close srv)
  modify fun w => { w with results := Function.update w.results r none }

-- res.reset(new MariaResultPrep(pConn, is_statement)); res->send_query(sql)
-- An exception destroys what `res` holds by then.
def prepared (sql : String) (is_statement : Bool) :
    EStateM Exc (Obj MariaResultPrep) MariaResultPrep := do
  MariaResultPrep.construct srv is_statement
  tryCatch (MariaResultPrep.send_query srv sql) fun e =>
    if e.Ends then throw e
    else do
      MariaResultPrep.close srv
      throw e
  let s ← get
  pure s.self

def onNew {α : Type} (m : EStateM Exc (Obj MariaResultPrep) α) : EStateM Exc World α :=
  zoom (fun w => ⟨w.toShared, {}⟩) (fun t w => { w with toShared := t.toShared }) m

-- Whether the query has to be sent without preparing it.
def try_prepared (this : Nat) (sql : String) (is_statement : Bool) : EStateM Exc World Bool := do
  let res ← onNew (prepared srv sql is_statement)
  set_impl this (.prep res)
  pure false

-- The body of the constructor of MariaResult.
def construct (this : Nat) (sql : String) (is_statement immediate : Bool) :
    EStateM Exc World Unit := do
  let immediate ← if immediate then pure true
    else tryCatch (try_prepared srv this sql is_statement) fun e =>
      if e = .unsupportedPS then pure true else throw e
  if immediate then do
    onConnection (MariaResultSimple.send_query srv sql)
    set_impl this .simple
  else
    pure ()

-- An exception in the constructor runs the destructor of the base class.
def create (sql : String) (is_statement immediate : Bool) : EStateM Exc World Nat := do
  onConnection DbConnection.check_connection
  let w ← get
  let this := w.next_result
  set { w with
    results := Function.update w.results this (some {}), next_result := this + 1 }
  set_current_result srv this
  tryCatch (construct srv this sql is_statement immediate) fun e =>
    if e.Ends then throw e
    else do
      destroy srv this
      throw e
  pure this

end Lifetime

section Calls

inductive Op where
  | create (sql : String) (is_statement immediate : Bool)
  -- dbClearResult() or the garbage collector
  | release (r : Nat)
  | bind (r : Nat) (params : List SEXP)
  -- `fuel` bounds the rows; a run in which it is too small does not count
  | fetch (r : Nat) (n : ℤ) (fuel : Nat)
  | has_completed (r : Nat)
  | rows_fetched (r : Nat)
  | rows_affected (r : Nat)
  | column_info (r : Nat)
  | valid (r : Nat)
  | begin_transaction
  | commit
  | rollback
  | is_transacting
  | disconnect
deriving DecidableEq, Repr

inductive Reply where
  | done
  | result (r : Nat)
  | frame (df : DataFrame)
  | info (columns : List (String × String))
  | int (v : ℤ)
  | bool (b : Bool)
deriving DecidableEq, Repr

-- R clears the external pointer of a released result.
def onLive (r : Nat) (m : EStateM Exc World Reply) : EStateM Exc World Reply := do
  let w ← get
  if (w.results r).isNone then throw (.stop "Invalid result set") else m

-- The same for the connection, whose pointer dbDisconnect() drops.
def onOpen (message : String) (m : EStateM Exc World Reply) : EStateM Exc World Reply := do
  let w ← get
  if w.released then throw (.stop message) else m

def call : Op → EStateM Exc World Reply
  | .create sql is_statement immediate =>
      onOpen "bad_weak_ptr" (Reply.result <$> create srv sql is_statement immediate)
  | .release r => do
      let w ← get
      if (w.results r).isSome then destroy srv r else pure ()
      pure .done
  | .bind r params => onLive r do
      onResult r (DbResult.bind srv params)
      pure .done
  | .fetch r n fuel => onLive r (Reply.frame <$> onResult r (DbResult.fetch srv r fuel n))
  | .has_completed r => onLive r (onResult r do
      let s ← get
      pure (.bool s.self.complete))
  | .rows_fetched r => onLive r (Reply.int <$> onResult r DbResult.n_rows_fetched)
  | .rows_affected r => onLive r (Reply.int <$> onResult r DbResult.n_rows_affected)
  | .column_info r => onLive r (Reply.info <$> onResult r DbResult.get_column_info)
  | .valid r => do
      let w ← get
      pure (.bool ((w.results r).isSome && w.conn.pCurrentResult_ = some r))
  | .begin_transaction => onOpen "bad_weak_ptr" do
      onConnection DbConnection.begin_transaction
      pure .done
  | .commit => onOpen "bad_weak_ptr" do
      onConnection (DbConnection.commit srv)
      pure .done
  | .rollback => onOpen "bad_weak_ptr" do
      onConnection (DbConnection.rollback srv)
      pure .done
  | .is_transacting => onOpen "Invalid connection"
      (Reply.bool <$> onConnection DbConnection.is_transacting)
  | .disconnect => do
      let w ← get
      if w.released || !w.conn.pConn_ then
        onConnection (warning "Already disconnected")
      else do
        onConnection DbConnection.disconnect
        modify fun w => { w with released := true }
      pure .done

-- One call from R.
def step (op : Op) (w : World) : Option World := after (call srv op) w

end Calls

end World

end RMariaDB
