import Mathlib.Algebra.BigOperators.Group.Finset.Piecewise
import Mathlib.Algebra.Order.BigOperators.Group.Finset
import Mathlib.Data.Finset.Option
import RMariaDB.MariaResultPrep.Executions
import RMariaDB.World.Sound

-- What the calls of a whole session execute: no query is sent twice, and every row of parameters
-- is executed once at most.

namespace RMariaDB

open Program

variable {srv : Server} {α : Type} {k : Nat} {j : α → Nat} {l : Exc → Nat}

namespace DbConnection

-- The statements of a query that is not prepared pay for their executions.
theorem run_batch_executed (results : List (Except Failure Done)) :
    ∀ ledger : Ledger, (run_batch ledger results).executed ≤ ledger.executed + results.length := by
  induction results with
  | nil => exact fun ledger => Nat.le_refl _
  | cons result results ih =>
      intro ledger
      cases result with
      | error f => exact Nat.le_add_right _ _
      | ok d =>
          have hrest := ih (if d.dml then ledger.run else ledger)
          have hone : (if d.dml then ledger.run else ledger).executed ≤ ledger.executed + 1 := by
            split
            · exact Nat.le_refl _
            · exact Nat.le_succ _
          rw [run_batch, List.length_cons]
          omega

theorem mysql_real_query_pays {parts : Nat} {sql : String}
    (hparts : ∀ t, (srv.query t sql).statements.length ≤ parts) :
    Pays MYSQL.executed parts (mysql_real_query srv sql) (fun _ => 0) fun _ => 0 := by
  apply Free.before count_call_free (fun _ => Nat.zero_le _)
  intro t
  refine Pays.get_bind fun m => PaysAt.ite (fun _ => ?_) fun _ => ?_
  · exact PaysAt.set_pure (Nat.le_add_right _ _)
  · split
    · exact PaysAt.set_pure (Nat.le_add_right _ _)
    · refine PaysAt.set_pure ?_
      have hbatch := run_batch_executed (srv.query t sql).statements m.ledger
      have hlength := hparts t
      simp only [MYSQL.executed]
      omega

theorem exec_loop_free (fuel : Nat) : Free Shared.executed (exec_loop fuel) := by
  induction fuel with
  | zero => exact Free.throw _
  | succ fuel ih =>
      refine Free.bind (onMysql_pays (Free.modifyGet fun m => Nat.le_refl _)) fun _ => ?_
      refine Free.bind (onMysql_pays ?_) fun status => Free.ite ih (Free.pure ())
      refine Pays.get_bind fun m => PaysAt.ite (fun _ => ?_) fun _ => ?_
      · exact PaysAt.set_pure (Nat.le_refl _)
      split
      · exact Free.pure (-1) m
      · exact PaysAt.set_pure (Nat.le_refl _)
      · exact PaysAt.set_pure (Nat.le_refl _)

theorem check_connection_free : Free Shared.executed check_connection :=
  (Free.get_bind fun _ => Free.pure _).bind fun _ => Free.ite (Free.pure ()) (Free.throw _)

theorem exec_pays {parts : Nat} {sql : String}
    (hparts : ∀ t, (srv.query t sql).statements.length ≤ parts) :
    Pays Shared.executed parts (exec srv sql) (fun _ => 0) fun _ => 0 := by
  apply Free.before check_connection_free (fun _ => Nat.zero_le _)
  intro _
  apply Pays.bind (onMysql_pays (mysql_real_query_pays hparts))
  intro status
  apply Free.ite
  · exact Free.get_bind fun s => Free.throw _
  refine Free.get_bind fun s => (exec_loop_free _).bind fun _ => Free.bind ?_ fun _ => Free.pure true
  apply Free.get_bind
  intro s
  apply Free.ite
  · exact (onMysql_pays (mysql_end_free fun _ => by rfl)).bind fun _ => Free.pure ()
  · exact Free.pure ()

theorem disconnect_free : Free Shared.executed disconnect := by
  have hclose : Free Shared.executed (do
      onMysql mysql_close
      modify fun s => { s with conn.pConn_ := false }) := by
    refine Free.bind (onMysql_pays (Free.modify fun _ => ?_)) fun _ => Free.modify fun _ => ?_
    · exact Nat.le_refl _
    · exact Nat.le_refl _
  apply (Free.get_bind fun _ => Free.pure _).bind
  intro valid
  apply Free.ite
  · apply (Free.get_bind fun _ => Free.pure _).bind
    intro query
    apply Free.ite
    · refine Free.bind (Free.modify fun _ => ?_) fun _ => hclose
      exact Nat.le_refl _
    · exact (Free.pure ()).bind fun _ => hclose
  · exact Free.pure ()

end DbConnection

namespace DbResult

-- What a result may still execute
def due (x : DbResult) : Nat :=
  match x.impl with
  | some (.prep p) => p.due
  | _ => 0

theorem onImpl_pays {s : Obj DbResult} {prep : EStateM Exc (Obj MariaResultPrep) α}
    {simple : EStateM Exc Shared α} (hprep : Pays (spent MariaResultPrep.due) k prep j l)
    (hsimple : Pays Shared.executed k simple j l) (hl : ∀ e, l e ≤ k) :
    PaysAt (spent due) s k (onImpl prep simple) j l := by
  apply PaysAt.get_bind
  obtain ⟨sh, ⟨impl⟩⟩ := s
  cases impl with
  | none => exact Pays.throw (hl _) _
  | some impl =>
      cases impl with
      | simple => exact onShared_pays hsimple _
      | prep p => exact PaysAt.zoom (fun t => (Nat.add_comm _ _).le) (hprep ⟨sh, p⟩)

theorem onImpl_free {prep : EStateM Exc (Obj MariaResultPrep) α} {simple : EStateM Exc Shared α}
    (hprep : Free (spent MariaResultPrep.due) prep) (hsimple : Free Shared.executed simple) :
    Free (spent due) (onImpl prep simple) := fun _ => onImpl_pays hprep hsimple fun _ => Nat.le_refl 0

theorem close_free : Free (spent due) (close srv) := by
  apply Free.get_bind
  intro s
  cases s.self.impl with
  | none => exact Free.pure ()
  | some impl => exact onImpl_free MariaResultPrep.close_free (Free.pure ())

theorem validate_params_free (params : List SEXP) : Free (spent due) (validate_params params) := by
  cases params with
  | nil => exact Free.pure ()
  | cons col params =>
      rw [validate_params]
      cases first_other col.xlength 1 params with
      | none => exact Free.pure ()
      | some j => exact Free.throw _

theorem bind_pays {params : List SEXP} (hcount : FirstTyped params) :
    Pays (spent due) (row_count params) (DbResult.bind srv params) (fun _ => 0) fun _ => 0 := by
  apply Free.before (validate_params_free params) (fun _ => Nat.zero_le _)
  intro _ s
  exact onImpl_pays (MariaResultPrep.bind_pays hcount) (Pays.throw (Nat.zero_le _)) fun _ => Nat.zero_le _

theorem fetch_free (this fuel : Nat) (n_max : ℤ) :
    Free (spent due) (DbResult.fetch srv this fuel n_max) := by
  refine Free.get_bind fun s => Free.ite (Free.throw _) (onImpl_free (MariaResultPrep.fetch_free _ _) ?_)
  exact Free.bind (Free.modify fun _ => Nat.le_refl _) fun _ => Free.pure _

-- What is read from the object alone.
theorem onImpl_read_free (prep : MariaResultPrep → Except Exc α) (simple : α) :
    Free (spent due) (onImpl (do
      let s ← get
      liftM (prep s.self)) (pure simple)) :=
  onImpl_free (Free.get_bind fun _ => Free.liftM _) (Free.pure simple)

end DbResult

namespace World

open DbResult

-- What the result at an address may still execute
def owed (results : Nat → Option DbResult) (r : Nat) : Nat := (results r).elim 0 due

-- What was executed, and what the results at some addresses may still execute
def charge (S : Finset Nat) (w : World) : Nat := w.mysql.executed + ∑ r ∈ S, owed w.results r

section Heap

variable {S : Finset Nat} {w : World} {r : Nat}

theorem owed_update (results : Nat → Option DbResult) (o : Option DbResult) :
    owed (Function.update results r o) = Function.update (owed results) r (o.elim 0 due) :=
  Function.comp_update (fun o => Option.elim o 0 due) results r o

theorem sum_owed_update (results : Nat → Option DbResult) (hr : r ∈ S) (o : Option DbResult) :
    ∑ r' ∈ S, owed (Function.update results r o) r' + owed results r =
      ∑ r' ∈ S, owed results r' + o.elim 0 due := by
  rw [owed_update, Finset.sum_update_of_mem hr, ← Finset.sum_sdiff (Finset.singleton_subset_iff.mpr hr),
    Finset.sum_singleton]
  omega

theorem sum_owed_update_le (results : Nat → Option DbResult) (S : Finset Nat) (r : Nat)
    (o : Option DbResult) :
    ∑ r' ∈ S, owed (Function.update results r o) r' ≤ ∑ r' ∈ S, owed results r' + o.elim 0 due := by
  by_cases hr : r ∈ S
  · rw [← sum_owed_update results hr o]
    exact Nat.le_add_right _ _
  · rw [owed_update, Finset.sum_update_of_notMem hr]
    exact Nat.le_add_right _ _

theorem onConnection_pays {m : EStateM Exc Shared α} (hm : Pays Shared.executed k m j l) :
    Pays (charge S) k (onConnection m) j l := by
  refine fun w => PaysAt.zoom (fun t => ?_) (hm w.toShared)
  simp only [charge, Shared.executed]
  omega

-- The result that is worked on pays for itself.
theorem onResult_pays {m : EStateM Exc (Obj DbResult) α} (hr : r ∈ S) (hm : Pays (spent due) k m j l)
    (hl : ∀ e, l e ≤ k) : PaysAt (charge S) w k (onResult r m) j l := by
  apply PaysAt.get_bind
  cases hx : w.results r with
  | none => exact Pays.throw (hl _) w
  | some x =>
      refine PaysAt.zoom (fun t => ?_) (hm ⟨w.toShared, x⟩)
      have hsum := sum_owed_update w.results hr (some t.self)
      simp only [owed, hx, Option.elim_some] at hsum
      simp only [charge, spent, Shared.executed, owed]
      omega

theorem onResult_free {m : EStateM Exc (Obj DbResult) α} (hr : r ∈ S) (hm : Free (spent due) m) :
    Free (charge S) (onResult r m) := fun _ => onResult_pays hr hm fun _ => Nat.le_refl 0

theorem store_pays (o : Option DbResult) : Pays (charge S) (o.elim 0 due)
    (modify fun w => { w with results := Function.update w.results r o } : EStateM Exc World Unit)
    (fun _ => 0) l := by
  refine fun w => PaysAt.modify ?_
  have hsum := sum_owed_update_le w.results S r o
  simp only [charge]
  omega

end Heap

section Lifetime

variable {S : Finset Nat} {w : World} {r : Nat}

theorem set_current_free (o : Option Nat) : Free (charge S) (set_current o) :=
  Free.modify fun _ => Nat.le_refl _

theorem set_current_result_free (this : Nat) (hS : ∀ r ∈ w.conn.pCurrentResult_, r ∈ S) :
    PaysAt (charge S) w 0 (set_current_result srv this) (fun _ => 0) fun _ => 0 := by
  apply PaysAt.get_bind
  refine PaysAt.ite (fun _ => Free.pure () w) fun _ => ?_
  cases hr : w.conn.pCurrentResult_ with
  | none => exact (Free.pure () w).bind fun _ => set_current_free _
  | some r =>
      have hwarned : Free (charge S) (onConnection (warning "Cancelling previous query")) :=
        onConnection_pays (Free.modify fun _ => Nat.le_refl _)
      exact (hwarned w).bind fun _ => (onResult_free (hS r hr) close_free).bind fun _ => set_current_free _

theorem destroy_free (hr : r ∈ S) : Free (charge S) (destroy srv r) := by
  have hclose : Free (charge S) (onResult r (DbResult.close srv)) := onResult_free hr close_free
  have hrest : Free (charge S) (do
      onResult r (DbResult.close srv)
      modify fun w => { w with results := Function.update w.results r none }) :=
    hclose.bind fun _ => store_pays none
  have hreset : Free (charge S) (reset_current_result srv r) :=
    Free.get_bind fun w => Free.ite (hclose.bind fun _ => set_current_free none) (Free.pure ())
  apply Free.get_bind
  intro w
  apply Free.ite
  · exact Free.bind (fun w => PaysAt.tryCatch (hreset w) fun e => Free.ite (Free.throw e) (Free.pure ()))
      fun _ => hrest
  · exact (Free.pure ()).bind fun _ => hrest

theorem onNew_prepared_pays (sql : String) (is_statement : Bool) :
    PaysAt (charge S) w 1 (onNew (prepared srv sql is_statement)) MariaResultPrep.due
      (MariaResultPrep.unsent 1) := by
  have hpays := MariaResultPrep.prepared_pays srv sql is_statement ⟨w.toShared, {}⟩ _ rfl
  have hnew : MariaResultPrep.due {} = 0 := rfl
  rintro w rfl
  rw [onNew, run_zoom]
  cases hrun : (prepared srv sql is_statement).run ⟨w.toShared, {}⟩ with
  | ok res t =>
      rw [hrun] at hpays
      obtain ⟨rfl, -⟩ := MariaResultPrep.prepared_sent hrun
      simp only [spent, Shared.executed, hnew] at hpays
      simp only [charge]
      omega
  | error e t =>
      rw [hrun] at hpays
      simp only [spent, Shared.executed, hnew] at hpays
      simp only [charge]
      omega

theorem set_impl_pays (impl : MariaResultImpl) : Pays (charge S) (due ⟨some impl⟩) (set_impl r impl)
    (fun _ => 0) l := store_pays (some ⟨some impl⟩)

-- What is kept for a query that has to be sent without preparing it.
def resend (k : Nat) (simple : Bool) : Nat := if simple then k else 0

theorem try_prepared_pays (k : Nat) (sql : String) (is_statement : Bool) :
    Pays (charge S) 1 (try_prepared srv r sql is_statement) (resend k) (MariaResultPrep.unsent 1) := by
  refine fun w => PaysAt.bind (onNew_prepared_pays sql is_statement) fun res => ?_
  exact Pays.bind (set_impl_pays (.prep res)) fun _ => Pays.pure (Nat.le_refl 0)

-- A query that cannot be prepared is sent once all the same.
theorem construct_pays {parts : Nat} {sql : String} (is_statement immediate : Bool)
    (hparts : ∀ t, (srv.query t sql).statements.length ≤ parts) :
    Pays (charge S) (max 1 parts) (construct srv r sql is_statement immediate) (fun _ => 0)
      fun _ => 0 := by
  have hsend : Pays (charge S) parts (onConnection (MariaResultSimple.send_query srv sql))
      (fun _ => 0) fun _ => 0 :=
    onConnection_pays (Pays.bind (DbConnection.exec_pays hparts) fun _ => Free.pure ())
  have hsimple : Pays (charge S) (max 1 parts) (do
      onConnection (MariaResultSimple.send_query srv sql)
      set_impl r .simple) (fun _ => 0) fun _ => 0 := fun w =>
    PaysAt.mono (hsend.bind (fun _ => set_impl_pays .simple) w) (Nat.le_max_right 1 parts)
      (fun _ => Nat.le_refl 0) fun _ => Nat.le_refl 0
  have htry : Pays (charge S) (max 1 parts) (tryCatch (try_prepared srv r sql is_statement) fun e =>
      if e = .unsupportedPS then pure true else throw e) (resend (max 1 parts)) fun _ => 0 := by
    obtain ⟨c, hc⟩ : ∃ c, max 1 parts = 1 + c := ⟨max 1 parts - 1, by omega⟩
    rw [hc]
    intro w
    have hprepared : PaysAt (charge S) w (1 + c) (try_prepared srv r sql is_statement)
        (fun simple => resend (1 + c) simple + c) fun e => MariaResultPrep.unsent 1 e + c :=
      (try_prepared_pays (1 + c) sql is_statement w).add c
    refine PaysAt.tryCatch (hprepared.mono (Nat.le_refl _) (fun _ => Nat.le_add_right _ _)
      fun _ => Nat.le_refl _) fun e => Pays.ite (fun he => ?_) fun _ => Pays.throw (Nat.zero_le _)
    subst he
    exact Pays.pure (Nat.le_refl _)
  cases immediate with
  | true => exact hsimple
  | false =>
      refine htry.bind fun simple => ?_
      cases simple with
      | true => exact hsimple
      | false => exact Free.pure ()

-- The result that is created, and the one that it replaces, are among those that are counted.
theorem create_pays {parts : Nat} {sql : String} (is_statement immediate : Bool)
    (hparts : ∀ t, (srv.query t sql).statements.length ≤ parts) (hthis : w.next_result ∈ S)
    (hcurrent : ∀ r ∈ w.conn.pCurrentResult_, r ∈ S) :
    PaysAt (charge S) w (max 1 parts) (create srv sql is_statement immediate) (fun _ => 0)
      fun _ => 0 := by
  by_cases hvalid : w.conn.pConn_ = true
  · have hcheck : Spec (fun t => t = w) (onConnection DbConnection.check_connection)
        (fun _ t => t = w) fun _ _ => True := by
      rintro w rfl
      rw [onConnection_run]
      simp [DbConnection.check_connection, DbConnection.is_valid, hvalid]
    have hchecked : PaysAt (charge S) w (max 1 parts) (onConnection DbConnection.check_connection)
        (fun _ => max 1 parts) fun _ => 0 :=
      PaysAt.of_free (onConnection_pays DbConnection.check_connection_free w) (fun _ => Nat.le_refl _)
        fun _ => Nat.zero_le _
    refine hchecked.bind_of hcheck fun _ t ht => ?_
    subst ht
    apply PaysAt.get_bind
    let u := t.allocated
    have hallocated : PaysAt (charge S) t (max 1 parts) (set u : EStateM Exc World PUnit)
        (fun _ => max 1 parts) fun _ => 0 := by
      apply PaysAt.set
      have hsum := sum_owed_update_le t.results S t.next_result (some {})
      have hnew : (some ({} : DbResult)).elim 0 due = 0 := rfl
      simp only [charge, u, allocated]
      omega
    have hset : Spec (fun s => s = t) (set u : EStateM Exc World PUnit) (fun _ s => s = u)
        fun _ _ => True := by
      rintro s -
      rfl
    refine hallocated.bind_of hset fun _ s hs => ?_
    subst hs
    have hreplaced : PaysAt (charge S) u (max 1 parts) (set_current_result srv t.next_result)
        (fun _ => max 1 parts) fun _ => 0 :=
      PaysAt.of_free (set_current_result_free _ hcurrent) (fun _ => Nat.le_refl _) fun _ => Nat.zero_le _
    refine hreplaced.bind fun _ => Pays.bind (fun s => PaysAt.tryCatch
      (construct_pays is_statement immediate hparts s) fun e => ?_) fun _ => Free.pure _
    exact Free.ite (Free.throw e) ((destroy_free hthis).bind fun _ => Free.throw e)
  · rintro w rfl
    rw [create_closed hvalid]
    exact Nat.le_add_right _ _

end Lifetime

section Calls

-- What a call asks to be executed: the statements of a query, and the rows of its parameters
def asked (parts : String → Nat) : Op → Nat
  | .create sql _ _ => max 1 (parts sql)
  | .bind _ params => row_count params
  | _ => 0

def Op.FirstTyped : Op → Prop
  | .bind _ params => RMariaDB.FirstTyped params
  | _ => True

variable {S : Finset Nat} {w w' : World} {r : Nat} {parts : String → Nat} {reply : Reply}

theorem charge_mono {S' : Finset Nat} (h : S ⊆ S') (w : World) : charge S w ≤ charge S' w :=
  Nat.add_le_add_left (Finset.sum_le_sum_of_subset h) _

theorem onLive_pays {m : EStateM Exc World Reply} (hm : Pays (charge S) k m (fun _ => 0) fun _ => 0) :
    Pays (charge S) k (onLive r m) (fun _ => 0) fun _ => 0 := by
  refine Pays.get_bind fun w => PaysAt.ite (fun _ => ?_) fun _ => hm w
  exact PaysAt.throw (Nat.zero_le k)

theorem onOpen_pays {m : EStateM Exc World Reply} {message : String}
    (hm : PaysAt (charge S) w k m (fun _ => 0) fun _ => 0) :
    PaysAt (charge S) w k (onOpen message m) (fun _ => 0) fun _ => 0 := by
  refine PaysAt.get_bind (PaysAt.ite (fun _ => ?_) fun _ => hm)
  exact PaysAt.throw (Nat.zero_le k)

theorem ended_free {β : Type} {m : EStateM Exc MYSQL β} (hm : Free MYSQL.executed m) (message : String) :
    Free Shared.executed (do
      if ← DbConnection.is_transacting then do
        DbConnection.check_connection
        let _ ← onMysql m
        DbConnection.set_transacting false
      else
        throw (.stop message)) := by
  apply (Free.get_bind fun _ => Free.pure _).bind
  intro transacting
  apply Free.ite
  · refine DbConnection.check_connection_free.bind fun _ => (onMysql_pays hm).bind fun _ => ?_
    exact Free.modify fun _ => Nat.le_refl _
  · exact Free.throw _

-- One call executes what it asks for, or what an earlier call asked for a result that it works on.
theorem call_pays (S : Finset Nat) (op : Op)
    (hparts : ∀ t sql, (srv.query t sql).statements.length ≤ parts sql) (htyped : op.FirstTyped) :
    ∃ S', S ⊆ S' ∧ PaysAt (charge S') w (asked parts op) (call srv op) (fun _ => 0) fun _ => 0 := by
  cases op with
  | create sql is_statement immediate =>
      refine ⟨insert w.next_result (S ∪ w.conn.pCurrentResult_.toFinset), ?_, onOpen_pays (PaysAt.map ?_)⟩
      · exact Finset.subset_union_left.trans (Finset.subset_insert _ _)
      · refine create_pays is_statement immediate (fun t => hparts t sql) (Finset.mem_insert_self _ _) ?_
        intro r hr
        exact Finset.mem_insert_of_mem (Finset.mem_union_right _ (Option.mem_toFinset.mpr hr))
  | release r =>
      refine ⟨insert r S, Finset.subset_insert r S, PaysAt.get_bind ?_⟩
      have hend : Free (charge (insert r S)) (pure .done : EStateM Exc World Reply) := Free.pure _
      exact PaysAt.ite (fun _ => (destroy_free (Finset.mem_insert_self r S) w).bind fun _ => hend)
        fun _ => (Free.pure () w).bind fun _ => hend
  | bind r params =>
      refine ⟨insert r S, Finset.subset_insert r S, onLive_pays (fun w => ?_) w⟩
      exact PaysAt.bind (onResult_pays (Finset.mem_insert_self r S) (bind_pays htyped)
        fun _ => Nat.zero_le _) fun _ => Free.pure _
  | fetch r n fuel =>
      refine ⟨insert r S, Finset.subset_insert r S, onLive_pays (Free.map ?_ _) w⟩
      exact onResult_free (Finset.mem_insert_self r S) (fetch_free r fuel n)
  | has_completed r =>
      refine ⟨insert r S, Finset.subset_insert r S, onLive_pays ?_ w⟩
      exact onResult_free (Finset.mem_insert_self r S) (Free.get_bind fun _ => Free.pure _)
  | rows_fetched r =>
      refine ⟨insert r S, Finset.subset_insert r S, onLive_pays (Free.map ?_ _) w⟩
      exact onResult_free (Finset.mem_insert_self r S)
        (onImpl_read_free (fun p => .ok p.n_rows_fetched) (0 : ℤ))
  | rows_affected r =>
      refine ⟨insert r S, Finset.subset_insert r S, onLive_pays (Free.map ?_ _) w⟩
      exact onResult_free (Finset.mem_insert_self r S)
        (onImpl_read_free (fun p => .ok p.n_rows_affected) (0 : ℤ))
  | column_info r =>
      refine ⟨insert r S, Finset.subset_insert r S, onLive_pays (Free.map ?_ _) w⟩
      exact onResult_free (Finset.mem_insert_self r S) (onImpl_read_free _ ([] : List (String × String)))
  | valid r => exact ⟨S, Finset.Subset.refl S, PaysAt.get_bind (Free.pure _ w)⟩
  | begin_transaction =>
      refine ⟨S, Finset.Subset.refl S, onOpen_pays (PaysAt.bind (onConnection_pays ?_ w) fun _ => Free.pure _)⟩
      apply Free.bind (Free.get_bind fun _ => Free.pure _)
      intro transacting
      refine Free.ite (Free.throw _) (DbConnection.check_connection_free.bind fun _ => Free.modify fun _ => ?_)
      exact Nat.le_refl _
  | commit =>
      have hcommit : Free MYSQL.executed (mysql_commit srv) := mysql_end_free fun _ => by rfl
      refine ⟨S, Finset.Subset.refl S, onOpen_pays (PaysAt.bind (onConnection_pays ?_ w) fun _ => Free.pure _)⟩
      exact ended_free hcommit _
  | rollback =>
      have hrollback : Free MYSQL.executed (mysql_rollback srv) := mysql_end_free fun _ => by rfl
      refine ⟨S, Finset.Subset.refl S, onOpen_pays (PaysAt.bind (onConnection_pays ?_ w) fun _ => Free.pure _)⟩
      exact ended_free hrollback _
  | is_transacting =>
      refine ⟨S, Finset.Subset.refl S, onOpen_pays (PaysAt.map (onConnection_pays ?_ w))⟩
      exact Free.get_bind fun _ => Free.pure _
  | disconnect =>
      refine ⟨S, Finset.Subset.refl S, PaysAt.get_bind ?_⟩
      have hend : Free (charge S) (pure .done : EStateM Exc World Reply) := Free.pure _
      refine PaysAt.ite (fun _ => PaysAt.bind (onConnection_pays (Free.modify fun _ => ?_) w) fun _ => hend)
        fun _ => PaysAt.bind (onConnection_pays DbConnection.disconnect_free w) fun _ => ?_
      · exact Nat.le_refl _
      · refine Free.bind (Free.modify fun _ => ?_) fun _ => hend
        exact Nat.le_refl _

theorem step_pays {op : Op} (hparts : ∀ t sql, (srv.query t sql).statements.length ≤ parts sql)
    (htyped : op.FirstTyped) (h : step srv op w = some w') (S : Finset Nat) :
    ∃ S', charge S w' ≤ charge S' w + asked parts op := by
  obtain ⟨S', hsubset, hcall⟩ := call_pays (w := w) S op hparts htyped
  have hpaid := hcall w rfl
  have hmono := charge_mono hsubset w'
  refine ⟨S', ?_⟩
  rw [step, after] at h
  cases hrun : (call srv op).run w with
  | ok reply t =>
      rw [hrun] at h hpaid
      cases h
      exact Nat.le_trans hmono hpaid
  | error e t =>
      rw [hrun] at h hpaid
      cases hends : e.Ends with
      | true => simp [hends] at h
      | false =>
          simp only [hends, Bool.false_eq_true, if_false, Option.some.injEq] at h
          subst h
          exact Nat.le_trans hmono hpaid

-- In every session, whatever fails in it and in whatever order results are used: what was executed,
-- together with what the results may still execute, is not more than what the calls asked for.
theorem executed_at_most_asked (hparts : ∀ t sql, (srv.query t sql).statements.length ≤ parts sql)
    {ops : List Op} (htyped : ∀ op ∈ ops, op.FirstTyped) (h : replay (step srv) ops {} = some w)
    (S : Finset Nat) :
    w.mysql.ledger.executed + ∑ r ∈ S, owed w.results r ≤ (ops.map (asked parts)).sum := by
  have hrun : ∃ S', charge S w ≤ charge S' {} + (ops.map (asked parts)).sum :=
    replay_pays (fun _ _ _ S hop hstep => step_pays hparts hop hstep S) htyped h S
  obtain ⟨S', hpaid⟩ := hrun
  have hstart : charge S' {} = 0 := by
    have hnone : ∀ r ∈ S', owed ({} : World).results r = 0 := fun r _ => rfl
    rw [charge, Finset.sum_eq_zero hnone]
    rfl
  rw [hstart, Nat.zero_add] at hpaid
  exact hpaid

-- A row of parameters is inserted, unless the server is full.
def inserts_two : Server := { Server.agreeable with
  prepare := fun _ _ => .ok { param_count := 1, fields := none }
  execute := fun t _ _ => if t < 4 then .ok { affected_rows := 1, dml := true } else .error ⟨"full", 1114⟩ }

def inserting : List Op := [.create "INSERT INTO t VALUES (?)" true false,
  .bind 0 [.INTSXP [] [1, 2, 3, 4]], .release 0]

-- The third row fails, and the last one is not sent.
theorem executed_at_most_asked_inserts : ∃ w : World, w.mysql.ledger.executed = 2 ∧
    w.mysql.ledger.executed + ∑ r ∈ {0}, owed w.results r ≤ (inserting.map (asked fun _ => 1)).sum := by
  have hrun : (replay (step inserts_two) inserting {}).map (·.mysql.ledger.executed) = some 2 := by
    decide +kernel
  obtain ⟨w, hreplay, hexecuted⟩ := Option.map_eq_some_iff.mp hrun
  refine ⟨w, hexecuted, executed_at_most_asked (fun _ _ => Nat.le_refl 1) ?_ hreplay {0}⟩
  intro op hop
  simp only [inserting, List.mem_cons, List.not_mem_nil, or_false] at hop
  obtain rfl | rfl | rfl := hop
  · exact trivial
  · rintro col hcol
    cases hcol
    exact ⟨_, rfl⟩
  · exact trivial

end Calls

end World

end RMariaDB
