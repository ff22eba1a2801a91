import RMariaDB.Lib.Program
import RMariaDB.Libmysql

namespace RMariaDB

open Program

-- The outcomes that a query meets on this connection. While rows are unread the
-- client library refuses the command before it reaches the server.
def answered (srv : Server) (m : MYSQL) (sql : String) : Batch :=
  if m.busy then { first := .error outOfSync } else srv.query m.tick sql

@[simp] theorem count_call_run (m : MYSQL) :
    count_call.run m = .ok m.tick { m with tick := m.tick + 1 } := rfl

@[simp] theorem busy_tick (m : MYSQL) (n : Nat) : { m with tick := n }.busy = m.busy := rfl

theorem mysql_real_query_fails {srv : Server} {m : MYSQL} {sql : String} {f : Failure}
    (h : (answered srv m sql).first = .error f) :
    (mysql_real_query srv sql).run m = .ok 1 { m with tick := m.tick + 1, error := f.error } := by
  by_cases hbusy : m.busy
  · simp only [answered, hbusy, if_true, Except.error.injEq] at h
    simp [mysql_real_query, hbusy, h]
  · simp only [answered, hbusy, if_false, Bool.false_eq_true] at h
    simp [mysql_real_query, hbusy, h]

theorem mysql_real_query_succeeds {srv : Server} {m : MYSQL} {sql : String} {d : Done}
    (h : (answered srv m sql).first = .ok d) :
    (mysql_real_query srv sql).run m = .ok 0 { m with
      tick := m.tick + 1
      more := reported (answered srv m sql).later
      unstored := d.result
      ledger := run_batch m.ledger (answered srv m sql).statements } := by
  by_cases hbusy : m.busy
  · simp [answered, hbusy] at h
  · simp only [answered, hbusy, if_false, Bool.false_eq_true] at h
    simp [mysql_real_query, answered, hbusy, h]

-- COMMIT and ROLLBACK are refused while rows or results are unread.
def MYSQL.ends (srv : Server) (m : MYSQL) : Bool := !m.busy && srv.accepts m.tick

def MYSQL.after_end (srv : Server) (f : Ledger → Ledger) (m : MYSQL) : MYSQL :=
  { m with tick := m.tick + 1, ledger := if m.ends srv then f m.ledger else m.ledger }

theorem mysql_end_run (srv : Server) (f : Ledger → Ledger) (m : MYSQL) :
    (mysql_end srv f).run m = .ok (!m.ends srv) (m.after_end srv f) := by
  by_cases hbusy : m.busy
  · simp [mysql_end, MYSQL.ends, MYSQL.after_end, hbusy]
  · by_cases hacc : srv.accepts m.tick
    · simp [mysql_end, MYSQL.ends, MYSQL.after_end, hbusy, hacc]
    · simp [mysql_end, MYSQL.ends, MYSQL.after_end, hbusy, hacc]

section Statements

variable {srv : Server} {m : MYSQL} {k : Nat} {st : MYSQL_STMT}

-- What a call knows of an open statement.
theorem deref_run (hst : m.stmts k = some st) : (deref (some k)).run m = .ok (k, st) m := by
  simp [deref, hst]

theorem deref_cases (h : Option Nat) (m : MYSQL) : (deref h).run m = .error (.fault .handle) m ∨
    ∃ k st, (h = some k ∧ m.stmts k = some st) ∧ (deref h).run m = .ok (k, st) m := by
  cases h with
  | none => exact .inl rfl
  | some k =>
      cases hst : m.stmts k with
      | none => exact .inl (by simp [deref, hst])
      | some st => exact .inr ⟨k, st, ⟨rfl, hst⟩, deref_run hst⟩

@[simp] theorem put_stmt_run (k : Nat) (st : MYSQL_STMT) (m : MYSQL) :
    (put_stmt k st).run m = .ok () { m with stmts := Function.update m.stmts k (some st) } := rfl

-- Nothing of another statement is unread.
theorem refuses_none (hconnected : m.connected = true) (hmore : m.more = [])
    (hunstored : m.unstored = false)
    (hreading : m.reading = none ∨ ∃ rows, m.reading = some (k, rows)) : m.refuses k = none := by
  rcases hreading with hreading | ⟨rows, hreading⟩
  · simp [MYSQL.refuses, hconnected, hmore, hunstored, hreading]
  · simp [MYSQL.refuses, hconnected, hmore, hunstored, hreading]

theorem mysql_stmt_execute_run {r : Executed} (hst : m.stmts k = some st)
    (hrefuses : m.refuses k = none) (hsrv : srv.execute m.tick st.sql st.params = .ok r) :
    (mysql_stmt_execute srv (some k)).run m = .ok 0 { m with
      tick := m.tick + 1
      stmts := Function.update m.stmts k (some { st with
        fields := r.fields <|> st.fields, affected_rows := r.affected_rows })
      reading := r.rows.map (k, ·)
      ledger := if r.dml then m.ledger.run else m.ledger } := by
  have hrefuses' : MYSQL.refuses { m with tick := m.tick + 1 } k = none := hrefuses
  simp [mysql_stmt_execute, deref_run hst, hrefuses', hsrv]

theorem mysql_stmt_execute_cases (srv : Server) (hst : m.stmts k = some st) :
    (∃ m', (mysql_stmt_execute srv (some k)).run m = .ok 1 m') ∨
    ∃ r, srv.execute m.tick st.sql st.params = .ok r ∧ m.refuses k = none := by
  cases hrefuses : m.refuses k with
  | some f =>
      have hrefuses' : MYSQL.refuses { m with tick := m.tick + 1 } k = some f := hrefuses
      exact .inl ⟨_, by simp [mysql_stmt_execute, deref_run hst, hrefuses', fail_stmt]; rfl⟩
  | none =>
      have hrefuses' : MYSQL.refuses { m with tick := m.tick + 1 } k = none := hrefuses
      cases hsrv : srv.execute m.tick st.sql st.params with
      | error f =>
          exact .inl ⟨_, by simp [mysql_stmt_execute, deref_run hst, hrefuses', hsrv, fail_stmt]; rfl⟩
      | ok r => exact .inr ⟨r, rfl, rfl⟩

theorem mysql_stmt_fetch_column_run {j : Nat} (length : Nat) {b : Bytes} (hst : m.stmts k = some st)
    (hsrv : srv.fetch_column m.tick = .ok ()) (hrow : st.row[j]? = some (some (.bytes b))) :
    (mysql_stmt_fetch_column srv (some k) j length).run m =
      .ok (.ok (b.take length)) { m with tick := m.tick + 1 } := by
  simp [mysql_stmt_fetch_column, deref_run hst, hsrv, hrow]

-- The message of a failure is kept for mysql_stmt_error().
theorem mysql_stmt_fetch_column_error {f : Failure} (j length : Nat) (hst : m.stmts k = some st)
    (hsrv : srv.fetch_column m.tick = .error f) :
    ∃ m', (mysql_stmt_fetch_column srv (some k) j length).run m = .ok (.error ()) m' ∧
      (mysql_stmt_error (some k)).run m' = .ok f.error m' := by
  refine ⟨{ m with
    tick := m.tick + 1
    stmts := Function.update m.stmts k (some { st with error := f.error, errno := f.errno }) }, ?_, ?_⟩
  · simp [mysql_stmt_fetch_column, deref_run hst, hsrv, fail_stmt]
  · simp [mysql_stmt_error, deref]

-- A row that is there is delivered, truncated or not.
theorem mysql_stmt_fetch_run {row : Row} {rows : List Row} (hst : m.stmts k = some st)
    (hreading : m.reading = some (k, row :: rows)) (hsrv : srv.fetch m.tick = .ok ()) :
    ∃ result, (result = .ok ∨ result = .MYSQL_DATA_TRUNCATED) ∧
      (mysql_stmt_fetch srv (some k)).run m = .ok result { m with
        tick := m.tick + 1
        stmts := Function.update m.stmts k (some { st with row := row })
        reading := some (k, rows) } := by
  by_cases htruncated : (st.bind.zip row).any (fun c => c.1.truncates c.2) = true
  · refine ⟨.MYSQL_DATA_TRUNCATED, .inr rfl, ?_⟩
    simp only [mysql_stmt_fetch, EStateM.run_bind, deref_run hst, count_call_run, EStateM.run_get,
      hreading, hsrv, ne_eq, not_true_eq_false, if_false, put_stmt_run, EStateM.run_modify,
      htruncated, if_true, EStateM.run_pure]
  · refine ⟨.ok, .inl rfl, ?_⟩
    simp only [mysql_stmt_fetch, EStateM.run_bind, deref_run hst, count_call_run, EStateM.run_get,
      hreading, hsrv, ne_eq, not_true_eq_false, if_false, put_stmt_run, EStateM.run_modify,
      htruncated, Bool.false_eq_true, EStateM.run_pure]

theorem mysql_stmt_fetch_done (hst : m.stmts k = some st) (hreading : m.reading = some (k, []))
    (hsrv : srv.fetch m.tick = .ok ()) :
    (mysql_stmt_fetch srv (some k)).run m =
      .ok .MYSQL_NO_DATA { m with tick := m.tick + 1, reading := none } := by
  simp [mysql_stmt_fetch, deref_run hst, hreading, hsrv]

-- Without unread rows a fetch fails or finds the end.
theorem mysql_stmt_fetch_dry (srv : Server) (hst : m.stmts k = some st)
    (hdry : ∀ rows, m.reading = some (k, rows) → rows = []) :
    (∃ m', (mysql_stmt_fetch srv (some k)).run m = .ok .error m') ∨
    (mysql_stmt_fetch srv (some k)).run m =
      .ok .MYSQL_NO_DATA { m with tick := m.tick + 1, reading := none } := by
  cases hreading : m.reading with
  | none => exact .inl ⟨_, by simp [mysql_stmt_fetch, deref_run hst, hreading, fail_stmt]; rfl⟩
  | some reading =>
      obtain ⟨k', rows⟩ := reading
      by_cases hk : k' = k
      · subst hk
        obtain rfl := hdry rows hreading
        cases hsrv : srv.fetch m.tick with
        | error f =>
            exact .inl ⟨_, by simp [mysql_stmt_fetch, deref_run hst, hreading, hsrv, fail_stmt]; rfl⟩
        | ok u => exact .inr (mysql_stmt_fetch_done hst hreading hsrv)
      · exact .inl ⟨_, by simp [mysql_stmt_fetch, deref_run hst, hreading, hk, fail_stmt]; rfl⟩

theorem mysql_stmt_bind_result_ok {h : Option Nat} {binds : List RESULT_BIND} {m' : MYSQL}
    (hrun : (mysql_stmt_bind_result srv h binds).run m = .ok 0 m') :
    ∃ k st, h = some k ∧ m'.stmts k = some st ∧ st.bind = binds := by
  rcases deref_cases h m with hderef | ⟨k, st, ⟨rfl, hst⟩, hderef⟩
  · simp [mysql_stmt_bind_result, hderef] at hrun
  · cases hsrv : srv.bind_result m.tick with
    | error f => simp [mysql_stmt_bind_result, deref_run hst, hsrv, fail_stmt] at hrun
    | ok _ =>
        simp only [mysql_stmt_bind_result, EStateM.run_bind, hderef, count_call_run, hsrv, put_stmt_run,
          EStateM.run_pure] at hrun
        cases hrun
        exact ⟨k, _, rfl, Function.update_self .., rfl⟩

end Statements

end RMariaDB
