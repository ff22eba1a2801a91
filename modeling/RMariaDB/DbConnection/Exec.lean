import RMariaDB.DbConnection
import RMariaDB.Libmysql.Calls

namespace RMariaDB.DbConnection

open Program

variable {srv : Server}

-- Every result of the batch has been read.
def Drained (s : Shared) : Prop := s.mysql.more = [] ∧ s.mysql.unstored = false

-- Draining touches nothing but the results themselves.
def SameBut (s t : Shared) : Prop :=
  t.conn = s.conn ∧ t.mysql.ledger = s.mysql.ledger ∧ t.mysql.reading = s.mysql.reading ∧
    t.mysql.tick = s.mysql.tick

-- Each round takes one result off the list. The bound is its length and one
-- more round, in which there is no further result.
theorem exec_loop_drains (fuel : Nat) (s : Shared) (hfuel : s.mysql.more.length < fuel) :
    ∃ t, (exec_loop fuel).run s = .ok () t ∧ Drained t ∧ SameBut s t := by
  induction fuel generalizing s with
  | zero => omega
  | succ fuel ih =>
      cases hmore : s.mysql.more with
      | nil =>
          refine ⟨{ s with mysql.unstored := false }, ?_, ⟨hmore, rfl⟩, rfl, rfl, rfl, rfl⟩
          simp [exec_loop, onMysql, mysql_store_result, mysql_next_result, hmore]
      | cons result rest =>
          cases result with
          | error f =>
              refine ⟨{ s with mysql.unstored := false, mysql.more := [], mysql.error := f.error },
                ?_, ⟨rfl, rfl⟩, rfl, rfl, rfl, rfl⟩
              simp [exec_loop, onMysql, mysql_store_result, mysql_next_result, hmore]
          | ok d =>
              obtain ⟨t, hr, hd, hs⟩ :=
                ih { s with mysql.unstored := d.result, mysql.more := rest }
                  (by simp only [hmore, List.length_cons] at hfuel ⊢; omega)
              refine ⟨t, ?_, hd, hs⟩
              simpa [exec_loop, onMysql, mysql_store_result, mysql_next_result, hmore] using hr

-- COMMIT is sent when no transaction is open.
def autocommitted (srv : Server) (s : Shared) : Shared :=
  if !s.conn.transacting_ && s.conn.pConn_ then
    { s with mysql := s.mysql.after_end srv Ledger.commit }
  else s

variable (srv) in
theorem autocommit_run (s : Shared) : (autocommit srv).run s = .ok () (autocommitted srv s) := by
  by_cases hopen : !s.conn.transacting_ && s.conn.pConn_
  · simp only [autocommit, EStateM.run_bind, EStateM.run_get, hopen, if_true, onMysql, run_zoom,
      mysql_commit, mysql_end_run, EStateM.run_pure, autocommitted]
  · simp only [autocommit, EStateM.run_bind, EStateM.run_get, hopen, if_false, EStateM.run_pure,
      Bool.false_eq_true, autocommitted]

-- A COMMIT reads no result, whatever comes of it.
theorem autocommitted_drained {s : Shared} (hs : Drained s) : Drained (autocommitted srv s) := by
  unfold autocommitted
  split
  · exact hs
  · exact hs

theorem exec_first_fails {sql : String} {s : Shared} {f : Failure}
    (hconn : s.conn.pConn_ = true) (hf : (answered srv s.mysql sql).first = .error f) :
    (exec srv sql).run s = .error (.stop ("Error executing query: " ++ f.error))
      { s with mysql.tick := s.mysql.tick + 1, mysql.error := f.error } := by
  simp [exec, check_connection, is_valid, hconn, onMysql, mysql_real_query_fails hf]

-- Once the first statement has succeeded nothing later makes the source fail.
theorem exec_first_succeeds {sql : String} {s : Shared} {d : Done} (hconn : s.conn.pConn_ = true)
    (hd : (answered srv s.mysql sql).first = .ok d) :
    ∃ v, (exec srv sql).run s = .ok true (autocommitted srv v) ∧ Drained v ∧ v.conn = s.conn ∧
      v.mysql.reading = s.mysql.reading := by
  let u : Shared := { s with
    mysql.tick := s.mysql.tick + 1
    mysql.more := reported (answered srv s.mysql sql).later
    mysql.unstored := d.result
    mysql.ledger := run_batch s.mysql.ledger (answered srv s.mysql sql).statements }
  obtain ⟨v, hv, hdrained, hsame, -, hreading, -⟩ :=
    exec_loop_drains (u.mysql.more.length + 1) u (by omega)
  refine ⟨v, ?_, hdrained, hsame, hreading⟩
  have hquery : (onMysql (mysql_real_query srv sql)).run s = .ok 0 u := by
    simp only [onMysql, run_zoom, mysql_real_query_succeeds hd, u]
  simp only [exec, check_connection, is_valid, EStateM.run_bind, EStateM.run_get, EStateM.run_pure,
    hconn, if_true, hquery, ne_eq, not_true_eq_false, if_false, hv, autocommit_run]

theorem exec_closed {sql : String} {s : Shared} (hconn : ¬s.conn.pConn_ = true) :
    (exec srv sql).run s = .error (.stop "Invalid or closed connection") s := by
  simp [exec, check_connection, is_valid, hconn]

-- The source returns, with every result read, if and only if every statement of
-- the batch succeeded, and it raises an error if one of them failed.
def Reports (batch : Batch) (r : EStateM.Result Exc Shared Bool) : Prop :=
  ((∃ t, r = .ok true t ∧ Drained t) ↔ ∀ x ∈ batch.statements, x.isOk) ∧
    ((∃ x ∈ batch.statements, ¬x.isOk) → ∃ message t, r = .error (.stop message) t)

-- The first statement succeeded and a later one did not.
def LaterFails (batch : Batch) : Prop := batch.first.isOk ∧ ∃ x ∈ batch.later, ¬x.isOk

theorem exec_reports_iff (srv : Server) (sql : String) (s : Shared) (hconn : s.conn.pConn_ = true) :
    Reports (answered srv s.mysql sql) ((exec srv sql).run s) ↔
      ¬LaterFails (answered srv s.mysql sql) := by
  cases hfirst : (answered srv s.mysql sql).first with
  | error f =>
      have hrun := exec_first_fails hconn hfirst
      have hfails : ¬∀ x ∈ (answered srv s.mysql sql).statements, x.isOk := by
        intro h
        have h : (answered srv s.mysql sql).first.isOk := h _ (List.mem_cons_self ..)
        rw [hfirst] at h
        cases h
      have hlater : ¬LaterFails (answered srv s.mysql sql) := by
        rintro ⟨h, -⟩
        rw [hfirst] at h
        cases h
      refine iff_of_true ⟨iff_of_false ?_ hfails, fun _ => ⟨_, _, hrun⟩⟩ hlater
      rintro ⟨t, ht, -⟩
      rw [hrun] at ht
      cases ht
  | ok d =>
      obtain ⟨v, hrun, hv, -⟩ := exec_first_succeeds hconn hfirst
      have hdrained : Drained (autocommitted srv v) := autocommitted_drained hv
      have hok : (answered srv s.mysql sql).first.isOk := by rw [hfirst]; rfl
      have hreturns : ∃ t, (exec srv sql).run s = .ok true t ∧ Drained t := ⟨_, hrun, hdrained⟩
      constructor
      · rintro ⟨hiff, -⟩ ⟨-, x, hx, hfail⟩
        exact hfail (hiff.mp hreturns x (List.mem_cons_of_mem _ hx))
      · intro hlater
        have hall : ∀ x ∈ (answered srv s.mysql sql).statements, x.isOk := by
          intro x hx
          rcases List.mem_cons.mp hx with rfl | hx
          · exact hok
          · by_contra hfail
            exact hlater ⟨hok, x, hx, hfail⟩
        refine ⟨iff_of_true hreturns hall, ?_⟩
        rintro ⟨x, hx, hfail⟩
        exact absurd (hall x hx) hfail

-- INSERT ...; SELEC 1
def later_syntax_error : Server := { Server.agreeable with
  query := fun _ _ => {
    first := .ok { dml := true }
    later := [.error ⟨"You have an error in your SQL syntax", 1064⟩] } }

theorem exec_swallows_later_failure :
    ¬Reports (answered later_syntax_error {} "INSERT INTO t VALUES (1); SELEC 1")
      ((exec later_syntax_error "INSERT INTO t VALUES (1); SELEC 1").run {}) := by
  rintro ⟨hiff, -⟩
  have hall := hiff.mp ⟨_, rfl, rfl, rfl⟩
  revert hall
  decide

-- Two statements that both succeed.
def two_inserts : Server := { Server.agreeable with
  query := fun _ _ => { first := .ok { dml := true }, later := [.ok { dml := true }] } }

theorem exec_reports_iff_two_inserts :
    Reports (answered two_inserts {} "INSERT INTO t VALUES (1); INSERT INTO t VALUES (2)")
        ((exec two_inserts "INSERT INTO t VALUES (1); INSERT INTO t VALUES (2)").run {}) ↔
      ¬LaterFails (answered two_inserts {} "INSERT INTO t VALUES (1); INSERT INTO t VALUES (2)") :=
  exec_reports_iff two_inserts "INSERT INTO t VALUES (1); INSERT INTO t VALUES (2)" {} rfl

-- Whatever the batch, the loop comes to its end.
theorem exec_terminates (srv : Server) (sql : String) (s : Shared) (t : Shared) :
    (exec srv sql).run s ≠ .error .outOfFuel t := by
  intro h
  by_cases hconn : s.conn.pConn_ = true
  · cases hfirst : (answered srv s.mysql sql).first with
    | error f =>
        rw [exec_first_fails hconn hfirst] at h
        cases h
    | ok d =>
        obtain ⟨u, hu, -⟩ := exec_first_succeeds hconn hfirst
        rw [hu] at h
        cases h
  · rw [exec_closed hconn] at h
    cases h

end RMariaDB.DbConnection
