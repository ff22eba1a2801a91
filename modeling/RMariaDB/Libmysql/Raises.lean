import RMariaDB.Libmysql.Effects

-- Which exceptions leave the calls, and what they do to the rows that are unread.

namespace RMariaDB

open Program

def MYSQL.unread (m : MYSQL) : Nat := m.reading.elim 0 fun x => x.2.length

-- What is said of the unread rows alone.
def OfReading (I : MYSQL → Prop) : Prop := ∀ m m' : MYSQL, m'.reading = m.reading → I m → I m'

theorem ofReading_unread (n : Nat) : OfReading fun m => m.unread ≤ n := by
  intro m m' h hm
  rwa [MYSQL.unread, h]

theorem ofReading_true : OfReading fun _ => True := fun _ _ _ => id

section Library

variable {I : MYSQL → Prop} {E : Exc → Prop} {srv : Server} {α : Type} {h : Option Nat}
  (hI : OfReading I) (hE : E (.fault .handle))

include hI

theorem count_call_raises : Safe I E count_call := Safe.modifyGet fun _ => hI _ _ rfl

theorem put_stmt_raises (k : Nat) (st : MYSQL_STMT) : Safe I E (put_stmt k st) :=
  Safe.modify fun _ => hI _ _ rfl

theorem fail_stmt_raises (k : Nat) (st : MYSQL_STMT) (f : Failure) (n : α) : Safe I E (do
    fail_stmt k st f
    pure n) := (put_stmt_raises hI _ _).bind fun _ => Safe.pure n

theorem mysql_stmt_init_raises : Safe I E (mysql_stmt_init srv) :=
  (count_call_raises hI).bind fun _ =>
    Safe.ite (fun _ => Safe.modifyGet fun _ => hI _ _ rfl) fun _ => Safe.pure _

omit hI

include hE

theorem deref_raises : Safe I E (deref h) := by
  intro m hm
  rcases deref_cases h m with hrun | ⟨k, st, -, hrun⟩
  · rw [hrun]
    exact ⟨hm, hE⟩
  · rw [hrun]
    exact hm

theorem mysql_stmt_errno_raises : Safe I E (mysql_stmt_errno h) :=
  (deref_raises hE).bind fun _ => Safe.pure _

theorem mysql_stmt_error_raises : Safe I E (mysql_stmt_error h) :=
  (deref_raises hE).bind fun _ => Safe.pure _

theorem mysql_stmt_param_count_raises : Safe I E (mysql_stmt_param_count h) :=
  (deref_raises hE).bind fun _ => Safe.pure _

theorem mysql_stmt_affected_rows_raises : Safe I E (mysql_stmt_affected_rows h) :=
  (deref_raises hE).bind fun _ => Safe.pure _

theorem mysql_fetch_fields_raises (res : MYSQL_RES) : Safe I E (mysql_fetch_fields res) :=
  Safe.get_bind fun _ _ => Safe.ite (fun _ => Safe.pure _) fun _ => Safe.throw hE

include hI

theorem mysql_free_result_raises (res : MYSQL_RES) : Safe I E (mysql_free_result res) :=
  Safe.get_bind fun _ hm =>
    Safe.ite (fun _ => Safe.set (hI _ _ (by rfl) hm)) fun _ => Safe.throw hE

theorem mysql_stmt_bind_param_raises (params : List Param) :
    Safe I E (mysql_stmt_bind_param h params) :=
  (deref_raises hE).bind fun _ => put_stmt_raises hI _ _

theorem mysql_stmt_prepare_raises (sql : String) : Safe I E (mysql_stmt_prepare srv h sql) := by
  apply (deref_raises hE).bind
  rintro ⟨k, st⟩
  apply (count_call_raises hI).bind
  intro t
  apply Safe.get_bind
  intro m _
  split
  · exact fail_stmt_raises hI _ _ _ _
  · exact fail_stmt_raises hI _ _ _ _
  · exact (put_stmt_raises hI _ _).bind fun _ => Safe.pure 0

theorem mysql_stmt_result_metadata_raises : Safe I E (mysql_stmt_result_metadata h) := by
  apply (deref_raises hE).bind
  rintro ⟨k, st⟩
  dsimp only
  split
  · exact Safe.pure none
  · exact Safe.modifyGet fun _ => hI _ _ rfl

theorem mysql_stmt_bind_result_raises (binds : List RESULT_BIND) :
    Safe I E (mysql_stmt_bind_result srv h binds) := by
  apply (deref_raises hE).bind
  rintro ⟨k, st⟩
  apply (count_call_raises hI).bind
  intro t
  split
  · exact fail_stmt_raises hI _ _ _ _
  · exact (put_stmt_raises hI _ _).bind fun _ => Safe.pure 0

theorem mysql_stmt_fetch_column_raises (j length : Nat) :
    Safe I E (mysql_stmt_fetch_column srv h j length) := by
  apply (deref_raises hE).bind
  rintro ⟨k, st⟩
  apply (count_call_raises hI).bind
  intro t
  split
  · exact fail_stmt_raises hI _ _ _ _
  · split
    · exact Safe.pure _
    · exact Safe.pure _

omit hI

-- An execution may leave any rows, and closing a statement discards them.
theorem mysql_stmt_execute_raises : Safe (fun _ => True) E (mysql_stmt_execute srv h) := by
  apply (deref_raises hE).bind
  rintro ⟨k, st⟩
  apply (count_call_raises ofReading_true).bind
  intro t
  apply Safe.get_bind
  intro m _
  split
  · exact fail_stmt_raises ofReading_true _ _ _ _
  · apply Safe.bind (Safe.modify fun _ _ => trivial)
    intro _
    split
    · exact fail_stmt_raises ofReading_true _ _ _ _
    · apply (put_stmt_raises ofReading_true _ _).bind
      exact fun _ => Safe.bind (Safe.modify fun _ _ => trivial) fun _ => Safe.pure 0

theorem mysql_stmt_close_raises : Safe (fun _ => True) E (mysql_stmt_close h) :=
  (deref_raises hE).bind fun _ => Safe.modify fun _ _ => trivial

def FetchResult.delivers (result : FetchResult) : Bool :=
  result = .ok ∨ result = .MYSQL_DATA_TRUNCATED

theorem mysql_stmt_fetch_raises : Safe (fun _ => True) E (mysql_stmt_fetch srv h) := by
  apply (deref_raises hE).bind
  rintro ⟨k, st⟩
  apply (count_call_raises ofReading_true).bind
  intro t
  apply Safe.get_bind
  intro m _
  split
  · exact fail_stmt_raises ofReading_true _ _ _ _
  · apply Safe.ite
    · exact fun _ => fail_stmt_raises ofReading_true _ _ _ _
    intro _
    split
    · exact fail_stmt_raises ofReading_true _ _ _ _
    · exact Safe.bind (Safe.modify fun _ _ => trivial) fun _ => Safe.pure _
    · apply (put_stmt_raises ofReading_true _ _).bind
      exact fun _ => Safe.bind (Safe.modify fun _ _ => trivial) fun _ =>
        Safe.ite (fun _ => Safe.pure _) fun _ => Safe.pure _

end Library

-- A row that is delivered was an unread one.
theorem mysql_stmt_fetch_reads {srv : Server} {h : Option Nat} {m m' : MYSQL} {result : FetchResult}
    (hrun : (mysql_stmt_fetch srv h).run m = .ok result m') :
    m'.unread + result.delivers.toNat ≤ m.unread := by
  rcases deref_cases h m with hderef | ⟨k, st, -, hderef⟩
  · rw [mysql_stmt_fetch, run_bind_error hderef] at hrun
    cases hrun
  rw [mysql_stmt_fetch, run_bind_ok hderef, run_bind_ok (count_call_run m), EStateM.run_bind,
    EStateM.run_get] at hrun
  cases hreading : m.reading with
  | none =>
      simp only [hreading] at hrun
      cases hrun
      simp [MYSQL.unread, hreading, FetchResult.delivers]
  | some x =>
      obtain ⟨k', rows⟩ := x
      simp only [hreading] at hrun
      by_cases hk : k' = k
      · rw [if_neg (not_not.mpr hk)] at hrun
        cases hfetch : srv.fetch m.tick with
        | error f =>
            simp only [hfetch] at hrun
            cases hrun
            simp [MYSQL.unread, hreading, FetchResult.delivers]
        | ok u =>
            cases rows with
            | nil =>
                simp only [hfetch] at hrun
                cases hrun
                simp [MYSQL.unread, hreading, FetchResult.delivers]
            | cons row rows =>
                have hone : result.delivers.toNat ≤ 1 := Bool.toNat_le _
                have hreads : m'.unread = rows.length := by
                  simp only [hfetch, EStateM.run_bind, put_stmt_run, EStateM.run_modify, run_ite,
                    EStateM.run_pure] at hrun
                  split at hrun
                  · cases hrun
                    rfl
                  · cases hrun
                    rfl
                rw [hreads, MYSQL.unread, hreading, Option.elim_some, List.length_cons]
                omega
      · rw [if_pos hk] at hrun
        cases hrun
        simp [MYSQL.unread, hreading, FetchResult.delivers]

end RMariaDB
