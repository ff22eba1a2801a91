import RMariaDB.Libmysql.Calls

-- What the calls on an open statement leave alone.

namespace RMariaDB

open Program

def IsOpen (m : MYSQL) (h : Option Nat) : Prop := ∃ k st, h = some k ∧ m.stmts k = some st

-- No handle is opened or closed, nothing is committed, and rows are left unread of open
-- statements only. `acquires` is whether metadata may have been acquired.
structure Touches (acquires : Bool) (m m' : MYSQL) : Prop where
  opened : ∀ k, (m'.stmts k).isSome = (m.stmts k).isSome
  metas : acquires = false → m'.metas = m.metas
  ledger : Ledger.Steps true m.ledger m'.ledger
  connected : m'.connected = m.connected
  more : m'.more = m.more
  unstored : m'.unstored = m.unstored
  reading : ∀ k rows, m'.reading = some (k, rows) →
    (m.stmts k).isSome ∨ ∃ rows', m.reading = some (k, rows')

section Touches

variable {a : Bool} {m₀ m m' : MYSQL}

theorem Touches.refl (m : MYSQL) : Touches a m m :=
  ⟨fun _ => rfl, fun _ => rfl, Ledger.Steps.refl _, rfl, rfl, rfl, fun _ rows h => .inr ⟨rows, h⟩⟩

theorem Touches.trans (h : Touches a m₀ m) (h' : Touches a m m') : Touches a m₀ m' := by
  refine ⟨fun k => (h'.opened k).trans (h.opened k), fun ha => (h'.metas ha).trans (h.metas ha),
    h.ledger.trans h'.ledger, h'.connected.trans h.connected, h'.more.trans h.more,
    h'.unstored.trans h.unstored, fun k rows hrows => ?_⟩
  rcases h'.reading k rows hrows with hk | ⟨rows', hrows'⟩
  · exact .inl (h.opened k ▸ hk)
  · exact h.reading k rows' hrows'

theorem Touches.weaken (h : Touches false m m') : Touches a m m' :=
  ⟨h.opened, fun _ => h.metas rfl, h.ledger, h.connected, h.more, h.unstored, h.reading⟩

theorem Touches.isOpen {x : Option Nat} (h : Touches a m m') (hx : IsOpen m x) : IsOpen m' x := by
  obtain ⟨k, st, rfl, hst⟩ := hx
  have hk := h.opened k
  rw [hst, Option.isSome_some, Option.isSome_iff_exists] at hk
  obtain ⟨st', hst'⟩ := hk
  exact ⟨k, st', rfl, hst'⟩

-- Only the last error and the time change, or nothing.
theorem Touches.same (h : Touches a m₀ m) (hstmts : m'.stmts = m.stmts) (hmetas : m'.metas = m.metas)
    (hledger : m'.ledger = m.ledger) (hconnected : m'.connected = m.connected)
    (hmore : m'.more = m.more) (hunstored : m'.unstored = m.unstored)
    (hreading : m'.reading = m.reading) : Touches a m₀ m' := by
  refine h.trans ⟨fun k => by rw [hstmts], fun _ => hmetas, ?_, hconnected, hmore, hunstored, ?_⟩
  · rw [hledger]
    exact Ledger.Steps.refl _
  · intro k rows hrows
    exact .inr ⟨rows, hreading ▸ hrows⟩

theorem Touches.put {k : Nat} (h : Touches a m₀ m) (hk : (m₀.stmts k).isSome) (st : MYSQL_STMT) :
    Touches a m₀ { m with stmts := Function.update m.stmts k (some st) } := by
  refine ⟨fun k' => ?_, h.metas, h.ledger, h.connected, h.more, h.unstored, h.reading⟩
  by_cases hk' : k' = k
  · subst hk'
    rw [hk]
    change (Function.update m.stmts k' (some st) k').isSome = true
    rw [Function.update_self]
    rfl
  · change (Function.update m.stmts k (some st) k').isSome = (m₀.stmts k').isSome
    rw [Function.update_of_ne hk']
    exact h.opened k'

theorem Touches.reads {k : Nat} (h : Touches a m₀ m) (hk : (m₀.stmts k).isSome)
    (rows : Option (List Row)) : Touches a m₀ { m with reading := rows.map (k, ·) } := by
  refine ⟨h.opened, h.metas, h.ledger, h.connected, h.more, h.unstored, fun k' rows' hrows => ?_⟩
  cases rows with
  | none => cases hrows
  | some rows =>
      cases hrows
      exact .inl hk

theorem Touches.run (h : Touches a m₀ m) : Touches a m₀ { m with ledger := m.ledger.run } :=
  ⟨h.opened, h.metas, h.ledger.run, h.connected, h.more, h.unstored, h.reading⟩

end Touches

section Safe

variable {α : Type} {m₀ : MYSQL} {E : Exc → Prop} {k : Nat}

theorem count_call_safe : Safe (Touches false m₀) E count_call :=
  Safe.modifyGet fun _ hm => hm.same rfl rfl rfl rfl rfl rfl rfl

theorem put_stmt_safe (hk : (m₀.stmts k).isSome) (st : MYSQL_STMT) :
    Safe (Touches false m₀) E (put_stmt k st) := Safe.modify fun _ hm => hm.put hk st

theorem failed_safe (hk : (m₀.stmts k).isSome) (st : MYSQL_STMT) (f : Failure) (a : α) :
    Safe (Touches false m₀) E (do fail_stmt k st f; pure a) :=
  (put_stmt_safe hk _).bind fun _ => Safe.pure a

theorem reading_safe (hk : (m₀.stmts k).isSome) (rows : Option (List Row)) :
    Safe (Touches false m₀) E (modify fun m => { m with reading := rows.map (k, ·) }) :=
  Safe.modify fun _ hm => hm.reads hk rows

end Safe

-- A call on the handle h opens and closes nothing, and faults only if the handle is not open.
def Calls (h : Option Nat) {α : Type} (f : EStateM Exc MYSQL α) : Prop :=
  ∀ m₀, Safe (Touches false m₀) (fun e => e = .fault .handle → ¬IsOpen m₀ h) f

section Statements

variable {srv : Server} {h : Option Nat} {α β : Type}

theorem Calls.pure (a : α) : Calls h (pure a) := fun _ => Safe.pure a

theorem Calls.bind {m : EStateM Exc MYSQL α} {f : α → EStateM Exc MYSQL β} (hm : Calls h m)
    (hf : ∀ a, Calls h (f a)) : Calls h (m >>= f) := fun m₀ => (hm m₀).bind fun a => hf a m₀

theorem Calls.ite {c : Prop} [Decidable c] {m n : EStateM Exc MYSQL α} (hm : Calls h m)
    (hn : Calls h n) : Calls h (if c then m else n) :=
  fun m₀ => Safe.ite (fun _ => hm m₀) fun _ => hn m₀

theorem Calls.throw {e : Exc} (he : e ≠ .fault .handle) :
    Calls h (throw e : EStateM Exc MYSQL α) := fun _ => Safe.throw fun h => absurd h he

theorem count_call_calls : Calls h count_call := fun _ => count_call_safe

-- A call goes on only with a statement that is open.
theorem Calls.deref {f : Nat × MYSQL_STMT → EStateM Exc MYSQL α}
    (hf : ∀ k st m₀, (m₀.stmts k).isSome →
      Safe (Touches false m₀) (fun e => e = .fault .handle → ¬IsOpen m₀ h) (f (k, st))) :
    Calls h (deref h >>= f) := by
  intro m₀ m hm
  rcases deref_cases h m with hrun | ⟨k, st, ⟨rfl, hst⟩, hrun⟩
  · rw [run_bind_error hrun]
    refine ⟨hm, fun _ hopen => ?_⟩
    obtain ⟨k, st, rfl, hst⟩ := hm.isOpen hopen
    rw [deref_run hst] at hrun
    cases hrun
  · rw [run_bind_ok hrun]
    refine hf k st m₀ ?_ m hm
    rw [← hm.opened k, hst]
    rfl

theorem deref_calls : Calls h (deref h) := by
  rw [← bind_pure (deref h)]
  exact Calls.deref fun _ _ _ _ => Safe.pure _

theorem mysql_stmt_prepare_calls (sql : String) : Calls h (mysql_stmt_prepare srv h sql) := by
  refine Calls.deref fun k st m₀ hk => count_call_safe.bind fun t => Safe.get_bind fun m _ => ?_
  split
  · exact failed_safe hk _ _ _
  · exact failed_safe hk _ _ _
  · exact (put_stmt_safe hk _).bind fun _ => Safe.pure 0

theorem mysql_stmt_errno_calls : Calls h (mysql_stmt_errno h) :=
  Calls.deref fun _ _ _ _ => Safe.pure _

theorem mysql_stmt_error_calls : Calls h (mysql_stmt_error h) :=
  Calls.deref fun _ _ _ _ => Safe.pure _

theorem mysql_stmt_param_count_calls : Calls h (mysql_stmt_param_count h) :=
  Calls.deref fun _ _ _ _ => Safe.pure _

theorem mysql_stmt_affected_rows_calls : Calls h (mysql_stmt_affected_rows h) :=
  Calls.deref fun _ _ _ _ => Safe.pure _

theorem mysql_stmt_bind_param_calls (params : List Param) :
    Calls h (mysql_stmt_bind_param h params) :=
  Calls.deref fun _ _ _ hk => put_stmt_safe hk _

theorem mysql_stmt_bind_result_calls (binds : List RESULT_BIND) :
    Calls h (mysql_stmt_bind_result srv h binds) := by
  refine Calls.deref fun k st m₀ hk => count_call_safe.bind fun t => ?_
  split
  · exact failed_safe hk _ _ _
  · exact (put_stmt_safe hk _).bind fun _ => Safe.pure 0

theorem mysql_stmt_execute_calls : Calls h (mysql_stmt_execute srv h) := by
  refine Calls.deref fun k st m₀ hk => count_call_safe.bind fun t => Safe.get_bind fun m _ => ?_
  split
  · exact failed_safe hk _ _ _
  · refine Safe.bind (reading_safe hk none) fun _ => ?_
    split
    · exact failed_safe hk _ _ _
    · rename_i r _
      refine (put_stmt_safe hk _).bind fun _ => Safe.bind (Safe.modify fun m hm => ?_) fun _ =>
        Safe.pure 0
      have hreads := hm.reads hk r.rows
      by_cases hdml : r.dml = true
      · simp only [hdml, if_true]
        exact hreads.run
      · simp only [hdml, if_false, Bool.false_eq_true]
        exact hreads

theorem mysql_stmt_fetch_calls : Calls h (mysql_stmt_fetch srv h) := by
  refine Calls.deref fun k st m₀ hk => count_call_safe.bind fun t => Safe.get_bind fun m _ => ?_
  split
  · exact failed_safe hk _ _ _
  · refine Safe.ite (fun _ => failed_safe hk _ _ _) fun _ => ?_
    split
    · exact failed_safe hk _ _ _
    · exact Safe.bind (reading_safe hk none) fun _ => Safe.pure _
    · exact (put_stmt_safe hk _).bind fun _ => Safe.bind (reading_safe hk (some _)) fun _ =>
        Safe.ite (fun _ => Safe.pure _) fun _ => Safe.pure _

theorem mysql_stmt_fetch_column_calls (j length : Nat) :
    Calls h (mysql_stmt_fetch_column srv h j length) := by
  refine Calls.deref fun k st m₀ hk => count_call_safe.bind fun t => ?_
  split
  · exact failed_safe hk _ _ _
  · split
    · exact Safe.pure _
    · exact Safe.pure _

end Statements

section Metadata

variable {h : Option Nat} {m m' : MYSQL}

-- Metadata, if there is some, is acquired on top of what is held.
theorem mysql_stmt_result_metadata_run (hopen : IsOpen m h) : ∃ spec m',
    (mysql_stmt_result_metadata h).run m = .ok spec m' ∧ Touches true m m' ∧
      m'.metas = (spec.map MYSQL_RES.id).toList ++ m.metas := by
  obtain ⟨k, st, rfl, hst⟩ := hopen
  cases hfields : st.fields with
  | none =>
      refine ⟨none, m, ?_, Touches.refl m, rfl⟩
      simp [mysql_stmt_result_metadata, deref_run hst, hfields]
  | some fields =>
      refine ⟨some ⟨m.next_meta, fields⟩,
        { m with metas := m.next_meta :: m.metas, next_meta := m.next_meta + 1 }, ?_, ?_, rfl⟩
      · simp [mysql_stmt_result_metadata, deref_run hst, hfields]
      · exact ⟨fun _ => rfl, fun ha => (by cases ha), Ledger.Steps.refl _, rfl, rfl, rfl,
          fun _ rows hrows => .inr ⟨rows, hrows⟩⟩

theorem mysql_stmt_result_metadata_closed (hclosed : ¬IsOpen m h) :
    (mysql_stmt_result_metadata h).run m = .error (.fault .handle) m := by
  rcases deref_cases h m with hrun | ⟨k, st, hk, -⟩
  · rw [mysql_stmt_result_metadata, run_bind_error hrun]
  · exact absurd ⟨k, st, hk⟩ hclosed

end Metadata

end RMariaDB
