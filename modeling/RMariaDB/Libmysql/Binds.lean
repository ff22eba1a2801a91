import RMariaDB.Libmysql.Calls

-- The buffers that are bound for the results of the statements.

namespace RMariaDB

open Program

variable {α β : Type}

def SameBinds (m m' : MYSQL) : Prop :=
  ∀ k, (m'.stmts k).map MYSQL_STMT.bind = (m.stmts k).map MYSQL_STMT.bind

theorem SameBinds.refl (m : MYSQL) : SameBinds m m := fun _ => rfl

theorem SameBinds.put {m₀ m : MYSQL} (hm : SameBinds m₀ m) {k : Nat} {st st' : MYSQL_STMT}
    (hst : m.stmts k = some st) (hbind : st'.bind = st.bind) :
    SameBinds m₀ { m with stmts := Function.update m.stmts k (some st') } := by
  intro k'
  refine Eq.trans ?_ (hm k')
  change (Function.update m.stmts k (some st') k').map _ = _
  by_cases hk : k' = k
  · subst hk
    rw [Function.update_self, hst, Option.map_some, Option.map_some, hbind]
  · rw [Function.update_of_ne hk]

theorem SameBinds.get {m m' : MYSQL} (h : SameBinds m m') {k : Nat} {st : MYSQL_STMT}
    (hst : m.stmts k = some st) : ∃ st', m'.stmts k = some st' ∧ st'.bind = st.bind := by
  have hk := h k
  rw [hst, Option.map_some] at hk
  obtain ⟨st', hst', hbind⟩ := Option.map_eq_some_iff.mp hk
  exact ⟨st', hst', hbind⟩

-- A call that binds no buffers.
def LeavesBinds (f : EStateM Exc MYSQL α) : Prop := ∀ m₀, Safe (SameBinds m₀) (fun _ => True) f

-- The same for a call that works on the statement k.
def LeavesBindsOf (k : Nat) (st : MYSQL_STMT) (f : EStateM Exc MYSQL α) : Prop :=
  ∀ m₀, Spec (fun m => SameBinds m₀ m ∧ m.stmts k = some st) f (fun _ => SameBinds m₀)
    fun _ m => SameBinds m₀ m ∧ True

section Rules

variable {srv : Server} {h : Option Nat} {k : Nat} {st st' : MYSQL_STMT}

theorem LeavesBindsOf.pure (a : α) : LeavesBindsOf k st (pure a) := fun _ _ hm => hm.1

theorem LeavesBindsOf.ite {c : Prop} [Decidable c] {f g : EStateM Exc MYSQL α}
    (hf : LeavesBindsOf k st f) (hg : LeavesBindsOf k st g) :
    LeavesBindsOf k st (if c then f else g) :=
  fun m₀ => Spec.ite (fun _ => hf m₀) fun _ => hg m₀

theorem LeavesBindsOf.get_bind {f : MYSQL → EStateM Exc MYSQL α}
    (hf : ∀ m, LeavesBindsOf k st (f m)) : LeavesBindsOf k st (get >>= f) :=
  fun m₀ s hs => hf s m₀ s hs

theorem LeavesBindsOf.count {f : Nat → EStateM Exc MYSQL α} (hf : ∀ t, LeavesBindsOf k st (f t)) :
    LeavesBindsOf k st (count_call >>= f) :=
  fun m₀ m hm => hf m.tick m₀ { m with tick := m.tick + 1 } hm

-- Something else than a statement is changed.
theorem LeavesBindsOf.modify {g : MYSQL → MYSQL} (hg : ∀ m, (g m).stmts = m.stmts)
    {f : PUnit → EStateM Exc MYSQL α} (hf : ∀ u, LeavesBindsOf k st (f u)) :
    LeavesBindsOf k st (modify g >>= f) := by
  intro m₀ m hm
  refine hf ⟨⟩ m₀ (g m) ⟨fun k' => ?_, by rw [hg, hm.2]⟩
  rw [hg]
  exact hm.1 k'

theorem LeavesBindsOf.put (hbind : st'.bind = st.bind) {f : Unit → EStateM Exc MYSQL α}
    (hf : ∀ u, LeavesBindsOf k st' (f u)) : LeavesBindsOf k st (put_stmt k st' >>= f) :=
  fun m₀ _ hm => hf () m₀ _ ⟨hm.1.put hm.2 hbind, Function.update_self ..⟩

theorem LeavesBindsOf.failed (f : Failure) (a : α) :
    LeavesBindsOf k st (do fail_stmt k st f; Pure.pure a) := by
  rw [fail_stmt]
  exact LeavesBindsOf.put (by rfl) fun _ => LeavesBindsOf.pure a

theorem LeavesBinds.deref {f : Nat × MYSQL_STMT → EStateM Exc MYSQL α}
    (hf : ∀ k st, LeavesBindsOf k st (f (k, st))) : LeavesBinds (deref h >>= f) := by
  intro m₀ m hm
  rcases deref_cases h m with hrun | ⟨k, st, ⟨rfl, hst⟩, hrun⟩
  · rw [run_bind_error hrun]
    exact ⟨hm, trivial⟩
  · rw [run_bind_ok hrun]
    exact hf k st m₀ m ⟨hm, hst⟩

end Rules

section Statements

variable {srv : Server} {h : Option Nat}

theorem deref_binds : LeavesBinds (deref h) := by
  rw [← bind_pure (deref h)]
  exact LeavesBinds.deref fun _ _ => LeavesBindsOf.pure _

theorem mysql_stmt_param_count_binds : LeavesBinds (mysql_stmt_param_count h) :=
  LeavesBinds.deref fun _ _ => LeavesBindsOf.pure _

theorem mysql_stmt_error_binds : LeavesBinds (mysql_stmt_error h) :=
  LeavesBinds.deref fun _ _ => LeavesBindsOf.pure _

theorem mysql_stmt_affected_rows_binds : LeavesBinds (mysql_stmt_affected_rows h) :=
  LeavesBinds.deref fun _ _ => LeavesBindsOf.pure _

theorem mysql_stmt_bind_param_binds (params : List Param) :
    LeavesBinds (mysql_stmt_bind_param h params) :=
  LeavesBinds.deref fun _ _ _ _ hm => hm.1.put hm.2 rfl

theorem mysql_stmt_result_metadata_binds : LeavesBinds (mysql_stmt_result_metadata h) := by
  refine LeavesBinds.deref fun k st => ?_
  dsimp only
  split
  · exact LeavesBindsOf.pure none
  · exact fun m₀ m hm => hm.1

theorem mysql_stmt_execute_binds : LeavesBinds (mysql_stmt_execute srv h) := by
  refine LeavesBinds.deref fun k st => LeavesBindsOf.count fun t => LeavesBindsOf.get_bind fun m => ?_
  split
  · exact LeavesBindsOf.failed _ _
  · refine LeavesBindsOf.modify (by intro m; rfl) fun _ => ?_
    split
    · exact LeavesBindsOf.failed _ _
    · refine LeavesBindsOf.put (by rfl) fun _ => ?_
      exact LeavesBindsOf.modify (by intro m; rfl) fun _ => LeavesBindsOf.pure 0

theorem mysql_stmt_fetch_binds : LeavesBinds (mysql_stmt_fetch srv h) := by
  refine LeavesBinds.deref fun k st => LeavesBindsOf.count fun t => LeavesBindsOf.get_bind fun m => ?_
  split
  · exact LeavesBindsOf.failed _ _
  · refine LeavesBindsOf.ite (LeavesBindsOf.failed _ _) ?_
    split
    · exact LeavesBindsOf.failed _ _
    · exact LeavesBindsOf.modify (by intro m; rfl) fun _ => LeavesBindsOf.pure _
    · refine LeavesBindsOf.put (by rfl) fun _ => LeavesBindsOf.modify (by intro m; rfl) fun _ => ?_
      exact LeavesBindsOf.ite (LeavesBindsOf.pure _) (LeavesBindsOf.pure _)

theorem mysql_stmt_fetch_column_binds (j length : Nat) :
    LeavesBinds (mysql_stmt_fetch_column srv h j length) := by
  refine LeavesBinds.deref fun k st => LeavesBindsOf.count fun t => ?_
  split
  · exact LeavesBindsOf.failed _ _
  · split
    · exact LeavesBindsOf.pure _
    · exact LeavesBindsOf.pure _

end Statements

end RMariaDB
