import RMariaDB.Lib.Budget
import RMariaDB.Libmysql.Raises
import RMariaDB.MariaResultPrep.Binds
import RMariaDB.MariaResultPrep.Ends

-- What the methods of a result execute: every parameter row pays for one execution.

namespace RMariaDB

open Program

variable {srv : Server} {α : Type} {h : Option Nat}

def MYSQL.executed (m : MYSQL) : Nat := m.ledger.executed

section Library

theorem count_call_free : Free MYSQL.executed count_call := Free.modifyGet fun _ => Nat.le_refl _

theorem put_stmt_free (k : Nat) (st : MYSQL_STMT) : Free MYSQL.executed (put_stmt k st) :=
  Free.modify fun _ => Nat.le_refl _

theorem fail_stmt_free (k : Nat) (st : MYSQL_STMT) (f : Failure) (a : α) : Free MYSQL.executed (do
    fail_stmt k st f
    pure a) := (put_stmt_free k _).bind fun _ => Free.pure a

theorem deref_free : Free MYSQL.executed (deref h) := by
  rintro m t rfl
  rcases deref_cases h t with hrun | ⟨k, st, -, hrun⟩
  · rw [hrun]
  · rw [hrun]

theorem mysql_stmt_init_free : Free MYSQL.executed (mysql_stmt_init srv) :=
  count_call_free.bind fun _ => Free.ite (Free.modifyGet fun _ => Nat.le_refl _) (Free.pure _)

theorem mysql_stmt_errno_free : Free MYSQL.executed (mysql_stmt_errno h) :=
  deref_free.bind fun _ => Free.pure _

theorem mysql_stmt_error_free : Free MYSQL.executed (mysql_stmt_error h) :=
  deref_free.bind fun _ => Free.pure _

theorem mysql_stmt_param_count_free : Free MYSQL.executed (mysql_stmt_param_count h) :=
  deref_free.bind fun _ => Free.pure _

theorem mysql_stmt_affected_rows_free : Free MYSQL.executed (mysql_stmt_affected_rows h) :=
  deref_free.bind fun _ => Free.pure _

theorem mysql_fetch_fields_free (res : MYSQL_RES) : Free MYSQL.executed (mysql_fetch_fields res) :=
  Free.get_bind fun _ => Free.ite (Free.pure _) (Free.throw _)

theorem mysql_free_result_free (res : MYSQL_RES) : Free MYSQL.executed (mysql_free_result res) :=
  Pays.get_bind fun s => PaysAt.ite (fun _ => PaysAt.set (Nat.le_refl _)) fun _ => Free.throw _ s

theorem mysql_stmt_bind_param_free (params : List Param) :
    Free MYSQL.executed (mysql_stmt_bind_param h params) :=
  deref_free.bind fun _ => put_stmt_free _ _

theorem mysql_stmt_result_metadata_free : Free MYSQL.executed (mysql_stmt_result_metadata h) := by
  apply deref_free.bind
  rintro ⟨k, st⟩
  dsimp only
  split
  · exact Free.pure none
  · exact Free.modifyGet fun _ => Nat.le_refl _

theorem mysql_stmt_prepare_free (sql : String) :
    Free MYSQL.executed (mysql_stmt_prepare srv h sql) := by
  apply deref_free.bind
  rintro ⟨k, st⟩
  apply count_call_free.bind
  intro t
  apply Free.get_bind
  intro m
  split
  · exact fail_stmt_free _ _ _ _
  · exact fail_stmt_free _ _ _ _
  · exact (put_stmt_free _ _).bind fun _ => Free.pure 0

theorem mysql_stmt_bind_result_free (binds : List RESULT_BIND) :
    Free MYSQL.executed (mysql_stmt_bind_result srv h binds) := by
  apply deref_free.bind
  rintro ⟨k, st⟩
  apply count_call_free.bind
  intro t
  split
  · exact fail_stmt_free _ _ _ _
  · exact (put_stmt_free _ _).bind fun _ => Free.pure 0

theorem mysql_stmt_fetch_column_free (j length : Nat) :
    Free MYSQL.executed (mysql_stmt_fetch_column srv h j length) := by
  apply deref_free.bind
  rintro ⟨k, st⟩
  apply count_call_free.bind
  intro t
  split
  · exact fail_stmt_free _ _ _ _
  · split
    · exact Free.pure _
    · exact Free.pure _

theorem mysql_stmt_fetch_free : Free MYSQL.executed (mysql_stmt_fetch srv h) := by
  apply deref_free.bind
  rintro ⟨k, st⟩
  apply count_call_free.bind
  intro t
  apply Free.get_bind
  intro m
  split
  · exact fail_stmt_free _ _ _ _
  · apply Free.ite
    · exact fail_stmt_free _ _ _ _
    split
    · exact fail_stmt_free _ _ _ _
    · refine Free.bind (Free.modify fun _ => ?_) fun _ => Free.pure _
      exact Nat.le_refl _
    · apply (put_stmt_free _ _).bind
      intro _
      refine Free.bind (Free.modify fun _ => ?_) fun _ => Free.ite (Free.pure _) (Free.pure _)
      exact Nat.le_refl _

theorem mysql_stmt_close_free : Free MYSQL.executed (mysql_stmt_close h) := by
  apply deref_free.bind
  rintro ⟨k, st⟩
  refine Free.modify fun m => Nat.le_of_eq ?_
  simp only [MYSQL.executed, MYSQL.unread_dropped]
  split
  · split <;> rfl
  · rfl

theorem mysql_end_free {f : Ledger → Ledger} (hf : ∀ l, (f l).executed = l.executed) :
    Free MYSQL.executed (mysql_end srv f) := by
  apply count_call_free.bind
  intro t
  apply Pays.get_bind
  intro m
  apply PaysAt.ite
  · exact fun _ => Free.pure _ m
  · intro _
    exact PaysAt.set_pure (Nat.le_of_eq (hf _))

theorem check_user_interrupt_free : Free MYSQL.executed (MariaResultPrep.check_user_interrupt srv) :=
  count_call_free.bind fun _ => Free.ite (Free.throw _) (Free.pure ())

-- The one call that executes a statement
theorem mysql_stmt_execute_pays :
    Pays MYSQL.executed 1 (mysql_stmt_execute srv h) (fun _ => 0) fun _ => 0 := by
  apply Free.before deref_free (fun _ => Nat.zero_le 1)
  rintro ⟨k, st⟩
  apply Free.before count_call_free (fun _ => Nat.zero_le 1)
  intro t
  apply Pays.get_bind
  intro m
  split
  · exact PaysAt.of_free (fail_stmt_free _ _ _ _ m) (fun _ => Nat.zero_le 1) fun _ => Nat.zero_le 1
  · refine PaysAt.bind (j := fun _ => 1) (PaysAt.modify (Nat.le_refl _)) fun _ => ?_
    split
    · exact fun m => PaysAt.of_free (fail_stmt_free _ _ _ _ m) (fun _ => Nat.zero_le 1)
        fun _ => Nat.zero_le 1
    · refine Free.before (put_stmt_free _ _) (fun _ => Nat.zero_le 1) fun _ m => ?_
      refine (PaysAt.modify ?_).bind fun _ => Pays.pure (Nat.le_refl 0)
      simp only [MYSQL.executed]
      split
      · exact Nat.le_refl _
      · exact Nat.le_succ _

end Library

section Objects

variable {τ κ : Type} {g : τ → Nat} {k : Nat} {j : α → Nat} {l : Exc → Nat} {s : Obj τ}

def Shared.executed (s : Shared) : Nat := s.mysql.executed

-- What was executed, and what an object may still execute
def spent (g : τ → Nat) (s : Obj τ) : Nat := s.toShared.executed + g s.self

theorem onMysql_pays {f : EStateM Exc MYSQL α} (hf : Pays MYSQL.executed k f j l) :
    Pays Shared.executed k (onMysql f) j l := fun s =>
  PaysAt.zoom (fun t => (Nat.add_comm t.executed s.executed).le) (hf s.mysql)

theorem onShared_pays {f : EStateM Exc Shared α} (hf : Pays Shared.executed k f j l) :
    Pays (spent g) k (onShared f) j l := by
  refine fun s => PaysAt.zoom (fun t => ?_) (hf s.toShared)
  simp only [spent]
  omega

theorem lib_pays {f : EStateM Exc MYSQL α} (hf : Pays MYSQL.executed k f j l) :
    Pays (spent g) k (lib f) j l := onShared_pays (onMysql_pays hf)

theorem lib_free {f : EStateM Exc MYSQL α} (hf : Free MYSQL.executed f) : Free (spent g) (lib f) :=
  lib_pays hf

theorem modifySelf_free {f : τ → τ} (h : ∀ r, g (f r) ≤ g r) : Free (spent g) (modifySelf f) :=
  Free.modify fun s => Nat.add_le_add_left (h s.self) _

-- A member may execute what it may execute by itself.
theorem onMember_pays {get : τ → κ} {put : κ → τ → τ} {gm : κ → Nat} {f : EStateM Exc (Obj κ) α}
    (hput : ∀ t r, g (put t r) + gm (get r) ≤ g r + gm t) (hf : PaysAt (spent gm) ⟨s.toShared, get s.self⟩ k f j l) :
    PaysAt (spent g) s k (onMember get put f) j l := by
  refine PaysAt.zoom (fun t => ?_) hf
  have hself := hput t.self s.self
  simp only [spent]
  omega

end Objects

section Rows

open MariaRow

-- Reading a row executes nothing.
abbrev RowFree (f : EStateM Exc (Obj MariaRow) α) : Prop := Free (spent fun _ => 0) f

theorem setSlot_free (j : Nat) (slot : Slot) : RowFree (setSlot j slot) :=
  modifySelf_free fun _ => Nat.le_refl 0

theorem row_setup_free (types : List MariaFieldType) : RowFree (MariaRow.setup srv h types) := by
  apply (modifySelf_free fun _ => Nat.le_refl 0).bind
  intro _
  apply (lib_free (mysql_stmt_bind_result_free _)).bind
  intro status
  exact Free.ite ((lib_free mysql_stmt_error_free).bind fun _ => Free.throw _) (Free.pure ())

theorem stmt_fetch_free : RowFree (stmt_fetch srv h) := by
  have hreceive (result : FetchResult) : RowFree (do
      let c ← lib (deref h)
      modifySelf fun r => { r with slots := receive r.slots c.2.bind c.2.row }
      pure result) :=
    (lib_free deref_free).bind fun c => (modifySelf_free fun _ => Nat.le_refl 0).bind fun _ => Free.pure _
  apply (lib_free mysql_stmt_fetch_free).bind
  intro result
  cases result with
  | ok => exact hreceive _
  | MYSQL_DATA_TRUNCATED => exact hreceive _
  | error => exact Free.pure _
  | MYSQL_NO_DATA => exact Free.pure _

theorem fetch_buffer_free (j : Nat) : RowFree (fetch_buffer srv j) := by
  apply Free.get_bind
  intro s
  apply (Free.liftM _).bind
  intro slot
  apply (setSlot_free _ _).bind
  intro _
  apply Free.ite
  · exact Free.pure _
  apply (setSlot_free _ _).bind
  intro _
  apply (lib_free (mysql_stmt_fetch_column_free _ _)).bind
  intro result
  cases result with
  | error _ => exact (lib_free mysql_stmt_error_free).bind fun _ => Free.throw _
  | ok bytes => exact (setSlot_free _ _).bind fun _ => Free.pure _

theorem value_string_free (j : Nat) : RowFree (value_string srv j) := by
  apply Free.get_bind
  intro s
  apply (Free.liftM _).bind
  intro slot
  apply Free.ite
  · exact Free.pure _
  · exact (fetch_buffer_free j).bind fun _ => Free.ite (Free.throw _) (Free.pure _)

theorem value_raw_free (j : Nat) : RowFree (value_raw srv j) := by
  apply Free.get_bind
  intro s
  apply (Free.liftM _).bind
  intro slot
  apply Free.ite
  · exact Free.pure _
  · exact (fetch_buffer_free j).bind fun _ => Free.ite (Free.pure _) (Free.throw _)

theorem set_list_value_free (x : Column) (i j : Nat) : RowFree (set_list_value srv x i j) := by
  apply Free.get_bind
  intro s
  apply (Free.liftM _).bind
  intro slot
  refine Free.bind ?_ fun cell => Free.liftM _
  unfold value_cell
  cases slot.type with
  | MY_STR => exact (value_string_free j).map _
  | MY_RAW => exact (value_raw_free j).map _
  | _ => exact (Free.liftM _).map _

end Rows

section Parameters

open MariaBinding MariaResultPrep

variable {s : Obj MariaBinding} {params : List SEXP}

theorem bind_columns_free {g : MariaBinding → Nat} (hslots : ∀ b slots, g { b with slots := slots } ≤ g b)
    (js : List Nat) : Free (spent g) (bind_columns js) := by
  induction js with
  | nil => exact Free.pure ()
  | cons j js ih =>
      refine Free.bind (Free.get_bind fun s => ?_) fun _ => ih
      apply (Free.liftM _).bind
      intro col
      apply (Free.liftM _).bind
      intro slot
      apply (Free.liftM _).bind
      exact fun slot => modifySelf_free fun b => hslots b _

theorem bind_next_row_free {g : MariaBinding → Nat} (hslots : ∀ b slots, g { b with slots := slots } ≤ g b)
    (hi : ∀ b, g { b with i := b.i + 1 } ≤ g b) : Free (spent g) bind_next_row := by
  apply Free.get_bind
  intro s
  apply Free.ite
  · exact Free.pure false
  apply (bind_columns_free hslots _).bind
  intro _
  apply Free.get_bind
  intro s
  apply (lib_free (mysql_stmt_bind_param_free _)).bind
  intro _
  exact (modifySelf_free hi).bind fun _ => Free.pure true

-- A row that is bound pays for an execution.
theorem bind_next_row_pays : Pays (spent rows_left) 0 bind_next_row Bool.toNat fun _ => 0 := by
  rintro _ s rfl
  have hfree := bind_next_row_free (g := rows_left) (fun _ _ => Nat.le_refl _)
    (fun b => Nat.sub_le_sub_left (Nat.le_succ b.i) b.n_rows) s s rfl
  have hlibrary := bind_next_row_free (g := fun _ => 0) (fun _ _ => Nat.le_refl 0) (fun _ => Nat.le_refl 0)
    s s rfl
  cases hrun : bind_next_row.run s with
  | error e t =>
      rw [hrun] at hfree
      exact hfree
  | ok more t =>
      obtain ⟨hmore, hi, hn⟩ := bind_next_row_ok hrun
      rw [hrun] at hlibrary
      simp only [spent, rows_left, hi, hn] at hlibrary ⊢
      cases more with
      | false =>
          simp only [Bool.toNat_false]
          omega
      | true =>
          have hlt := of_decide_eq_true hmore.symm
          simp only [Bool.toNat_true]
          omega

-- The rows of the first column count.
def row_count (params : List SEXP) : Nat := params.head?.elim 0 SEXP.xlength

-- A first column of another type leaves the rows of earlier columns to be executed again.
def FirstTyped (params : List SEXP) : Prop := ∀ col ∈ params.head?, ∃ kind, kind_of col = .ok kind

theorem setup_slots {t : Obj MariaBinding} (hrun : (setup h).run s = .ok () t) :
    t.self.slots.length = t.self.p := by
  obtain ⟨_, u, _, hrest⟩ := of_run_bind_ok hrun
  obtain ⟨p, v, _, hset⟩ := of_run_bind_ok hrest
  rw [(of_modifySelf_ok hset).1]
  exact length_resize _ _ _

theorem setup_free : Free (spent rows_left) (setup h) := by
  refine Free.bind (modifySelf_free fun b => ?_) fun _ => ?_
  · exact Nat.le_refl _
  refine (lib_free mysql_stmt_param_count_free).bind fun p => modifySelf_free fun b => ?_
  exact Nat.le_refl _

theorem counted_eq {n : Nat} (hne : params ≠ []) (hcount : FirstTyped params) :
    MariaBinding.counted n params = row_count params := by
  obtain ⟨col, cols, rfl⟩ := List.exists_cons_of_ne_nil hne
  obtain ⟨kind, hkind⟩ := hcount col rfl
  rw [MariaBinding.counted, hkind]
  rfl

theorem init_binding_pays (hcount : FirstTyped params) (hslots : s.self.slots.length = s.self.p) :
    PaysAt (spent rows_left) s (row_count params) (init_binding params) (fun _ => 0) fun _ => 0 := by
  rintro s rfl
  by_cases hlength : params.length = s.self.p ∧ params ≠ []
  · obtain ⟨hlength, hne⟩ := hlength
    have hrun := init_columns_run s.self.slots { s with self.params := params, self.i := 0 } []
      params rfl rfl (by rw [hlength, hslots])
    rw [List.length_nil, hslots, ← List.range_eq_range'] at hrun
    have hinit : (init_binding params).run s = (init_columns (List.range s.self.p)).run
        { s with self.params := params, self.i := 0 } := by
      have hpos : s.self.p ≠ 0 := fun hzero => hne (List.length_eq_zero_iff.mp (hlength.trans hzero))
      simp [init_binding, hlength, hpos]
    rw [hinit]
    cases hkinds : params.mapM kind_of with
    | ok kinds =>
        rw [hkinds] at hrun
        obtain ⟨slots, -, -, hrun⟩ := hrun
        rw [hrun]
        obtain ⟨col, cols, rfl⟩ := List.exists_cons_of_ne_nil hne
        simp only [spent, rows_left, row_count, Shared.executed, List.head?_cons, Option.elim_some, if_pos]
        omega
    | error e =>
        rw [hkinds] at hrun
        obtain ⟨b, hrun, -, -, -, hi, hn⟩ := hrun
        rw [hrun]
        simp only [if_true, counted_eq hne hcount] at hn
        simp only [spent, rows_left, hi, hn, Shared.executed]
        omega
  · have hrejected : ∃ e, (init_binding params).run s = .error e { s with self.params := params } := by
      by_cases hempty : params = []
      · exact ⟨_, by rw [hempty]; rfl⟩
      · have hother : s.self.p ≠ params.length := fun heq => hlength ⟨heq.symm, hempty⟩
        refine ⟨.stop ("Number of params don't match (" ++ toString s.self.p ++ " vs " ++
          toString params.length ++ ")"), ?_⟩
        simp [init_binding, hempty, hother]
    obtain ⟨e, hrun⟩ := hrejected
    rw [hrun]
    exact Nat.le_add_right _ _

end Parameters

namespace MariaResultPrep

open MariaBinding

-- What a result may still execute
def due (r : MariaResultPrep) : Nat := rows_left r.bindingInput_

-- What is left of k credits by an exception: all of them, if the statement was not prepared.
def unsent (k : Nat) : Exc → Nat
  | .unsupportedPS => k
  | _ => 0

theorem unsent_le (k : Nat) (e : Exc) : unsent k e ≤ k := by
  cases e with
  | unsupportedPS => exact Nat.le_refl k
  | _ => exact Nat.zero_le k

theorem unsent_raised {k : Nat} {e : Exc} (h : e ≠ .unsupportedPS) : unsent k e ≤ 0 := by
  cases e with
  | unsupportedPS => exact absurd rfl h
  | _ => exact Nat.le_refl 0

section Methods

variable {k : Nat} {j : α → Nat} {l : Exc → Nat}

theorem input_pays {s : Obj MariaResultPrep} {f : EStateM Exc (Obj MariaBinding) α}
    (hf : PaysAt (spent rows_left) ⟨s.toShared, s.self.bindingInput_⟩ k f j l) :
    PaysAt (spent due) s k (input f) j l :=
  onMember_pays (fun t r => (Nat.add_comm (rows_left t) (rows_left r.bindingInput_)).le) hf

theorem output_free {f : EStateM Exc (Obj MariaRow) α} (hf : RowFree f) : Free (spent due) (output f) :=
  fun _ => onMember_pays (fun _ r => Nat.le_refl (due r)) (hf _)

theorem self_free {f : MariaResultPrep → MariaResultPrep} (h : ∀ r, (f r).bindingInput_ = r.bindingInput_) :
    Free (spent due) (modifySelf f) :=
  modifySelf_free fun r => (congrArg rows_left (h r)).le

theorem throw_error_free : Free (spent due) (throw_error : EStateM Exc (Obj MariaResultPrep) α) := by
  apply Free.get_bind
  intro s
  apply (lib_free mysql_stmt_error_free).bind
  intro error
  exact (lib_free mysql_stmt_errno_free).bind fun errno => Free.throw _

theorem onShared_autocommit_free : Free (spent due)
    (onShared (DbConnection.autocommit srv) : EStateM Exc (Obj MariaResultPrep) Unit) := by
  apply onShared_pays
  apply Free.get_bind
  intro s
  apply Free.ite
  · exact (onMysql_pays (mysql_end_free fun _ => by rfl)).bind fun _ => Free.pure ()
  · exact Free.pure ()

theorem close_free : Free (spent due) (close srv) := by
  have hclose (k : Nat) : Free (spent due) (do
      lib (mysql_stmt_close (some k))
      modifySelf fun r => { r with pStatement_ := none }
      onShared (DbConnection.autocommit srv) : EStateM Exc (Obj MariaResultPrep) Unit) :=
    (lib_free mysql_stmt_close_free).bind fun _ => (self_free fun _ => by rfl).bind fun _ =>
      onShared_autocommit_free
  apply Free.get_bind
  intro s
  cases s.self.pSpec_ with
  | none =>
      cases s.self.pStatement_ with
      | none => exact onShared_autocommit_free
      | some k => exact hclose k
  | some spec =>
      apply (lib_free (mysql_free_result_free spec)).bind
      intro _
      apply (self_free fun _ => by rfl).bind
      intro _
      cases s.self.pStatement_ with
      | none => exact onShared_autocommit_free
      | some k => exact hclose k

variable (srv) in
theorem execute_pays : Pays (spent due) 1 (execute srv) (fun _ => 0) fun _ => 0 := by
  have hcount : Free (spent due) count_affected := by
    apply Free.get_bind
    intro s
    apply Free.ite
    · exact (lib_free mysql_stmt_affected_rows_free).bind fun _ => self_free fun _ => by rfl
    · exact Free.pure ()
  apply Free.before (self_free fun _ => by rfl) (fun _ => Nat.zero_le 1)
  intro _
  refine Pays.get_bind fun s => PaysAt.bind (lib_pays mysql_stmt_execute_pays s) fun status => ?_
  apply Free.ite
  · exact throw_error_free
  apply Free.ite
  · apply (lib_free mysql_stmt_result_metadata_free).bind
    intro spec
    exact (self_free fun _ => by rfl).bind fun _ => hcount
  · exact hcount

-- One turn of a loop over the rows of the parameters
theorem next_row_pays {m n : EStateM Exc (Obj MariaResultPrep) α} (hm : Free (spent due) m)
    (hn : Free (spent due) n) : Free (spent due) (do
      if ← input bind_next_row then do
        execute srv
        m
      else
        n) := by
  refine fun s => PaysAt.bind (input_pays (bind_next_row_pays _)) fun more => ?_
  cases more with
  | true => exact (execute_pays srv).bind fun _ => hm
  | false => exact hn

theorem execute_rows_free (fuel : Nat) : Free (spent due) (execute_rows srv fuel) := by
  induction fuel with
  | zero => exact Free.throw _
  | succ fuel ih => exact next_row_pays ih (Free.pure ())

theorem bind_pays {params : List SEXP} (hcount : FirstTyped params) :
    Pays (spent due) (row_count params) (bind srv params) (fun _ => 0) fun _ => 0 := by
  apply Free.before (self_free fun _ => by rfl) (fun _ => Nat.zero_le _)
  intro _
  apply Pays.get_bind
  intro s
  have hslots : Spec (fun t => t = s) (input (setup s.self.pStatement_))
      (fun _ t => t.self.bindingInput_.slots.length = t.self.bindingInput_.p) fun _ _ => True := by
    rintro t rfl
    cases hrun : (input (setup t.self.pStatement_)).run t with
    | ok _ u => exact setup_slots (of_input_ok hrun).2
    | error e u => trivial
  have hsetup : PaysAt (spent due) s (row_count params) (input (setup s.self.pStatement_))
      (fun _ => row_count params) fun _ => 0 :=
    PaysAt.of_free (input_pays (setup_free _)) (fun _ => Nat.le_refl _) fun _ => Nat.zero_le _
  refine hsetup.bind_of hslots fun _ t ht => ?_
  refine PaysAt.bind (input_pays (init_binding_pays hcount ht)) fun _ => ?_
  apply Free.get_bind
  intro s
  apply Free.ite
  · exact (self_free fun _ => by rfl).bind fun _ => self_free fun _ => by rfl
  · exact (execute_rows_free _).bind fun _ => self_free fun _ => by rfl

theorem fetch_row_free : Free (spent due) (fetch_row srv) := by
  apply Free.get_bind
  intro s
  apply Free.ite
  · exact Free.pure false
  apply (output_free stmt_fetch_free).bind
  intro result
  cases result with
  | ok => exact Free.pure true
  | MYSQL_DATA_TRUNCATED => exact Free.pure true
  | error => exact throw_error_free
  | MYSQL_NO_DATA => exact (self_free fun _ => by rfl).bind fun _ => Free.pure false

theorem step_loop_free (fuel : Nat) : Free (spent due) (step_loop srv fuel) := by
  induction fuel with
  | zero => exact Free.throw _
  | succ fuel ih =>
      exact fetch_row_free.bind fun row => Free.ite (Free.pure true) (next_row_pays ih (Free.pure false))

theorem step_free : Free (spent due) (step srv) := by
  apply Free.get_bind
  intro s
  apply (step_loop_free _).bind
  intro row
  exact Free.ite ((self_free fun _ => by rfl).bind fun _ => Free.pure true) (Free.pure false)

theorem set_list_values_free (i : Nat) (js : List Nat) :
    ∀ out : DataFrame, Free (spent due) (set_list_values srv i js out) := by
  induction js with
  | nil => exact fun out => Free.pure out
  | cons j js ih =>
      intro out
      apply (Free.liftM _).bind
      intro x
      exact (output_free (set_list_value_free x i j)).bind fun x => ih _

theorem fetch_loop_free (n_max : ℤ) (fuel : Nat) : ∀ (i n : Nat) (out : DataFrame),
    Free (spent due) (fetch_loop srv n_max fuel i n out) := by
  induction fuel with
  | zero => exact fun _ _ _ => Free.throw _
  | succ fuel ih =>
      intro i n out
      apply Free.ite
      · exact Free.pure _
      apply step_free.bind
      intro row
      refine Free.ite (Free.ite (Free.throw _) (Free.get_bind fun s => ?_)) (Free.pure _)
      apply (set_list_values_free _ _ _).bind
      intro out
      apply Free.ite
      · exact (lib_free check_user_interrupt_free).bind fun _ => ih _ _ _
      · exact ih _ _ _

-- Rows are fetched for executions that are paid for.
theorem fetch_free (fuel : Nat) (n_max : ℤ) : Free (spent due) (fetch srv fuel n_max) := by
  apply Free.get_bind
  intro s
  apply Free.ite
  · exact Free.throw _
  apply Free.ite
  · apply Free.ite
    · refine Free.bind (onShared_pays (Free.modify fun _ => ?_)) fun _ => Free.pure _
      exact Nat.le_refl _
    · exact Free.pure _
  apply Free.ite
  · exact Free.pure _
  exact (fetch_loop_free _ _ _ _ _).bind fun _ => Free.get_bind fun _ => Free.pure _

end Methods

section Sending

-- A method that raises nothing of this kind may promise anything of it.
theorem pays_of_raises {k c : Nat} {j : α → Nat} {f : EStateM Exc (Obj MariaResultPrep) α}
    (hf : Safe (Shares fun _ => True) (fun e => e ≠ .unsupportedPS) f)
    (hpays : Pays (spent due) k f j fun _ => 0) : Pays (spent due) k f j (unsent c) := fun s =>
  (hpays s).raises (hf.spec.mono (fun _ _ => trivial) (fun _ _ _ => trivial) fun _ _ => id)
    fun _ he => unsent_raised he

theorem cache_metadata_free (spec : MYSQL_RES) : Free (spent due) (cache_metadata spec) := by
  apply (lib_free (mysql_fetch_fields_free spec)).bind
  intro fields
  apply (self_free fun _ => by rfl).bind
  intro _
  refine onShared_pays (Free.modify fun _ => ?_)
  exact Nat.le_refl _

theorem cache_result_pays (c : Nat) :
    Pays (spent due) 0 (cache_result srv) (fun _ => 0) (unsent c) := by
  apply Pays.get_bind
  intro s
  split
  · rename_i spec _
    refine PaysAt.bind (pays_of_raises (cache_metadata_raises (by simp) spec)
      (cache_metadata_free spec) s) fun _ => Pays.get_bind fun t => ?_
    exact pays_of_raises (onMember_raises (MariaRow.setup_raises (by simp) (by simp) _ _))
      (output_free (row_setup_free _)) t
  · have hnone : Pays (spent due) 0 (pure () : EStateM Exc (Obj MariaResultPrep) Unit) (fun _ => 0) (unsent c) :=
      Pays.pure (Nat.le_refl 0)
    exact hnone s

-- A statement that was not prepared was not executed.
theorem send_query_pays (sql : String) :
    Pays (spent due) 1 (send_query srv sql) (fun _ => 0) (unsent 1) := by
  apply Pays.get_bind
  intro s
  refine PaysAt.bind (j := fun _ => 1) (PaysAt.of_free (lib_free (mysql_stmt_prepare_free sql) s)
    (fun _ => Nat.le_refl 1) (unsent_le 1)) fun status => ?_
  apply Pays.ite
  · intro _
    apply (lib_free mysql_stmt_errno_free).before (unsent_le 1)
    intro errno
    apply Pays.ite
    · exact fun _ => Pays.throw (Nat.le_refl 1)
    · exact fun _ t => PaysAt.of_free (throw_error_free t) (fun _ => Nat.zero_le 1) (unsent_le 1)
  intro _
  apply (lib_free mysql_stmt_param_count_free).before (unsent_le 1)
  intro nParams
  apply (self_free fun _ => by rfl).before (unsent_le 1)
  intro _
  apply (lib_free mysql_stmt_result_metadata_free).before (unsent_le 1)
  intro spec
  apply (self_free fun _ => by rfl).before (unsent_le 1)
  intro _
  apply Pays.ite
  · intro _
    refine Pays.bind (pays_of_raises (execute_raises (by simp) (by simp)) (execute_pays srv)) fun _ => ?_
    refine Pays.bind (pays_of_raises (modifySelf_raises _) (self_free fun _ => by rfl)) fun _ => ?_
    exact cache_result_pays 1
  · exact fun _ t => (cache_result_pays 1 t).mono (Nat.zero_le 1) (fun _ => Nat.le_refl 0)
      fun _ => Nat.le_refl _

theorem construct_free (is_statement : Bool) : Free (spent due) (construct srv is_statement) := by
  refine Free.bind (modifySelf_free fun r => ?_) fun _ => ?_
  · exact Nat.zero_le (due r)
  apply (lib_free mysql_stmt_init_free).bind
  intro h
  exact (self_free fun _ => by rfl).bind fun _ => Free.ite (Free.throw _) (Free.pure ())

variable (srv) in
theorem prepared_pays (sql : String) (is_statement : Bool) :
    Pays (spent due) 1 (World.prepared srv sql is_statement) (fun _ => 0) (unsent 1) := by
  have hclose (e : Exc) : Pays (spent due) (unsent 1 e) (close srv) (fun _ => unsent 1 e) (unsent 1) :=
    pays_of_raises (close_raises (by simp)) fun s =>
      PaysAt.of_free (close_free s) (fun _ => Nat.le_refl _) fun _ => Nat.zero_le _
  apply (construct_free is_statement).before (unsent_le 1)
  intro _
  have hself (s : Obj MariaResultPrep) : Pays (spent due) 0 (pure s.self : EStateM Exc _ MariaResultPrep)
      (fun _ => 0) (unsent 1) := Pays.pure (Nat.le_refl 0)
  refine Pays.bind (fun s => PaysAt.tryCatch (send_query_pays sql s) fun e => ?_) fun _ =>
    Pays.get_bind fun s => hself s s
  apply Pays.ite
  · exact fun _ => Pays.throw (Nat.le_refl _)
  · exact fun _ => (hclose e).bind fun _ => Pays.throw (Nat.le_refl _)

end Sending

end MariaResultPrep

end RMariaDB
