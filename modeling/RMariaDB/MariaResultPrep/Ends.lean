import RMariaDB.DbConnection.Exec
import RMariaDB.Libmysql.Raises
import RMariaDB.MariaResultPrep.Counters
import RMariaDB.World

-- The loops over rows come to their end, and which exceptions leave a result.

namespace RMariaDB

open Program

variable {I : MYSQL → Prop} {E : Exc → Prop} {srv : Server} {τ κ α : Type}

-- What is said of the library, whatever the object is
def Shares (I : MYSQL → Prop) (s : Obj τ) : Prop := I s.mysql

theorem lib_raises {f : EStateM Exc MYSQL α} (hf : Safe I E f) :
    Safe (Shares I) E (lib f : EStateM Exc (Obj τ) α) := by
  intro s hs
  have h := hf s.mysql hs
  rw [lib_run]
  cases hrun : f.run s.mysql with
  | ok a m =>
      rw [hrun] at h
      exact h
  | error e m =>
      rw [hrun] at h
      exact h

theorem onMember_raises {get : τ → κ} {put : κ → τ → τ} {f : EStateM Exc (Obj κ) α}
    (hf : Safe (Shares I) E f) : Safe (Shares I) E (onMember get put f) := by
  intro s hs
  have h := hf ⟨s.toShared, get s.self⟩ hs
  rw [onMember_run]
  cases hrun : f.run ⟨s.toShared, get s.self⟩ with
  | ok a t =>
      rw [hrun] at h
      exact h
  | error e t =>
      rw [hrun] at h
      exact h

theorem modifySelf_raises (f : τ → τ) : Safe (Shares I) E (modifySelf f) := Safe.modify fun _ => id

-- What is computed raises anything but what the loops and the library raise.
theorem plain_raises {x : Except Exc α} (hx : Plain x) :
    Safe (Shares I) (fun e => e ≠ .outOfFuel) (liftM x : EStateM Exc (Obj τ) α) :=
  Safe.liftM fun e he => (hx e he).1

namespace MariaRow

variable (hI : OfReading I)

include hI

theorem fetch_buffer_raises (j : Nat) :
    Safe (Shares I) (fun e => e ≠ .outOfFuel) (fetch_buffer srv j) := by
  apply Safe.get_bind
  intro s _
  apply (plain_raises (index_plain _ _)).bind
  intro slot
  apply (modifySelf_raises _).bind
  intro _
  apply Safe.ite
  · exact fun _ => Safe.pure _
  intro _
  apply (modifySelf_raises _).bind
  intro _
  apply (lib_raises (mysql_stmt_fetch_column_raises hI (by simp) _ _)).bind
  intro result
  cases result with
  | error _ =>
      exact (lib_raises (mysql_stmt_error_raises (by simp))).bind fun _ => Safe.throw (by simp)
  | ok bytes => exact (modifySelf_raises _).bind fun _ => Safe.pure _

theorem value_string_raises (j : Nat) :
    Safe (Shares I) (fun e => e ≠ .outOfFuel) (value_string srv j) := by
  apply Safe.get_bind
  intro s _
  apply (plain_raises (index_plain _ _)).bind
  intro slot
  apply Safe.ite
  · exact fun _ => Safe.pure _
  intro _
  apply (fetch_buffer_raises hI j).bind
  intro slot
  exact Safe.ite (fun _ => Safe.throw (by simp)) fun _ => Safe.pure _

theorem value_raw_raises (j : Nat) :
    Safe (Shares I) (fun e => e ≠ .outOfFuel) (value_raw srv j) := by
  apply Safe.get_bind
  intro s _
  apply (plain_raises (index_plain _ _)).bind
  intro slot
  apply Safe.ite
  · exact fun _ => Safe.pure _
  intro _
  apply (fetch_buffer_raises hI j).bind
  intro slot
  exact Safe.ite (fun _ => Safe.pure _) fun _ => Safe.throw (by simp)

theorem value_cell_raises (j : Nat) (slot : Slot) :
    Safe (Shares I) (fun e => e ≠ .outOfFuel) (value_cell srv j slot) := by
  unfold value_cell
  cases slot.type with
  | MY_INT32 => exact (plain_raises (value_int_plain slot)).map _
  | MY_INT64 => exact (plain_raises (value_int64_plain slot)).map _
  | MY_DBL => exact (plain_raises (value_double_plain slot)).map _
  | MY_DATE => exact (plain_raises (value_date_plain slot)).map _
  | MY_DATE_TIME => exact (plain_raises (value_date_time_plain slot)).map _
  | MY_TIME => exact (plain_raises (value_time_plain slot)).map _
  | MY_STR => exact (value_string_raises hI j).map _
  | MY_RAW => exact (value_raw_raises hI j).map _
  | MY_LGL => exact (plain_raises (value_bool_plain slot)).map _

theorem set_list_value_raises (x : Column) (i j : Nat) :
    Safe (Shares I) (fun e => e ≠ .outOfFuel) (set_list_value srv x i j) := by
  apply Safe.get_bind
  intro s _
  apply (plain_raises (index_plain _ _)).bind
  intro slot
  apply (value_cell_raises hI j slot).bind
  exact fun cell => plain_raises (assign_plain _ _ _ _)

omit hI

theorem setup_raises (hhandle : E (.fault .handle)) (hstop : ∀ message, E (.stop message))
    (h : Option Nat) (types : List MariaFieldType) :
    Safe (Shares fun _ => True) E (setup srv h types) := by
  apply (modifySelf_raises _).bind
  intro _
  apply (lib_raises (mysql_stmt_bind_result_raises ofReading_true hhandle _)).bind
  intro status
  apply Safe.ite
  · exact fun _ => (lib_raises (mysql_stmt_error_raises hhandle)).bind fun _ => Safe.throw (hstop _)
  · exact fun _ => Safe.pure ()

-- A row that was fetched was an unread one.
theorem stmt_fetch_reads (h : Option Nat) (n : Nat) : Spec (fun s => s.mysql.unread ≤ n)
    (stmt_fetch srv h) (fun result s => s.mysql.unread + result.delivers.toNat ≤ n)
    fun e _ => e ≠ .outOfFuel := by
  have hfetch : Spec (fun s : Obj MariaRow => s.mysql.unread ≤ n) (lib (mysql_stmt_fetch srv h))
      (fun result s => s.mysql.unread + result.delivers.toNat ≤ n) fun e _ => e ≠ .outOfFuel := by
    intro s hs
    have hfetch : Safe (fun _ => True) (fun e => e ≠ .outOfFuel) (mysql_stmt_fetch srv h) :=
      mysql_stmt_fetch_raises (by simp)
    have hraises := hfetch s.mysql trivial
    rw [lib_run]
    cases hrun : (mysql_stmt_fetch srv h).run s.mysql with
    | ok result m => exact (mysql_stmt_fetch_reads hrun).trans hs
    | error e m =>
        rw [hrun] at hraises
        exact hraises.2
  apply Spec.bind hfetch
  intro result
  have hderef : Safe (Shares fun m => m.unread + result.delivers.toNat ≤ n)
      (fun e => e ≠ .outOfFuel) (lib (deref h) : EStateM Exc (Obj MariaRow) _) :=
    lib_raises (deref_raises (by simp))
  have hreceive : Spec (fun s => s.mysql.unread + result.delivers.toNat ≤ n) (do
      let c ← lib (deref h)
      modifySelf fun r => { r with slots := receive r.slots c.2.bind c.2.row }
      pure result : EStateM Exc (Obj MariaRow) FetchResult)
      (fun result s => s.mysql.unread + result.delivers.toNat ≤ n) fun e _ => e ≠ .outOfFuel :=
    hderef.spec.bind fun c => (modifySelf_raises _).spec.bind fun _ => Spec.pure fun _ => id
  cases result with
  | ok => exact hreceive
  | MYSQL_DATA_TRUNCATED => exact hreceive
  | error => exact fun _ hs => hs
  | MYSQL_NO_DATA => exact fun _ hs => hs

end MariaRow

namespace MariaBinding

theorem bind_next_row_raises :
    Safe (Shares fun _ => True) (fun e => e ≠ .outOfFuel) bind_next_row := by
  have hcolumns (js : List Nat) :
      Safe (Shares fun _ => True) (fun e => e ≠ .outOfFuel) (bind_columns js) := by
    induction js with
    | nil => exact Safe.pure ()
    | cons j js ih =>
        refine Safe.bind (Safe.get_bind fun s _ => ?_) fun _ => ih
        apply (plain_raises (index_plain _ _)).bind
        intro col
        apply (plain_raises (index_plain _ _)).bind
        intro slot
        apply (plain_raises (next_slot_plain _ _ _)).bind
        exact fun slot => modifySelf_raises _
  apply Safe.get_bind
  intro s _
  apply Safe.ite
  · exact fun _ => Safe.pure false
  intro _
  apply (hcolumns _).bind
  intro _
  apply Safe.get_bind
  intro s _
  apply (lib_raises (mysql_stmt_bind_param_raises ofReading_true (by simp) _)).bind
  intro _
  exact (modifySelf_raises _).bind fun _ => Safe.pure true

theorem init_binding_raises (params : List SEXP) :
    Safe (Shares fun _ => True) (fun e => e ≠ .outOfFuel) (init_binding params) := by
  have hcolumns (js : List Nat) :
      Safe (Shares fun _ => True) (fun e => e ≠ .outOfFuel) (init_columns js) := by
    induction js with
    | nil => exact Safe.pure ()
    | cons j js ih =>
        refine Safe.bind (Safe.get_bind fun s _ => ?_) fun _ => ih
        apply (plain_raises (index_plain _ _)).bind
        intro param
        cases htype : variable_type_from_object param with
        | error e => exact Safe.throw (variable_type_plain param e htype).1
        | ok type =>
            apply (plain_raises (index_plain _ _)).bind
            exact fun slot => modifySelf_raises _
  apply (modifySelf_raises _).bind
  intro _
  apply Safe.get_bind
  intro s _
  apply Safe.ite
  · exact fun _ => Safe.throw (by simp)
  intro _
  apply Safe.ite
  · exact fun _ => Safe.throw (by simp)
  intro _
  exact (modifySelf_raises _).bind fun _ => hcolumns _

theorem setup_raises (h : Option Nat) :
    Safe (Shares fun _ => True) (fun e => e ≠ .outOfFuel) (setup h) := by
  apply (modifySelf_raises _).bind
  intro _
  apply (lib_raises (mysql_stmt_param_count_raises (by simp))).bind
  exact fun p => modifySelf_raises _

end MariaBinding

namespace MariaResultPrep

open MariaBinding

section Raises

theorem throw_error_raises (hI : ∀ message, E (.stop message)) (hhandle : E (.fault .handle)) :
    Safe (Shares I) E (throw_error : EStateM Exc (Obj MariaResultPrep) α) := by
  apply Safe.get_bind
  intro s _
  apply (lib_raises (mysql_stmt_error_raises hhandle)).bind
  intro error
  exact (lib_raises (mysql_stmt_errno_raises hhandle)).bind fun errno => Safe.throw (hI _)

variable (hhandle : E (.fault .handle)) (hstop : ∀ message, E (.stop message))

include hhandle hstop

theorem execute_raises : Safe (Shares fun _ => True) E (execute srv) := by
  have hcount : Safe (Shares fun _ => True) E count_affected := by
    apply Safe.get_bind
    intro s _
    apply Safe.ite
    · intro _
      apply (lib_raises (mysql_stmt_affected_rows_raises hhandle)).bind
      exact fun affected => modifySelf_raises _
    · exact fun _ => Safe.pure ()
  apply (modifySelf_raises _).bind
  intro _
  apply Safe.get_bind
  intro s _
  apply (lib_raises (mysql_stmt_execute_raises hhandle)).bind
  intro status
  apply Safe.ite
  · exact fun _ => throw_error_raises hstop hhandle
  intro _
  apply Safe.ite
  · intro _
    apply (lib_raises (mysql_stmt_result_metadata_raises ofReading_true hhandle)).bind
    intro spec
    exact (modifySelf_raises _).bind fun _ => hcount
  · exact fun _ => hcount

omit hstop in
theorem cache_metadata_raises (spec : MYSQL_RES) :
    Safe (Shares fun _ => True) E (cache_metadata spec) := by
  apply (lib_raises (mysql_fetch_fields_raises hhandle spec)).bind
  intro fields
  apply (modifySelf_raises _).bind
  exact fun _ _ _ => trivial

theorem send_query_raises (hunsupported : E .unsupportedPS) (sql : String) :
    Safe (Shares fun _ => True) E (send_query srv sql) := by
  have hcolumns : Safe (Shares fun _ => True) E (cache_result srv) := by
    apply Safe.get_bind
    intro s _
    split
    · apply (cache_metadata_raises hhandle _).bind
      intro _
      apply Safe.get_bind
      exact fun s _ => onMember_raises (MariaRow.setup_raises hhandle hstop _ _)
    · exact Safe.pure ()
  apply Safe.get_bind
  intro s _
  apply (lib_raises (mysql_stmt_prepare_raises ofReading_true hhandle sql)).bind
  intro status
  apply Safe.ite
  · intro _
    apply (lib_raises (mysql_stmt_errno_raises hhandle)).bind
    intro errno
    exact Safe.ite (fun _ => Safe.throw hunsupported) fun _ => throw_error_raises hstop hhandle
  intro _
  apply (lib_raises (mysql_stmt_param_count_raises hhandle)).bind
  intro nParams
  apply (modifySelf_raises _).bind
  intro _
  apply (lib_raises (mysql_stmt_result_metadata_raises ofReading_true hhandle)).bind
  intro spec
  apply (modifySelf_raises _).bind
  intro _
  apply Safe.ite
  · intro _
    apply (execute_raises hhandle hstop).bind
    intro _
    exact (modifySelf_raises _).bind fun _ => hcolumns
  · exact fun _ => hcolumns

omit hstop in
theorem close_raises : Safe (Shares fun _ => True) E (close srv) := by
  have hautocommit : Safe (Shares fun _ => True) E
      (onShared (DbConnection.autocommit srv) : EStateM Exc (Obj MariaResultPrep) Unit) := by
    intro s _
    rw [onShared_run, DbConnection.autocommit_run]
    trivial
  apply Safe.get_bind
  intro s _
  have hclose : ∀ k, Safe (Shares fun _ => True) E (do
      lib (mysql_stmt_close (some k))
      modifySelf fun r => { r with pStatement_ := none }
      onShared (DbConnection.autocommit srv) : EStateM Exc (Obj MariaResultPrep) Unit) := fun k =>
    (lib_raises (mysql_stmt_close_raises hhandle)).bind fun _ =>
      (modifySelf_raises _).bind fun _ => hautocommit
  cases s.self.pSpec_ with
  | none =>
      cases s.self.pStatement_ with
      | none => exact hautocommit
      | some k => exact hclose k
  | some spec =>
      apply (lib_raises (mysql_free_result_raises ofReading_true hhandle spec)).bind
      intro _
      apply (modifySelf_raises _).bind
      intro _
      cases s.self.pStatement_ with
      | none => exact hautocommit
      | some k => exact hclose k

-- What a result raises that is constructed and sends its query
theorem prepared_raises (hunsupported : E .unsupportedPS) (sql : String) (is_statement : Bool) :
    Safe (Shares fun _ => True) E (World.prepared srv sql is_statement) := by
  apply Safe.bind
  · apply (modifySelf_raises _).bind
    intro _
    apply (lib_raises (mysql_stmt_init_raises ofReading_true)).bind
    intro h
    apply (modifySelf_raises _).bind
    intro _
    exact Safe.ite (fun _ => Safe.throw (hstop _)) fun _ => Safe.pure ()
  intro _
  apply Safe.bind
  · apply Safe.tryCatch (send_query_raises hhandle hstop hunsupported sql)
    intro e he
    apply Safe.ite
    · exact fun _ => Safe.throw he
    · exact fun _ => (close_raises hhandle).bind fun _ => Safe.throw he
  exact fun _ => Safe.get_bind fun _ _ => Safe.pure _

end Raises

section Loops

theorem input_raises {f : EStateM Exc (Obj MariaBinding) α} (hf : Safe (Shares I) E f) :
    Safe (Shares I) E (input f) := onMember_raises hf

-- A round binds one row of the parameters.
theorem execute_rows_raises (fuel : Nat) : Spec (fun s => rows_left s.self.bindingInput_ < fuel)
    (execute_rows srv fuel) (fun _ _ => True) fun e _ => e ≠ .outOfFuel := by
  induction fuel with
  | zero => exact fun s hs => absurd hs (Nat.not_lt_zero _)
  | succ fuel ih =>
      intro s hs
      have hnext := input_raises bind_next_row_raises s trivial
      rw [execute_rows, EStateM.run_bind]
      cases hrun : (input bind_next_row).run s with
      | error e t =>
          rw [hrun] at hnext
          exact hnext.2
      | ok more t =>
          obtain ⟨hmore, hi, hn⟩ := bind_next_row_ok (of_input_ok hrun).2
          cases more with
          | false => trivial
          | true =>
              have hraises : Safe (Shares fun _ => True) (fun e => e ≠ .outOfFuel) (execute srv) :=
                execute_raises (by simp) (by simp)
              have hexecute := hraises t trivial
              dsimp only
              rw [if_pos rfl, EStateM.run_bind]
              cases hround : (execute srv).run t with
              | error e u =>
                  rw [hround] at hexecute
                  exact hexecute.2
              | ok _ u =>
                  refine ih u ?_
                  have hleft := of_decide_eq_true hmore.symm
                  dsimp only at hi hn hleft
                  change rows_left u.self.bindingInput_ < fuel
                  rw [(execute_ok hround).input]
                  simp only [rows_left, hi, hn, Bool.toNat_true] at hs ⊢
                  omega

variable (srv) in
theorem bind_raises (params : List SEXP) : Spec (fun _ => True) (bind srv params) (fun _ _ => True)
    fun e _ => e ≠ .outOfFuel := by
  have hparams : Safe (Shares fun _ => True) (fun e => e ≠ .outOfFuel) (bind_params params) := by
    apply (modifySelf_raises _).bind
    intro _
    apply Safe.get_bind
    intro s _
    apply (input_raises (setup_raises _)).bind
    exact fun _ => input_raises (init_binding_raises params)
  rw [bind_eq]
  apply Spec.bind hparams.spec
  intro _
  apply Spec.get_bind
  intro s _
  apply Spec.ite
  · exact fun _ _ _ => trivial
  · intro _
    have hrows : Spec (fun t => t = s) (execute_rows srv (rows_left s.self.bindingInput_ + 1))
        (fun _ _ => True) fun e _ => e ≠ .outOfFuel :=
      (execute_rows_raises _).mono (fun t ht => ht ▸ Nat.lt_succ_self _) (fun _ _ => id)
        fun _ _ => id
    exact hrows.bind fun _ _ _ => trivial

-- The parameters are what they were, and so many rows are unread.
def Left (b : MariaBinding) (n : Nat) (s : Obj MariaResultPrep) : Prop :=
  s.mysql.unread ≤ n ∧ s.self.bindingInput_ = b

theorem output_left {b : MariaBinding} {f : EStateM Exc (Obj MariaRow) α} {n : Nat} {k : α → Nat}
    (hf : Spec (fun s => s.mysql.unread ≤ n) f (fun a s => s.mysql.unread + k a ≤ n)
      fun e _ => e ≠ .outOfFuel) :
    Spec (Left b n) (output f) (fun a s => s.mysql.unread + k a ≤ n ∧ s.self.bindingInput_ = b)
      fun e _ => e ≠ .outOfFuel := by
  intro s hs
  have h := hf ⟨s.toShared, s.self.bindingOutput_⟩ hs.1
  rw [output, onMember_run]
  cases hrun : f.run ⟨s.toShared, s.self.bindingOutput_⟩ with
  | ok a t =>
      rw [hrun] at h
      exact ⟨h, hs.2⟩
  | error e t =>
      rw [hrun] at h
      exact h

variable {b : MariaBinding} {n : Nat}

theorem fetch_row_left : Spec (Left b n) (fetch_row srv)
    (fun row s => s.mysql.unread + row.toNat ≤ n ∧ s.self.bindingInput_ = b)
    fun e _ => e ≠ .outOfFuel := by
  apply Spec.get_bind
  intro s hs
  apply Spec.ite
  · rintro - t rfl
    exact hs
  intro _
  have hfetch : Spec (fun t => t = s) (output (MariaRow.stmt_fetch srv s.self.pStatement_))
      (fun result s => s.mysql.unread + result.delivers.toNat ≤ n ∧ s.self.bindingInput_ = b)
      fun e _ => e ≠ .outOfFuel :=
    (output_left (MariaRow.stmt_fetch_reads _ n)).mono (fun t ht => ht ▸ hs) (fun _ _ => id)
      fun _ _ => id
  apply hfetch.bind
  intro result
  cases result with
  | ok => exact fun _ => id
  | MYSQL_DATA_TRUNCATED => exact fun _ => id
  | error =>
      intro t _
      have hraises : Safe (Shares fun _ => True) (fun e => e ≠ .outOfFuel)
          (throw_error : EStateM Exc (Obj MariaResultPrep) Bool) :=
        throw_error_raises (by simp) (by simp)
      have hthrow := hraises t trivial
      cases hrun : (throw_error : EStateM Exc (Obj MariaResultPrep) Bool).run t with
      | ok a u => exact absurd hrun throw_error_ne_ok
      | error e u =>
          rw [hrun] at hthrow
          exact hthrow.2
  | MYSQL_NO_DATA => exact fun _ => id

-- Without parameters there is one execution, and a step reads one of its rows.
theorem step_left (hb : rows_left b = 0) : Spec (Left b n) (step srv)
    (fun row s => s.mysql.unread + row.toNat ≤ n ∧ s.self.bindingInput_ = b)
    fun e _ => e ≠ .outOfFuel := by
  have hloop : Spec (Left b n) (step_loop srv 1)
      (fun row s => s.mysql.unread + row.toNat ≤ n ∧ s.self.bindingInput_ = b)
      fun e _ => e ≠ .outOfFuel := by
    apply Spec.bind fetch_row_left
    intro row
    apply Spec.ite
    · rintro rfl
      exact fun _ => id
    · intro hrow s hs
      obtain rfl := Bool.eq_false_of_not_eq_true hrow
      have hdone : s.self.bindingInput_.i ≥ s.self.bindingInput_.n_rows := by
        rw [hs.2]
        exact Nat.sub_eq_zero_iff_le.mp hb
      have hnext : (input bind_next_row).run s = .ok false s := by
        simp [input, bind_next_row, hdone]
      rw [run_bind_ok hnext]
      exact hs
  apply Spec.get_bind
  intro s hs
  have hstart : Spec (fun t => t = s) (step_loop srv (rows_left s.self.bindingInput_ + 1))
      (fun row s => s.mysql.unread + row.toNat ≤ n ∧ s.self.bindingInput_ = b)
      fun e _ => e ≠ .outOfFuel := by
    rw [hs.2, hb]
    exact hloop.mono (fun t ht => ht ▸ hs) (fun _ _ => id) fun _ _ => id
  apply hstart.bind
  intro row
  apply Spec.ite
  · rintro rfl
    exact fun _ => id
  · intro hrow
    obtain rfl := Bool.eq_false_of_not_eq_true hrow
    exact fun _ => id

theorem set_list_values_left (i : Nat) (js : List Nat) : ∀ out : DataFrame,
    Spec (Left b n) (set_list_values srv i js out) (fun _ => Left b n)
      fun e _ => e ≠ .outOfFuel := by
  induction js with
  | nil => exact fun out _ hs => hs
  | cons j js ih =>
      intro out
      have hindex : Safe (Left b n) (fun e : Exc => e ≠ .outOfFuel) (liftM (index out.columns j)) :=
        Safe.liftM fun e he => (index_plain _ _ e he).1
      apply hindex.spec.bind
      intro x
      have hcell : Spec (fun s => s.mysql.unread ≤ n) (MariaRow.set_list_value srv x i j)
          (fun _ s => s.mysql.unread + 0 ≤ n) fun e _ => e ≠ .outOfFuel :=
        (MariaRow.set_list_value_raises (ofReading_unread n) x i j).spec
      apply Spec.bind (output_left hcell)
      exact fun x => ih _

theorem check_user_interrupt_left : Spec (Left b n) (lib (check_user_interrupt srv))
    (fun _ => Left b n) fun e _ => e ≠ .outOfFuel := by
  intro s hs
  have h : Safe (fun m => m.unread ≤ n) (fun e => e ≠ .outOfFuel) (check_user_interrupt srv) :=
    (count_call_raises (ofReading_unread n)).bind fun _ =>
      Safe.ite (fun _ => Safe.throw (by simp)) fun _ => Safe.pure ()
  have hrun := h s.mysql hs.1
  rw [lib_run]
  split at hrun
  · rename_i m hm
    rw [hm]
    exact ⟨hrun, hs.2⟩
  · rename_i e m hm
    rw [hm]
    exact hrun.2

-- The rows that are unread bound the loop.
theorem fetch_loop_left (hb : rows_left b = 0) (n_max : ℤ) (n : Nat) :
    ∀ (i capacity : Nat) (out : DataFrame),
      Spec (Left b n) (fetch_loop srv n_max (n + 1) i capacity out) (fun _ _ => True)
        fun e _ => e ≠ .outOfFuel := by
  induction n with
  | zero =>
      intro i capacity out
      apply Spec.ite
      · exact fun _ _ _ => trivial
      intro _
      apply (step_left hb).bind
      intro row
      cases row with
      | true => exact fun s hs => absurd hs.1 (Nat.not_succ_le_zero _)
      | false => exact fun _ _ => trivial
  | succ n ih =>
      intro i capacity out
      apply Spec.ite
      · exact fun _ _ _ => trivial
      intro _
      apply (step_left hb).bind
      intro row
      apply Spec.ite
      · rintro rfl
        apply Spec.ite
        · exact fun _ => Spec.throw fun _ _ => by simp
        intro _
        apply Spec.get_bind
        intro s hs
        have hstart : ∀ t, t = s → Left b n t := fun t ht =>
          ht ▸ ⟨Nat.le_of_succ_le_succ hs.1, hs.2⟩
        apply ((set_list_values_left i _ _).mono hstart (fun _ _ => id) fun _ _ => id).bind
        intro out
        apply Spec.ite
        · exact fun _ => check_user_interrupt_left.bind fun _ => ih _ _ _
        · exact fun _ => ih _ _ _
      · exact fun _ _ _ => trivial

variable (srv) in
theorem fetch_left (hb : rows_left b = 0) (n_max : ℤ) : Spec (Left b n) (fetch srv (n + 1) n_max)
    (fun _ _ => True) fun e _ => e ≠ .outOfFuel := by
  apply Spec.get_bind
  intro s hs
  apply Spec.ite
  · exact fun _ => Spec.throw fun _ _ => by simp
  intro _
  apply Spec.ite
  · exact fun _ => Spec.ite (fun _ _ _ => trivial) fun _ _ _ => trivial
  intro _
  apply Spec.ite
  · exact fun _ _ _ => trivial
  intro _
  have hstart : ∀ t, t = s → Left b n t := fun t ht => ht ▸ hs
  apply ((fetch_loop_left hb n_max n _ _ _).mono hstart (fun _ _ => id) fun _ _ => id).bind
  exact fun _ _ _ => trivial

end Loops
end MariaResultPrep

end RMariaDB
