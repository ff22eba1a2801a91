import RMariaDB.MariaBinding.Methods
import RMariaDB.MariaResultPrep.Binds
import RMariaDB.MariaResultPrep.Cached
import RMariaDB.MariaRow.Methods

-- While its statement is open, a result works on no other handle.

namespace RMariaDB.MariaResultPrep

open Program MariaBinding

-- All handles of a result are the handle h, and it holds all metadata but `l`. `T` is what is
-- said of its parameters.
structure Wired (l : List Nat) (h : Option Nat) (T : Bool → MariaBinding → Prop) (m : MYSQL)
    (r : MariaResultPrep) : Prop where
  statement : r.pStatement_ = h
  metas : m.metas = (r.pSpec_.map MYSQL_RES.id).toList ++ l
  input : Linked h m r.bindingInput_
  output : MariaRow.Belongs h m r.bindingOutput_
  bound : T r.bound_ r.bindingInput_

variable {srv : Server} {l : List Nat} {h : Option Nat} {T : Bool → MariaBinding → Prop} {α β : Type}

theorem Wired.spec {m : MYSQL} {r : MariaResultPrep} (hr : Wired l h T m r) {x : MYSQL_RES}
    (hx : r.pSpec_ = some x) : x.id ∈ m.metas := by
  rw [hr.metas, hx]
  exact List.mem_cons_self ..

theorem Wired.mono {T' : Bool → MariaBinding → Prop} {m : MYSQL} {r : MariaResultPrep}
    (hr : Wired l h T m r) (hT : ∀ bound b, T bound b → T' bound b) : Wired l h T' m r :=
  ⟨hr.statement, hr.metas, hr.input, hr.output, hT _ _ hr.bound⟩

theorem wired_stable : Stable (Wired l h T) := fun _ _ _ hm hr =>
  ⟨hr.statement, (hm.metas rfl).trans hr.metas, hr.input, hr.output, hr.bound⟩

-- What is said of the parameters survives the binding of a row.
def Survives (T : Bool → MariaBinding → Prop) : Prop := ∀ bound b b', Advanced b b' → T bound b → T bound b'

section Members

theorem input_method {f : EStateM Exc (Obj MariaBinding) α} (hT : Survives T)
    (hf : ∀ b, (b.n_rows ≠ 0 → b.statement = h) → Method false h (Since b) f) :
    Method true h (Wired l h T) (input f) := by
  refine Method.onMember fun m r hr => ⟨Since r.bindingInput_, Advanced.refl _, ?_, hf _ hr.input⟩
  intro m' b hm hb
  refine ⟨hr.statement, (hm.metas rfl).trans hr.metas, fun hrows => ?_, hr.output, hT _ _ _ hb hr.bound⟩
  rw [hb.statement]
  exact hr.input (by rwa [← hb.n_rows])

theorem output_method {f : EStateM Exc (Obj MariaRow) α}
    (hf : Method false h (MariaRow.Belongs h) f) : Method true h (Wired l h T) (output f) :=
  Method.onMember fun _ _ hr => ⟨MariaRow.Belongs h, hr.output, fun _ _ hm hy =>
    ⟨hr.statement, (hm.metas rfl).trans hr.metas, hr.input, hy, hr.bound⟩, hf⟩

end Members

section Execute

theorem throw_error_method {J : MYSQL → MariaResultPrep → Prop} (hJ : Stable J)
    (hstatement : ∀ m r, J m r → r.pStatement_ = h) :
    Method true h J (throw_error : EStateM Exc _ α) := by
  refine Method.get_bind fun s hs => ?_
  rw [hstatement _ _ hs]
  refine (Method.lib hJ mysql_stmt_error_calls).bind fun _ => ?_
  exact (Method.lib hJ mysql_stmt_errno_calls).bind fun _ => Method.throw (by simp)

theorem wired_throw_error : Method true h (Wired l h T) (throw_error : EStateM Exc _ α) :=
  throw_error_method wired_stable fun _ _ hr => hr.statement

-- Metadata is acquired by a result that has none.
theorem metadata_leads : Leads true h
    (fun m r => Wired l h T m r ∧ r.pSpec_ = none) (Wired l h T) (do
      let spec ← lib (mysql_stmt_result_metadata h)
      modifySelf fun r => { r with pSpec_ := spec }) := by
  intro conn m₀ s hs
  obtain ⟨hwired, hspec⟩ := hs.self
  by_cases hopen : IsOpen s.mysql h
  · obtain ⟨spec, m, hrun, htouches, hmetas⟩ := mysql_stmt_result_metadata_run hopen
    have hlib : (lib (mysql_stmt_result_metadata h)).run s = .ok spec { s with mysql := m } := by
      rw [lib_run, hrun]
    rw [run_bind_ok hlib]
    refine ⟨hs.conn, hs.mysql.trans htouches, hwired.statement, ?_, hwired.input, hwired.output,
      hwired.bound⟩
    have hnone : s.mysql.metas = l := by
      rw [hwired.metas, hspec]
      rfl
    exact hmetas.trans (by rw [hnone])
  · have hlib : (lib (mysql_stmt_result_metadata h)).run s = .error (.fault .handle) s := by
      rw [lib_run, mysql_stmt_result_metadata_closed hopen]
    rw [run_bind_error hlib]
    exact ⟨⟨hs.conn, hs.mysql, hwired⟩, fun _ h => hopen (hs.mysql.isOpen h)⟩

-- execute() acquires metadata only when the result has none.
theorem execute_method : Method true h (Wired l h T) (execute srv) := by
  refine Method.bind (Method.modifySelf fun m r hr =>
    ⟨hr.statement, hr.metas, hr.input, hr.output, hr.bound⟩) fun _ => ?_
  have hrest : Method true h (Wired l h T) count_affected := by
    refine Method.get_bind fun s hs => Method.ite (fun _ => ?_) fun _ => Method.pure ()
    rw [hs.statement]
    refine (Method.lib wired_stable mysql_stmt_affected_rows_calls).bind fun _ => ?_
    exact Method.modifySelf fun m r hr => ⟨hr.statement, hr.metas, hr.input, hr.output, hr.bound⟩
  refine Leads.method (Method.read fun s hs => ?_)
  have hstable : Stable fun m r => Wired l h T m r ∧ r = s.self :=
    fun m m' r hm hr => ⟨wired_stable m m' r hm hr.1, hr.2⟩
  rw [hs.statement]
  refine (Method.lib hstable mysql_stmt_execute_calls).then (fun _ _ h => h.1) fun status => ?_
  refine Leads.ite (fun _ => ?_) fun _ => ?_
  · exact wired_throw_error.leads fun _ _ hr => hr.1
  refine Leads.ite (fun hnone => ?_) fun _ => hrest.leads fun _ _ h => h.1
  rw [← bind_assoc]
  refine Leads.bind (metadata_leads.of fun m r hr => ⟨hr.1, ?_⟩) fun _ => hrest
  simp only [Bool.and_eq_true, Bool.not_eq_true', has_result, Option.isSome_eq_false_iff,
    Option.isNone_iff_eq_none] at hnone
  rw [hr.2, hnone.1]

theorem execute_rows_method (hT : Survives T) (fuel : Nat) :
    Method true h (Wired l h T) (execute_rows srv fuel) := by
  induction fuel with
  | zero => exact Method.throw (by simp)
  | succ fuel ih =>
      refine (input_method hT fun b hb => bind_next_row_method hb).bind fun more => ?_
      exact Method.ite (fun _ => execute_method.bind fun _ => ih) fun _ => Method.pure ()

end Execute

section Query

-- The buffers for the columns are set up as soon as the columns are known.
theorem columns_method : Method true h (Wired l h T) (cache_result srv) := by
  intro conn m₀ s hs
  rw [cache_result, EStateM.run_bind, EStateM.run_get]
  dsimp only
  cases hspec : s.self.pSpec_ with
  | none =>
      rw [EStateM.run_pure]
      exact hs
  | some spec =>
      obtain ⟨hconn, hmysql, hself⟩ := hs
      have hsetup : Method true h (Wired l h T) (do
          let s ← get
          output (MariaRow.setup srv s.self.pStatement_ s.self.types_)) := by
        refine Method.get_bind fun s hs => ?_
        rw [hs.statement]
        exact output_method (MariaRow.setup_method _)
      rw [run_bind_ok (cache_metadata_run (hself.spec hspec))]
      exact hsetup conn m₀ _ ⟨hconn, hmysql, hself.statement, hself.metas, hself.input, hself.output,
        hself.bound⟩

variable (srv) in
theorem send_query_method (hbound : ∀ bound b, T bound b → T true b) (sql : String) :
    Leads true h (fun m r => Wired l h T m r ∧ r.pSpec_ = none) (Wired l h T)
      (send_query srv sql) := by
  have hstable : Stable fun m r => Wired l h T m r ∧ r.pSpec_ = none :=
    fun m m' r hm hr => ⟨wired_stable m m' r hm hr.1, hr.2⟩
  have hthrow : Leads true h (fun m r => Wired l h T m r ∧ r.pSpec_ = none) (Wired l h T)
      (throw_error : EStateM Exc (Obj MariaResultPrep) Unit) :=
    wired_throw_error.leads fun _ _ hr => hr.1
  refine (Method.read fun s hs => ?_).of fun _ _ => id
  rw [hs.1.statement]
  refine Leads.of ?_ fun _ _ hr => hr.1
  refine (Method.lib hstable (mysql_stmt_prepare_calls sql)).then (fun _ _ hr => hr.1) fun status => ?_
  refine Leads.ite (fun _ => ?_) fun _ => ?_
  · refine (Method.lib hstable mysql_stmt_errno_calls).then (fun _ _ hr => hr.1) fun errno => ?_
    exact Leads.ite (fun _ => (Method.throw (by simp)).leads fun _ _ hr => hr.1) fun _ => hthrow
  refine (Method.lib hstable mysql_stmt_param_count_calls).then (fun _ _ hr => hr.1) fun nParams => ?_
  refine Method.then (Method.modifySelf fun m r hr => ⟨⟨hr.1.statement, hr.1.metas, hr.1.input,
    hr.1.output, hr.1.bound⟩, hr.2⟩) (fun _ _ hr => hr.1) fun _ => ?_
  rw [← bind_assoc]
  refine metadata_leads.bind fun _ => Method.ite (fun _ => ?_) fun _ => columns_method
  refine execute_method.bind fun _ => Method.bind (Method.modifySelf fun m r hr => ?_) fun _ =>
    columns_method
  exact ⟨hr.statement, hr.metas, hr.input, hr.output, hbound _ _ hr.bound⟩

end Query

section Bind

theorem input_bind (f : EStateM Exc (Obj MariaBinding) α) (g : α → EStateM Exc (Obj MariaBinding) β) :
    input (f >>= g) = (input f >>= fun a => input (g a)) := by
  funext s
  show (input (f >>= g)).run s = (input f >>= fun a => input (g a)).run s
  simp only [input, onMember_run, EStateM.run_bind]
  cases f.run ⟨s.toShared, s.self.bindingInput_⟩ <;> rfl

theorem bind_params_method (hT : ∀ bound b b', T bound b → T bound b') (params : List SEXP) :
    Method true h (Wired l h T) (bind_params params) := by
  refine Method.bind (Method.modifySelf fun m r hr =>
    ⟨hr.statement, hr.metas, hr.input, hr.output, hr.bound⟩) fun _ => ?_
  refine Method.get_bind fun s hs => ?_
  rw [hs.statement, ← input_bind (setup h) fun _ => init_binding params]
  refine Method.onMember fun m r hr => ⟨Linked h, hr.input, ?_, setup_init_method params⟩
  intro m' b hm hb
  exact ⟨hr.statement, (hm.metas rfl).trans hr.metas, hb, hr.output, hT _ _ _ hr.bound⟩

variable (srv) in
theorem bind_rows_method (hT : Survives T) (hbound : ∀ bound b, T bound b → T true b) :
    Method true h (Wired l h T) (bind_rows srv) := by
  have hend : Method true h (Wired l h T) (modifySelf fun r => { r with bound_ := true }) :=
    Method.modifySelf fun m r hr =>
      ⟨hr.statement, hr.metas, hr.input, hr.output, hbound _ _ hr.bound⟩
  refine Method.get_bind fun s _ => Method.ite (fun _ => ?_) fun _ => ?_
  · refine Method.bind (Method.modifySelf fun m r hr => ?_) fun _ => hend
    exact ⟨hr.statement, hr.metas, hr.input, hr.output, hr.bound⟩
  · exact (execute_rows_method hT _).bind fun _ => hend

end Bind

section Fetch

theorem fetch_row_method : Method true h (Wired l h T) (fetch_row srv) := by
  refine Method.get_bind fun s hs => Method.ite (fun _ => Method.pure false) fun _ => ?_
  rw [hs.statement]
  refine (output_method MariaRow.stmt_fetch_method).bind fun result => ?_
  cases result with
  | MYSQL_DATA_TRUNCATED => exact Method.pure true
  | ok => exact Method.pure true
  | error => exact wired_throw_error
  | MYSQL_NO_DATA =>
      refine Method.bind (Method.modifySelf fun m r hr => ?_) fun _ => Method.pure false
      exact ⟨hr.statement, hr.metas, hr.input, hr.output, hr.bound⟩

theorem step_loop_method (hT : Survives T) (fuel : Nat) :
    Method true h (Wired l h T) (step_loop srv fuel) := by
  induction fuel with
  | zero => exact Method.throw (by simp)
  | succ fuel ih =>
      refine fetch_row_method.bind fun row => Method.ite (fun _ => Method.pure true) fun _ => ?_
      refine (input_method hT fun b hb => bind_next_row_method hb).bind fun more => ?_
      exact Method.ite (fun _ => execute_method.bind fun _ => ih) fun _ => Method.pure false

theorem step_method (hT : Survives T) : Method true h (Wired l h T) (step srv) := by
  refine Method.get_bind fun s _ => (step_loop_method hT _).bind fun row => ?_
  refine Method.ite (fun _ => ?_) fun _ => Method.pure false
  refine Method.bind (Method.modifySelf fun m r hr => ?_) fun _ => Method.pure true
  exact ⟨hr.statement, hr.metas, hr.input, hr.output, hr.bound⟩

theorem set_list_values_method (i : Nat) (js : List Nat) :
    ∀ out : DataFrame, Method true h (Wired l h T) (set_list_values srv i js out) := by
  induction js with
  | nil => exact fun out => Method.pure out
  | cons j js ih =>
      intro out
      refine (Method.plain (index_plain _ _)).bind fun x => ?_
      exact (output_method (MariaRow.set_list_value_method x i j)).bind fun x => ih _

theorem check_user_interrupt_calls : Calls h (check_user_interrupt srv) :=
  count_call_calls.bind fun _ => Calls.ite (Calls.throw (by simp)) (Calls.pure ())

theorem fetch_loop_method (hT : Survives T) (n_max : ℤ) (fuel : Nat) :
    ∀ (i n : Nat) (out : DataFrame), Method true h (Wired l h T) (fetch_loop srv n_max fuel i n out) := by
  induction fuel with
  | zero => exact fun _ _ _ => Method.throw (by simp)
  | succ fuel ih =>
      intro i n out
      refine Method.ite (fun _ => Method.pure _) fun _ => (step_method hT).bind fun row => ?_
      refine Method.ite (fun _ => ?_) fun _ => Method.pure _
      refine Method.ite (fun _ => Method.throw (by simp)) fun _ => Method.get_bind fun s _ => ?_
      refine (set_list_values_method _ _ _).bind fun out => Method.ite (fun _ => ?_) fun _ => ih _ _ _
      exact (Method.lib wired_stable check_user_interrupt_calls).bind fun _ => ih _ _ _

theorem fetch_method (hT : Survives T) (fuel : Nat) (n_max : ℤ) :
    Method true h (Wired l h T) (fetch srv fuel n_max) := by
  refine Method.get_bind fun s _ => Method.ite (fun _ => Method.throw (by simp)) fun _ => ?_
  refine Method.ite (fun _ => Method.ite (fun _ => ?_) fun _ => Method.pure _) fun _ => ?_
  · exact Method.bind (Method.warns _) fun _ => Method.pure _
  · refine Method.ite (fun _ => Method.pure _) fun _ => (fetch_loop_method hT _ _ _ _ _).bind ?_
    rintro ⟨i, n, out⟩
    exact Method.get_bind fun s _ => Method.pure _

end Fetch

end RMariaDB.MariaResultPrep
