import RMariaDB.MariaBinding.Columns
import RMariaDB.MariaResultPrep

-- The methods in parts, and when bind() rejects the parameters.

namespace RMariaDB.MariaResultPrep

open Program MariaBinding

-- The end of execute()
def count_affected : EStateM Exc (Obj MariaResultPrep) Unit := do
  let s ← get
  if !s.self.has_result then do
    let affected ← lib (mysql_stmt_affected_rows s.self.pStatement_)
    modifySelf fun r => { r with rowsAffected_ := r.rowsAffected_ + affected }
  else
    pure ()

-- The end of send_query()
def cache_result (srv : Server) : EStateM Exc (Obj MariaResultPrep) Unit := do
  let s ← get
  match s.self.pSpec_ with
  | some spec => do
      cache_metadata spec
      let s ← get
      output (MariaRow.setup srv s.self.pStatement_ s.self.types_)
  | none => pure ()

-- The part of bind() that may reject the parameters.
def bind_params (params : List SEXP) : EStateM Exc (Obj MariaResultPrep) Unit := do
  modifySelf fun r => { r with rowsAffected_ := 0 }
  let s ← get
  input (setup s.self.pStatement_)
  input (init_binding params)

-- The part that executes them.
def bind_rows (srv : Server) : EStateM Exc (Obj MariaResultPrep) Unit := do
  let s ← get
  if s.self.has_result then
    modifySelf fun r => { r with complete_ := true }
  else
    execute_rows srv (rows_left s.self.bindingInput_ + 1)
  modifySelf fun r => { r with bound_ := true }

theorem bind_eq (srv : Server) (params : List SEXP) :
    bind srv params = (do bind_params params; bind_rows srv) := by
  simp only [bind, bind_params, bind_rows, bind_assoc]

theorem bind_rows_result {srv : Server} {s : Obj MariaResultPrep}
    (hresult : s.self.has_result = true) : (bind_rows srv).run s =
      .ok () { s with self.complete_ := true, self.bound_ := true } := by
  simp [bind_rows, hresult]

-- The parameters before their first row is bound.
def columns_set (b : MariaBinding) (k : Nat) (params : List SEXP) (slots : List Slot) :
    MariaBinding where
  statement := some k
  params := params
  p := params.length
  i := 0
  n_rows := params.head?.elim b.n_rows SEXP.xlength
  slots := slots

def set_up (s : Obj MariaResultPrep) (k : Nat) (params : List SEXP) (slots : List Slot) :
    Obj MariaResultPrep :=
  { s with
    self.rowsAffected_ := 0
    self.bindingInput_ := columns_set s.self.bindingInput_ k params slots }

variable {s : Obj MariaResultPrep} {k : Nat} {st : MYSQL_STMT} {params : List SEXP}

theorem bind_params_accepted (hstatement : s.self.pStatement_ = some k)
    (hst : s.mysql.stmts k = some st) (haccepted : Accepted st.param_count params) : ∃ slots,
      (bind_params params).run s = .ok () (set_up s k params slots) ∧ slots.length = params.length ∧ params.mapM kind_of = .ok (slots.map Slot.kind) := by
  have hsetup := setup_run (s := ⟨s.toShared, s.self.bindingInput_⟩) hst
  obtain ⟨slots, hinit, hlen, hkinds⟩ := init_binding_accepted (s := ⟨s.toShared,
    { s.self.bindingInput_ with
      statement := some k
      p := st.param_count
      slots := resize s.self.bindingInput_.slots st.param_count {} }⟩)
    (length_resize _ _ _) haccepted
  refine ⟨slots, ?_, hlen.trans haccepted.1.symm, hkinds⟩
  simp [bind_params, input, hstatement, hsetup, hinit, set_up, columns_set, haccepted.1]

theorem bind_params_rejected (hstatement : s.self.pStatement_ = some k)
    (hst : s.mysql.stmts k = some st) (hrejected : ¬Accepted st.param_count params) :
    ∃ message b, (bind_params params).run s = .error (.stop message) { s with
        self.rowsAffected_ := 0
        self.bindingInput_ := b } ∧
      b.statement = some k ∧ b.params = params ∧ b.p = st.param_count ∧
      (b.i < b.n_rows ↔ LeavesRows s.self.bindingInput_ st.param_count params) := by
  have hsetup := setup_run (s := ⟨s.toShared, s.self.bindingInput_⟩) hst
  obtain ⟨message, b, hinit, hb⟩ := init_binding_rejected (s := ⟨s.toShared,
    { s.self.bindingInput_ with
      statement := some k
      p := st.param_count
      slots := resize s.self.bindingInput_.slots st.param_count {} }⟩)
    (length_resize _ _ _) hrejected
  refine ⟨message, b, ?_, hb⟩
  simp [bind_params, input, hstatement, hsetup, hinit]

-- A bind after which there is a next operation.
theorem bind_cases {srv : Server} {u : Obj MariaResultPrep}
    (hafter : after (bind srv params) s = some u) : ∃ k st, s.self.pStatement_ = some k ∧
      s.mysql.stmts k = some st ∧
      ((Accepted st.param_count params ∧ ∃ slots, slots.length = params.length ∧
          params.mapM kind_of = .ok (slots.map Slot.kind) ∧
          after (bind_rows srv) (set_up s k params slots) = some u) ∨
        (¬Accepted st.param_count params ∧ ∃ b, b.statement = some k ∧
          (b.i < b.n_rows ↔ LeavesRows s.self.bindingInput_ st.param_count params) ∧
          u = { s with self.rowsAffected_ := 0, self.bindingInput_ := b })) := by
  rw [bind_eq] at hafter
  rcases deref_cases s.self.pStatement_ s.mysql with hderef | ⟨k, st, ⟨hk, hst⟩, -⟩
  · have hrun : ∃ t, (bind_params params).run s = .error (.fault .handle) t := by
      simp [bind_params, input, setup, mysql_stmt_param_count, hderef]
    obtain ⟨t, hrun⟩ := hrun
    cases (after_error (run_bind_error hrun) hafter).1
  refine ⟨k, st, hk, hst, ?_⟩
  by_cases haccepted : Accepted st.param_count params
  · obtain ⟨slots, hrun, hlen, hkinds⟩ := bind_params_accepted hk hst haccepted
    rw [after_bind_ok hrun] at hafter
    exact .inl ⟨haccepted, slots, hlen, hkinds, hafter⟩
  · obtain ⟨message, b, hrun, hstatement, -, -, hleaves⟩ := bind_params_rejected hk hst haccepted
    exact .inr ⟨haccepted, b, hstatement, hleaves, (after_error (run_bind_error hrun) hafter).2⟩

end RMariaDB.MariaResultPrep
