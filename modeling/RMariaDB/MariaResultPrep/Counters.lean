import RMariaDB.MariaResultPrep.Frames
import RMariaDB.MariaResultPrep.Runs

-- What the row counters say after any number of binds and fetches.

namespace RMariaDB.MariaResultPrep

open Program MariaBinding

variable {srv : Server} {s t : Obj MariaResultPrep} {α : Type}

section Fetched

def Bound (r : MariaResultPrep) : Prop := r.bound_ = true

theorem input_bound (m : EStateM Exc (Obj MariaBinding) α) : Retains Bound (input m) :=
  Retains.input (fun _ _ h => h) m

theorem output_bound (m : EStateM Exc (Obj MariaRow) α) : Retains Bound (output m) :=
  Retains.output (fun _ _ h => h) m

theorem execute_bound : Retains Bound (execute srv) := by
  have hcount : Retains Bound count_affected :=
    Retains.get_bind fun s => Retains.ite
      ((Retains.lib _).bind fun n => Retains.modifySelf fun r h => h) (Retains.pure ())
  refine Retains.bind (Retains.modifySelf fun r h => h) fun _ => Retains.get_bind fun s => ?_
  refine (Retains.lib _).bind fun status => Retains.ite throw_error_retains (Retains.ite ?_ hcount)
  refine (Retains.lib _).bind fun spec => Retains.bind (Retains.modifySelf fun r h => h) fun _ => ?_
  exact hcount

theorem fetch_row_bound : Retains Bound (fetch_row srv) := by
  refine Retains.get_bind fun s => Retains.ite (Retains.pure false) ?_
  refine (output_bound _).bind fun result => ?_
  cases result with
  | ok => exact Retains.pure true
  | MYSQL_DATA_TRUNCATED => exact Retains.pure true
  | error => exact throw_error_retains
  | MYSQL_NO_DATA =>
      exact Retains.bind (Retains.modifySelf fun r h => h) fun _ => Retains.pure false

theorem step_loop_bound (fuel : Nat) : Retains Bound (step_loop srv fuel) := by
  induction fuel with
  | zero => exact Retains.throw _
  | succ fuel ih =>
      refine fetch_row_bound.bind fun row => Retains.ite (Retains.pure true) ?_
      refine (input_bound _).bind fun more => Retains.ite ?_ (Retains.pure false)
      exact execute_bound.bind fun _ => ih

theorem step_bound : Retains Bound (step srv) := by
  refine Retains.get_bind fun s => (step_loop_bound _).bind fun found => ?_
  refine Retains.ite ?_ (Retains.pure false)
  exact Retains.bind (Retains.modifySelf fun r h => h) fun _ => Retains.pure true

theorem fetch_loop_bound (n_max : ℤ) (fuel : Nat) : ∀ (i n : Nat) (out : DataFrame),
    Retains Bound (fetch_loop srv n_max fuel i n out) := by
  induction fuel with
  | zero => exact fun _ _ _ => Retains.throw _
  | succ fuel ih =>
      intro i n out
      refine Retains.ite (Retains.pure _) (step_bound.bind fun found => ?_)
      refine Retains.ite (Retains.ite (Retains.throw _) ?_) (Retains.pure _)
      refine Retains.get_bind fun s =>
        (set_list_values_retains (fun _ _ h => h) i _ _).bind fun out => ?_
      exact Retains.ite ((Retains.lib _).bind fun _ => ih _ _ _) (ih _ _ _)

variable (srv) in
theorem fetch_stays_bound (fuel : Nat) (n_max : ℤ) : Retains Bound (fetch srv fuel n_max) := by
  refine Retains.get_bind fun s => Retains.ite (Retains.throw _) ?_
  refine Retains.ite (Retains.ite ?_ ?_) ?_
  · exact (Retains.shared _).bind fun _ => Retains.pure _
  · exact Retains.pure _
  refine Retains.ite (Retains.pure _) ((fetch_loop_bound n_max fuel _ _ _).bind ?_)
  rintro ⟨i, n, out⟩
  exact Retains.get_bind fun s => Retains.pure _

-- Every row of the frame that is returned has been counted.
theorem fetch_counts {fuel : Nat} {n : ℤ} {df : DataFrame} (hbound : s.self.bound_ = true)
    (h : (fetch srv fuel n).run s = .ok df t) : t.self.bound_ = true ∧
      (t.self.rowsFetched_ : ℤ) = s.self.rowsFetched_ + df.nrow := by
  have hstays : t.self.bound_ = true := by
    have hrun := fetch_stays_bound srv fuel n s hbound
    rwa [h] at hrun
  obtain ⟨k, hrows, hframed⟩ := fetch_framed h
  refine ⟨hstays, ?_⟩
  rw [hrows, DataFrame.nrow, hframed.row_names, Nat.cast_add, neg_neg]

end Fetched

section Affected

-- What mysql_stmt_affected_rows() says of the last execution.
def affected (s : Obj MariaResultPrep) : Nat :=
  ((s.self.pStatement_.bind s.mysql.stmts).map MYSQL_STMT.affected_rows).getD 0

theorem affected_rows_ok {n : Nat}
    (h : (lib (mysql_stmt_affected_rows s.self.pStatement_)).run s = .ok n t) :
    t = s ∧ affected s = n := by
  rw [lib_run] at h
  rcases deref_cases s.self.pStatement_ s.mysql with hderef | ⟨k, st, ⟨hk, hst⟩, hderef⟩
  · rw [mysql_stmt_affected_rows, run_bind_error hderef] at h
    cases h
  · rw [mysql_stmt_affected_rows, run_bind_ok hderef] at h
    cases h
    rw [affected, hk, Option.bind_some, hst]
    exact ⟨rfl, rfl⟩

-- The counters of two states, where the rows affected by the last execution came in between.
structure Counts (s t : Obj MariaResultPrep) : Prop where
  fetched : t.self.rowsFetched_ = s.self.rowsFetched_
  input : t.self.bindingInput_ = s.self.bindingInput_
  affected : t.self.has_result = false → s.self.has_result = false ∧
    t.self.rowsAffected_ = s.self.rowsAffected_ + affected t

theorem count_affected_ok (h : count_affected.run s = .ok () t) : Counts s t := by
  obtain ⟨_, _, hget, h⟩ := of_run_bind_ok h
  cases hget
  cases hresult : s.self.has_result with
  | true =>
      rw [hresult, Bool.not_true, if_neg (by decide)] at h
      cases h
      exact ⟨rfl, rfl, fun hnone => by rw [hresult] at hnone; cases hnone⟩
  | false =>
      rw [hresult, Bool.not_false, if_pos rfl] at h
      obtain ⟨n, u, hlib, h⟩ := of_run_bind_ok h
      obtain ⟨rfl, rfl⟩ := affected_rows_ok hlib
      cases h
      exact ⟨rfl, rfl, fun _ => ⟨hresult, rfl⟩⟩

-- An execution without a result set counts the rows that it affected.
theorem execute_ok (h : (execute srv).run s = .ok () t) : Counts s t := by
  obtain ⟨_, u, hclear, h⟩ := of_run_bind_ok h
  have hu := (of_modifySelf_ok hclear).1
  obtain ⟨s', u', hget, h⟩ := of_run_bind_ok h
  cases hget
  obtain ⟨status, v, hexecute, h⟩ := of_run_bind_ok h
  have hv := (of_lib_ok hexecute).2
  split at h
  · exact absurd h throw_error_ne_ok
  split at h
  · rename_i hnone
    obtain ⟨spec, w, hmetadata, h⟩ := of_run_bind_ok h
    have hw := (of_lib_ok hmetadata).2
    obtain ⟨_, x, hset, h⟩ := of_run_bind_ok h
    have hx := (of_modifySelf_ok hset).1
    have hcounts := count_affected_ok h
    refine ⟨?_, ?_, fun hresult => ⟨?_, ?_⟩⟩
    · rw [hcounts.fetched, hx, hw, hv, hu]
    · rw [hcounts.input, hx, hw, hv, hu]
    · obtain ⟨hnone, -⟩ := Bool.and_eq_true_iff.mp hnone
      rw [hu] at hnone
      simpa [has_result] using hnone
    · rw [(hcounts.affected hresult).2, hx, hw, hv, hu]
  · have hcounts := count_affected_ok h
    refine ⟨?_, ?_, fun hresult => ?_⟩
    · rw [hcounts.fetched, hv, hu]
    · rw [hcounts.input, hv, hu]
    · have hsum := hcounts.affected hresult
      rw [has_result, hv, hu] at hsum
      exact hsum

theorem of_input_ok {m : EStateM Exc (Obj MariaBinding) α} {a : α}
    (h : (input m).run s = .ok a t) :
    t.self = { s.self with bindingInput_ := t.self.bindingInput_ } ∧
      m.run ⟨s.toShared, s.self.bindingInput_⟩ = .ok a ⟨t.toShared, t.self.bindingInput_⟩ := by
  obtain ⟨u, hrun, rfl⟩ := of_onMember_ok h
  exact ⟨rfl, hrun⟩

theorem of_output_ok {m : EStateM Exc (Obj MariaRow) α} {a : α}
    (h : (output m).run s = .ok a t) :
    t.self = { s.self with bindingOutput_ := t.self.bindingOutput_ } := by
  obtain ⟨u, -, rfl⟩ := of_onMember_ok h
  rfl

-- Row i of n rows is the next to be bound.
def AtParameter (i n : Nat) (s : Obj MariaBinding) : Prop := s.self.i = i ∧ s.self.n_rows = n

theorem bind_columns_at {i n : Nat} (js : List Nat) :
    Safe (AtParameter i n) (fun _ => True) (bind_columns js) := by
  induction js with
  | nil => exact Safe.pure ()
  | cons j js ih =>
      refine Safe.bind (Safe.get_bind fun s _ => ?_) fun _ => ih
      refine (Safe.liftM fun _ _ => trivial).bind fun col => ?_
      refine (Safe.liftM fun _ _ => trivial).bind fun slot => ?_
      exact (Safe.liftM fun _ _ => trivial).bind fun slot => Safe.modify fun _ h => h

-- A row is bound as long as there is one.
theorem bind_next_row_ok {s t : Obj MariaBinding} {more : Bool}
    (h : bind_next_row.run s = .ok more t) : more = decide (s.self.i < s.self.n_rows) ∧
      t.self.i = s.self.i + more.toNat ∧ t.self.n_rows = s.self.n_rows := by
  obtain ⟨_, _, hget, h⟩ := of_run_bind_ok h
  cases hget
  by_cases hdone : s.self.i ≥ s.self.n_rows
  · rw [if_pos hdone] at h
    cases h
    exact ⟨(decide_eq_false (by omega)).symm, rfl, rfl⟩
  · rw [if_neg hdone] at h
    obtain ⟨_, u, hcolumns, h⟩ := of_run_bind_ok h
    have hu := bind_columns_at (List.range s.self.p) s ⟨rfl, rfl⟩
    rw [hcolumns] at hu
    obtain ⟨_, _, hget, h⟩ := of_run_bind_ok h
    cases hget
    obtain ⟨_, v, hlib, h⟩ := of_run_bind_ok h
    have hv := (of_lib_ok hlib).2
    obtain ⟨_, w, hset, h⟩ := of_run_bind_ok h
    have hw := (of_modifySelf_ok hset).1
    cases h
    refine ⟨(decide_eq_true (by omega)).symm, ?_, ?_⟩
    · rw [hw, hv, ← hu.1]
      rfl
    · rw [hw, hv, ← hu.2]

-- The counts that the server reports for the parameter rows that are left.
def reports (srv : Server) : Nat → Obj MariaResultPrep → List Nat
  | 0, _ => []
  | fuel + 1, s => match (input bind_next_row).run s with
    | .ok true t => match (execute srv).run t with
      | .ok _ u => affected u :: reports srv fuel u
      | .error _ _ => []
    | _ => []

-- The loop of bind() for a statement without a result set
theorem execute_rows_ok : ∀ {fuel : Nat} {s : Obj MariaResultPrep},
    (execute_rows srv fuel).run s = .ok () t → t.self.rowsFetched_ = s.self.rowsFetched_ ∧
      (t.self.has_result = false → s.self.has_result = false ∧
        t.self.rowsAffected_ = s.self.rowsAffected_ + (reports srv fuel s).sum ∧
        (reports srv fuel s).length = rows_left s.self.bindingInput_) := by
  intro fuel
  induction fuel with
  | zero =>
      intro s h
      cases h
  | succ fuel ih =>
      intro s h
      obtain ⟨more, u, hnext, h⟩ := of_run_bind_ok h
      obtain ⟨hu, hrow⟩ := of_input_ok hnext
      obtain ⟨hmore, hi, hn⟩ := bind_next_row_ok hrow
      dsimp only at hmore hi hn
      cases more with
      | false =>
          cases h
          have hreports : reports srv (fuel + 1) s = [] := by rw [reports, hnext]
          have hleft := of_decide_eq_false hmore.symm
          refine ⟨by rw [hu], fun hresult => ⟨by rwa [hu] at hresult, ?_, ?_⟩⟩
          · rw [hu, hreports]
            rfl
          · rw [hreports, rows_left, List.length_nil]
            exact (Nat.sub_eq_zero_of_le (Nat.le_of_not_lt hleft)).symm
      | true =>
          obtain ⟨_, v, hexecute, h⟩ := of_run_bind_ok h
          obtain ⟨hfetched, haffected⟩ := ih h
          have hcounts := execute_ok hexecute
          have hreports : reports srv (fuel + 1) s = affected v :: reports srv fuel v := by
            rw [reports, hnext]
            simp only [hexecute]
          refine ⟨by rw [hfetched, hcounts.fetched, hu], fun hresult => ?_⟩
          obtain ⟨hresultv, hsum, hlength⟩ := haffected hresult
          obtain ⟨hresultu, hone⟩ := hcounts.affected hresultv
          have hleft := of_decide_eq_true hmore.symm
          refine ⟨by rwa [hu] at hresultu, ?_, ?_⟩
          · rw [hsum, hone, hu, hreports, List.sum_cons, Nat.add_assoc]
          · rw [hreports, List.length_cons, hlength, hcounts.input, rows_left, rows_left, hi, hn,
              Bool.toNat_true]
            omega

-- Parameters that were accepted are set up.
theorem bind_params_ok {params : List SEXP} (h : (bind_params params).run s = .ok () t) :
    ∃ k slots, params ≠ [] ∧ t = set_up s k params slots := by
  rcases deref_cases s.self.pStatement_ s.mysql with hderef | ⟨k, st, ⟨hk, hst⟩, -⟩
  · have hrun : ∃ u, (bind_params params).run s = .error (.fault .handle) u := by
      simp [bind_params, input, setup, mysql_stmt_param_count, hderef]
    obtain ⟨u, hrun⟩ := hrun
    rw [h] at hrun
    cases hrun
  by_cases haccepted : Accepted st.param_count params
  · obtain ⟨slots, hrun, -⟩ := bind_params_accepted hk hst haccepted
    rw [h] at hrun
    injection hrun with _ ht
    refine ⟨k, slots, fun hnil => haccepted.2.1 ?_, ht⟩
    rw [← haccepted.1, hnil, List.length_nil]
  · obtain ⟨message, b, hrun, -⟩ := bind_params_rejected hk hst haccepted
    rw [h] at hrun
    cases hrun

-- The counts for the rows of new parameters
def bind_reports (srv : Server) (params : List SEXP) (s : Obj MariaResultPrep) : List Nat :=
  match (bind_params params).run s with
  | .ok _ t => reports srv (rows_left t.self.bindingInput_ + 1) t
  | .error _ _ => []

-- There is one for each of them.
theorem bind_ok {params : List SEXP} (h : (bind srv params).run s = .ok () t) :
    t.self.bound_ = true ∧ t.self.rowsFetched_ = s.self.rowsFetched_ ∧
      (t.self.has_result = false → t.self.rowsAffected_ = (bind_reports srv params s).sum ∧
        (bind_reports srv params s).length = params.head?.elim 0 SEXP.xlength) := by
  rw [bind_eq] at h
  obtain ⟨_, u, hparams, h⟩ := of_run_bind_ok h
  obtain ⟨k, slots, hsome, rfl⟩ := bind_params_ok hparams
  have hreports : bind_reports srv params s = reports srv
      (rows_left (columns_set s.self.bindingInput_ k params slots) + 1)
      (set_up s k params slots) := by
    rw [bind_reports, hparams]
    rfl
  have hrows : rows_left (columns_set s.self.bindingInput_ k params slots) =
      params.head?.elim 0 SEXP.xlength := by
    cases params with
    | nil => exact absurd rfl hsome
    | cons col cols => rfl
  obtain ⟨_, _, hget, h⟩ := of_run_bind_ok h
  cases hget
  cases hresult : (set_up s k params slots).self.has_result with
  | true =>
      rw [hresult, if_pos rfl] at h
      obtain ⟨_, v, hcomplete, h⟩ := of_run_bind_ok h
      rw [(of_modifySelf_ok h).1, (of_modifySelf_ok hcomplete).1]
      exact ⟨rfl, rfl, fun hnone => absurd (hresult.symm.trans hnone) (by decide)⟩
  | false =>
      rw [hresult, if_neg (by decide)] at h
      obtain ⟨_, v, hexecute, h⟩ := of_run_bind_ok h
      rw [(of_modifySelf_ok h).1, hreports]
      obtain ⟨hfetched, haffected⟩ := execute_rows_ok hexecute
      refine ⟨rfl, hfetched, fun hnone => ?_⟩
      obtain ⟨-, hsum, hlength⟩ := haffected hnone
      exact ⟨hsum.trans (Nat.zero_add _), hlength.trans hrows⟩

theorem cache_metadata_ok {spec : MYSQL_RES} (h : (cache_metadata spec).run s = .ok () t) :
    t.self.rowsFetched_ = s.self.rowsFetched_ ∧ t.self.pSpec_ = s.self.pSpec_ := by
  obtain ⟨fields, u, hfields, h⟩ := of_run_bind_ok h
  obtain ⟨_, v, hset, h⟩ := of_run_bind_ok h
  rw [of_shared_ok h, (of_modifySelf_ok hset).1, (of_lib_ok hfields).2]
  exact ⟨rfl, rfl⟩

theorem cache_result_ok (h : (cache_result srv).run s = .ok () t) :
    t.self.rowsFetched_ = s.self.rowsFetched_ ∧ (t.self.has_result = false → t = s) := by
  obtain ⟨_, _, hget, h⟩ := of_run_bind_ok h
  cases hget
  cases hspec : s.self.pSpec_ with
  | none =>
      rw [hspec] at h
      cases h
      exact ⟨rfl, fun _ => rfl⟩
  | some spec =>
      rw [hspec] at h
      obtain ⟨_, u, hcache, h⟩ := of_run_bind_ok h
      obtain ⟨hfetched, hspecu⟩ := cache_metadata_ok hcache
      obtain ⟨_, _, hget, h⟩ := of_run_bind_ok h
      cases hget
      rw [of_output_ok h]
      refine ⟨hfetched, fun hnone => ?_⟩
      rw [has_result, hspecu, hspec] at hnone
      cases hnone

theorem send_query_ok {sql : String} (h : (send_query srv sql).run s = .ok () t) :
    t.self.rowsFetched_ = s.self.rowsFetched_ ∧ (t.self.bound_ = true → s.self.bound_ = false →
      t.self.has_result = false → t.self.rowsAffected_ = s.self.rowsAffected_ + affected t) := by
  obtain ⟨_, _, hget, h⟩ := of_run_bind_ok h
  cases hget
  obtain ⟨status, u, hprepare, h⟩ := of_run_bind_ok h
  have hu := (of_lib_ok hprepare).2
  split at h
  · obtain ⟨errno, v, -, h⟩ := of_run_bind_ok h
    split at h
    · cases h
    · exact absurd h throw_error_ne_ok
  obtain ⟨nParams, v, hcount, h⟩ := of_run_bind_ok h
  have hv := (of_lib_ok hcount).2
  obtain ⟨_, w, hset, h⟩ := of_run_bind_ok h
  have hw := (of_modifySelf_ok hset).1
  obtain ⟨spec, x, hmetadata, h⟩ := of_run_bind_ok h
  have hx := (of_lib_ok hmetadata).2
  obtain ⟨_, y, hspec, h⟩ := of_run_bind_ok h
  have hy := (of_modifySelf_ok hspec).1
  rw [hx, hw, hv, hu] at hy
  split at h
  · obtain ⟨_, z, hexecute, h⟩ := of_run_bind_ok h
    have hcounts := execute_ok hexecute
    obtain ⟨_, r, hbound, h⟩ := of_run_bind_ok h
    obtain ⟨hr, hmysql⟩ := of_modifySelf_ok hbound
    obtain ⟨hfetched, hsame⟩ := cache_result_ok h
    refine ⟨?_, fun _ _ hnone => ?_⟩
    · rw [hfetched, hr, hcounts.fetched, hy]
    · obtain rfl := hsame hnone
      rw [hr] at hnone
      rw [affected, hr, hmysql, (hcounts.affected hnone).2, hy]
      rfl
  · obtain ⟨hfetched, hsame⟩ := cache_result_ok h
    refine ⟨?_, fun hbound hunbound hnone => ?_⟩
    · rw [hfetched, hy]
    · rw [hsame hnone, hy, hunbound] at hbound
      cases hbound

theorem opened_ok {is_statement : Bool} {sql : String}
    (h : (opened srv is_statement sql).run s = .ok () t) : t.self.rowsFetched_ = 0 ∧
      (t.self.bound_ = true → t.self.has_result = false → t.self.rowsAffected_ = affected t) := by
  obtain ⟨_, u, hconstruct, hsend⟩ := of_run_bind_ok h
  obtain ⟨_, v, hclear, hconstruct⟩ := of_run_bind_ok hconstruct
  obtain ⟨k, w, hinit, hconstruct⟩ := of_run_bind_ok hconstruct
  obtain ⟨_, x, hset, hconstruct⟩ := of_run_bind_ok hconstruct
  have hu : u = x := by
    split at hconstruct
    · cases hconstruct
    · cases hconstruct
      rfl
  obtain ⟨hfetched, haffected⟩ := send_query_ok hsend
  rw [hu, (of_modifySelf_ok hset).1, (of_lib_ok hinit).2, (of_modifySelf_ok hclear).1]
    at hfetched haffected
  exact ⟨hfetched, fun hbound hnone => (haffected hbound rfl hnone).trans (Nat.zero_add _)⟩

theorem fetch_bound {fuel : Nat} {n : ℤ} {df : DataFrame}
    (h : (fetch srv fuel n).run s = .ok df t) : s.self.bound_ = true := by
  obtain ⟨_, _, hget, h⟩ := of_run_bind_ok h
  cases hget
  cases hbound : s.self.bound_ with
  | true => rfl
  | false =>
      rw [hbound, Bool.not_false, if_pos rfl] at h
      cases h

-- Without a result set there is nothing to fetch.
theorem fetch_nothing {fuel : Nat} {n : ℤ} {df : DataFrame} (hnone : s.self.has_result = false)
    (h : (fetch srv fuel n).run s = .ok df t) : t.self = s.self := by
  obtain ⟨u, hrun, hself, -⟩ := fetch_resultless srv (fetch_bound h) hnone fuel n
  rw [h] at hrun
  cases hrun
  exact hself

end Affected

section Calls

-- Successful calls on one result, where every bind comes in a state with P: the frames that
-- were fetched since the last of them, and what the server reported for the rows it had.
inductive Calls (srv : Server) (P : Obj MariaResultPrep → Prop) :
    Obj MariaResultPrep → List DataFrame → List Nat → Prop where
  | send {s t : Obj MariaResultPrep} {is_statement : Bool} {sql : String} :
      (opened srv is_statement sql).run s = .ok () t →
      Calls srv P t [] (if t.self.bound_ then [affected t] else [])
  | bind {s t : Obj MariaResultPrep} {frames : List DataFrame} {counts : List Nat}
      {params : List SEXP} : Calls srv P s frames counts → P s →
      (bind srv params).run s = .ok () t → Calls srv P t [] (bind_reports srv params s)
  | fetch {s t : Obj MariaResultPrep} {frames : List DataFrame} {counts : List Nat} {fuel : Nat}
      {n : ℤ} {df : DataFrame} : Calls srv P s frames counts →
      (fetch srv fuel n).run s = .ok df t → Calls srv P t (frames ++ [df]) counts

def fetched (frames : List DataFrame) : ℤ := (frames.map DataFrame.nrow).sum

theorem fetched_append (frames : List DataFrame) (df : DataFrame) :
    fetched (frames ++ [df]) = fetched frames + df.nrow := by
  rw [fetched, fetched, List.map_append, List.sum_append, List.map_singleton, List.sum_singleton]

-- Every bind restarts the count of affected rows.
theorem calls_affected {P : Obj MariaResultPrep → Prop} {frames : List DataFrame} {counts : List Nat}
    (h : Calls srv P s frames counts) :
    s.self.bound_ = true → s.self.has_result = false → s.self.rowsAffected_ = counts.sum := by
  induction h with
  | send hopened =>
      intro hbound hnone
      rw [(opened_ok hopened).2 hbound hnone, if_pos hbound, List.sum_singleton]
  | bind _ _ hbind _ => exact fun _ hnone => ((bind_ok hbind).2.2 hnone).1
  | @fetch s t frames counts fuel n df _ hfetch ih =>
      intro _ hnone
      cases hresult : s.self.has_result with
      | false =>
          rw [fetch_nothing hresult hfetch]
          exact ih (fetch_bound hfetch) hresult
      | true =>
          have hsame : SameColumns false s.self t.self :=
            (fetch_persists fuel n).run_ok hfetch (SameColumns.refl _)
          have hspec := hsame.spec hresult
          rw [has_result, hspec] at hnone
          exact absurd (hresult.symm.trans hnone) (by decide)

-- The other count goes on where it was.
theorem calls_fetched {P : Obj MariaResultPrep → Prop} (hP : ∀ s, P s → s.self.rowsFetched_ = 0)
    {frames : List DataFrame} {counts : List Nat} (h : Calls srv P s frames counts) :
    (s.self.rowsFetched_ : ℤ) = fetched frames ∧ (s.self.bound_ = false → frames = []) := by
  induction h with
  | send hopened => exact ⟨congrArg Nat.cast (opened_ok hopened).1, fun _ => rfl⟩
  | bind _ hs hbind _ =>
      refine ⟨?_, fun _ => rfl⟩
      rw [(bind_ok hbind).2.1, hP _ hs]
      rfl
  | fetch _ hfetch ih =>
      obtain ⟨hbound, hrows⟩ := fetch_counts (fetch_bound hfetch) hfetch
      refine ⟨?_, fun hunbound => absurd (hbound.symm.trans hunbound) (by decide)⟩
      rw [hrows, fetched_append, ih.1]

theorem as_int_small {n : Nat} (h : n ≤ INT_MAX) : as_int n = n :=
  Int.bmod_eq_of_le (by omega) (by rw [INT_MAX] at h; omega)

-- What the two counters should say
def AffectedHolds (s : Obj MariaResultPrep) (counts : List Nat) : Prop :=
  s.self.bound_ = true → s.self.has_result = false → counts.sum ≤ INT_MAX →
    n_rows_affected s.self = counts.sum

def CountersHold (s : Obj MariaResultPrep) (frames : List DataFrame) (counts : List Nat) : Prop :=
  (fetched frames ≤ INT_MAX → n_rows_fetched s.self = fetched frames) ∧ AffectedHolds s counts

-- The affected rows are always those of the last bind, the fetched rows are as long as no
-- parameters are bound after a row was fetched.
theorem counters_hold {P : Obj MariaResultPrep → Prop} {frames : List DataFrame}
    {counts : List Nat} (h : Calls srv P s frames counts) : AffectedHolds s counts ∧
      ((∀ s, P s → s.self.rowsFetched_ = 0) → CountersHold s frames counts) := by
  have haffected : AffectedHolds s counts := by
    intro hbound hnone hfits
    rw [n_rows_affected, hbound, Bool.not_true, if_neg (by decide), calls_affected h hbound hnone]
    exact as_int_small hfits
  refine ⟨haffected, fun hP => ⟨fun hfits => ?_, haffected⟩⟩
  obtain ⟨hrows, hunbound⟩ := calls_fetched hP h
  rw [n_rows_fetched]
  split
  · rename_i hfresh
    rw [hunbound (Bool.not_eq_true' _ ▸ hfresh)]
    rfl
  · rw [← hrows] at hfits ⊢
    exact as_int_small (Int.ofNat_le.mp hfits)

theorem Calls.mono {P Q : Obj MariaResultPrep → Prop} (hPQ : ∀ s, P s → Q s)
    {frames : List DataFrame} {counts : List Nat} (h : Calls srv P s frames counts) :
    Calls srv Q s frames counts := by
  induction h with
  | send hopened => exact .send hopened
  | bind _ hs hbind ih => exact .bind ih (hPQ _ hs) hbind
  | fetch _ hfetch ih => exact .fetch ih hfetch

-- The first row of the query for three keys
theorem numbers_fetched : ∃ s st df counts, Serves numbers s st ∧ fetched [df] = 1 ∧
    Calls numbers_server (fun s => s.self.rowsFetched_ = 0) s [df] counts := by
  obtain ⟨s, st, hopened, hserves, -⟩ := opened_run (s := ⟨{}, {}⟩) numbers_answers
    ⟨rfl, rfl, rfl, rfl⟩ rfl rfl false
  have haccepted : Accepted numbers.param_count three_keys := ⟨rfl, by decide, _, rfl⟩
  obtain ⟨slots, hbind, -⟩ := bind_accepted numbers_server hserves haccepted
  have hrun : Run numbers_server numbers _ (some three_keys) [] :=
    .bind (.send ⟨rfl, rfl, rfl, rfl⟩ rfl hopened) hbind
  obtain ⟨df, t, hfetch⟩ := (end_of_run numbers_answers hrun (by decide) 1
    (Nat.lt_succ_self _)).2 rfl three_keys_convertible
  have hrows := length_of_run numbers_answers hrun hfetch
  rw [three_keys_left, if_neg (by decide), DataFrame.rows, List.length_map, List.length_range]
    at hrows
  obtain ⟨st', ht⟩ := ((hrun.fetch hfetch).accounts numbers_answers).serves
  refine ⟨t, st', df, _, ht, ?_, .fetch (.bind (.send hopened) (opened_ok hopened).1 hbind) hfetch⟩
  rw [fetched, List.map_singleton, List.sum_singleton]
  change df.nrow.toNat = 1 at hrows
  omega

theorem counters_hold_first_row : ∃ s df counts, n_rows_fetched s.self = 1 ∧ fetched [df] = 1 ∧
    Calls numbers_server (fun s => s.self.rowsFetched_ = 0) s [df] counts := by
  obtain ⟨s, st, df, counts, -, hone, hcalls⟩ := numbers_fetched
  refine ⟨s, df, counts, ?_, hone, hcalls⟩
  rw [((counters_hold hcalls).2 fun _ hnone => hnone).1 (by rw [hone]; decide), hone]

-- A row of the keys that were bound before is still counted after the next bind.
theorem bind_counters_stale : ∃ s counts,
    Calls numbers_server (fun _ => True) s [] counts ∧ n_rows_fetched s.self = 1 ∧
    ¬CountersHold s [] counts := by
  obtain ⟨s, st, df, counts, hserves, hone, hcalls⟩ := numbers_fetched
  have haccepted : Accepted numbers.param_count three_keys := ⟨rfl, by decide, _, rfl⟩
  obtain ⟨slots, hbind, -⟩ := bind_accepted numbers_server hserves haccepted
  obtain ⟨hbound, hfetched, -⟩ := bind_ok hbind
  have hrows : (s.self.rowsFetched_ : ℤ) = 1 := (calls_fetched (fun _ hnone => hnone) hcalls).1.trans hone
  have hcount : n_rows_fetched (bound numbers s three_keys slots).self = 1 := by
    rw [n_rows_fetched, hbound, Bool.not_true, if_neg (by decide), hfetched, ← hrows]
    exact as_int_small (by rw [INT_MAX]; omega)
  refine ⟨_, _, .bind (hcalls.mono fun _ _ => trivial) trivial hbind, hcount, fun hhold => ?_⟩
  have hzero := hhold.1 (by decide)
  rw [hcount] at hzero
  exact absurd hzero (by decide)

end Calls

end RMariaDB.MariaResultPrep
