import RMariaDB.MariaResultPrep.Methods

-- The columns of a result: what is cached of them, and the buffers that are bound for them.

namespace RMariaDB.MariaResultPrep

open Program

variable {srv : Server} {α : Type}

section Columns

-- The columns are what they were, and so is the metadata if there was some. `c` is whether the
-- count of the rows is also what it was.
structure SameColumns (c : Bool) (r₀ r : MariaResultPrep) : Prop where
  statement : r.pStatement_ = r₀.pStatement_
  nCols : r.nCols_ = r₀.nCols_
  names : r.names_ = r₀.names_
  types : r.types_ = r₀.types_
  output : MariaRow.SetUp r₀.bindingOutput_.pStatement_
    (r₀.bindingOutput_.slots.map MariaRow.Slot.type) r.bindingOutput_
  spec : r₀.has_result = true → r.pSpec_ = r₀.pSpec_
  fetched : c = true → r.rowsFetched_ = r₀.rowsFetched_

variable {c : Bool} {r₀ r : MariaResultPrep}

theorem SameColumns.refl (r : MariaResultPrep) : SameColumns c r r :=
  ⟨rfl, rfl, rfl, rfl, ⟨rfl, rfl⟩, fun _ => rfl, fun _ => rfl⟩

theorem modify_persists {f : MariaResultPrep → MariaResultPrep}
    (hf : ∀ r, (f r).pStatement_ = r.pStatement_ ∧ (f r).nCols_ = r.nCols_ ∧ (f r).names_ = r.names_ ∧
      (f r).types_ = r.types_ ∧ (f r).bindingOutput_ = r.bindingOutput_ ∧ (f r).pSpec_ = r.pSpec_ ∧
      (c = true → (f r).rowsFetched_ = r.rowsFetched_)) :
    Persists (SameColumns c r₀) (modifySelf f) := by
  refine Persists.modifySelf fun r hr => ?_
  obtain ⟨hstatement, hnCols, hnames, htypes, houtput, hspec, hfetched⟩ := hf r
  exact ⟨hstatement.trans hr.statement, hnCols.trans hr.nCols, hnames.trans hr.names,
    htypes.trans hr.types, houtput ▸ hr.output, fun h => hspec.trans (hr.spec h),
    fun h => (hfetched h).trans (hr.fetched h)⟩

theorem throw_error_persists : Persists (SameColumns c r₀) (throw_error : EStateM Exc _ α) := by
  intro m₀ s hs
  obtain ⟨e, hrun⟩ := throw_error_run (α := α) s
  rw [hrun]
  exact ⟨hs, trivial⟩

theorem input_persists {f : EStateM Exc (Obj MariaBinding) α} (hf : Persists (fun _ => True) f) :
    Persists (SameColumns c r₀) (input f) :=
  Persists.onMember fun _ hr => ⟨fun _ => True, trivial,
    fun _ _ => ⟨hr.statement, hr.nCols, hr.names, hr.types, hr.output, hr.spec, hr.fetched⟩, hf⟩

theorem output_persists {f : EStateM Exc (Obj MariaRow) α}
    (hf : ∀ h types, Persists (MariaRow.SetUp h types) f) : Persists (SameColumns c r₀) (output f) :=
  Persists.onMember fun _ hr => ⟨_, hr.output,
    fun _ hy => ⟨hr.statement, hr.nCols, hr.names, hr.types, hy, hr.spec, hr.fetched⟩, hf _ _⟩

-- Metadata is acquired only where there was none.
theorem execute_persists : Persists (SameColumns c r₀) (execute srv) := by
  have hrest : Persists (SameColumns c r₀) count_affected := by
    refine Persists.get_bind fun s _ => Persists.ite (fun _ => ?_) fun _ => Persists.pure ()
    exact (Persists.lib mysql_stmt_affected_rows_binds).bind fun _ =>
      modify_persists fun _ => ⟨rfl, rfl, rfl, rfl, rfl, rfl, fun _ => rfl⟩
  refine Persists.bind (modify_persists fun _ => ⟨rfl, rfl, rfl, rfl, rfl, rfl, fun _ => rfl⟩) fun _ => ?_
  refine Persists.get_bind fun s hs => ?_
  refine (Persists.lib mysql_stmt_execute_binds).bind fun status => ?_
  refine Persists.ite (fun _ => throw_error_persists) fun _ => Persists.ite (fun hnone => ?_) fun _ => hrest
  refine (Persists.lib mysql_stmt_result_metadata_binds).bind fun spec => ?_
  refine Persists.bind (Persists.modifySelf fun r hr => ?_) fun _ => hrest
  refine ⟨hr.statement, hr.nCols, hr.names, hr.types, hr.output, fun hresult => ?_, hr.fetched⟩
  have hspec : s.self.has_result = true := by rw [has_result, hs.spec hresult]; exact hresult
  rw [hspec] at hnone
  cases hnone

theorem bind_persists (params : List SEXP) : Persists (SameColumns c r₀) (bind srv params) := by
  have hrows : ∀ fuel, Persists (SameColumns c r₀) (execute_rows srv fuel) := by
    intro fuel
    induction fuel with
    | zero => exact Persists.throw _
    | succ fuel ih =>
        refine (input_persists MariaBinding.bind_next_row_persists).bind fun more => ?_
        exact Persists.ite (fun _ => execute_persists.bind fun _ => ih) fun _ => Persists.pure ()
  have hend : Persists (SameColumns c r₀) (modifySelf fun r => { r with bound_ := true }) :=
    modify_persists fun _ => ⟨rfl, rfl, rfl, rfl, rfl, rfl, fun _ => rfl⟩
  refine Persists.bind (modify_persists fun _ => ⟨rfl, rfl, rfl, rfl, rfl, rfl, fun _ => rfl⟩) fun _ => ?_
  refine Persists.get_bind fun s _ => ?_
  refine (input_persists (MariaBinding.setup_persists _)).bind fun _ => ?_
  refine (input_persists (MariaBinding.init_binding_persists params)).bind fun _ => ?_
  refine Persists.get_bind fun s _ => Persists.ite (fun _ => ?_) fun _ => (hrows _).bind fun _ => hend
  exact Persists.bind (modify_persists fun _ => ⟨rfl, rfl, rfl, rfl, rfl, rfl, fun _ => rfl⟩) fun _ => hend

theorem fetch_row_persists : Persists (SameColumns c r₀) (fetch_row srv) := by
  refine Persists.get_bind fun s _ => Persists.ite (fun _ => Persists.pure false) fun _ => ?_
  refine (output_persists fun _ _ => MariaRow.stmt_fetch_persists _).bind fun result => ?_
  cases result with
  | MYSQL_DATA_TRUNCATED => exact Persists.pure true
  | ok => exact Persists.pure true
  | error => exact throw_error_persists
  | MYSQL_NO_DATA =>
      exact Persists.bind (modify_persists fun _ => ⟨rfl, rfl, rfl, rfl, rfl, rfl, fun _ => rfl⟩) fun _ =>
        Persists.pure false

theorem step_loop_persists (fuel : Nat) : Persists (SameColumns c r₀) (step_loop srv fuel) := by
  induction fuel with
  | zero => exact Persists.throw _
  | succ fuel ih =>
      refine fetch_row_persists.bind fun row => Persists.ite (fun _ => Persists.pure true) fun _ => ?_
      refine (input_persists MariaBinding.bind_next_row_persists).bind fun more => ?_
      exact Persists.ite (fun _ => execute_persists.bind fun _ => ih) fun _ => Persists.pure false

theorem step_persists : Persists (SameColumns false r₀) (step srv) := by
  refine Persists.get_bind fun s _ => (step_loop_persists _).bind fun row => ?_
  refine Persists.ite (fun _ => Persists.bind ?_ fun _ => Persists.pure true) fun _ => Persists.pure false
  exact modify_persists fun _ => ⟨rfl, rfl, rfl, rfl, rfl, rfl, (nomatch ·)⟩

theorem set_list_values_persists (i : Nat) (js : List Nat) :
    ∀ out : DataFrame, Persists (SameColumns c r₀) (set_list_values srv i js out) := by
  induction js with
  | nil => exact fun out => Persists.pure out
  | cons j js ih =>
      intro out
      refine (Persists.plain _).bind fun x => ?_
      exact (output_persists fun _ _ => MariaRow.set_list_value_persists _ _ _).bind fun x => ih _

theorem check_user_interrupt_binds : LeavesBinds (check_user_interrupt srv) := by
  intro m₀ m hm
  by_cases hinterrupt : srv.interrupt m.tick = true
  · simp [check_user_interrupt, hinterrupt]
    exact hm
  · simp [check_user_interrupt, hinterrupt]
    exact hm

theorem fetch_loop_persists (n_max : ℤ) (fuel : Nat) : ∀ (i n : Nat) (out : DataFrame),
    Persists (SameColumns false r₀) (fetch_loop srv n_max fuel i n out) := by
  induction fuel with
  | zero => exact fun _ _ _ => Persists.throw _
  | succ fuel ih =>
      intro i n out
      refine Persists.ite (fun _ => Persists.pure _) fun _ => step_persists.bind fun row => ?_
      refine Persists.ite (fun _ => Persists.ite (fun _ => Persists.throw _) fun _ => ?_) fun _ => Persists.pure _
      refine Persists.get_bind fun s _ => (set_list_values_persists _ _ _).bind fun out => ?_
      refine Persists.ite (fun _ => ?_) fun _ => ih _ _ _
      exact (Persists.lib check_user_interrupt_binds).bind fun _ => ih _ _ _

theorem fetch_persists (fuel : Nat) (n_max : ℤ) : Persists (SameColumns false r₀) (fetch srv fuel n_max) := by
  refine Persists.get_bind fun s _ => Persists.ite (fun _ => Persists.throw _) fun _ => ?_
  refine Persists.ite (fun _ => Persists.ite (fun _ => ?_) fun _ => Persists.pure _) fun _ => ?_
  · exact Persists.bind (Persists.warns _) fun _ => Persists.pure _
  · refine Persists.ite (fun _ => Persists.pure _) fun _ => (fetch_loop_persists _ _ _ _ _).bind ?_
    rintro ⟨i, n, out⟩
    exact Persists.get_bind fun s _ => Persists.pure _

theorem retains_of_persists {f : EStateM Exc (Obj MariaResultPrep) α} {P : MariaResultPrep → Prop}
    (hf : Persists P f) : Retains P f := by
  intro s hs
  have h := hf s.mysql s ⟨SameBinds.refl _, hs⟩
  split
  · rename_i hrun
    rw [hrun] at h
    exact h.2
  · rename_i hrun
    rw [hrun] at h
    exact ⟨h.1.2, trivial⟩

theorem throw_error_spec {P : Obj MariaResultPrep → Prop} {Q : α → Obj MariaResultPrep → Prop}
    {E : Exc → Obj MariaResultPrep → Prop} (h : ∀ e s, P s → E e s) : Spec P throw_error Q E := by
  intro s hs
  obtain ⟨e, hrun⟩ := throw_error_run (α := α) s
  rw [hrun]
  exact h e s hs

end Columns

section Sent

variable {c : Bool} {r₀ r : MariaResultPrep}

theorem SameColumns.described (h : SameColumns c r₀ r) (hr₀ : Described r₀) : Described r :=
  ⟨by rw [h.names, h.nCols, hr₀.names], by rw [h.types, h.nCols, hr₀.types]⟩

-- The metadata is cached, and buffers are bound for its columns.
structure Columned (s : Obj MariaResultPrep) (spec : MYSQL_RES) : Prop where
  nCols : s.self.nCols_ = spec.fields.length
  names : s.self.names_ = spec.fields.map MYSQL_FIELD.name
  types : s.self.types_ = spec.fields.map field_type
  output : MariaRow.SetUp s.self.pStatement_ s.self.types_ s.self.bindingOutput_
  binds : ∃ k st, s.self.pStatement_ = some k ∧ s.mysql.stmts k = some st ∧
    st.bind = s.self.types_.map fun type => (MariaRow.new_slot type).binding

theorem setup_run_ok {h : Option Nat} {types : List MariaFieldType} {u v : Obj MariaRow}
    (hrun : (MariaRow.setup srv h types).run u = .ok () v) : MariaRow.SetUp h types v.self ∧
      ∃ k st, h = some k ∧ v.mysql.stmts k = some st ∧
        st.bind = types.map fun type => (MariaRow.new_slot type).binding := by
  obtain ⟨hstatement, hslots, hbind⟩ := MariaRow.setup_ok hrun
  refine ⟨⟨hstatement, ?_⟩, hbind⟩
  rw [hslots, List.map_map]
  exact List.map_id' types

-- A new object, of which nothing is known yet.
structure Blank (r₀ : MariaResultPrep) : Prop where
  nCols : r₀.nCols_ = 0
  names : r₀.names_ = []
  types : r₀.types_ = []
  output : r₀.bindingOutput_ = {}
  spec : r₀.pSpec_ = none

theorem Blank.described (h : Blank r₀) : Described r₀ :=
  ⟨by rw [h.names, h.nCols]; rfl, by rw [h.types, h.nCols]; rfl⟩

theorem columns_columned (hr₀ : Blank r₀) (spec : MYSQL_RES) :
    Spec (fun s => SameColumns true r₀ s.self ∧ s.self.pSpec_ = some spec) (do
      cache_metadata spec
      let s ← get
      output (MariaRow.setup srv s.self.pStatement_ s.self.types_))
      (fun _ s => s.self.pSpec_ = some spec ∧ Columned s spec) fun _ s => Described s.self := by
  rintro s ⟨hs, hspec⟩
  by_cases hmem : spec.id ∈ s.mysql.metas
  · have hnames := hs.names.trans hr₀.names
    have htypes := hs.types.trans hr₀.types
    let v := with_metadata s spec
    rw [run_bind_ok (cache_metadata_run hmem), EStateM.run_bind, EStateM.run_get]
    have houtput := onMember_run MariaResultPrep.bindingOutput_
      (fun r (x : MariaResultPrep) => { x with bindingOutput_ := r })
      (MariaRow.setup srv v.self.pStatement_ v.self.types_) v
    cases hsetup : (MariaRow.setup srv v.self.pStatement_ v.self.types_).run
        ⟨v.toShared, v.self.bindingOutput_⟩ with
    | ok a u =>
        rw [hsetup] at houtput
        dsimp only [output]
        rw [houtput]
        obtain ⟨hoff, k, st, hk, hst, hbind⟩ := setup_run_ok hsetup
        refine ⟨hspec, rfl, ?_, ?_, hoff, k, st, hk, hst, hbind⟩
        · change s.self.names_ ++ _ = _
          rw [hnames, List.nil_append]
        · change s.self.types_ ++ _ = _
          rw [htypes, List.nil_append]
    | error e u =>
        rw [hsetup] at houtput
        dsimp only [output]
        rw [houtput]
        exact ⟨by simp [v, with_metadata, hnames], by simp [v, with_metadata, htypes]⟩
  · have hrun : (cache_metadata spec).run s = .error (.fault .handle) s := by
      simp [cache_metadata, mysql_fetch_fields, hmem]
    rw [run_bind_error hrun]
    exact hs.described hr₀.described

variable (srv) in
theorem columns_sent (hr₀ : Blank r₀) :
    Spec (fun s => SameColumns true r₀ s.self) (cache_result srv)
      (fun _ s => (∃ spec, s.self.pSpec_ = some spec ∧ Columned s spec) ∨
        s.self.pSpec_ = none ∧ SameColumns true r₀ s.self) fun _ s => Described s.self := by
  intro s hs
  rw [cache_result, EStateM.run_bind, EStateM.run_get]
  dsimp only
  cases hspec : s.self.pSpec_ with
  | none => exact .inr ⟨hspec, hs⟩
  | some spec =>
      exact (columns_columned hr₀ spec).mono (fun _ => id) (fun _ _ h => .inl ⟨spec, h⟩) (fun _ _ => id)
        s ⟨hs, hspec⟩

-- When send_query() returns, what is there of the metadata is cached.
variable (srv) in
theorem send_query_columns (hr₀ : Blank r₀) (sql : String) :
    Spec (fun s => SameColumns true r₀ s.self) (send_query srv sql)
      (fun _ s => (∃ spec, s.self.pSpec_ = some spec ∧ Columned s spec) ∨
        s.self.pSpec_ = none ∧ SameColumns true r₀ s.self) fun _ s => Described s.self := by
  let Q : Obj MariaResultPrep → Prop := fun s => SameColumns true r₀ s.self
  have hstep : ∀ {β : Type} {f : EStateM Exc (Obj MariaResultPrep) β},
      Retains (SameColumns true r₀) f → Spec Q f (fun _ => Q) fun _ s => Described s.self :=
    fun hf => Spec.mono hf (fun _ => id) (fun _ _ => id) fun _ s h => h.1.described hr₀.described
  have hcolumns := columns_sent srv hr₀
  have hmodify : ∀ f : MariaResultPrep → MariaResultPrep, (∀ r, SameColumns true r₀ r →
      SameColumns true r₀ (f r)) → Spec Q (modifySelf f) (fun _ => Q) fun _ s => Described s.self :=
    fun f hf => hstep (Retains.modifySelf hf)
  refine fun s hs => Spec.bind (Q := fun _ => Q) (hstep (Retains.lib _)) (fun status => ?_) s hs
  refine Spec.ite (fun _ => ?_) fun _ => ?_
  · refine Spec.bind (Q := fun _ => Q) (hstep (Retains.lib _)) fun errno => Spec.ite (fun _ => ?_) fun _ => ?_
    · exact Spec.throw fun s hs => hs.described hr₀.described
    · exact throw_error_spec fun _ s hs => hs.described hr₀.described
  refine Spec.bind (Q := fun _ => Q) (hstep (Retains.lib _)) fun nParams => ?_
  refine Spec.bind (Q := fun _ => Q) (hmodify _ fun r hr => ?_) fun _ => ?_
  · exact ⟨hr.statement, hr.nCols, hr.names, hr.types, hr.output, hr.spec, hr.fetched⟩
  refine Spec.bind (Q := fun _ => Q) (hstep (Retains.lib _)) fun spec => ?_
  refine Spec.bind (Q := fun _ => Q) (hmodify _ fun r hr => ?_) fun _ => ?_
  · refine ⟨hr.statement, hr.nCols, hr.names, hr.types, hr.output, fun h => ?_, hr.fetched⟩
    rw [has_result, hr₀.spec] at h
    cases h
  refine Spec.ite (fun _ => ?_) fun _ => hcolumns
  refine Spec.bind (Q := fun _ => Q) (hstep (retains_of_persists execute_persists)) fun _ => ?_
  refine Spec.bind (Q := fun _ => Q) (hmodify _ fun r hr => ?_) fun _ => hcolumns
  exact ⟨hr.statement, hr.nCols, hr.names, hr.types, hr.output, hr.spec, hr.fetched⟩

theorem Columned.described {s : Obj MariaResultPrep} {spec : MYSQL_RES} (h : Columned s spec) :
    Described s.self :=
  ⟨by rw [h.names, h.nCols, List.length_map], by rw [h.types, h.nCols, List.length_map]⟩

variable (srv) in
theorem send_query_described (hr₀ : Blank r₀) (sql : String) :
    Spec (fun s => SameColumns true r₀ s.self) (send_query srv sql) (fun _ s => Described s.self)
      fun _ s => Described s.self := by
  refine (send_query_columns srv hr₀ sql).mono (fun _ => id) (fun _ s h => ?_) fun _ _ => id
  rcases h with ⟨spec, -, hspec⟩ | ⟨-, hsame⟩
  · exact hspec.described
  · exact hsame.described hr₀.described

end Sent

end RMariaDB.MariaResultPrep
