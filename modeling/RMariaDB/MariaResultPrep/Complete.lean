import RMariaDB.MariaBinding.Methods
import RMariaDB.MariaResultPrep.Cached
import RMariaDB.MariaResultPrep.Runs

-- What complete_ says of the rows that are left.

namespace RMariaDB

open Program

namespace MariaBinding

-- Column j of the next row can be read.
def Bindable (b : MariaBinding) (j : Nat) : Prop :=
  ∃ col kind v, b.params[j]? = some col ∧ b.kinds[j]? = some kind ∧
    param_of b.i kind col = .ok v

-- There is no next row, or it cannot be bound.
def Stuck (b : MariaBinding) : Prop := b.i < b.n_rows → ∃ j < b.p, ¬Bindable b j

-- Slots were filled, and no row was finished.
structure Partly (b b' : MariaBinding) : Prop extends Advanced b b' where
  same : b'.i = b.i

theorem Partly.refl (b : MariaBinding) : Partly b b := ⟨Advanced.refl b, rfl⟩

theorem Partly.trans {a b c : MariaBinding} (h : Partly a b) (h' : Partly b c) : Partly a c :=
  ⟨h.toAdvanced.trans h'.toAdvanced, h'.same.trans h.same⟩

theorem Partly.bindable {b b' : MariaBinding} (h : Partly b b') (j : Nat) :
    Bindable b' j ↔ Bindable b j := by
  rw [Bindable, Bindable, h.params, h.kinds, h.same]

theorem Partly.stuck {b b' : MariaBinding} (h : Partly b b') (hb : Stuck b) : Stuck b' := by
  intro hi
  rw [h.same, h.n_rows] at hi
  obtain ⟨j, hj, hnot⟩ := hb hi
  exact ⟨j, by rwa [h.p], fun hb' => hnot ((h.bindable j).mp hb')⟩

theorem bind_column_cases (s : Obj MariaBinding) (j : Nat) :
    (Bindable s.self j ∧ ∃ t, (bind_column j).run s = .ok () t ∧ Partly s.self t.self) ∨
    ¬Bindable s.self j ∧ ∃ e, (bind_column j).run s = .error e s := by
  cases hcol : s.self.params[j]? with
  | none =>
      refine .inr ⟨?_, .fault .memory, ?_⟩
      · rintro ⟨col, kind, v, hcol', -⟩
        rw [hcol] at hcol'
        cases hcol'
      · simp [bind_column, index, hcol]
  | some col =>
      cases hslot : s.self.slots[j]? with
      | none =>
          refine .inr ⟨?_, .fault .memory, ?_⟩
          · rintro ⟨col', kind, v, -, hkind, -⟩
            rw [kinds, List.getElem?_map, hslot] at hkind
            cases hkind
          · simp [bind_column, index, hcol, hslot]
      | some slot =>
          have hkind : s.self.kinds[j]? = some slot.kind := by
            rw [kinds, List.getElem?_map, hslot]
            rfl
          have hrun := bind_column_run hcol hslot
          rcases next_slot_cases slot col s.self.i with ⟨e, hparam, hnext⟩ | ⟨slot', hparam, hnext, hsame⟩
          · refine .inr ⟨?_, e, by rw [hrun, hnext]⟩
            rintro ⟨col', kind, v, hcol', hkind', hv⟩
            rw [hcol] at hcol'
            rw [hkind] at hkind'
            cases hcol'
            cases hkind'
            rw [hparam] at hv
            cases hv
          · refine .inl ⟨⟨col, slot.kind, _, hcol, hkind, hparam⟩, _, by rw [hrun, hnext], ?_⟩
            exact ⟨(Advanced.refl s.self).set (hsame ▸ hkind), rfl⟩

theorem bind_columns_cases (js : List Nat) : ∀ s : Obj MariaBinding,
    ((∀ j ∈ js, Bindable s.self j) ∧ ∃ t, (bind_columns js).run s = .ok () t ∧ Partly s.self t.self) ∨
    (∃ j ∈ js, ¬Bindable s.self j) ∧
      ∃ e t, (bind_columns js).run s = .error e t ∧ Partly s.self t.self := by
  induction js with
  | nil => exact fun s => .inl ⟨by simp, s, rfl, Partly.refl _⟩
  | cons j js ih =>
      intro s
      rcases bind_column_cases s j with ⟨hj, t, hrun, ht⟩ | ⟨hj, e, hrun⟩
      · rw [bind_columns, run_bind_ok hrun]
        rcases ih t with ⟨hjs, u, hrest, hu⟩ | ⟨⟨j', hj', hnot⟩, e, u, hrest, hu⟩
        · refine .inl ⟨fun j' hj' => ?_, u, hrest, ht.trans hu⟩
          rcases List.mem_cons.mp hj' with rfl | hj'
          · exact hj
          · exact (ht.bindable j').mp (hjs j' hj')
        · refine .inr ⟨⟨j', List.mem_cons_of_mem _ hj', ?_⟩, e, u, hrest, ht.trans hu⟩
          exact fun hb => hnot ((ht.bindable j').mpr hb)
      · rw [bind_columns, run_bind_error hrun]
        exact .inr ⟨⟨j, List.mem_cons_self .., hj⟩, e, s, rfl, Partly.refl _⟩

-- A row that could not be bound cannot be bound later.
theorem bind_next_row_stuck (s : Obj MariaBinding) : match bind_next_row.run s with
    | .ok more t => (more = false → t = s ∧ Stuck s.self) ∧ (Stuck s.self → more = false)
    | .error e t => e.Ends = false → Stuck t.self := by
  by_cases hrows : s.self.n_rows ≤ s.self.i
  · have hstuck : Stuck s.self := fun hi => absurd hi (Nat.not_lt_of_le hrows)
    rw [bind_next_row_done hrows]
    exact ⟨fun _ => ⟨rfl, hstuck⟩, fun _ => rfl⟩
  rw [bind_next_row, EStateM.run_bind, EStateM.run_get]
  simp only [ge_iff_le, hrows, if_false]
  rcases bind_columns_cases (List.range s.self.p) s with ⟨hall, t, hrun, ht⟩ | ⟨⟨j, hj, hnot⟩, e, t, hrun, ht⟩
  · have hfree : ¬Stuck s.self := by
      intro hstuck
      obtain ⟨j, hj, hnot⟩ := hstuck (Nat.lt_of_not_le hrows)
      exact hnot (hall j (List.mem_range.mpr hj))
    rw [run_bind_ok hrun]
    rcases deref_cases t.self.statement t.mysql with hderef | ⟨k, st, -, hderef⟩
    · simp [mysql_stmt_bind_param, hderef, Exc.Ends]
    · simp [mysql_stmt_bind_param, hderef, hfree]
  · have hstuck : Stuck s.self := fun _ => ⟨j, List.mem_range.mp hj, hnot⟩
    rw [run_bind_error hrun]
    exact fun _ => ht.stuck hstuck

end MariaBinding

namespace MariaResultPrep

open MariaBinding

variable {srv : Server} {s t : Obj MariaResultPrep} {α : Type}

section Settled

-- The current execution is not known to be at its end.
def Unfinished (s : Obj MariaResultPrep) : Prop := s.self.complete_ = false

-- Once complete_ is set no row of the parameters can follow.
def Settled (s : Obj MariaResultPrep) : Prop :=
  s.self.complete_ = true → Stuck s.self.bindingInput_

def Rests (e : Exc) (s : Obj MariaResultPrep) : Prop := e.Ends = false → Settled s

theorem Unfinished.settled (h : Unfinished s) : Settled s := by
  intro hcomplete
  rw [h] at hcomplete
  cases hcomplete

-- It stays so, also when an exception is raised.
def Keeps (f : EStateM Exc (Obj MariaResultPrep) α) : Prop := Safe Unfinished (fun _ => True) f

theorem Keeps.rests {f : EStateM Exc (Obj MariaResultPrep) α} (h : Keeps f) :
    Spec Unfinished f (fun _ => Unfinished) Rests :=
  Spec.mono h (fun _ => id) (fun _ _ => id) fun _ _ hs _ => hs.1.settled

theorem lib_keeps (f : EStateM Exc MYSQL α) : Keeps (lib f) :=
  Retains.lib (P := fun r => r.complete_ = false) f

theorem output_keeps (f : EStateM Exc (Obj MariaRow) α) : Keeps (output f) :=
  Retains.output (P := fun r => r.complete_ = false) (fun _ _ => id) f

theorem throw_error_keeps : Keeps (throw_error : EStateM Exc _ α) :=
  throw_error_retains (P := fun r => r.complete_ = false)

theorem set_list_values_keeps (i : Nat) (js : List Nat) (out : DataFrame) :
    Keeps (set_list_values srv i js out) :=
  set_list_values_retains (P := fun r => r.complete_ = false) (fun _ _ => id) i js out

-- fetch_row() returns true only of a row of an unfinished execution.
theorem fetch_row_spec : Spec (fun _ => True) (fetch_row srv)
    (fun row t => t.self.complete_ = !row) Rests := by
  intro s _
  by_cases hcomplete : s.self.complete_ = true
  · simp [fetch_row, hcomplete]
  rw [Bool.not_eq_true] at hcomplete
  rw [fetch_row, EStateM.run_bind, EStateM.run_get]
  simp only [hcomplete, Bool.false_eq_true, if_false]
  have hfetch := (output_keeps (MariaRow.stmt_fetch srv s.self.pStatement_)).rests
  refine hfetch.bind (fun result => ?_) s hcomplete
  cases result with
  | MYSQL_DATA_TRUNCATED => exact Spec.pure fun t ht => ht
  | ok => exact Spec.pure fun t ht => ht
  | MYSQL_NO_DATA => exact fun t _ => rfl
  | error =>
      intro t ht
      obtain ⟨e, hrun⟩ := throw_error_run (α := Bool) t
      rw [hrun]
      exact fun _ => Unfinished.settled ht

theorem execute_spec :
    Spec (fun _ => True) (execute srv) (fun _ => Unfinished) fun _ => Unfinished := by
  have hrest : Keeps count_affected :=
    Safe.get_bind fun _ _ => Safe.ite
      (fun _ => (lib_keeps _).bind fun _ => Safe.modify fun _ => id) fun _ => Safe.pure ()
  refine Spec.bind (Q := fun _ => Unfinished) (Spec.modify fun s _ => rfl) fun _ => ?_
  refine Spec.mono (E := fun _ s => Unfinished s ∧ True) (Q := fun _ => Unfinished) ?_ (fun _ => id)
    (fun _ _ => id) fun _ _ hs => hs.1
  refine Safe.get_bind fun s hs => (lib_keeps _).bind fun status => ?_
  refine Safe.ite (fun _ => throw_error_keeps) fun _ => Safe.get_bind fun s hs => ?_
  refine Safe.ite (fun _ => (lib_keeps _).bind fun spec => ?_) fun _ => hrest
  exact Safe.bind (Safe.modify fun _ => id) fun _ => hrest

-- A result set, if there is one, is not known to be at its end.
def Unflagged (s : Obj MariaResultPrep) : Prop := s.self.has_result = true → Unfinished s

theorem execute_rows_spec (fuel : Nat) :
    Spec Unflagged (execute_rows srv fuel) (fun _ => Unflagged) fun _ => Unflagged := by
  induction fuel with
  | zero => exact Spec.throw fun s => id
  | succ fuel ih =>
      refine Spec.bind (Q := fun _ => Unflagged) (Spec.frame fun t s hs => hs) fun more => ?_
      refine Spec.ite (fun _ => Spec.bind (Q := fun _ => Unflagged) ?_ fun _ => ih) fun _ => ?_
      · exact execute_spec.mono (fun _ _ => trivial) (fun _ s hs _ => hs) fun _ s hs _ => hs
      · exact Spec.pure fun s => id

theorem next_row_spec : Spec (fun s => s.self.complete_ = true) (input bind_next_row)
    (fun more t => t.self.complete_ = true ∧ (more = false → Stuck t.self.bindingInput_)) Rests := by
  intro s hs
  have h := bind_next_row_stuck ⟨s.toShared, s.self.bindingInput_⟩
  rw [input, onMember_run]
  cases hrun : bind_next_row.run ⟨s.toShared, s.self.bindingInput_⟩ with
  | ok more t =>
      rw [hrun] at h
      refine ⟨hs, fun hmore => ?_⟩
      obtain ⟨rfl, hstuck⟩ := h.1 hmore
      exact hstuck
  | error e t =>
      rw [hrun] at h
      exact fun hends _ => h hends

-- step() returns false only when there is nothing left.
theorem step_loop_spec (fuel : Nat) : Spec (fun _ => True) (step_loop srv fuel)
    (fun row t => t.self.complete_ = !row ∧ (row = false → Stuck t.self.bindingInput_)) Rests := by
  induction fuel with
  | zero => exact Spec.throw fun s _ hends => by cases hends
  | succ fuel ih =>
      refine Spec.bind fetch_row_spec fun row => Spec.ite (fun hrow => ?_) fun hrow => ?_
      · subst hrow
        exact Spec.pure fun t ht => ⟨ht, fun h => by cases h⟩
      rw [Bool.not_eq_true] at hrow
      subst hrow
      refine Spec.bind next_row_spec fun more => Spec.ite (fun _ => ?_) fun hmore => ?_
      · refine Spec.bind (execute_spec.mono (fun _ _ => trivial) (fun _ _ => id)
          fun _ _ hs _ => hs.settled) fun _ => ?_
        exact ih.mono (fun _ _ => trivial) (fun _ _ => id) fun _ _ => id
      · exact Spec.pure fun t ht => ⟨ht.1, fun _ => ht.2 (Bool.not_eq_true _ ▸ hmore)⟩

theorem step_spec : Spec (fun _ => True) (step srv)
    (fun row t => t.self.complete_ = !row ∧ (row = false → Stuck t.self.bindingInput_)) Rests := by
  refine Spec.get_bind fun s _ => ?_
  refine Spec.bind ((step_loop_spec _).mono (fun _ _ => trivial) (fun _ _ => id) fun _ _ => id) fun row => ?_
  refine Spec.ite (fun hrow => ?_) fun hrow => ?_
  · subst hrow
    exact fun t ht => ⟨ht.1, fun h => by cases h⟩
  · rw [Bool.not_eq_true] at hrow
    subst hrow
    exact Spec.pure fun t ht => ht

-- The loop of fetch() takes at least one step when there is room for a row.
variable (srv) in
theorem fetch_loop_spec (n_max : ℤ) (fuel : Nat) : ∀ (i n : Nat) (out : DataFrame),
    Spec (fun s => i < n ∨ Settled s) (fetch_loop srv n_max fuel i n out)
      (fun _ t => Settled t ∧ (n_max ≤ 0 → t.self.complete_ = true)) Rests := by
  induction fuel with
  | zero => exact fun _ _ _ => Spec.throw fun s _ hends => by cases hends
  | succ fuel ih =>
      intro i n out
      refine Spec.ite (fun hfull => Spec.pure fun s hs => ?_) fun _ => ?_
      · exact ⟨hs.resolve_left (by omega), fun hn => absurd hfull.2 (by omega)⟩
      refine Spec.bind (step_spec.mono (fun _ _ => trivial) (fun _ _ => id) fun _ _ => id) fun row => ?_
      refine Spec.ite (fun hrow => ?_) fun hrow => ?_
      · subst hrow
        refine Spec.ite (fun _ => Spec.throw fun s _ hends => by cases hends) fun _ => ?_
        have hrest : ∀ n out, Spec Unfinished (fetch_loop srv n_max fuel (i + 1) n out)
            (fun _ t => Settled t ∧ (n_max ≤ 0 → t.self.complete_ = true)) Rests := fun n out =>
          (ih (i + 1) n out).mono (fun s hs => .inr (Unfinished.settled hs)) (fun _ _ => id)
            fun _ _ => id
        refine Spec.get_bind fun s hs => ?_
        refine Spec.bind (Q := fun _ => Unfinished) ?_ fun out => Spec.ite (fun _ => ?_) fun _ => hrest _ _
        · exact (set_list_values_keeps i _ _).rests.mono (fun t ht => ht ▸ hs.1) (fun _ _ => id)
            fun _ _ => id
        · exact (lib_keeps _).rests.bind fun _ => hrest _ _
      · rw [Bool.not_eq_true] at hrow
        subst hrow
        exact Spec.pure fun t ht => ⟨fun _ => ht.2 rfl, fun _ => ht.1⟩

-- The loop ends with nothing left, or with a full frame.
variable (srv) in
theorem fetch_loops_settles {n_max : ℤ} (hbound : s.self.bound_ = true)
    (hresult : s.self.has_result = true) (hn : n_max ≠ 0) (fuel : Nat) :
    match (fetch srv fuel n_max).run s with
    | .ok _ t => Settled t ∧ (n_max < 0 → t.self.complete_ = true)
    | .error e t => Rests e t := by
  have hloop := fetch_loop_spec srv n_max fuel 0 (capacity n_max)
    (df_create s.self.types_ s.self.names_ (capacity n_max)) s (.inl (capacity_pos hn))
  rw [fetch_loops hbound hresult hn]
  cases hrun : (fetch_loop srv n_max fuel 0 (capacity n_max)
      (df_create s.self.types_ s.self.names_ (capacity n_max))).run s with
  | ok res t =>
      rw [hrun] at hloop
      rw [run_bind_ok hrun]
      exact ⟨hloop.1, fun hneg => hloop.2 (Int.le_of_lt hneg)⟩
  | error e t =>
      rw [hrun] at hloop
      rw [run_bind_error hrun]
      exact hloop

end Settled

section Spent

variable {k : Nat}

-- None of the executions up to the first one that cannot be sent has a row.
def Barren (srv : Server) (sql : String) : List (Except Exc (List Param)) → Prop
  | .ok row :: rows =>
      (∀ t r, srv.execute t sql row = .ok r → r.rows.getD [] = []) ∧ Barren srv sql rows
  | _ => True

-- Neither the current execution nor a later one has a row.
structure Fruitless (srv : Server) (k : Nat) (s : Obj MariaResultPrep) : Prop where
  statement : s.self.pStatement_ = some k
  result : s.self.has_result = true
  matched : s.self.bindingInput_.i < s.self.bindingInput_.n_rows →
    Matched s.self.bindingInput_ ∧ s.self.bindingInput_.statement = some k
  barren : ∃ st, s.mysql.stmts k = some st ∧ Barren srv st.sql (parameter_rows s.self.bindingInput_)
  dry : s.self.complete_ = true ∨ ∀ rows, s.mysql.reading = some (k, rows) → rows = []

theorem fetch_row_fruitless (hs : Fruitless srv k s) {row : Bool}
    (hrun : (fetch_row srv).run s = .ok row t) : row = false ∧ Fruitless srv k t := by
  obtain ⟨st, hst, hbarren⟩ := hs.barren
  by_cases hcomplete : s.self.complete_ = true
  · simp [fetch_row, hcomplete] at hrun
    obtain ⟨rfl, rfl⟩ := hrun
    exact ⟨rfl, hs⟩
  rcases mysql_stmt_fetch_dry srv hst (hs.dry.resolve_left hcomplete) with ⟨m, hfetch⟩ | hfetch
  · simp [fetch_row, hcomplete, output, MariaRow.stmt_fetch, hs.statement, hfetch] at hrun
    exact absurd hrun throw_error_ne_ok
  · simp [fetch_row, hcomplete, output, MariaRow.stmt_fetch, hs.statement, hfetch] at hrun
    obtain ⟨rfl, rfl⟩ := hrun
    exact ⟨rfl, rfl, hs.result, hs.matched, ⟨st, hst, hbarren⟩, .inl rfl⟩

theorem execute_returned {st : MYSQL_STMT} (hrun : (execute srv).run s = .ok () t)
    (hstatement : s.self.pStatement_ = some k) (hst : s.mysql.stmts k = some st)
    (hresult : s.self.has_result = true) :
    ∃ r, srv.execute s.mysql.tick st.sql st.params = .ok r ∧ t = executed s k st r := by
  rcases mysql_stmt_execute_cases srv hst with ⟨m, hexecute⟩ | ⟨r, hsrv, hrefuses⟩
  · simp [execute, hstatement, hexecute] at hrun
    exact absurd hrun throw_error_ne_ok
  · obtain ⟨spec, hspec⟩ := Option.isSome_iff_exists.mp hresult
    simp [execute, hstatement, mysql_stmt_execute_run hst hrefuses hsrv, has_result, hspec] at hrun
    refine ⟨r, hsrv, ?_⟩
    rw [← hrun]
    simp [executed, hstatement, hspec]

theorem step_loop_fruitless (fuel : Nat) : ∀ s, Fruitless srv k s → ∀ row t,
    (step_loop srv fuel).run s = .ok row t → row = false := by
  induction fuel with
  | zero => exact fun s _ row t h => by cases h
  | succ fuel ih =>
      intro s hs row t hrun
      rw [step_loop] at hrun
      obtain ⟨first, u, hfetch, hrun⟩ := of_run_bind_ok hrun
      obtain ⟨rfl, hu⟩ := fetch_row_fruitless hs hfetch
      simp only [Bool.false_eq_true, if_false] at hrun
      obtain ⟨more, v, hnext, hrun⟩ := of_run_bind_ok hrun
      by_cases hrows : u.self.bindingInput_.n_rows ≤ u.self.bindingInput_.i
      · rw [input_done hrows] at hnext
        cases hnext
        cases hrun
        rfl
      obtain ⟨hmatched, hbelongs⟩ := hu.matched (Nat.lt_of_not_le hrows)
      obtain ⟨st, hst, hbarren⟩ := hu.barren
      obtain ⟨slots, hkinds, hbind⟩ := bind_next_row_run (s := ⟨u.toShared, u.self.bindingInput_⟩)
        hmatched hbelongs hst (Nat.lt_of_not_le hrows)
      rw [parameter_rows_next (Nat.lt_of_not_le hrows) hkinds] at hbarren
      dsimp only at hbind
      cases hparams : param_row u.self.bindingInput_ u.self.bindingInput_.i with
      | error e =>
          rw [hparams] at hbind
          rw [input, onMember_run, hbind] at hnext
          cases hnext
      | ok params =>
          rw [hparams] at hbind hbarren
          rw [input, onMember_run, hbind] at hnext
          cases hnext
          obtain ⟨_, w, hexecute, hrun⟩ := of_run_bind_ok hrun
          obtain ⟨r, hsrv, rfl⟩ := execute_returned hexecute hu.statement (Function.update_self ..)
            hu.result
          refine ih _ ?_ _ _ hrun
          refine ⟨hu.statement, hu.result, fun hlt => ?_, ?_, .inr fun rows hrows => ?_⟩
          · exact ⟨hmatched.next hkinds _, hbelongs⟩
          · exact ⟨_, Function.update_self .., hbarren.2⟩
          · have hempty := hbarren.1 _ r hsrv
            obtain ⟨rows', hrows', heq⟩ := Option.map_eq_some_iff.mp hrows
            cases heq
            rwa [hrows'] at hempty

-- Behind complete_, nothing more can be delivered.
def Spent (srv : Server) (s : Obj MariaResultPrep) : Prop :=
  Stuck s.self.bindingInput_ ∨ ∃ k, Fruitless srv k s

theorem step_spent (hcomplete : s.self.complete_ = true) (hs : Spent srv s) {row : Bool}
    (hrun : (step srv).run s = .ok row t) : row = false := by
  rw [step, EStateM.run_bind, EStateM.run_get] at hrun
  obtain ⟨row', u, hloop, hrun⟩ := of_run_bind_ok hrun
  have hrow : row' = false := by
    rcases hs with hstuck | ⟨k, hs⟩
    · rw [step_loop] at hloop
      have hfetch : (fetch_row srv).run s = .ok false s := by simp [fetch_row, hcomplete]
      rw [run_bind_ok hfetch] at hloop
      simp only [Bool.false_eq_true, if_false] at hloop
      obtain ⟨more, v, hnext, hloop⟩ := of_run_bind_ok hloop
      have hmore := bind_next_row_stuck ⟨s.toShared, s.self.bindingInput_⟩
      rw [input, onMember_run] at hnext
      cases hbind : bind_next_row.run ⟨s.toShared, s.self.bindingInput_⟩ with
      | ok more' b =>
          rw [hbind] at hmore hnext
          cases hnext
          rw [hmore.2 hstuck] at hloop
          cases hloop
          rfl
      | error e b =>
          rw [hbind] at hnext
          cases hnext
    · exact step_loop_fruitless _ s hs _ _ hloop
  subst hrow
  cases hrun
  rfl

-- A fetch after the end returns no rows.
theorem fetch_spent (hcomplete : complete s.self = true)
    (hs : s.self.has_result = true → s.self.complete_ = true → Spent srv s) {fuel : Nat} {n : ℤ}
    {df : DataFrame} (hrun : (fetch srv fuel n).run s = .ok df t) : df.rows = [] := by
  have hbound : s.self.bound_ = true := by
    by_contra hbound
    simp [complete, hbound] at hcomplete
  by_cases hresult : s.self.has_result = true
  · have hflag : s.self.complete_ = true := by simpa [complete, hbound, hresult] using hcomplete
    by_cases hn : n = 0
    · subst hn
      rw [fetch_zero hbound hresult] at hrun
      cases hrun
      rfl
    · rw [fetch_loops hbound hresult hn] at hrun
      obtain ⟨⟨i, n', out⟩, u, hloop, hrun⟩ := of_run_bind_ok hrun
      cases fuel with
      | zero => cases hloop
      | succ fuel =>
          have hpos := capacity_pos hn
          rw [fetch_loop, if_neg (by omega)] at hloop
          obtain ⟨row, v, hstep, hloop⟩ := of_run_bind_ok hloop
          rw [step_spent hflag (hs hresult hflag) hstep] at hloop
          cases hloop
          cases hrun
          rw [if_pos hpos]
          rfl
  · rw [Bool.not_eq_true] at hresult
    obtain ⟨u, hempty, -⟩ := fetch_resultless srv hbound hresult fuel n
    rw [hempty] at hrun
    cases hrun
    rfl

end Spent

end MariaResultPrep

end RMariaDB
