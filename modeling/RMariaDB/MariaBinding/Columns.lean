import RMariaDB.Libmysql.Calls
import RMariaDB.MariaBinding

-- What the slots are set up for, by the columns that are bound.

namespace RMariaDB.MariaBinding

open Program

-- What init_binding() has set a slot up for.
def Slot.kind (slot : Slot) : MariaFieldType × enum_field_types := (slot.type, slot.buffer_type)

def kind_of (col : SEXP) : Except Exc (MariaFieldType × enum_field_types) := do
  let type ← variable_type_from_object col
  pure (type, (binding_of type).1)

theorem variable_type_stop {col : SEXP} {e : Exc} (h : variable_type_from_object col = .error e) :
    ∃ message, e = .stop message := by
  cases col with
  | REALSXP klass x =>
      simp only [variable_type_from_object] at h
      repeat' (split at h)
      all_goals cases h
  | VECSXP klass x =>
      simp only [variable_type_from_object] at h
      repeat' (split at h)
      all_goals cases h
      exact ⟨_, rfl⟩
  | other type klass n =>
      cases h
      exact ⟨_, rfl⟩
  | _ => cases h

theorem variable_type_plain (col : SEXP) : Plain (variable_type_from_object col) := by
  intro e h
  obtain ⟨message, rfl⟩ := variable_type_stop h
  exact ⟨by simp, by simp⟩

theorem kind_of_stop {col : SEXP} {e : Exc} (h : kind_of col = .error e) :
    ∃ message, e = .stop message := by
  cases htype : variable_type_from_object col with
  | ok type =>
      rw [kind_of, htype] at h
      cases h
  | error e' =>
      rw [kind_of, htype, error_bind] at h
      cases h
      exact variable_type_stop htype

theorem kind_of_plain (col : SEXP) : Plain (kind_of col) :=
  (variable_type_plain col).bind fun _ => Plain.ok _

-- A turn of the loop over the columns of a parameter row.
theorem bind_column_run {s : Obj MariaBinding} {j : Nat} {col : SEXP} {slot : Slot}
    (hcol : s.self.params[j]? = some col) (hslot : s.self.slots[j]? = some slot)
    (c : CArith.Arith := CArith.machine) :
    (bind_column j c).run s = match next_slot slot col s.self.i c with
      | .ok slot => .ok () { s with self.slots := s.self.slots.set j slot }
      | .error e => .error e s := by
  simp only [bind_column, EStateM.run_bind, EStateM.run_get, index_eq_ok hcol, index_eq_ok hslot,
    run_liftM, modifySelf_run]
  cases next_slot slot col s.self.i c <;> rfl

def kinds (b : MariaBinding) : List (MariaFieldType × enum_field_types) := b.slots.map Slot.kind

-- As many columns as parameters, and each slot set up for its column.
structure Matched (b : MariaBinding) : Prop where
  params : b.params.length = b.p
  slots : b.slots.length = b.p
  kinds : b.params.mapM kind_of = .ok b.kinds

theorem init_column_run {s : Obj MariaBinding} {j : Nat} {col : SEXP} {slot : Slot}
    (hcol : s.self.params[j]? = some col) (hslot : s.self.slots[j]? = some slot) :
    (∃ e, kind_of col = .error e ∧ (init_column j).run s = .error e s) ∨
    ∃ slot', kind_of col = .ok slot'.kind ∧ (init_column j).run s = .ok () { s with
      self.n_rows := if j = 0 then col.xlength else s.self.n_rows
      self.slots := s.self.slots.set j slot' } := by
  cases htype : variable_type_from_object col with
  | error e =>
      refine .inl ⟨e, by rw [kind_of, htype]; rfl, ?_⟩
      simp [init_column, index_eq_ok hcol, htype]
  | ok type =>
      refine .inr ⟨Slot.binding_update { slot with type := type } (binding_of type).1
        (binding_of type).2, ?_, ?_⟩
      · rw [kind_of, htype]
        rfl
      · simp [init_column, index_eq_ok hcol, index_eq_ok hslot, htype]

-- The number of rows that init_binding() has counted when it ends.
def counted (n : Nat) : List SEXP → Nat
  | [] => n
  | col :: _ => match kind_of col with
    | .ok _ => col.xlength
    | .error _ => n

-- The slots before position `done.length` are set up, the others are not.
theorem init_columns_run (todo : List Slot) : ∀ (s : Obj MariaBinding) (done : List Slot)
    (cols : List SEXP), s.self.slots = done ++ todo → s.self.params.drop done.length = cols →
    cols.length = todo.length → match cols.mapM kind_of with
      | .ok kinds => ∃ todo', todo'.map Slot.kind = kinds ∧ todo'.length = todo.length ∧
          (init_columns (List.range' done.length todo.length)).run s = .ok () { s with
            self.n_rows := if done = [] then (cols.head?.elim s.self.n_rows SEXP.xlength)
              else s.self.n_rows
            self.slots := done ++ todo' }
      | .error e => ∃ b, (init_columns (List.range' done.length todo.length)).run s =
            .error e { s with self := b } ∧
          b.statement = s.self.statement ∧ b.params = s.self.params ∧ b.p = s.self.p ∧
          b.i = s.self.i ∧
          b.n_rows = if done = [] then counted s.self.n_rows cols else s.self.n_rows := by
  induction todo with
  | nil =>
      intro s done cols hslots _ hlen
      obtain rfl := List.length_eq_zero_iff.mp hlen
      refine ⟨[], rfl, rfl, ?_⟩
      rw [← hslots]
      simp [init_columns]
  | cons slot todo ih =>
      intro s done cols hslots hcols hlen
      obtain ⟨col, cols, rfl⟩ := List.exists_cons_of_length_eq_add_one hlen
      have hslot : s.self.slots[done.length]? = some slot := by
        rw [hslots, List.getElem?_append_right (Nat.le_refl _), Nat.sub_self, List.getElem?_cons_zero]
      have hcol : s.self.params[done.length]? = some col := by
        rw [← List.head?_drop, hcols, List.head?_cons]
      rw [List.length_cons, List.range'_succ, List.mapM_cons]
      rcases init_column_run hcol hslot with ⟨e, hkind, hrun⟩ | ⟨slot', hkind, hrun⟩
      · rw [hkind]
        refine ⟨s.self, by rw [init_columns, run_bind_error hrun], rfl, rfl, rfl, rfl, ?_⟩
        rw [counted, hkind, ite_self]
      · have hset : s.self.slots.set done.length slot' = (done ++ [slot']) ++ todo := by
          rw [hslots, List.set_append_right _ _ (Nat.le_refl _), Nat.sub_self, List.set_cons_zero,
            List.append_assoc, List.singleton_append]
        have hrest := ih { s with
            self.n_rows := if done.length = 0 then col.xlength else s.self.n_rows
            self.slots := s.self.slots.set done.length slot' }
          (done ++ [slot']) cols hset (by simp [← List.drop_drop, hcols]) (by simpa using hlen)
        rw [hkind, init_columns, run_bind_ok hrun]
        simp only [List.length_append, List.length_cons, List.length_nil] at hrest
        cases hkinds : cols.mapM kind_of with
        | ok kinds =>
            rw [hkinds] at hrest
            obtain ⟨todo', rfl, hlen, hrest⟩ := hrest
            refine ⟨slot' :: todo', rfl, by rw [List.length_cons, hlen], ?_⟩
            simpa [List.length_eq_zero_iff] using hrest
        | error e =>
            rw [hkinds] at hrest
            obtain ⟨b, hrest, hstatement, hparams, hp, hi, hn⟩ := hrest
            refine ⟨b, hrest, hstatement, hparams, hp, hi, ?_⟩
            rw [hn, if_neg (by simp), counted, hkind]
            exact if_congr List.length_eq_zero_iff rfl rfl

-- The columns that a statement with p parameters accepts.
def Accepted (p : Nat) (params : List SEXP) : Prop :=
  params.length = p ∧ p ≠ 0 ∧ ∃ kinds, params.mapM kind_of = .ok kinds

theorem setup_run {s : Obj MariaBinding} {k : Nat} {st : MYSQL_STMT}
    (hst : s.mysql.stmts k = some st) : (setup (some k)).run s = .ok () { s with
      self.statement := some k
      self.p := st.param_count
      self.slots := resize s.self.slots st.param_count {} } := by
  simp [setup, mysql_stmt_param_count, deref_run hst]

theorem length_resize {α : Type} (x : List α) (n : Nat) (fill : α) :
    (resize x n fill).length = n := by
  simp only [resize, List.length_append, List.length_take, List.length_replicate]
  omega

theorem init_binding_accepted {s : Obj MariaBinding} {params : List SEXP}
    (hslots : s.self.slots.length = s.self.p) (haccepted : Accepted s.self.p params) :
    ∃ slots, (init_binding params).run s = .ok () { s with
        self := { s.self with
          params := params
          i := 0
          n_rows := params.head?.elim s.self.n_rows SEXP.xlength
          slots := slots } } ∧
      slots.length = s.self.p ∧ params.mapM kind_of = .ok (slots.map Slot.kind) := by
  obtain ⟨hlen, hpos, kinds, hkinds⟩ := haccepted
  have hrun := init_columns_run s.self.slots { s with self.params := params, self.i := 0 } []
    params rfl rfl (by rw [hlen, hslots])
  rw [hkinds] at hrun
  obtain ⟨slots, rfl, hslots', hrun⟩ := hrun
  refine ⟨slots, ?_, hslots'.trans hslots, hkinds⟩
  rw [hslots, List.length_nil, ← List.range_eq_range'] at hrun
  simp [init_binding, hlen, hpos, hrun]

-- Whether rows wait to be bound after other columns were rejected.
def LeavesRows (b : MariaBinding) (p : Nat) (params : List SEXP) : Prop :=
  if params.length = p ∧ p ≠ 0 then 0 < counted b.n_rows params else b.i < b.n_rows

theorem init_binding_rejected {s : Obj MariaBinding} {params : List SEXP}
    (hslots : s.self.slots.length = s.self.p) (hrejected : ¬Accepted s.self.p params) :
    ∃ message b, (init_binding params).run s = .error (.stop message) { s with self := b } ∧
      b.statement = s.self.statement ∧ b.params = params ∧ b.p = s.self.p ∧
      (b.i < b.n_rows ↔ LeavesRows s.self s.self.p params) := by
  by_cases hempty : params = []
  · have hleaves : LeavesRows s.self s.self.p params ↔ s.self.i < s.self.n_rows := by
      rw [LeavesRows, if_neg]
      rintro ⟨hlen, hpos⟩
      rw [hempty] at hlen
      exact hpos hlen.symm
    rw [hleaves, hempty]
    exact ⟨_, _, rfl, rfl, rfl, rfl, Iff.rfl⟩
  by_cases hlen : s.self.p = params.length
  · have hpos : s.self.p ≠ 0 := by
      rw [hlen]
      exact mt List.length_eq_zero_iff.mp hempty
    cases hkinds : params.mapM kind_of with
    | ok kinds => exact absurd ⟨hlen.symm, hpos, kinds, hkinds⟩ hrejected
    | error e =>
        have hrun := init_columns_run s.self.slots { s with self.params := params, self.i := 0 } []
          params rfl rfl (by rw [hslots, hlen])
        rw [hkinds] at hrun
        obtain ⟨b, hrun, hstatement, hparams, hp, hi, hn⟩ := hrun
        rw [hslots, List.length_nil, ← List.range_eq_range'] at hrun
        obtain ⟨col, -, hcol⟩ := of_mapM_eq_error hkinds
        obtain ⟨message, rfl⟩ := kind_of_stop hcol
        refine ⟨message, b, ?_, hstatement, hparams, hp, ?_⟩
        · simpa [init_binding, hempty, hlen] using hrun
        · rw [hi, hn, LeavesRows, if_pos rfl, if_pos ⟨hlen.symm, hpos⟩]
  · rw [LeavesRows, if_neg fun h => hlen h.1.symm]
    have hrun : (init_binding params).run s = .error (.stop ("Number of params don't match (" ++
        toString s.self.p ++ " vs " ++ toString params.length ++ ")"))
        { s with self.params := params } := by
      simp only [init_binding, EStateM.run_bind, modifySelf_run, EStateM.run_get,
        List.length_eq_zero_iff, hempty, if_false, ne_eq, hlen, not_false_eq_true, if_true,
        run_throw]
    exact ⟨_, _, hrun, rfl, rfl, rfl, Iff.rfl⟩

end RMariaDB.MariaBinding
