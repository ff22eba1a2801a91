import RMariaDB.MariaBinding.Columns

-- What is bound for one row of the parameters depends on that row alone.

namespace RMariaDB.MariaBinding

open Program CArith

section Values

def time_value (t : Option MYSQL_TIME) : Except Exc (Option ParamValue) := do
  let t ← ofOption .arithmetic t
  pure (some (.time t))

-- Element i of a column as a parameter; NULL is none.
def param_value (type : MariaFieldType) (col : SEXP) (i : Nat) : Except Exc (Option ParamValue) :=
  match type with
  | .MY_LGL => do
      let v ← LOGICAL col i
      pure (if v = NA_LOGICAL then none else some (.int v))
  | .MY_INT32 => do
      let v ← INTEGER col i
      pure (if v = NA_INTEGER then none else some (.int v))
  | .MY_DBL => do
      let x ← REAL col i
      pure (if ISNA x then none else some (.double x))
  | .MY_STR => do
      let s ← STRING_ELT col i
      pure (s.map .bytes)
  | .MY_RAW => do
      let raw ← VECTOR_ELT col i
      match raw with
      | .NILSXP => pure none
      | _ => do
          let b ← RAW raw
          pure (some (.bytes b))
  | .MY_DATE => do
      let x ← REAL col i
      if ISNAN x then pure none else time_value (date_buffer machine x {})
  | .MY_DATE_TIME => do
      let x ← REAL col i
      if ISNAN x then pure none else time_value (date_time_buffer machine x {})
  | .MY_TIME => do
      let x ← REAL col i
      if ISNAN x then pure none else time_value (time_buffer machine x {})
  | .MY_INT64 => do
      let v ← INTEGER64 col i
      pure (if v = NA_INTEGER64 then none else some (.int64 v))

theorem param_value_plain (type : MariaFieldType) (col : SEXP) (i : Nat) :
    Plain (param_value type col i) := by
  obtain ⟨hlgl, hint, hreal, hint64, hstr, hvec⟩ := readers_plain col i
  have htime : ∀ t : Option MYSQL_TIME, Plain (time_value t) := fun t =>
    (ofOption_arithmetic_plain t).bind fun _ => Plain.ok _
  cases type with
  | MY_LGL => exact hlgl.bind fun v => Plain.ok _
  | MY_INT32 => exact hint.bind fun v => Plain.ok _
  | MY_INT64 => exact hint64.bind fun v => Plain.ok _
  | MY_DBL => exact hreal.bind fun x => Plain.ok _
  | MY_STR => exact hstr.bind fun s => Plain.ok _
  | MY_RAW =>
      refine hvec.bind fun raw => ?_
      cases raw with
      | NILSXP => exact Plain.ok _
      | RAWSXP b => exact Plain.ok _
      | other type => exact Plain.stop _
  | _ =>
      refine hreal.bind fun x => ?_
      split
      · exact Plain.ok _
      · exact htime _

theorem set_date_buffer_cases (c : Arith) (date : ℤ) (t : MYSQL_TIME) :
    set_date_buffer c date t = (civil_from_days c date).map fun (y, m, d) =>
      { t with year := y.toNat, month := m.toNat, day := d.toNat } := by
  unfold set_date_buffer
  cases civil_from_days c date <;> rfl

theorem set_time_buffer_cases (c : Arith) (time : ℚ) (t : MYSQL_TIME) :
    set_time_buffer c time t = (time_parts c (if time < 0 then -time else time)).map
      fun (h, m, s, us) => { t with
        hour := h.toNat, minute := m.toNat, second := s.toNat, second_part := us.toNat,
        neg := time < 0 } := by
  unfold set_time_buffer
  cases time_parts c (if time < 0 then -time else time) <;> rfl

-- Every field of a time buffer is written, so that nothing of an earlier row is left.
theorem date_buffer_fresh (c : Arith) (x : Double) (t : MYSQL_TIME) :
    date_buffer c x t = date_buffer c x {} := by
  cases x with
  | finite val =>
      simp only [date_buffer, set_date_buffer_cases]
      cases cast InInt ((CArith.floor val : ℤ) : ℚ) with
      | none => rfl
      | some date => 
          simp only [Option.bind_eq_bind, Option.bind_some]
          cases civil_from_days c date <;> rfl
  | _ => rfl

theorem date_time_buffer_fresh (c : Arith) (x : Double) (t : MYSQL_TIME) :
    date_time_buffer c x t = date_time_buffer c x {} := by
  cases x with
  | finite val =>
      simp only [date_time_buffer, set_date_buffer_cases, set_time_buffer_cases]
      cases cast InInt ((CArith.floor (c.double (val / 86400)) : ℤ) : ℚ) with
      | none => rfl
      | some date =>
          simp only [Option.bind_eq_bind, Option.bind_some]
          cases civil_from_days c date with
          | none => rfl
          | some ymd => rfl
  | _ => rfl

theorem time_buffer_fresh (c : Arith) (x : Double) (t : MYSQL_TIME) :
    time_buffer c x t = time_buffer c x {} := by
  cases x with
  | finite val => simp only [time_buffer, set_time_buffer_cases, clear_date_buffer]
  | _ => rfl

end Values

section Slots

-- The outcome of bind_value() by the parameter value: the same error, the same
-- missing value, or a slot that points to the value.
def Follows (slot : Slot) (bound : Except Exc (Option Slot)) :
    Except Exc (Option ParamValue) → Prop
  | .ok none => bound = .ok none
  | .ok (some v) => ∃ slot', bound = .ok (some slot') ∧ slot'.kind = slot.kind ∧ slot'.buffer = some v
  | .error e => bound = .error e

theorem Follows.ite {slot : Slot} {c : Prop} [Decidable c] {bound : Except Exc (Option Slot)}
    {value : Except Exc (Option ParamValue)} (h : ¬c → Follows slot bound value) :
    Follows slot (if c then pure none else bound) (if c then pure none else value) := by
  split
  · rfl
  · exact h ‹_›

theorem Follows.bind {α : Type} {slot : Slot} (x : Except Exc α) {f : α → Except Exc (Option Slot)}
    {g : α → Except Exc (Option ParamValue)} (h : ∀ a, Follows slot (f a) (g a)) :
    Follows slot (x >>= f) (x >>= g) := by
  cases x with
  | ok a => exact h a
  | error e => rfl

theorem follows_time (slot : Slot) (t : Option MYSQL_TIME) :
    Follows slot (bind_value.bind_time slot t) (time_value t) := by
  cases t with
  | none => rfl
  | some t => exact ⟨_, rfl, rfl, rfl⟩

-- The new slot is any slot of the same type that points to the value.
theorem follows_value {slot slot' : Slot} {v : ParamValue} (hsame : slot'.kind = slot.kind)
    (hbuffer : slot'.buffer = some v) (c : Prop) [Decidable c] :
    Follows slot (pure (if c then none else some slot')) (pure (if c then none else some v)) := by
  split
  · rfl
  · exact ⟨slot', rfl, hsame, hbuffer⟩

theorem bind_value_follows (slot : Slot) (col : SEXP) (i : Nat) :
    Follows slot (bind_value slot col i) (param_value slot.type col i) := by
  unfold bind_value param_value
  cases ht : slot.type with
  | MY_LGL =>
      refine Follows.bind _ fun v => follows_value ?_ ?_ _
      · rw [Slot.kind, Slot.kind, ht]
      · rfl
  | MY_INT32 =>
      refine Follows.bind _ fun v => follows_value ?_ ?_ _
      · rw [Slot.kind, Slot.kind, ht]
      · rfl
  | MY_INT64 =>
      refine Follows.bind _ fun v => follows_value ?_ ?_ _
      · rw [Slot.kind, Slot.kind, ht]
      · rfl
  | MY_DBL =>
      refine Follows.bind _ fun x => follows_value ?_ ?_ _
      · rw [Slot.kind, Slot.kind, ht]
      · rfl
  | MY_STR =>
      apply Follows.bind
      intro b
      cases b with
      | none => rfl
      | some b => exact ⟨_, rfl, by rw [Slot.kind, Slot.kind, ht], rfl⟩
  | MY_RAW =>
      apply Follows.bind
      intro raw
      cases raw with
      | NILSXP => rfl
      | RAWSXP b => exact ⟨_, rfl, by rw [Slot.kind, Slot.kind, ht], rfl⟩
      | other type => rfl
  | MY_DATE =>
      apply Follows.bind
      intro x
      apply Follows.ite
      intro _
      rw [date_buffer_fresh]
      exact follows_time slot _
  | MY_DATE_TIME =>
      apply Follows.bind
      intro x
      apply Follows.ite
      intro _
      rw [date_time_buffer_fresh]
      exact follows_time slot _
  | MY_TIME =>
      apply Follows.bind
      intro x
      apply Follows.ite
      intro _
      rw [time_buffer_fresh]
      exact follows_time slot _

-- Element i of a column, as it is sent for a slot of the given kind.
def param_of (i : Nat) (kind : MariaFieldType × enum_field_types) (col : SEXP) : Except Exc Param := do
  let v ← param_value kind.1 col i
  pure ⟨kind.2, v⟩

-- One turn of the loop in bind_next_row(), by what is sent for the column.
theorem next_slot_cases (slot : Slot) (col : SEXP) (i : Nat) :
    (∃ e, param_of i slot.kind col = .error e ∧ next_slot slot col i = .error e) ∨
    ∃ slot', param_of i slot.kind col = .ok slot'.param ∧ next_slot slot col i = .ok slot' ∧
      slot'.kind = slot.kind := by
  have hfollows := bind_value_follows slot col i
  rw [param_of]
  cases hvalue : param_value slot.kind.1 col i with
  | error e =>
      rw [show param_value slot.type col i = .error e from hvalue] at hfollows
      refine .inl ⟨e, rfl, ?_⟩
      rw [next_slot, show bind_value slot col i = .error e from hfollows]
      rfl
  | ok v =>
      rw [show param_value slot.type col i = .ok v from hvalue] at hfollows
      refine .inr ?_
      cases v with
      | none =>
          refine ⟨{ slot with is_null := true }, rfl, ?_, rfl⟩
          rw [next_slot, show bind_value slot col i = .ok none from hfollows]
          rfl
      | some v =>
          obtain ⟨slot', hbound, hkind, hbuffer⟩ := hfollows
          refine ⟨{ slot' with is_null := false }, ?_, ?_, hkind⟩
          · have htype : slot'.buffer_type = slot.kind.2 := congrArg Prod.snd hkind
            simp only [Slot.param, htype, hbuffer, Bool.false_eq_true, if_false, ok_bind, pure_eq_ok]
          · rw [next_slot, hbound]
            rfl

end Slots

section Rows

-- The parameters of row i, as they are sent.
def row_of (i : Nat) (kinds : List (MariaFieldType × enum_field_types)) (cols : List SEXP) :
    Except Exc (List Param) := (kinds.zip cols).mapM fun c => param_of i c.1 c.2

theorem row_of_plain (i : Nat) (kinds : List (MariaFieldType × enum_field_types))
    (cols : List SEXP) : Plain (row_of i kinds cols) :=
  Plain.mapM fun c _ => (param_value_plain c.1.1 c.2 i).bind fun _ => Plain.ok _

def param_row (b : MariaBinding) (i : Nat) : Except Exc (List Param) := row_of i b.kinds b.params

-- The slots before position `done.length` are bound, the others are to be bound.
theorem bind_columns_run (todo : List Slot) : ∀ (s : Obj MariaBinding) (done : List Slot) (cols : List SEXP),
    s.self.slots = done ++ todo → s.self.params.drop done.length = cols →
    cols.length = todo.length → ∃ todo', todo'.map Slot.kind = todo.map Slot.kind ∧
      match row_of s.self.i (todo.map Slot.kind) cols with
      | .ok row => todo'.map Slot.param = row ∧
          (bind_columns (List.range' done.length todo.length)).run s =
            .ok () { s with self.slots := done ++ todo' }
      | .error e => (bind_columns (List.range' done.length todo.length)).run s =
          .error e { s with self.slots := done ++ todo' } := by
  induction todo with
  | nil =>
      intro s done cols hslots _ hlen
      obtain rfl := List.length_eq_zero_iff.mp hlen
      refine ⟨[], rfl, rfl, ?_⟩
      rw [← hslots]
      rfl
  | cons slot todo ih =>
      intro s done cols hslots hcols hlen
      obtain ⟨col, cols, rfl⟩ := List.exists_cons_of_length_eq_add_one hlen
      have hslot : s.self.slots[done.length]? = some slot := by
        rw [hslots, List.getElem?_append_right (Nat.le_refl _), Nat.sub_self, List.getElem?_cons_zero]
      have hcol : s.self.params[done.length]? = some col := by
        rw [← List.head?_drop, hcols, List.head?_cons]
      have hrun := bind_column_run hcol hslot
      rw [List.length_cons, List.range'_succ]
      rcases next_slot_cases slot col s.self.i with ⟨e, hparam, hnext⟩ | ⟨slot', hparam, hnext, hkind⟩
      · rw [hnext] at hrun
        refine ⟨slot :: todo, rfl, ?_⟩
        simp only [row_of, List.map_cons, List.zip_cons_cons, List.mapM_cons, hparam, error_bind]
        rw [bind_columns, run_bind_error hrun, ← hslots]
      · rw [hnext] at hrun
        have hset : s.self.slots.set done.length slot' = (done ++ [slot']) ++ todo := by
          rw [hslots, List.set_append_right _ _ (Nat.le_refl _), Nat.sub_self, List.set_cons_zero,
            List.append_assoc, List.singleton_append]
        obtain ⟨todo', hkinds, hrest⟩ := ih { s with self.slots := s.self.slots.set done.length slot' }
          (done ++ [slot']) cols hset (by simp [← List.drop_drop, hcols]) (by simpa using hlen)
        refine ⟨slot' :: todo', by rw [List.map_cons, List.map_cons, hkind, hkinds], ?_⟩
        have hsplit : row_of s.self.i ((slot :: todo).map Slot.kind) (col :: cols) =
            (slot'.param :: ·) <$> row_of s.self.i (todo.map Slot.kind) cols := by
          simp only [row_of, List.map_cons, List.zip_cons_cons, List.mapM_cons, hparam, ok_bind]
          rfl
        rw [hsplit, bind_columns, run_bind_ok hrun]
        simp only [List.length_append, List.length_cons, List.length_nil] at hrest
        cases hrow : row_of s.self.i (todo.map Slot.kind) cols with
        | ok row =>
            rw [hrow] at hrest
            exact ⟨by rw [List.map_cons, hrest.1], by simpa using hrest.2⟩
        | error e =>
            rw [hrow] at hrest
            simpa using hrest

-- The new slots are of the same kinds, so that later rows are what they were.
theorem param_row_slots {b : MariaBinding} {slots : List Slot}
    (h : slots.map Slot.kind = b.kinds) (n i : Nat) :
    param_row { b with slots := slots, i := n } i = param_row b i := by
  rw [param_row, kinds, h]
  rfl

theorem Matched.next {b : MariaBinding} (hb : Matched b) {slots : List Slot}
    (h : slots.map Slot.kind = b.kinds) (n : Nat) : Matched { b with slots := slots, i := n } := by
  have hlen := congrArg List.length h
  simp only [MariaBinding.kinds, List.length_map] at hlen
  exact ⟨hb.params, hlen.trans hb.slots, hb.kinds.trans (congrArg _ h.symm)⟩

theorem bind_next_row_done {s : Obj MariaBinding} (h : s.self.n_rows ≤ s.self.i) :
    bind_next_row.run s = .ok false s := by
  simp [bind_next_row, h]

-- A row that can be converted is sent with the next execution; another one raises
-- while the slots are being filled.
theorem bind_next_row_run {s : Obj MariaBinding} {k : Nat} {st : MYSQL_STMT}
    (hmatched : Matched s.self) (hstatement : s.self.statement = some k)
    (hst : s.mysql.stmts k = some st) (hrows : s.self.i < s.self.n_rows) :
    ∃ slots, slots.map Slot.kind = s.self.kinds ∧
      match param_row s.self s.self.i with
      | .ok row => bind_next_row.run s = .ok true { s with
          mysql.stmts := Function.update s.mysql.stmts k (some { st with params := row })
          self.slots := slots
          self.i := s.self.i + 1 }
      | .error e => bind_next_row.run s = .error e { s with self.slots := slots } := by
  obtain ⟨slots, hkinds, hrun⟩ := bind_columns_run s.self.slots s [] s.self.params rfl rfl
    (by rw [hmatched.params, hmatched.slots])
  refine ⟨slots, hkinds, ?_⟩
  rw [hmatched.slots, List.length_nil, ← List.range_eq_range'] at hrun
  have hlt : ¬s.self.n_rows ≤ s.self.i := by omega
  change match param_row s.self s.self.i with | .ok _ => _ | .error _ => _ at hrun
  cases hrow : param_row s.self s.self.i with
  | ok row =>
      rw [hrow] at hrun
      obtain ⟨rfl, hrun⟩ := hrun
      simp [bind_next_row, hlt, hrun, hstatement, mysql_stmt_bind_param, deref_run hst]
  | error e =>
      rw [hrow] at hrun
      simp [bind_next_row, hlt, hrun]

end Rows

end RMariaDB.MariaBinding
