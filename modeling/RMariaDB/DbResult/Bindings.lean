import RMariaDB.DbResult.Calls
import RMariaDB.MariaResultPrep.Runs

-- The bound parameters, while a row of them is pending.

namespace RMariaDB

open Program

namespace MariaBinding

-- The columns hold all the rows that are still to be bound.
structure Represents (b : MariaBinding) : Prop where
  matched : Matched b
  rows : ∀ col ∈ b.params, b.n_rows ≤ col.xlength

theorem time_value_memory (t : Option MYSQL_TIME) : time_value t ≠ .error (.fault .memory) := by
  cases t <;> simp [time_value, ofOption]

theorem index_of_lt {α : Type} {x : List α} {i : Nat} (h : i < x.length) :
    ∃ a, index x i = .ok a := ⟨x[i], index_eq_ok (List.getElem?_eq_getElem h)⟩

-- An element of a column of its own type is there to be read.
theorem param_value_memory {col : SEXP} {kind : MariaFieldType × enum_field_types} {i : Nat}
    (hkind : kind_of col = .ok kind) (hi : i < col.xlength) :
    param_value kind.1 col i ≠ .error (.fault .memory) := by
  obtain ⟨type, htype, hok⟩ := of_bind_eq_ok hkind
  cases hok
  cases col with
  | LGLSXP klass x =>
      obtain ⟨v, hv⟩ := index_of_lt (x := x) hi
      cases htype
      simp [param_value, LOGICAL, hv]
  | INTSXP klass x =>
      obtain ⟨v, hv⟩ := index_of_lt (x := x) hi
      cases htype
      simp [param_value, INTEGER, hv]
  | STRSXP klass x =>
      obtain ⟨v, hv⟩ := index_of_lt (x := x) hi
      cases htype
      simp [param_value, STRING_ELT, hv]
  | REALSXP klass x =>
      obtain ⟨v, hv⟩ := index_of_lt (x := x) hi
      have htime : ∀ c : Prop, ∀ [Decidable c], ∀ t : Option MYSQL_TIME,
          (if c then pure none else time_value t) ≠
            (.error (.fault .memory) : Except Exc (Option ParamValue)) := by
        intro c _ t
        split
        · simp
        · exact time_value_memory t
      cases type with
      | MY_DATE => simpa [param_value, REAL, hv] using htime _ _
      | MY_DATE_TIME => simpa [param_value, REAL, hv] using htime _ _
      | MY_TIME => simpa [param_value, REAL, hv] using htime _ _
      | MY_DBL => simp [param_value, REAL, hv]
      | MY_INT64 => simp [param_value, INTEGER64, hv]
      | _ => 
          simp only [variable_type_from_object] at htype
          repeat' (split at htype)
          all_goals cases htype
  | VECSXP klass x =>
      obtain ⟨v, hv⟩ := index_of_lt (x := x) hi
      have hraw : type = .MY_RAW := by
        simp only [variable_type_from_object] at htype
        repeat' (split at htype)
        all_goals cases htype <;> rfl
      rw [hraw]
      cases v <;> simp [param_value, VECTOR_ELT, hv, RAW, notApplicable]
  | other type klass n => cases htype

theorem row_of_memory {b : MariaBinding} (hb : Represents b) {i : Nat} (hi : i < b.n_rows) :
    param_row b i ≠ .error (.fault .memory) := by
  intro h
  obtain ⟨⟨kind, col⟩, hmem, hparam⟩ := of_mapM_eq_error h
  have hkind : kind_of col = .ok kind := of_mapM_eq_ok hb.matched.kinds _ hmem
  have hcol : col ∈ b.params := List.of_mem_zip hmem |>.2
  apply param_value_memory hkind (Nat.lt_of_lt_of_le hi (hb.rows col hcol))
  cases hvalue : param_value kind.1 col i with
  | ok v =>
      rw [param_of, hvalue] at hparam
      cases hparam
  | error e =>
      rw [param_of, hvalue, error_bind] at hparam
      cases hparam
      rfl

theorem bind_next_row_memory {s t : Obj MariaBinding} (hs : Represents s.self) :
    bind_next_row.run s ≠ .error (.fault .memory) t := by
  by_cases hrows : s.self.n_rows ≤ s.self.i
  · simp [bind_next_row_done hrows]
  obtain ⟨slots, hkinds, hcolumns⟩ := bind_columns_run s.self.slots s [] s.self.params rfl rfl
    (by rw [hs.matched.params, hs.matched.slots])
  rw [hs.matched.slots, List.length_nil, ← List.range_eq_range'] at hcolumns
  intro h
  rw [bind_next_row, EStateM.run_bind, EStateM.run_get] at h
  simp only [ge_iff_le, hrows, if_false] at h
  cases hrow : row_of s.self.i (s.self.slots.map Slot.kind) s.self.params with
  | error e =>
      rw [hrow] at hcolumns
      rw [run_bind_error hcolumns] at h
      cases h
      exact row_of_memory hs (Nat.lt_of_not_le hrows) hrow
  | ok row =>
      rw [hrow] at hcolumns
      rw [run_bind_ok hcolumns.2] at h
      rcases deref_cases s.self.statement s.mysql with hderef | ⟨k, st, -, hderef⟩
      · simp [mysql_stmt_bind_param, hderef] at h
      · simp [mysql_stmt_bind_param, hderef] at h

end MariaBinding

namespace DbResult

open MariaBinding MariaResultPrep

variable {srv : Server} {this : Nat} {s t : Obj DbResult}

def Consistent (bound : Bool) (b : MariaBinding) : Prop :=
  bound = true → b.i < b.n_rows → Represents b

theorem consistent_survives : Survives Consistent := by
  intro bound b b' hb hc hbound hi
  have hlt : b.i < b.n_rows := by
    rw [hb.n_rows] at hi
    exact Nat.lt_of_le_of_lt hb.i hi
  obtain ⟨hmatched, hrows⟩ := hc hbound hlt
  refine ⟨hb.matched hmatched, ?_⟩
  rw [hb.params, hb.n_rows]
  exact hrows

-- The result is active, works on its own statement only, and its parameters are
-- consistent.
structure Tracks (this : Nat) (u : Obj MariaResultPrep) : Prop where
  active : u.conn.pCurrentResult_ = some this
  wired : ∃ l, Wired l u.self.pStatement_ Consistent u.mysql u.self

theorem sent_tracks (h : Sent srv this s) : ∃ u, s = wrap u ∧ Tracks this u := by
  obtain ⟨u, l, rfl, hactive, hwired⟩ := sent_wired h
  refine ⟨u, rfl, hactive, l, hwired.mono ?_⟩
  rintro bound b rfl - hi
  cases hi

-- Columns that are rejected leave no row to be bound.
def Harmless (c : Call) (s : Obj DbResult) : Prop :=
  match c with
  | .bind params => ∀ u st, s = wrap u → u.self.pStatement_.bind u.mysql.stmts = some st →
      u.self.bound_ = true → EqualLengths params → ¬Accepted st.param_count params →
      ¬LeavesRows u.self.bindingInput_ st.param_count params
  | .fetch _ _ => True

theorem harmless_accepted {u : Obj MariaResultPrep} {st : MYSQL_STMT} {params : List SEXP}
    (hst : u.self.pStatement_.bind u.mysql.stmts = some st)
    (haccepted : Accepted st.param_count params) : Harmless (.bind params) (wrap u) := by
  intro v st' hv hst' _ _ hrejected
  cases wrap_inj hv
  rw [hst] at hst'
  cases hst'
  exact absurd haccepted hrejected

theorem bind_consistent {l : List Nat} {s u : Obj MariaResultPrep} {params : List SEXP}
    (hs : Wired l s.self.pStatement_ Consistent s.mysql s.self) (hequal : EqualLengths params)
    (hharmless : ∀ st, s.self.pStatement_.bind s.mysql.stmts = some st → s.self.bound_ = true →
      ¬Accepted st.param_count params → ¬LeavesRows s.self.bindingInput_ st.param_count params)
    (hafter : after (MariaResultPrep.bind srv params) s = some u) :
    u.conn = s.conn ∧ Wired l s.self.pStatement_ Consistent u.mysql u.self := by
  obtain ⟨k, st, hk, hst, ⟨-, slots, hlen, hkinds, hrest⟩ | ⟨hrejected, b, hb, hleaves, rfl⟩⟩ :=
    bind_cases hafter
  · have hrows : Represents (columns_set s.self.bindingInput_ k params slots) := by
      refine ⟨⟨rfl, hlen, hkinds⟩, fun col hcol => ?_⟩
      exact Nat.le_of_eq (hequal.xlength s.self.bindingInput_.n_rows col hcol).symm
    have hwithin := (bind_rows_method srv (T := fun _ b => Consistent true b)
      (fun _ b b' hb => consistent_survives true b b' hb) fun _ _ => id).after
      hrest ⟨rfl, hs.metas, fun _ => hk.symm, hs.output, fun _ _ => hrows⟩
    exact ⟨hwithin.conn, hwithin.self.mono fun bound b hb _ => hb rfl⟩
  · refine ⟨rfl, rfl, hs.metas, fun _ => hb.trans hk.symm, hs.output, fun hbound hi => ?_⟩
    have hstmt : s.self.pStatement_.bind s.mysql.stmts = some st := by rw [hk]; exact hst
    exact absurd (hleaves.mp hi) (hharmless st hstmt hbound hrejected)

theorem tracks_next {c : Call} {u : Obj MariaResultPrep} (hu : Tracks this u)
    (hc : Harmless c (wrap u)) (hnext : next srv this c (wrap u) = some t) :
    ∃ v, t = wrap v ∧ Tracks this v := by
  obtain ⟨v, rfl, ⟨params, rfl, -, rfl⟩ | ⟨params, rfl, hequal, hafter⟩ | ⟨n, fuel, rfl, hafter⟩⟩ :=
    next_cases hu.active hnext
  · exact ⟨v, rfl, hu⟩
  · obtain ⟨l, hl⟩ := hu.wired
    obtain ⟨hconn, hwired⟩ := bind_consistent hl hequal
      (fun st hst hbound => hc u st rfl hst hbound hequal) hafter
    refine ⟨v, rfl, by rw [hconn, hu.active], l, ?_⟩
    rw [hwired.statement]
    exact hwired
  · obtain ⟨l, hl⟩ := hu.wired
    have hfetch := (fetch_method consistent_survives fuel n).after hafter hl
    refine ⟨v, rfl, by rw [hfetch.conn, hu.active], l, ?_⟩
    rw [hfetch.self.statement]
    exact hfetch.self

-- While a row is pending and the result can be fetched, the parameters are what the
-- slots were set up for, and binding the row reads nothing else.
def BindingsHold (this : Nat) (s : Obj DbResult) : Prop :=
  ∀ u, s = wrap u → u.conn.pCurrentResult_ = some this → u.self.bound_ = true →
    u.self.bindingInput_.i < u.self.bindingInput_.n_rows → Represents u.self.bindingInput_ ∧
      ∀ b t, b.self = u.self.bindingInput_ → bind_next_row.run b ≠ .error (.fault .memory) t

theorem bindings_hold (hsent : Sent srv this s) (hrun : Reaches (next srv this) Harmless s t) :
    BindingsHold this t := by
  have htracks : ∃ u, t = wrap u ∧ Tracks this u := by
    refine hrun.invariant (I := fun t => ∃ u, t = wrap u ∧ Tracks this u) (sent_tracks hsent) ?_
    rintro c _ t ⟨u, rfl, hu⟩ hc hnext
    exact tracks_next hu hc hnext
  obtain ⟨u, rfl, hu⟩ := htracks
  intro v hv _ hbound hi
  cases wrap_inj hv
  obtain ⟨l, hl⟩ := hu.wired
  have hrows := hl.bound hbound hi
  refine ⟨hrows, fun b t hb => bind_next_row_memory ?_⟩
  rw [hb]
  exact hrows

-- The other way round: rows that are left over rejected columns cannot be bound.
variable (srv) in
theorem rejected_breaks {u : Obj MariaResultPrep} {st : MYSQL_STMT} {params : List SEXP}
    (hu : Tracks this u) (hst : u.self.pStatement_.bind u.mysql.stmts = some st)
    (hbound : u.self.bound_ = true) (hequal : EqualLengths params) (hpos : st.param_count ≠ 0)
    (hrejected : ¬Accepted st.param_count params)
    (hleft : LeavesRows u.self.bindingInput_ st.param_count params) :
    ∃ t, next srv this (.bind params) (wrap u) = some t ∧ ¬BindingsHold this t := by
  obtain ⟨k, hk, hst⟩ := Option.bind_eq_some_iff.mp hst
  obtain ⟨message, b, hrun, -, hparams, hp, hleaves⟩ := bind_params_rejected hk hst hrejected
  refine ⟨wrap { u with self.rowsAffected_ := 0, self.bindingInput_ := b }, ?_, fun h => ?_⟩
  · rw [next_bind hequal, bind_eq, after, run_bind_error hrun]
    rfl
  · have hmatched := (h _ rfl hu.active hbound (hleaves.mpr hleft)).1.matched
    refine hrejected ⟨?_, hpos, ?_⟩
    · rw [← hp, ← hparams, hmatched.params]
    · rw [← hparams]
      exact ⟨_, hmatched.kinds⟩

-- A query with two parameters, which has no rows.
def two_params : Query where
  handle := 0
  sql := "SELECT n FROM t WHERE k = ? AND l = ?"
  param_count := 2
  fields := [⟨"n", .MYSQL_TYPE_LONG, 63, 11⟩]
  rows := fun _ => []

def two_params_server : Server := { Server.agreeable with
  prepare := fun _ _ => .ok ⟨two_params.param_count, some two_params.fields⟩
  execute := fun _ _ params => .ok { rows := some (two_params.rows params) } }

theorem two_params_answers : Answers two_params_server two_params := by
  refine ⟨fun _ => rfl, fun _ => rfl, fun _ params => ⟨_, rfl, rfl⟩, fun _ => rfl, fun _ => rfl,
    fun _ => rfl, fun params row hrow => ?_⟩
  cases hrow

def two_columns : List SEXP := [.INTSXP [] [1, 2], .INTSXP [] [3, 4]]

def one_column : List SEXP := [.INTSXP [] [5]]

theorem two_columns_bound : ∃ u v st, Sent two_params_server 0 (wrap u) ∧
    Harmless (.bind two_columns) (wrap u) ∧
    next two_params_server 0 (.bind two_columns) (wrap u) = some (wrap v) ∧ Tracks 0 v ∧
    v.self.pStatement_.bind v.mysql.stmts = some st ∧ st.param_count = 2 ∧ v.self.bound_ = true ∧
    v.self.bindingInput_.i < v.self.bindingInput_.n_rows := by
  obtain ⟨u, st, hsent, hserves, -⟩ := sent_serves 0 two_params_answers rfl rfl
  have haccepted : Accepted two_params.param_count two_columns := ⟨rfl, by decide, _, rfl⟩
  obtain ⟨slots, -, hnext⟩ := next_bind_accepted two_params_server 0 hserves
    (by simp [EqualLengths, two_columns, SEXP.xlength]) haccepted
  have hopen : u.self.pStatement_.bind u.mysql.stmts = some st := by
    rw [hserves.output.statement]
    exact hserves.output.stmt
  have hharmless := harmless_accepted hopen (hserves.param_count ▸ haccepted)
  obtain ⟨w, hw, hu⟩ := sent_tracks hsent
  cases wrap_inj hw
  obtain ⟨v, hv, htracks⟩ := tracks_next hu hharmless hnext
  cases wrap_inj hv
  exact ⟨u, _, st, hsent, hharmless, hnext, htracks, hopen, hserves.param_count, rfl,
    Nat.zero_lt_two⟩

-- One column is too few, but the rows that wait for two columns are kept.
theorem rejected_bind_breaks : ∃ s t, Sent two_params_server 0 s ∧
    Reaches (next two_params_server 0) (fun _ _ => True) s t ∧ ¬BindingsHold 0 t := by
  obtain ⟨u, v, st, hsent, -, hfirst, hv, hst, hcount, hbound, hrows⟩ := two_columns_bound
  obtain ⟨t, hsecond, hbreaks⟩ := rejected_breaks two_params_server hv hst hbound
    (show EqualLengths one_column by simp [EqualLengths, one_column]) (by rw [hcount]; decide)
    (by rw [hcount]; rintro ⟨hlen, -⟩; cases hlen)
    (by simpa [LeavesRows, hcount, one_column] using hrows)
  exact ⟨wrap u, t, hsent, .tail (.tail (.refl _) trivial hfirst) trivial hsecond, hbreaks⟩

-- After the first bind the rows of both columns are pending.
theorem bindings_hold_two_columns : ∃ s u, Sent two_params_server 0 s ∧ u.self.bound_ = true ∧
    u.self.bindingInput_.i < u.self.bindingInput_.n_rows ∧ BindingsHold 0 (wrap u) := by
  obtain ⟨u, v, st, hsent, hharmless, hnext, -, -, -, hbound, hrows⟩ := two_columns_bound
  exact ⟨wrap u, v, hsent, hbound, hrows,
    bindings_hold hsent (.tail (.refl _) hharmless hnext)⟩

end DbResult

end RMariaDB
