import RMariaDB.MariaResultPrep.Columns
import RMariaDB.MariaResultPrep.Fetch

-- The data frames that fetch() returns.

namespace RMariaDB.MariaResultPrep

open Program

variable {srv : Server}

-- A data frame with some columns, all of them with n rows.
structure Framed (names : List String) (count n : Nat) (df : DataFrame) : Prop where
  names : df.names = names
  columns : df.columns.length = count
  row_names : df.row_names = -(n : ℤ)
  cells : ∀ x ∈ df.columns, x.cells.length = n

variable {names : List String} {types : List MariaFieldType} {count n : Nat} {df : DataFrame}
  {s t : Obj MariaResultPrep}

theorem framed_create (names : List String) (types : List MariaFieldType) (n : Nat) :
    Framed names types.length n (df_create types names n) := by
  refine ⟨rfl, by simp [df_create], rfl, fun x hx => ?_⟩
  obtain ⟨type, -, rfl⟩ := List.mem_map.mp hx
  simp [allocVector]

theorem Framed.resize (h : Framed names count n df) (m : Nat) :
    Framed names count m (df_resize df m) := by
  refine ⟨h.names, by simp [df_resize, h.columns], rfl, fun x hx => ?_⟩
  obtain ⟨y, -, rfl⟩ := List.mem_map.mp hx
  simp only [lengthgets, List.length_append, List.length_take, List.length_replicate]
  omega

theorem Framed.s3 (h : Framed names types.length n df) :
    Framed names types.length n (df_s3 df types) := by
  refine ⟨h.names, by simp [df_s3, h.columns], h.row_names, fun x hx => ?_⟩
  simp only [df_s3, List.mem_iff_getElem?, List.getElem?_zipWith] at hx
  obtain ⟨j, hj⟩ := hx
  cases hcol : df.columns[j]? with
  | none => simp [hcol] at hj
  | some y =>
      cases htype : types[j]? with
      | none => simp [hcol, htype] at hj
      | some type =>
          simp only [hcol, htype, Option.some.injEq] at hj
          rw [← hj, s3_class_cells]
          exact h.cells y (List.mem_of_getElem? hcol)

-- The frame is trimmed to the rows that were read, and its columns get their classes.
theorem Framed.trimmed {i : Nat} (h : Framed names types.length n df) (hle : i ≤ n) :
    Framed names types.length i (df_s3 (if i < n then df_resize df i else df) types) := by
  refine Framed.s3 ?_
  by_cases hlt : i < n
  · rw [if_pos hlt]
    exact h.resize i
  · rw [if_neg hlt, Nat.le_antisymm hle (Nat.not_lt.mp hlt)]
    exact h

theorem Framed.set (h : Framed names count n df) {j : Nat} {x : Column} (hx : x.cells.length = n) :
    Framed names count n { df with columns := df.columns.set j x } := by
  refine ⟨h.names, by simp [h.columns], h.row_names, fun y hy => ?_⟩
  rcases List.mem_or_eq_of_mem_set hy with hy | rfl
  · exact h.cells y hy
  · exact hx

theorem assign_length {type : SEXPTYPE} {x y : Column} {i : Nat} {cell : Cell}
    (h : MariaRow.assign type x i cell = .ok y) : y.cells.length = x.cells.length := by
  unfold MariaRow.assign at h
  split at h
  · cases h
  split at h
  · cases h
    exact List.length_set
  · split at h
    · cases h
    · cases h
    · cases h

theorem set_list_value_length {x y : Column} {i j : Nat} {u v : Obj MariaRow}
    (hrun : (MariaRow.set_list_value srv x i j).run u = .ok y v) :
    y.cells.length = x.cells.length := by
  rw [MariaRow.set_list_value, EStateM.run_bind, EStateM.run_get] at hrun
  obtain ⟨slot, _, -, hrun⟩ := of_run_bind_ok hrun
  obtain ⟨cell, _, -, hrun⟩ := of_run_bind_ok hrun
  rw [run_liftM] at hrun
  cases hassign : MariaRow.assign (type_sexp slot.type) x i cell with
  | error e =>
      rw [hassign] at hrun
      cases hrun
  | ok z =>
      rw [hassign] at hrun
      cases hrun
      exact assign_length hassign

theorem set_list_values_framed (i : Nat) (js : List Nat) : ∀ {s : Obj MariaResultPrep} {out out' : DataFrame},
    (set_list_values srv i js out).run s = .ok out' t → Framed names count n out →
      Framed names count n out' := by
  induction js with
  | nil =>
      intro s out out' hrun hout
      cases hrun
      exact hout
  | cons j js ih =>
      intro s out out' hrun hout
      obtain ⟨x, u, hx, hrun⟩ := of_run_bind_ok hrun
      obtain ⟨y, v, hy, hrun⟩ := of_run_bind_ok hrun
      refine ih hrun (hout.set ?_)
      rw [run_liftM] at hx
      cases hcol : index out.columns j with
      | error e =>
          rw [hcol] at hx
          cases hx
      | ok z =>
          rw [hcol] at hx
          cases hx
          rw [output, onMember_run] at hy
          split at hy
          · rename_i hvalue
            cases hy
            rw [set_list_value_length hvalue]
            exact hout.cells x (List.mem_of_getElem? (index_eq_ok_iff.mp hcol))
          · cases hy

-- A row is counted when it is there.
theorem step_counts {row : Bool} (hrun : (step srv).run s = .ok row t) :
    t.self.rowsFetched_ = s.self.rowsFetched_ + if row then 1 else 0 := by
  rw [step, EStateM.run_bind, EStateM.run_get] at hrun
  obtain ⟨more, u, hloop, hrun⟩ := of_run_bind_ok hrun
  have hsame : SameColumns true s.self u.self :=
    (step_loop_persists _).run_ok hloop (SameColumns.refl _)
  cases more with
  | true =>
      cases hrun
      exact congrArg (· + 1) (hsame.fetched rfl)
  | false =>
      cases hrun
      exact hsame.fetched rfl

theorem fetch_loop_framed {n_max : ℤ} (fuel : Nat) : ∀ {i n i' n' : Nat} {out out' : DataFrame}
    {s : Obj MariaResultPrep}, (fetch_loop srv n_max fuel i n out).run s = .ok (i', n', out') t →
    Framed names count n out → i ≤ n → 0 < n →
    Framed names count n' out' ∧ i' ≤ n' ∧ i ≤ i' ∧
      t.self.rowsFetched_ = s.self.rowsFetched_ + (i' - i) := by
  induction fuel with
  | zero => exact fun hrun => by cases hrun
  | succ fuel ih =>
      intro i n i' n' out out' s hrun hout hle hpos
      rw [fetch_loop] at hrun
      split at hrun
      · cases hrun
        exact ⟨hout, hle, Nat.le_refl _, by rw [Nat.sub_self]; rfl⟩
      obtain ⟨row, u, hstep, hrun⟩ := of_run_bind_ok hrun
      have hcount := step_counts hstep
      cases row with
      | false =>
          cases hrun
          exact ⟨hout, hle, Nat.le_refl _, by rw [Nat.sub_self]; exact hcount⟩
      | true =>
          simp only [if_true] at hrun hcount
          split at hrun
          · cases hrun
          rw [EStateM.run_bind, EStateM.run_get] at hrun
          obtain ⟨out₁, v, hvalues, hrun⟩ := of_run_bind_ok hrun
          have hgrown : ∃ m, (if i ≥ n then (n * 2, df_resize out (n * 2)) else (n, out)).1 = m ∧
              i + 1 ≤ m ∧ Framed names count m
                (if i ≥ n then (n * 2, df_resize out (n * 2)) else (n, out)).2 := by
            by_cases hfull : i ≥ n
            · exact ⟨n * 2, by rw [if_pos hfull], by omega, by rw [if_pos hfull]; exact hout.resize _⟩
            · exact ⟨n, by rw [if_neg hfull], by omega, by rw [if_neg hfull]; exact hout⟩
          obtain ⟨m, hm, hroom, hframed⟩ := hgrown
          have hvalued := set_list_values_framed _ _ hvalues hframed
          have hsame : SameColumns true u.self v.self :=
            (set_list_values_persists _ _ _).run_ok hvalues (SameColumns.refl _)
          obtain ⟨x, hx, hrun⟩ : ∃ x, x.self = v.self ∧ (fetch_loop srv n_max fuel (i + 1)
              (if i ≥ n then (n * 2, df_resize out (n * 2)) else (n, out)).1 out₁).run x =
              .ok (i', n', out') t := by
            split at hrun
            · obtain ⟨_, x, hcheck, hrun⟩ := of_run_bind_ok hrun
              refine ⟨x, ?_, hrun⟩
              rw [lib_run] at hcheck
              split at hcheck <;> cases hcheck
              rfl
            · exact ⟨v, rfl, hrun⟩
          rw [hm] at hrun
          obtain ⟨hframed', hle', hge, hrows⟩ := ih hrun hvalued hroom (by omega)
          refine ⟨hframed', hle', by omega, ?_⟩
          rw [hrows, hx, hsame.fetched rfl, hcount]
          omega

-- Every row that is counted is returned with all its columns.
theorem fetch_framed {n_max : ℤ} {fuel : Nat} (hrun : (fetch srv fuel n_max).run s = .ok df t) :
    ∃ k, t.self.rowsFetched_ = s.self.rowsFetched_ + k ∧
      Framed s.self.names_ s.self.types_.length k df := by
  have hsame : SameColumns false s.self t.self :=
    (fetch_persists fuel n_max).run_ok hrun (SameColumns.refl _)
  by_cases hbound : s.self.bound_ = true
  · by_cases hresult : s.self.has_result = true
    · by_cases hn : n_max = 0
      · subst hn
        rw [fetch_zero hbound hresult] at hrun
        cases hrun
        exact ⟨0, rfl, framed_create _ _ _⟩
      · rw [fetch_loops hbound hresult hn] at hrun
        obtain ⟨⟨i, n, out⟩, u, hloop, hrun⟩ := of_run_bind_ok hrun
        obtain ⟨hframed, hle, -, hcount⟩ := fetch_loop_framed _ hloop (framed_create _ _ _)
          (Nat.zero_le _) (capacity_pos hn)
        cases hrun
        refine ⟨i, hcount, ?_⟩
        rw [hsame.types]
        exact hframed.trimmed hle
    · obtain ⟨u, hempty, hself, -⟩ :=
        fetch_resultless srv hbound (Bool.not_eq_true _ ▸ hresult) fuel n_max
      rw [hempty] at hrun
      cases hrun
      exact ⟨0, by rw [hself]; rfl, framed_create _ _ _⟩
  · rw [fetch_unbound (Bool.not_eq_true _ ▸ hbound)] at hrun
    cases hrun

end RMariaDB.MariaResultPrep
