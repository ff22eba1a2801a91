import RMariaDB.MariaResultPrep.Reading

-- The loop of fetch() collects rows from the cursor.

namespace RMariaDB.MariaResultPrep

open Program

variable {srv : Server} {q : Query} {s : Obj MariaResultPrep} {st : MYSQL_STMT}

section Fetch

theorem fetch_unbound (h : s.self.bound_ = false) (fuel : Nat) (n_max : ℤ) :
    (fetch srv fuel n_max).run s =
      .error (.stop "Query needs to be bound before fetching") s := by
  rw [fetch, EStateM.run_bind, EStateM.run_get]
  simp only [h, Bool.not_false, if_true]
  rfl

-- How many rows a fetch that has room for n rows and has read i of them still reads.
def wanted (n_max : ℤ) (i n : Nat) (remaining : Nat) : Nat :=
  if n_max > 0 then n - i else remaining + 1

theorem wanted_pos {n_max : ℤ} {i n : Nat} (h : ¬(i ≥ n ∧ n_max > 0)) (remaining : Nat) :
    ∃ k, wanted n_max i n remaining = k + 1 := by
  unfold wanted
  split
  · exact ⟨n - (i + 1), by omega⟩
  · exact ⟨remaining, rfl⟩

-- The rest of a turn of fetch(), once there is a row.
theorem turn_run (hsrv : Answers srv q) (hs : Reading q s st) {row : Row} (hrow : AtRow srv s row)
    {out : DataFrame} {n : Nat} {rows : List (List Cell)} (hout : Filled q.types out n rows)
    (hn : rows.length < n) {α : Type} (next : DataFrame → EStateM Exc (Obj MariaResultPrep) α) :
    ∃ t, Reading q t st ∧ cursor q t = cursor q s ∧
      (do
        let s ← get
        let out ← set_list_values srv rows.length (List.range s.self.nCols_) out
        if (rows.length + 1) % 1024 = 0 then lib (check_user_interrupt srv) else pure ()
        next out).run s = match row_cells q.types row with
          | .ok cells => (next { out with
              columns := out.columns.zipWith (put_cell rows.length) cells }).run t
          | .error e => .error e t := by
  obtain ⟨t, ht, hcursor, hrun⟩ := write_row_run hs hrow hout hn
  cases hcells : row_cells q.types row with
  | error e =>
      rw [hcells] at hrun
      exact ⟨t, ht, hcursor, by simp [hrun]⟩
  | ok cells =>
      rw [hcells] at hrun
      by_cases hc : (rows.length + 1) % 1024 = 0
      · obtain ⟨ht', hcursor'⟩ := ht.tick (t.mysql.tick + 1)
        refine ⟨_, ht', hcursor'.trans hcursor, ?_⟩
        simp [hrun, hc, check_user_interrupt, hsrv.interrupt]
      · exact ⟨t, ht, hcursor, by simp [hrun, hc]⟩

-- A full frame is made twice as large, which only a fetch of all rows meets.
theorem filled_grown {n_max : ℤ} {out : DataFrame} {n : Nat} {rows : List (List Cell)}
    (hout : Filled q.types out n rows) (hn : 0 < n) (h : ¬(rows.length ≥ n ∧ n_max > 0)) :
    ∃ n' out', (if rows.length ≥ n then (n * 2, df_resize out (n * 2)) else (n, out)) = (n', out') ∧
      Filled q.types out' n' rows ∧ rows.length < n' ∧ ∀ remaining,
        wanted n_max rows.length n (remaining + 1) =
          wanted n_max (rows.length + 1) n' remaining + 1 := by
  have hfits := hout.fits
  by_cases hfull : rows.length ≥ n
  · refine ⟨n * 2, _, if_pos hfull, hout.resize (by omega), by omega, ?_⟩
    intro remaining
    rw [wanted, wanted, if_neg (fun hmax => h ⟨hfull, hmax⟩), if_neg (fun hmax => h ⟨hfull, hmax⟩)]
  · refine ⟨n, out, if_neg hfull, hout, by omega, ?_⟩
    intro remaining
    unfold wanted
    split
    · omega
    · rfl

-- How the loop ends that has read some rows and reads k more off a cursor: unless it is cut short,
-- with what the cursor yields.
def Collects (q : Query) (fuel k : Nat) (rows : List (List Cell)) (c : Cursor Exc Row)
    (r : EStateM.Result Exc (Obj MariaResultPrep) (Nat × Nat × DataFrame)) : Prop :=
  (fuel ≤ c.remaining.length ∧ ∃ t, r = .error .outOfFuel t) ∨
  (2 ^ 30 ≤ rows.length + c.remaining.length ∧ ∃ t, r = .error (.fault .arithmetic) t) ∨
  match Cursor.collect (row_cells q.types) k c with
  | .ok (more, c') => ∃ n out t st, r = .ok (rows.length + more.length, n, out) t ∧
      Filled q.types out n (rows ++ more) ∧ Reading q t st ∧ cursor q t = c'
  | .error e => ∃ t, r = .error e t

theorem Collects.cons {fuel k : Nat} {rows : List (List Cell)} {row : Row} {cells : List Cell}
    {c c' : Cursor Exc Row} {r : EStateM.Result Exc (Obj MariaResultPrep) (Nat × Nat × DataFrame)}
    (hnext : c.next = .ok (some (row, c'))) (hcells : row_cells q.types row = .ok cells)
    (h : Collects q fuel k (rows ++ [cells]) c' r) : Collects q (fuel + 1) (k + 1) rows c r := by
  have hremaining := congrArg List.length (Cursor.remaining_of_next_some hnext)
  rw [List.length_cons] at hremaining
  rw [Collects, hremaining, Cursor.collect, hnext]
  rw [Collects, List.length_append, List.length_singleton] at h
  rcases h with ⟨hfuel, h⟩ | ⟨hbig, h⟩ | h
  · exact .inl ⟨by omega, h⟩
  · exact .inr (.inl ⟨by omega, h⟩)
  · refine .inr (.inr ?_)
    cases hcollect : Cursor.collect (row_cells q.types) k c' with
    | error e =>
        rw [hcollect] at h
        simp only [hcells, hcollect]
        exact h
    | ok rest =>
        rw [hcollect] at h
        obtain ⟨n, out, t, st, hrun, hfilled, hreads, hcursor⟩ := h
        rw [List.append_assoc, List.singleton_append] at hfilled
        simp only [hcells, hcollect]
        refine ⟨n, out, t, st, ?_, hfilled, hreads, hcursor⟩
        rw [hrun, List.length_cons, Nat.add_assoc, Nat.add_comm 1]

-- The loop reads its rows off the cursor, in order and none of them twice.
theorem fetch_loop_run (hsrv : Answers srv q) (n_max : ℤ) : ∀ (fuel : Nat)
    {s : Obj MariaResultPrep} {st : MYSQL_STMT} {n : Nat} {out : DataFrame}
    {rows : List (List Cell)}, Reading q s st → Filled q.types out n rows → 0 < n →
    Collects q fuel (wanted n_max rows.length n (cursor q s).remaining.length) rows (cursor q s)
      ((fetch_loop srv n_max fuel rows.length n out).run s) := by
  intro fuel
  induction fuel with
  | zero =>
      intro s st n out rows _ _ _
      exact .inl ⟨Nat.zero_le _, s, rfl⟩
  | succ fuel ih =>
      intro s st n out rows hs hout hn
      rw [fetch_loop]
      by_cases hfull : rows.length ≥ n ∧ n_max > 0
      · refine .inr (.inr ?_)
        rw [if_pos hfull, wanted, if_pos hfull.2, Nat.sub_eq_zero_of_le hfull.1]
        exact ⟨n, out, s, st, rfl, by rwa [List.append_nil], hs, rfl⟩
      rw [if_neg hfull]
      obtain ⟨k, hk⟩ := wanted_pos hfull (cursor q s).remaining.length
      have hstep := step_run hsrv hs
      cases hnext : (cursor q s).next with
      | error e =>
          rw [hnext] at hstep
          obtain ⟨t, hrun⟩ := hstep
          refine .inr (.inr ?_)
          rw [hk, Cursor.collect, hnext]
          exact ⟨t, run_bind_error hrun⟩
      | ok result =>
          rw [hnext] at hstep
          cases result with
          | none =>
              obtain ⟨t, st', hrun, ht, hcursor⟩ := hstep
              refine .inr (.inr ?_)
              rw [hk, Cursor.collect, hnext]
              exact ⟨n, out, t, st', by rw [run_bind_ok hrun]; rfl, by rwa [List.append_nil], ht,
                hcursor⟩
          | some next =>
              obtain ⟨row, c⟩ := next
              obtain ⟨t, st', hrun, ht, hcursor, hrow⟩ := hstep
              have hremaining := congrArg List.length (Cursor.remaining_of_next_some hnext)
              rw [List.length_cons] at hremaining
              rw [run_bind_ok hrun, if_pos rfl]
              by_cases hover : rows.length ≥ n ∧ n * 2 > INT_MAX
              · refine .inr (.inl ⟨?_, t, by rw [if_pos hover]; rfl⟩)
                unfold INT_MAX at hover
                omega
              obtain ⟨n', out', hgrown, hout', hroom, hwanted⟩ := filled_grown hout hn hfull
              obtain ⟨u, hu, hcursor', hturn⟩ := turn_run hsrv ht hrow hout' hroom
                (fetch_loop srv n_max fuel (rows.length + 1) n')
              rw [if_neg hover, hremaining, hwanted]
              dsimp only at hturn ⊢
              rw [hgrown]
              dsimp only
              rw [hturn]
              cases hcells : row_cells q.types row with
              | error e =>
                  refine .inr (.inr ?_)
                  rw [Cursor.collect, hnext]
                  simp only [hcells]
                  exact ⟨u, rfl⟩
              | ok cells =>
                  have hlen : out'.columns.length = cells.length := by
                    rw [length_of_mapM hcells, List.length_zip, hrow.length, ht.serves.types,
                      Nat.min_self, hout'.columns_length]
                  have hrest := ih hu (hout'.put hroom hlen) (by omega)
                  rw [hcursor', hcursor, List.length_append, List.length_singleton] at hrest
                  exact hrest.cons hnext hcells

-- How many rows a call of fetch() reads at most.
def requested (n_max : ℤ) (remaining : Nat) : Nat :=
  if n_max < 0 then remaining + 1 else n_max.toNat

-- A frame that is trimmed to its rows.
theorem rows_of_filled {out : DataFrame} {n : Nat} {rows : List (List Cell)}
    (hout : Filled q.types out n rows) :
    (df_s3 (if rows.length < n then df_resize out rows.length else out) q.types).rows = rows := by
  by_cases hn : rows.length < n
  · rw [if_pos hn]
    exact (hout.resize (Nat.le_refl _)).s3.rows_eq
  · rw [if_neg hn]
    have hlen : n = rows.length := by
      have := hout.fits
      omega
    subst hlen
    exact hout.s3.rows_eq

-- The capacity that fetch() starts with.
def capacity (n_max : ℤ) : Nat := if n_max < 0 then 100 else n_max.toNat

variable (srv) in
theorem fetch_resultless (hbound : s.self.bound_ = true) (hresult : s.self.has_result = false)
    (fuel : Nat) (n_max : ℤ) : ∃ t, (fetch srv fuel n_max).run s =
      .ok (df_create s.self.types_ s.self.names_ 0) t ∧ t.self = s.self ∧ t.mysql = s.mysql := by
  rw [fetch, EStateM.run_bind, EStateM.run_get]
  simp only [hbound, hresult, Bool.not_true, Bool.not_false, Bool.false_eq_true, if_false, if_true]
  split
  · exact ⟨_, rfl, rfl, rfl⟩
  · exact ⟨_, rfl, rfl, rfl⟩

theorem fetch_zero (hbound : s.self.bound_ = true) (hresult : s.self.has_result = true) (fuel : Nat) :
    (fetch srv fuel 0).run s = .ok (df_create s.self.types_ s.self.names_ 0) s := by
  rw [fetch, EStateM.run_bind, EStateM.run_get]
  simp only [hbound, hresult, Bool.not_true, Bool.false_eq_true, if_false]
  rfl

theorem capacity_pos {n_max : ℤ} (hn : n_max ≠ 0) : 0 < capacity n_max := by
  unfold capacity
  split
  · decide
  · omega

-- Any other fetch is a run of the loop, whose rows are trimmed.
theorem fetch_loops (hbound : s.self.bound_ = true) (hresult : s.self.has_result = true) {n_max : ℤ}
    (hn : n_max ≠ 0) (fuel : Nat) : (fetch srv fuel n_max).run s = (do
      let (i, n, out) ← fetch_loop srv n_max fuel 0 (capacity n_max)
        (df_create s.self.types_ s.self.names_ (capacity n_max))
      let s ← get
      pure (df_s3 (if i < n then df_resize out i else out) s.self.types_)).run s := by
  have hpos := Nat.ne_of_gt (capacity_pos hn)
  unfold capacity at hpos
  rw [fetch, EStateM.run_bind, EStateM.run_get]
  simp only [hbound, hresult, Bool.not_true, Bool.false_eq_true, if_false]
  rw [if_neg hpos]
  rfl

-- A fetch returns what its cursor yields. It raises when a parameter row or a value
-- cannot be converted.
theorem fetch_run (hsrv : Answers srv q) (hs : Reading q s st) (fuel : Nat) (n_max : ℤ) :
    (fuel ≤ (cursor q s).remaining.length ∧
      ∃ t, (fetch srv fuel n_max).run s = .error .outOfFuel t) ∨
    (2 ^ 30 ≤ (cursor q s).remaining.length ∧
      ∃ t, (fetch srv fuel n_max).run s = .error (.fault .arithmetic) t) ∨
    match Cursor.collect (row_cells q.types) (requested n_max (cursor q s).remaining.length)
        (cursor q s) with
    | .ok (rows, c) => ∃ df t st', (fetch srv fuel n_max).run s = .ok df t ∧ df.rows = rows ∧
        Reading q t st' ∧ cursor q t = c
    | .error e => ∃ t, (fetch srv fuel n_max).run s = .error e t := by
  have hresult : s.self.has_result = true := hs.serves.has_result
  by_cases hzero : n_max = 0
  · subst hzero
    have hrequested : requested 0 (cursor q s).remaining.length = 0 := rfl
    rw [hrequested, Cursor.collect]
    exact .inr (.inr ⟨_, s, st, fetch_zero hs.bound hresult fuel, rfl, hs, rfl⟩)
  have hwanted : wanted n_max 0 (capacity n_max) (cursor q s).remaining.length =
      requested n_max (cursor q s).remaining.length := by
    unfold wanted requested capacity
    by_cases hneg : n_max < 0
    · rw [if_neg (by omega), if_pos hneg]
    · rw [if_pos (by omega), if_neg hneg, if_neg hneg, Nat.sub_zero]
  have hloop := @fetch_loop_run srv q hsrv n_max fuel s st _ _ [] hs
    (filled_create q.types s.self.names_ (capacity n_max)) (capacity_pos hzero)
  rw [List.length_nil, hwanted, Collects, List.length_nil, Nat.zero_add, ← hs.serves.types] at hloop
  rw [fetch_loops hs.bound hresult hzero]
  rcases hloop with ⟨hfuel, t, hrun⟩ | ⟨hbig, t, hrun⟩ | hloop
  · exact .inl ⟨hfuel, t, run_bind_error hrun⟩
  · exact .inr (.inl ⟨hbig, t, run_bind_error hrun⟩)
  · refine .inr (.inr ?_)
    rw [← hs.serves.types]
    cases hcollect : Cursor.collect (row_cells s.self.types_)
        (requested n_max (cursor q s).remaining.length) (cursor q s) with
    | error e =>
        rw [hcollect] at hloop
        obtain ⟨t, hrun⟩ := hloop
        exact ⟨t, run_bind_error hrun⟩
    | ok result =>
        rw [hcollect] at hloop
        obtain ⟨n', out', t, st', hrun, hout, hreads, hcursor⟩ := hloop
        rw [Nat.zero_add] at hrun
        rw [List.nil_append, hs.serves.types] at hout
        refine ⟨_, t, st', ?_, rows_of_filled hout, hreads, hcursor⟩
        rw [run_bind_ok hrun]
        simp only [EStateM.run_bind, EStateM.run_get, EStateM.run_pure, hreads.serves.types]

end Fetch

end RMariaDB.MariaResultPrep
