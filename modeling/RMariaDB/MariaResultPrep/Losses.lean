import RMariaDB.MariaResultPrep.Runs

-- Fetches that raise: which rows they lose, and what can still be read.

namespace RMariaDB.MariaResultPrep

open Program MariaBinding

variable {srv : Server} {q : Query} {s t : Obj MariaResultPrep} {st : MYSQL_STMT} {e : Exc}

section Interrupts

-- The same server, while the user does not interrupt
def uninterrupted (srv : Server) : Server := { srv with interrupt := fun _ => false }

theorem step_loop_uninterrupted (fuel : Nat) :
    step_loop (uninterrupted srv) fuel = step_loop srv fuel := by
  induction fuel with
  | zero => rfl
  | succ fuel ih =>
      rw [step_loop, step_loop, ih]
      rfl

theorem step_uninterrupted : step (uninterrupted srv) = step srv := by
  simp only [step, step_loop_uninterrupted]

theorem set_list_values_uninterrupted (i : Nat) (js : List Nat) :
    set_list_values (uninterrupted srv) i js = set_list_values srv i js := by
  induction js with
  | nil => rfl
  | cons j js ih =>
      funext out
      rw [set_list_values, set_list_values, ih]
      rfl

theorem check_user_interrupt_ok {m m' : MYSQL} (h : (check_user_interrupt srv).run m = .ok () m') :
    (check_user_interrupt (uninterrupted srv)).run m = .ok () m' := by
  obtain ⟨k, u, hcount, h⟩ := of_run_bind_ok h
  rw [check_user_interrupt, run_bind_ok hcount]
  split at h
  · cases h
  · exact h

theorem lib_check_ok (h : (lib (check_user_interrupt srv)).run s = .ok () t) :
    (lib (check_user_interrupt (uninterrupted srv))).run s = .ok () t := by
  rw [lib_run] at h ⊢
  cases hrun : (check_user_interrupt srv).run s.mysql with
  | ok a m =>
      rw [hrun] at h
      rw [check_user_interrupt_ok hrun]
      exact h
  | error e m =>
      rw [hrun] at h
      cases h

-- A fetch that returned was not interrupted.
theorem fetch_loop_uninterrupted (n_max : ℤ) (fuel : Nat) : ∀ {i n : Nat} {out : DataFrame}
    {s t : Obj MariaResultPrep} {r : Nat × Nat × DataFrame},
    (fetch_loop srv n_max fuel i n out).run s = .ok r t →
      (fetch_loop (uninterrupted srv) n_max fuel i n out).run s = .ok r t := by
  induction fuel with
  | zero =>
      intro i n out s t r h
      cases h
  | succ fuel ih =>
      intro i n out s t r h
      rw [fetch_loop] at h ⊢
      split at h
      · rename_i hfull
        rwa [if_pos hfull]
      rename_i hfull
      rw [if_neg hfull, step_uninterrupted]
      obtain ⟨row, u, hstep, h⟩ := of_run_bind_ok h
      rw [run_bind_ok hstep]
      cases row with
      | false => exact h
      | true =>
          simp only [if_true] at h ⊢
          split at h
          · cases h
          rename_i hover
          rw [if_neg hover]
          obtain ⟨w, u', hget, h⟩ := of_run_bind_ok h
          obtain ⟨out', u₁, hwrite, h⟩ := of_run_bind_ok h
          rw [run_bind_ok hget, set_list_values_uninterrupted, run_bind_ok hwrite]
          split at h
          · rename_i hturn
            rw [if_pos hturn]
            obtain ⟨⟨⟩, u₂, hcheck, h⟩ := of_run_bind_ok h
            rw [run_bind_ok (lib_check_ok hcheck)]
            exact ih h
          · rename_i hturn
            rw [if_neg hturn]
            exact ih h

theorem fetch_uninterrupted {fuel : Nat} {n : ℤ} {df : DataFrame}
    (h : (fetch srv fuel n).run s = .ok df t) :
    (fetch (uninterrupted srv) fuel n).run s = .ok df t := by
  by_cases hbound : s.self.bound_ = true
  · by_cases hresult : s.self.has_result = true
    · by_cases hzero : n = 0
      · subst hzero
        rw [fetch_zero hbound hresult] at h ⊢
        exact h
      · rw [fetch_loops hbound hresult hzero] at h ⊢
        obtain ⟨r, u, hloop, h⟩ := of_run_bind_ok h
        rw [run_bind_ok (fetch_loop_uninterrupted n fuel hloop)]
        exact h
    · simp only [fetch, EStateM.run_bind, EStateM.run_get, hbound, hresult] at h ⊢
      exact h
  · rw [Bool.not_eq_true] at hbound
    rw [fetch_unbound hbound] at h
    cases h

end Interrupts

section Raising

-- Slots of the same kinds change nothing of what is to be read.
theorem Reading.slots (hs : Reading q s st) {slots : List MariaBinding.Slot}
    (hslots : slots.map Slot.kind = s.self.bindingInput_.kinds) :
    Reading q { s with self.bindingInput_ := { s.self.bindingInput_ with slots := slots } } st ∧
      cursor q { s with self.bindingInput_ := { s.self.bindingInput_ with slots := slots } } =
        cursor q s := by
  have hserves := hs.serves
  refine ⟨⟨hserves.next (outputBound_next hserves.output rfl rfl rfl hserves.output.stmt rfl) rfl rfl
    rfl rfl hserves.reading, hs.bound, hs.current, fun hrows => ?_⟩, ?_⟩
  · obtain ⟨hmatched, hstatement⟩ := hs.matched hrows
    exact ⟨hmatched.next hslots s.self.bindingInput_.i, hstatement⟩
  · have hrows : param_row { s.self.bindingInput_ with slots := slots } =
        param_row s.self.bindingInput_ :=
      funext (param_row_slots hslots s.self.bindingInput_.i)
    rw [cursor, cursor, parameter_rows, parameter_rows, hrows]
    rfl

-- A step that raises has read no row.
theorem step_loop_raised (hsrv : Answers srv q) (fuel : Nat) : ∀ {s t : Obj MariaResultPrep}
    {st : MYSQL_STMT}, Reading q s st → (step_loop srv fuel).run s = .error e t →
    e.Ends = false → ∃ st', Reading q t st' ∧ (cursor q s).Took [] (cursor q t) := by
  induction fuel with
  | zero =>
      intro s t st _ h hends
      cases h
      cases hends
  | succ fuel ih =>
      intro s t st hs h hends
      rw [step_loop] at h
      cases hunread : unread s with
      | cons row rows =>
          obtain ⟨u, st', hfetch, -⟩ := fetch_row_next hsrv hs hunread
          rw [run_bind_ok hfetch] at h
          cases h
      | nil =>
          obtain ⟨u, hfetch, hu, hrest, hinput⟩ := fetch_row_done hsrv hs hunread
          have hcursor : cursor q u = cursor q s := by rw [cursor, cursor, hrest, hunread, hinput]
          rw [run_bind_ok hfetch] at h
          simp only [Bool.false_eq_true, if_false] at h
          rw [← hcursor]
          by_cases hrows : u.self.bindingInput_.i < u.self.bindingInput_.n_rows
          · cases hrow : param_row u.self.bindingInput_ u.self.bindingInput_.i with
            | error e' =>
                obtain ⟨hmatched, hstatement⟩ := hu.matched hrows
                obtain ⟨slots, hslots, hbind⟩ := bind_next_row_run (s := ⟨u.toShared, u.self.bindingInput_⟩)
                  hmatched hstatement hu.serves.output.stmt hrows
                dsimp only at hbind
                rw [hrow] at hbind
                have hinput : (input bind_next_row).run u = .error e' { u with
                    self.bindingInput_ := { u.self.bindingInput_ with slots := slots } } := by
                  simp only [input, onMember_run, hbind]
                rw [run_bind_error hinput] at h
                cases h
                obtain ⟨ht, hsame⟩ := hu.slots hslots
                exact ⟨st, ht, hsame ▸ Cursor.Took.refl _⟩
            | ok row =>
                obtain ⟨v, w, st', hbind, hexecute, hw, -, rest, hparams, hnext⟩ :=
                  open_reads hsrv hu hrows hrow
                rw [run_bind_ok hbind] at h
                simp only [if_true] at h
                rw [run_bind_ok hexecute] at h
                obtain ⟨st'', ht, htook⟩ := ih hw h hends
                refine ⟨st'', ht, ?_⟩
                have hopened := Cursor.took_open (q.rows row) (rest.map (Except.map q.rows))
                rw [← hnext] at hopened
                have hfirst : cursor q u = ⟨[], .ok (q.rows row) :: rest.map (Except.map q.rows)⟩ := by
                  rw [cursor, hrest, hparams]
                  rfl
                rw [hfirst]
                exact hopened.trans htook
          · rw [run_bind_ok (input_done (Nat.le_of_not_lt hrows))] at h
            cases h

theorem step_raised (hsrv : Answers srv q) (hs : Reading q s st)
    (h : (step srv).run s = .error e t) (hends : e.Ends = false) :
    ∃ st', Reading q t st' ∧ (cursor q s).Took [] (cursor q t) := by
  have hloop : (step_loop srv (rows_left s.self.bindingInput_ + 1)).run s = .error e t := by
    rw [step, EStateM.run_bind, EStateM.run_get] at h
    dsimp only at h
    rw [EStateM.run_bind] at h
    split at h
    · rename_i row u hrun
      cases row with
      | true => cases h
      | false => cases h
    · rename_i e' u hrun
      cases h
      exact hrun
  exact step_loop_raised hsrv _ hs hloop hends

-- The frame is written without a call that can be interrupted, then the user is asked.
theorem turn_raised (hs : Reading q s st) {row : Row} (hrow : AtRow srv s row) {out : DataFrame}
    {n : Nat} {rows : List (List Cell)} (hout : Filled q.types out n rows) (hn : rows.length < n)
    (next : DataFrame → EStateM Exc (Obj MariaResultPrep) (Nat × Nat × DataFrame))
    (h : (do
        let s ← get
        let out ← set_list_values srv rows.length (List.range s.self.nCols_) out
        if (rows.length + 1) % 1024 = 0 then lib (check_user_interrupt srv) else pure ()
        next out).run s = .error e t) :
    (Reading q t st ∧ cursor q t = cursor q s) ∨
    ∃ u cells, Reading q u st ∧ cursor q u = cursor q s ∧ row_cells q.types row = .ok cells ∧
      (next { out with columns := out.columns.zipWith (put_cell rows.length) cells }).run u =
        .error e t := by
  obtain ⟨u, hu, hcursor, hrun⟩ := write_row_run hs hrow hout hn
  rw [EStateM.run_bind, EStateM.run_get] at h
  dsimp only at h
  cases hcells : row_cells q.types row with
  | error e' =>
      rw [hcells] at hrun
      rw [run_bind_error hrun] at h
      cases h
      exact .inl ⟨hu, hcursor⟩
  | ok cells =>
      rw [hcells] at hrun
      rw [run_bind_ok hrun] at h
      obtain ⟨hu', hcursor'⟩ := hu.tick (u.mysql.tick + 1)
      by_cases hturn : (rows.length + 1) % 1024 = 0
      · rw [if_pos hturn] at h
        by_cases hinterrupt : srv.interrupt u.mysql.tick = true
        · simp [check_user_interrupt, hinterrupt] at h
          obtain ⟨-, rfl⟩ := h
          exact .inl ⟨hu', hcursor'.trans hcursor⟩
        · simp [check_user_interrupt, hinterrupt] at h
          exact .inr ⟨_, cells, hu', hcursor'.trans hcursor, rfl, h⟩
      · rw [if_neg hturn] at h
        exact .inr ⟨u, cells, hu, hcursor, rfl, h⟩

-- A loop that raises has read rows, no more than it has room for, which are lost.
theorem fetch_loop_raised (hsrv : Answers (uninterrupted srv) q) (n_max : ℤ) (fuel : Nat) :
    ∀ {s t : Obj MariaResultPrep} {st : MYSQL_STMT} {n : Nat} {out : DataFrame}
      {rows : List (List Cell)}, Reading q s st → Filled q.types out n rows → 0 < n →
      (fetch_loop srv n_max fuel rows.length n out).run s = .error e t → e.Ends = false →
      ∃ st' lost, Reading q t st' ∧ (cursor q s).Took lost (cursor q t) ∧
        (0 < n_max → rows.length + lost.length ≤ n) := by
  induction fuel with
  | zero =>
      intro s t st n out rows _ _ _ h hends
      cases h
      cases hends
  | succ fuel ih =>
      intro s t st n out rows hs hout hn h hends
      rw [fetch_loop] at h
      by_cases hfull : rows.length ≥ n ∧ n_max > 0
      · rw [if_pos hfull] at h
        cases h
      rw [if_neg hfull] at h
      have hstep := step_run hsrv hs
      rw [step_uninterrupted] at hstep
      cases hnext : (cursor q s).next with
      | error e' =>
          rw [hnext] at hstep
          obtain ⟨u, hrun⟩ := hstep
          have hsame := h
          rw [run_bind_error hrun] at hsame
          cases hsame
          rw [← step_uninterrupted] at hrun
          obtain ⟨st', ht, htook⟩ := step_raised hsrv hs hrun hends
          refine ⟨st', [], ht, htook, fun _ => ?_⟩
          have := hout.fits
          simpa using this
      | ok result =>
          rw [hnext] at hstep
          cases result with
          | none =>
              obtain ⟨u, st', hrun, -⟩ := hstep
              rw [run_bind_ok hrun] at h
              cases h
          | some next =>
              obtain ⟨row, c⟩ := next
              obtain ⟨u, st', hrun, hu, hcursor, hrow⟩ := hstep
              rw [run_bind_ok hrun, if_pos rfl] at h
              by_cases hover : rows.length ≥ n ∧ n * 2 > INT_MAX
              · rw [if_pos hover] at h
                cases h
                cases hends
              rw [if_neg hover] at h
              obtain ⟨n', out', hgrown, hout', hroom, hwanted⟩ := filled_grown hout hn hfull
              have hkept : 0 < n_max → n' = n := by
                intro hmax
                have hmore := hwanted 0
                have hnot : ¬rows.length ≥ n := fun hge => hfull ⟨hge, hmax⟩
                rw [wanted, wanted, if_pos hmax, if_pos hmax] at hmore
                omega
              have htook : (cursor q s).Took [row] (cursor q u) := by
                rw [hcursor]
                exact Cursor.took_of_next hnext
              dsimp only at h
              rw [hgrown] at h
              have hrow' : AtRow srv u row :=
                ⟨⟨hrow.current.statement, hrow.current.answers⟩, hrow.types, hrow.holds⟩
              rcases turn_raised hu hrow' hout' hroom
                  (fetch_loop srv n_max fuel (rows.length + 1) n') h with
                ⟨ht, hsame⟩ | ⟨v, cells, hv, hsame, hcells, hrest⟩
              · refine ⟨st', [row], ht, by rw [hsame]; exact htook, fun hmax => ?_⟩
                rw [← hkept hmax]
                exact hroom
              · have hlen : out'.columns.length = cells.length := by
                  rw [length_of_mapM hcells, List.length_zip, hrow.length, hu.serves.types,
                    Nat.min_self, hout'.columns_length]
                have hfilled := hout'.put hroom hlen
                have hlength : (rows ++ [cells]).length = rows.length + 1 := by simp
                rw [← hlength] at hrest
                obtain ⟨st'', lost, ht, hlost, hbound⟩ := ih hv hfilled (by omega) hrest hends
                rw [hsame] at hlost
                refine ⟨st'', row :: lost, ht, htook.trans hlost, fun hmax => ?_⟩
                have hle := hbound hmax
                rw [hkept hmax] at hle
                rw [List.length_cons]
                omega

theorem fetch_raised (hsrv : Answers (uninterrupted srv) q) (hs : Reading q s st) {fuel : Nat}
    {n : ℤ} (h : (fetch srv fuel n).run s = .error e t) (hends : e.Ends = false) :
    ∃ st' lost, Reading q t st' ∧ (cursor q s).Took lost (cursor q t) ∧
      (0 ≤ n → lost.length ≤ n.toNat) := by
  have hresult : s.self.has_result = true := hs.serves.has_result
  by_cases hzero : n = 0
  · subst hzero
    rw [fetch_zero hs.bound hresult] at h
    cases h
  rw [fetch_loops hs.bound hresult hzero, EStateM.run_bind] at h
  split at h
  · rename_i r u hloop
    cases h
  · rename_i e' u hloop
    cases h
    have hfilled := filled_create q.types s.self.names_ (capacity n)
    rw [← hs.serves.types] at hfilled
    have hpos := capacity_pos hzero
    rw [hs.serves.types] at hfilled hloop
    obtain ⟨st', lost, ht, htook, hbound⟩ :=
      @fetch_loop_raised srv q e hsrv n fuel s t st _ _ [] hs hfilled hpos hloop hends
    refine ⟨st', lost, ht, htook, fun hn => ?_⟩
    have hle := hbound (by omega)
    rw [List.length_nil, capacity, if_neg (by omega)] at hle
    omega

end Raising

section Attempts

-- A fetch: what it was asked for, and the frame that it returned, if it did not raise
structure Attempt where
  n : ℤ
  frame : Option DataFrame

-- Calls on one result, with the fetches since the last bind. A fetch may raise.
inductive Attempts (srv : Server) (q : Query) :
    Obj MariaResultPrep → Option (List SEXP) → List Attempt → Prop where
  | send {s t : Obj MariaResultPrep} {is_statement : Bool} : Idle s.mysql →
      s.mysql.next_stmt = q.handle → (opened srv is_statement q.sql).run s = .ok () t →
      Attempts srv q t none []
  | bind {s t : Obj MariaResultPrep} {last : Option (List SEXP)} {attempts : List Attempt}
      {params : List SEXP} : Attempts srv q s last attempts → (bind srv params).run s = .ok () t →
      Attempts srv q t (some params) []
  | fetch {s t : Obj MariaResultPrep} {last : Option (List SEXP)} {attempts : List Attempt}
      {fuel : Nat} {n : ℤ} {df : DataFrame} : Attempts srv q s last attempts →
      (fetch srv fuel n).run s = .ok df t → Attempts srv q t last (attempts ++ [⟨n, some df⟩])
  | raise {s t : Obj MariaResultPrep} {last : Option (List SEXP)} {attempts : List Attempt}
      {fuel : Nat} {n : ℤ} {e : Exc} : Attempts srv q s last attempts →
      (fetch srv fuel n).run s = .error e t → e.Ends = false →
      Attempts srv q t last (attempts ++ [⟨n, none⟩])

-- The rows that a fetch has read: what it returned, or what it lost
structure Tracked (q : Query) (attempt : Attempt) (rows : List Row) : Prop where
  returned : ∀ df, attempt.frame = some df → rows.mapM (row_cells q.types) = .ok df.rows
  bounded : 0 ≤ attempt.n → rows.length ≤ attempt.n.toNat

-- The rows that the fetches have read, and those that are left
structure Chunks (q : Query) (s : Obj MariaResultPrep) (last : Option (List SEXP))
    (attempts : List Attempt) (chunks : List (List Row)) : Prop where
  tracked : List.Forall₂ (Tracked q) attempts chunks
  serves : ∃ st, Serves q s st
  unbound : s.self.bound_ = false → chunks.flatten = [] ∧ q.total last = []
  bound : s.self.bound_ = true → (∃ st, Reading q s st) ∧
    (∀ result ∈ (cursor q s).waiting, ∃ params ∈ q.executions last, result = Except.map q.rows params) ∧
    q.total last = chunks.flatten ++ (cursor q s).remaining

variable {last : Option (List SEXP)} {attempts : List Attempt} {chunks : List (List Row)}

theorem sent_chunks {is_statement : Bool} (hsrv : Answers (uninterrupted srv) q) (hidle : Idle s.mysql)
    (hhandle : s.mysql.next_stmt = q.handle) (h : (opened srv is_statement q.sql).run s = .ok () t) :
    Chunks q t none [] [] := by
  have hrun : Run (uninterrupted srv) q t none [] := .send hidle hhandle h
  have haccounts := hrun.accounts hsrv
  refine ⟨.nil, haccounts.serves, fun hbound => ⟨rfl, (haccounts.unbound hbound).2⟩, fun hbound => ?_⟩
  obtain ⟨hreads, hwaiting, rows, htotal, hrows⟩ := haccounts.bound hbound
  have hnone : rows = [] := List.length_eq_zero_iff.mp (length_of_mapM hrows).symm
  rw [hnone] at htotal
  exact ⟨hreads, hwaiting, htotal⟩

theorem bound_chunks {params : List SEXP} (hs : Serves q s st)
    (h : (bind srv params).run s = .ok () t) : Chunks q t (some params) [] [] := by
  have haccepted : Accepted q.param_count params := by
    by_contra hrejected
    obtain ⟨e, u, hbind⟩ := @bind_rejected srv q s st hs params hrejected
    rw [hbind] at h
    cases h
  obtain ⟨slots, hbind, hlen, hkinds⟩ := bind_accepted srv hs haccepted
  rw [hbind] at h
  cases h
  obtain ⟨hreads, hcursor⟩ := bound_reading hs haccepted hlen hkinds
  refine ⟨.nil, ⟨st, hreads.serves⟩, fun hbound => (by cases hbound), fun _ => ⟨⟨st, hreads⟩, ?_, ?_⟩⟩
  · rw [hcursor]
    intro result hresult
    obtain ⟨row, hrow, rfl⟩ := List.mem_map.mp hresult
    exact ⟨row, hrow, rfl⟩
  · rw [hcursor]
    rfl

-- A fetch that left the result open
theorem Chunks.next (h : Chunks q s last attempts chunks) (hbound : s.self.bound_ = true)
    {st' : MYSQL_STMT} (ht : Reading q t st') {rows : List Row} {attempt : Attempt}
    (htook : (cursor q s).Took rows (cursor q t)) (hrows : Tracked q attempt rows) :
    Chunks q t last (attempts ++ [attempt]) (chunks ++ [rows]) := by
  obtain ⟨-, hwaiting, htotal⟩ := h.bound hbound
  refine ⟨List.rel_append h.tracked (.cons hrows .nil), ⟨st', ht.serves⟩, fun hunbound => ?_,
    fun _ => ⟨⟨st', ht⟩, fun result hresult => hwaiting result (htook.waiting hresult), ?_⟩⟩
  · rw [ht.bound] at hunbound
    cases hunbound
  · rw [htotal, htook.remaining, List.flatten_append, List.flatten_singleton, List.append_assoc]

theorem Chunks.unbound_next (h : Chunks q s last attempts chunks) (hbound : s.self.bound_ = false)
    (n : ℤ) : Chunks q s last (attempts ++ [⟨n, none⟩]) (chunks ++ [[]]) := by
  obtain ⟨hflatten, htotal⟩ := h.unbound hbound
  refine ⟨List.rel_append h.tracked (.cons ⟨fun df hdf => (by cases hdf), fun _ => Nat.zero_le _⟩ .nil),
    h.serves, fun _ => ⟨by rw [List.flatten_append, hflatten]; rfl, htotal⟩, fun h => ?_⟩
  rw [hbound] at h
  cases h

theorem chunks_of_attempts (hsrv : Answers (uninterrupted srv) q) (h : Attempts srv q s last attempts) :
    ∃ chunks, Chunks q s last attempts chunks := by
  induction h with
  | send hidle hhandle hrun => exact ⟨[], sent_chunks hsrv hidle hhandle hrun⟩
  | bind _ hrun ih =>
      obtain ⟨chunks, hchunks⟩ := ih
      obtain ⟨st, hserves⟩ := hchunks.serves
      exact ⟨[], bound_chunks hserves hrun⟩
  | @fetch s t last attempts fuel n df _ hrun ih =>
      obtain ⟨chunks, hchunks⟩ := ih
      have hbound : s.self.bound_ = true := by
        by_contra hbound
        rw [fetch_unbound (Bool.not_eq_true _ ▸ hbound)] at hrun
        cases hrun
      obtain ⟨⟨st, hreads⟩, -⟩ := hchunks.bound hbound
      obtain ⟨st', cells, c, ht, hcollect, hdf, hcursor⟩ := fetch_ok hsrv hreads (fetch_uninterrupted hrun)
      obtain ⟨rows, htook, hlength, hrows⟩ := Cursor.took_of_collect hcollect
      rw [← hcursor] at htook
      refine ⟨_, hchunks.next hbound ht htook ⟨?_, fun hn => ?_⟩⟩
      · intro df' hdf'
        cases hdf'
        rw [hrows, hdf]
      · rw [hlength, requested, if_neg (Int.not_lt.mpr hn)]
        exact Nat.min_le_left _ _
  | @raise s t last attempts fuel n e _ hrun hends ih =>
      obtain ⟨chunks, hchunks⟩ := ih
      by_cases hbound : s.self.bound_ = true
      · obtain ⟨⟨st, hreads⟩, -⟩ := hchunks.bound hbound
        obtain ⟨st', lost, ht, htook, hlost⟩ := fetch_raised hsrv hreads hrun hends
        exact ⟨_, hchunks.next hbound ht htook ⟨fun df hdf => (by cases hdf), hlost⟩⟩
      · rw [Bool.not_eq_true] at hbound
        rw [fetch_unbound hbound] at hrun
        cases hrun
        exact ⟨_, hchunks.unbound_next hbound n⟩

-- What is left can be fetched, as long as it can be converted.
theorem Chunks.rest (hsrv : Answers srv q) (h : Chunks q s last attempts chunks)
    (hbound : s.self.bound_ = true) (hsize : (q.total last).length < 2 ^ 30)
    (hparams : ∀ params ∈ q.executions last, ∃ row, params = .ok row) {rest : List Row}
    (htotal : q.total last = chunks.flatten ++ rest)
    (hrows : ∀ row ∈ rest, ∃ cells, row_cells q.types row = .ok cells) {fuel : Nat}
    (hfuel : rest.length < fuel) : ∃ df t, (fetch srv fuel (-1)).run s = .ok df t ∧
      rest.mapM (row_cells q.types) = .ok df.rows := by
  obtain ⟨⟨st, hreads⟩, hwaiting, hsplit⟩ := h.bound hbound
  have hrest : rest = (cursor q s).remaining := List.append_cancel_left (htotal.symm.trans hsplit)
  subst hrest
  have hsmall : (cursor q s).remaining.length < 2 ^ 30 := by
    rw [htotal, List.length_append] at hsize
    omega
  rcases fetch_run hsrv hreads fuel (-1) with ⟨hle, -⟩ | ⟨hbig, -⟩ | hfetch
  · exact absurd hfuel (Nat.not_lt_of_le hle)
  · exact absurd hsmall (Nat.not_lt_of_le hbig)
  · cases hcollect : Cursor.collect (row_cells q.types)
        (requested (-1) (cursor q s).remaining.length) (cursor q s) with
    | ok result =>
        rw [hcollect] at hfetch
        obtain ⟨df, u, st', hrun, hdf, -⟩ := hfetch
        obtain ⟨rows, htook, hlength, hcells⟩ := Cursor.took_of_collect hcollect
        refine ⟨df, u, hrun, ?_⟩
        have hall : rows = (cursor q s).remaining := by
          have hfirst : rows <+: (cursor q s).remaining := ⟨_, htook.remaining.symm⟩
          refine hfirst.eq_of_length ?_
          rw [hlength, requested, if_pos (by decide)]
          omega
        rw [← hall, hcells, hdf]
    | error e =>
        rcases Cursor.collect_error _ hcollect with hresult | ⟨row, hrow, hcells⟩
        · obtain ⟨params, hmem, hmap⟩ := hwaiting _ hresult
          obtain ⟨row, rfl⟩ := hparams params hmem
          cases hmap
        · obtain ⟨cells, hok⟩ := hrows row hrow
          rw [hcells] at hok
          cases hok

-- However fetches end, no row is returned twice or out of order: each has read the next rows, which
-- it returned or, when it raised, lost. What is left afterwards is still there to be fetched.
theorem rows_at_most_once (hsrv : Answers (uninterrupted srv) q) (h : Attempts srv q s last attempts) :
    ∃ chunks rest, q.total last = chunks.flatten ++ rest ∧
      List.Forall₂ (Tracked q) attempts chunks ∧
      (s.self.bound_ = true → (q.total last).length < 2 ^ 30 →
        (∀ params ∈ q.executions last, ∃ row, params = .ok row) →
        (∀ row ∈ rest, ∃ cells, row_cells q.types row = .ok cells) → ∀ fuel, rest.length < fuel →
        ∃ df t, (fetch (uninterrupted srv) fuel (-1)).run s = .ok df t ∧
          rest.mapM (row_cells q.types) = .ok df.rows) := by
  obtain ⟨chunks, hchunks⟩ := chunks_of_attempts hsrv h
  by_cases hbound : s.self.bound_ = true
  · obtain ⟨-, -, htotal⟩ := hchunks.bound hbound
    exact ⟨chunks, _, htotal, hchunks.tracked, fun _ hsize hparams hrows fuel hfuel =>
      hchunks.rest hsrv hbound hsize hparams htotal hrows hfuel⟩
  · obtain ⟨hflatten, htotal⟩ := hchunks.unbound (Bool.not_eq_true _ ▸ hbound)
    exact ⟨chunks, [], by rw [htotal, hflatten]; rfl, hchunks.tracked, fun h => absurd h hbound⟩

-- The second of three texts has a NUL.
def texts : Query where
  handle := 0
  sql := "SELECT s FROM t"
  param_count := 0
  fields := [⟨"s", .MYSQL_TYPE_VAR_STRING, 45, 40⟩]
  rows := fun _ => [[some (.bytes [97])], [some (.bytes [0])], [some (.bytes [98])]]

def texts_server : Server := { Server.agreeable with
  prepare := fun _ _ => .ok ⟨texts.param_count, some texts.fields⟩
  execute := fun _ _ params => .ok { rows := some (texts.rows params) } }

theorem texts_answers : Answers (uninterrupted texts_server) texts := by
  refine ⟨fun _ => rfl, fun _ => rfl, fun _ params => ⟨_, rfl, rfl⟩, fun _ => rfl, fun _ => rfl,
    fun _ => rfl, fun params row hrow => ?_⟩
  have hbytes : ∃ b, row = [some (.bytes b)] := by
    simp only [texts, List.mem_cons, List.not_mem_nil, or_false] at hrow
    rcases hrow with rfl | rfl | rfl
    · exact ⟨_, rfl⟩
    · exact ⟨_, rfl⟩
    · exact ⟨_, rfl⟩
  obtain ⟨b, rfl⟩ := hbytes
  exact .cons trivial .nil

-- A fetch of two of them raises.
theorem texts_attempts : ∃ s, Attempts texts_server texts s none [⟨2, none⟩] ∧ s.self.bound_ = true := by
  obtain ⟨s, st, hopened, hserves, hinput, hcomplete, hbound, hreading⟩ :=
    opened_run (s := ⟨{}, {}⟩) texts_answers ⟨rfl, rfl, rfl, rfl⟩ rfl rfl false
  obtain ⟨hreads, hcursor⟩ := opened_reading texts_answers hserves hinput hcomplete (hbound.mpr rfl)
    (hreading rfl)
  have hraised : Cursor.collect (row_cells texts.types) (requested 2 (cursor texts s).remaining.length)
      (cursor texts s) = .error (.stop "embedded nul in string") := by
    rw [hcursor]
    rfl
  rcases fetch_run texts_answers hreads 4 2 with ⟨hle, -⟩ | ⟨hbig, -⟩ | hfetch
  · rw [hcursor] at hle
    exact absurd hle (by decide)
  · rw [hcursor] at hbig
    exact absurd hbig (by decide)
  · rw [hraised] at hfetch
    obtain ⟨t, hrun⟩ := hfetch
    obtain ⟨st', lost, ht, -⟩ := fetch_raised texts_answers hreads hrun rfl
    exact ⟨t, .raise (.send ⟨rfl, rfl, rfl, rfl⟩ rfl hopened) hrun rfl, ht.bound⟩

-- It has lost two rows at most, and the third text is left.
theorem rows_at_most_once_texts : ∃ s chunks rest, Attempts texts_server texts s none [⟨2, none⟩] ∧
    texts.total none = chunks.flatten ++ rest ∧ List.Forall₂ (Tracked texts) [⟨2, none⟩] chunks ∧
    1 ≤ rest.length := by
  obtain ⟨s, hattempts, -⟩ := texts_attempts
  obtain ⟨chunks, rest, htotal, htracked, -⟩ := rows_at_most_once texts_answers hattempts
  refine ⟨s, chunks, rest, hattempts, htotal, htracked, ?_⟩
  have hlength : (texts.total none).length = 3 := rfl
  rw [htotal, List.length_append] at hlength
  cases htracked with
  | cons hlost hnil =>
      cases hnil
      have htwo : _ ≤ 2 := hlost.bounded (by decide)
      rw [List.flatten_singleton] at hlength
      omega

end Attempts

end RMariaDB.MariaResultPrep
