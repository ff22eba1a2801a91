import RMariaDB.Lib.Cursor
import RMariaDB.MariaBinding.Rows
import RMariaDB.MariaResultPrep.Rows

-- A query that is being read is a cursor over the results of its executions.

namespace RMariaDB.MariaResultPrep

open Program MariaBinding

-- A query with a result set, and the rows that each execution of it has.
structure Query where
  handle : Nat
  sql : String
  param_count : Nat
  fields : List MYSQL_FIELD
  rows : List Param → List Row

def Query.types (q : Query) : List MariaFieldType := q.fields.map field_type

-- No call of the client library fails, no interrupt occurs, and rows come in the
-- form of their fields.
structure Answers (srv : Server) (q : Query) : Prop where
  prepare : ∀ t, srv.prepare t q.sql = .ok ⟨q.param_count, some q.fields⟩
  bind_result : ∀ t, srv.bind_result t = .ok ()
  execute : ∀ t params, ∃ r, srv.execute t q.sql params = .ok r ∧ r.rows = some (q.rows params)
  fetch : ∀ t, srv.fetch t = .ok ()
  fetch_column : ∀ t, srv.fetch_column t = .ok ()
  interrupt : ∀ t, srv.interrupt t = false
  fits : ∀ params, ∀ row ∈ q.rows params, RowFits q.types row

-- The statement of the query is open, and the connection is free for it.
structure Serves (q : Query) (s : Obj MariaResultPrep) (st : MYSQL_STMT) : Prop where
  output : OutputBound s q.handle st
  sql : st.sql = q.sql
  param_count : st.param_count = q.param_count
  types : s.self.types_ = q.types
  columns : s.self.nCols_ = q.types.length
  has_result : s.self.has_result = true
  connected : s.mysql.connected = true
  more : s.mysql.more = []
  unstored : s.mysql.unstored = false
  reading : s.mysql.reading = none ∨ ∃ rows, s.mysql.reading = some (q.handle, rows)

variable {srv : Server} {q : Query} {s : Obj MariaResultPrep} {st : MYSQL_STMT}

theorem outputBound_next {t : Obj MariaResultPrep} {st' : MYSQL_STMT} {k : Nat}
    (h : OutputBound s k st) (hstatement : t.self.pStatement_ = s.self.pStatement_)
    (htypes : t.self.types_ = s.self.types_)
    (houtput : t.self.bindingOutput_ = s.self.bindingOutput_)
    (hstmt : t.mysql.stmts k = some st') (hbind : st'.bind = st.bind) : OutputBound t k st' := by
  refine ⟨hstatement.trans h.statement, hstmt, ?_, ?_, ?_, ?_⟩
  · rw [hbind, h.binds, htypes]
  · rw [houtput, h.output]
  · rw [houtput, h.types, htypes]
  · rw [houtput]
    exact h.shaped

-- Only flags, counters, bindings and the current row change.
theorem Serves.next {t : Obj MariaResultPrep} {st' : MYSQL_STMT} (hs : Serves q s st)
    (houtput : OutputBound t q.handle st')
    (hself : t.self = { s.self with
      complete_ := t.self.complete_
      bound_ := t.self.bound_
      rowsAffected_ := t.self.rowsAffected_
      rowsFetched_ := t.self.rowsFetched_
      bindingInput_ := t.self.bindingInput_
      bindingOutput_ := t.self.bindingOutput_ })
    (hmysql : t.mysql = { s.mysql with
      tick := t.mysql.tick
      stmts := t.mysql.stmts
      reading := t.mysql.reading
      ledger := t.mysql.ledger })
    (hsql : st'.sql = st.sql) (hcount : st'.param_count = st.param_count)
    (hreading : t.mysql.reading = none ∨ ∃ rows, t.mysql.reading = some (q.handle, rows)) :
    Serves q t st' := by
  refine ⟨houtput, hsql.trans hs.sql, hcount.trans hs.param_count, ?_, ?_, ?_, ?_, ?_, ?_, hreading⟩
  · rw [hself]
    exact hs.types
  · rw [hself]
    exact hs.columns
  · rw [hself]
    exact hs.has_result
  · rw [hmysql]
    exact hs.connected
  · rw [hmysql]
    exact hs.more
  · rw [hmysql]
    exact hs.unstored

section Execute

def executed (s : Obj MariaResultPrep) (k : Nat) (st : MYSQL_STMT) (r : Executed) :
    Obj MariaResultPrep :=
  { s with
    mysql := { s.mysql with
      tick := s.mysql.tick + 1
      stmts := Function.update s.mysql.stmts k (some { st with
        fields := r.fields <|> st.fields, affected_rows := r.affected_rows })
      reading := r.rows.map (k, ·)
      ledger := if r.dml then s.mysql.ledger.run else s.mysql.ledger }
    self.complete_ := false }

theorem execute_run (hsrv : Answers srv q) (hs : Serves q s st) : ∃ t st',
    (execute srv).run s = .ok () t ∧ Serves q t st' ∧
      t.self = { s.self with complete_ := false } ∧
      t.mysql.reading = some (q.handle, q.rows st.params) := by
  obtain ⟨r, hr, hrows⟩ := hsrv.execute s.mysql.tick st.params
  have hrefuses := refuses_none hs.connected hs.more hs.unstored hs.reading
  rw [← hs.sql] at hr
  have hexecute := mysql_stmt_execute_run hs.output.stmt hrefuses hr
  obtain ⟨spec, hspec⟩ := Option.isSome_iff_exists.mp hs.has_result
  have hreading : (executed s q.handle st r).mysql.reading =
      some (q.handle, q.rows st.params) := by
    simp [executed, hrows]
  have houtput : OutputBound (executed s q.handle st r) q.handle { st with
      fields := r.fields <|> st.fields, affected_rows := r.affected_rows } :=
    outputBound_next hs.output rfl rfl rfl (Function.update_self ..) rfl
  refine ⟨executed s q.handle st r, _, ?_, hs.next houtput rfl rfl rfl rfl (.inr ⟨_, hreading⟩),
    rfl, hreading⟩
  simp [execute, hs.output.statement, hexecute, has_result, hspec, executed]

end Execute

section Next

-- The rows that are left of the current execution.
def unread (s : Obj MariaResultPrep) : List Row :=
  if s.self.complete_ then [] else s.mysql.reading.elim [] Prod.snd

-- The parameter rows that are still to be sent.
def parameter_rows (b : MariaBinding) : List (Except Exc (List Param)) :=
  (List.range' b.i (b.n_rows - b.i)).map (param_row b)

def cursor (q : Query) (s : Obj MariaResultPrep) : Cursor Exc Row :=
  ⟨unread s, (parameter_rows s.self.bindingInput_).map (Except.map q.rows)⟩

-- A query that has been bound, at any point of its being read.
structure Reading (q : Query) (s : Obj MariaResultPrep) (st : MYSQL_STMT) : Prop where
  serves : Serves q s st
  bound : s.self.bound_ = true
  current : s.self.complete_ = false → ∃ rows, s.mysql.reading = some (q.handle, rows) ∧
    ∀ row ∈ rows, RowFits q.types row
  matched : s.self.bindingInput_.i < s.self.bindingInput_.n_rows →
    Matched s.self.bindingInput_ ∧ s.self.bindingInput_.statement = some q.handle

theorem parameter_rows_done {b : MariaBinding} (h : b.n_rows ≤ b.i) : parameter_rows b = [] := by
  rw [parameter_rows, Nat.sub_eq_zero_of_le h]
  rfl

-- Sending a row leaves the later rows what they were.
theorem parameter_rows_next {b : MariaBinding} {slots : List Slot} (h : b.i < b.n_rows)
    (hslots : slots.map Slot.kind = b.kinds) : parameter_rows b =
      param_row b b.i :: parameter_rows { b with slots := slots, i := b.i + 1 } := by
  have hlen : b.n_rows - b.i = (b.n_rows - (b.i + 1)) + 1 := by omega
  have hrows : param_row { b with slots := slots, i := b.i + 1 } = param_row b :=
    funext (param_row_slots hslots _)
  rw [parameter_rows, parameter_rows, hrows, hlen, List.range'_succ, List.map_cons]

-- The next parameter row is sent and its result opened.
theorem open_next (hsrv : Answers srv q) (hs : Serves q s st)
    (hmatched : Matched s.self.bindingInput_)
    (hstatement : s.self.bindingInput_.statement = some q.handle)
    (hrows : s.self.bindingInput_.i < s.self.bindingInput_.n_rows) :
    match param_row s.self.bindingInput_ s.self.bindingInput_.i with
    | .ok row => ∃ t u st', (input bind_next_row).run s = .ok true t ∧ (execute srv).run t = .ok () u ∧
        Serves q u st' ∧ u.self.bound_ = s.self.bound_ ∧ u.self.complete_ = false ∧
        u.mysql.reading = some (q.handle, q.rows row) ∧
        ∃ slots, slots.map Slot.kind = s.self.bindingInput_.kinds ∧
          u.self.bindingInput_ =
            { s.self.bindingInput_ with slots := slots, i := s.self.bindingInput_.i + 1 }
    | .error e => ∃ t, (input bind_next_row).run s = .error e t := by
  obtain ⟨slots, hkinds, hrun⟩ := bind_next_row_run (s := ⟨s.toShared, s.self.bindingInput_⟩)
    hmatched hstatement hs.output.stmt hrows
  change match param_row s.self.bindingInput_ s.self.bindingInput_.i with | .ok _ => _ | .error _ => _
    at hrun
  cases hrow : param_row s.self.bindingInput_ s.self.bindingInput_.i with
  | error e =>
      rw [hrow] at hrun
      exact ⟨_, by simp only [input, onMember_run, hrun]; rfl⟩
  | ok row =>
      rw [hrow] at hrun
      have hserves : Serves q { s with
          mysql.stmts := Function.update s.mysql.stmts q.handle (some { st with params := row })
          self.bindingInput_ := { s.self.bindingInput_ with
            slots := slots, i := s.self.bindingInput_.i + 1 } } { st with params := row } :=
        hs.next (outputBound_next hs.output rfl rfl rfl (Function.update_self ..) rfl) rfl rfl rfl
          rfl hs.reading
      obtain ⟨u, st', hexecute, hu, hself, hreading⟩ := execute_run hsrv hserves
      refine ⟨_, u, st', by simp only [input, onMember_run, hrun], hexecute, hu, ?_, ?_,
        hreading, slots, hkinds, ?_⟩
      · rw [hself]
      · rw [hself]
      · rw [hself]

theorem fetch_row_next (hsrv : Answers srv q) (hs : Reading q s st) {row : Row} {rows : List Row}
    (hunread : unread s = row :: rows) : ∃ t st', (fetch_row srv).run s = .ok true t ∧
      Reading q t st' ∧ unread t = rows ∧ t.self.bindingInput_ = s.self.bindingInput_ ∧
      AtRow srv t row := by
  have hcomplete : s.self.complete_ = false := by
    by_contra h
    rw [Bool.not_eq_false] at h
    simp [unread, h] at hunread
  obtain ⟨rows', hreading, hfits⟩ := hs.current hcomplete
  simp only [unread, hcomplete, hreading, Bool.false_eq_true, if_false, Option.elim_some] at hunread
  subst hunread
  obtain ⟨hbound, hholds⟩ := received_bound rows hs.serves.output
    (by rw [hs.serves.types]; exact hfits row (List.mem_cons_self ..))
  refine ⟨received s q.handle st row rows, { st with row := row },
    fetch_row_run hs.serves.output hcomplete hreading (hsrv.fetch _), ?_, ?_, rfl, ?_⟩
  · exact ⟨hs.serves.next hbound rfl rfl rfl rfl (.inr ⟨rows, rfl⟩), hs.bound,
      fun _ => ⟨rows, rfl, fun row' h => hfits row' (List.mem_cons_of_mem _ h)⟩, hs.matched⟩
  · simp [unread, received, hcomplete]
  · exact ⟨⟨⟨q.handle, { st with row := row }, hbound.output, hbound.stmt, rfl⟩,
      hsrv.fetch_column⟩, hbound.types, hholds⟩

theorem fetch_row_done (hsrv : Answers srv q) (hs : Reading q s st) (hunread : unread s = []) :
    ∃ t, (fetch_row srv).run s = .ok false t ∧ Reading q t st ∧ unread t = [] ∧
      t.self.bindingInput_ = s.self.bindingInput_ := by
  by_cases hcomplete : s.self.complete_ = true
  · exact ⟨s, by simp [fetch_row, hcomplete], hs, hunread, rfl⟩
  · rw [Bool.not_eq_true] at hcomplete
    obtain ⟨rows, hreading, -⟩ := hs.current hcomplete
    simp only [unread, hcomplete, hreading, Bool.false_eq_true, if_false, Option.elim_some] at hunread
    subst hunread
    have hfetch := mysql_stmt_fetch_done hs.serves.output.stmt hreading (hsrv.fetch _)
    have hserves : Serves q { s with
        mysql := { s.mysql with tick := s.mysql.tick + 1, reading := none }
        self.complete_ := true } st :=
      hs.serves.next (outputBound_next hs.serves.output rfl rfl rfl hs.serves.output.stmt rfl) rfl
        rfl rfl rfl (.inl rfl)
    refine ⟨_, ?_, ⟨hserves, hs.bound, fun h => (by cases h), hs.matched⟩, rfl, rfl⟩
    simp [fetch_row, hcomplete, hs.serves.output.statement, output, MariaRow.stmt_fetch, hfetch]

theorem input_done (h : s.self.bindingInput_.n_rows ≤ s.self.bindingInput_.i) :
    (input bind_next_row).run s = .ok false s := by
  have hdone : bind_next_row.run ⟨s.toShared, s.self.bindingInput_⟩ =
      .ok false ⟨s.toShared, s.self.bindingInput_⟩ := bind_next_row_done h
  simp only [input, onMember_run, hdone]

-- The results of the next parameter row take the place of those that are read.
theorem open_reads (hsrv : Answers srv q) (hs : Reading q s st)
    (hrows : s.self.bindingInput_.i < s.self.bindingInput_.n_rows) {row : List Param}
    (hrow : param_row s.self.bindingInput_ s.self.bindingInput_.i = .ok row) :
    ∃ t u st', (input bind_next_row).run s = .ok true t ∧ (execute srv).run t = .ok () u ∧
      Reading q u st' ∧ rows_left u.self.bindingInput_ < rows_left s.self.bindingInput_ ∧
      ∃ rest, parameter_rows s.self.bindingInput_ = .ok row :: rest ∧
        cursor q u = ⟨q.rows row, rest.map (Except.map q.rows)⟩ := by
  obtain ⟨hmatched, hstatement⟩ := hs.matched hrows
  have hopen := open_next hsrv hs.serves hmatched hstatement hrows
  rw [hrow] at hopen
  obtain ⟨t, u, st', hbind, hexecute, hu, hbound, hcomplete, hreading, slots, hslots, hinput⟩ :=
    hopen
  refine ⟨t, u, st', hbind, hexecute, ?_, ?_, parameter_rows u.self.bindingInput_, ?_, ?_⟩
  · refine ⟨hu, hbound.trans hs.bound, fun _ => ⟨q.rows row, hreading, hsrv.fits row⟩, fun _ => ?_⟩
    rw [hinput]
    exact ⟨hmatched.next hslots _, hstatement⟩
  · simp only [hinput, rows_left]
    omega
  · rw [parameter_rows_next hrows hslots, hrow, hinput]
  · simp [cursor, unread, hcomplete, hreading]

-- The loop moves the cursor on to the next row, past executions without rows.
theorem step_loop_run (hsrv : Answers srv q) : ∀ (fuel : Nat) {s : Obj MariaResultPrep}
    {st : MYSQL_STMT}, Reading q s st → rows_left s.self.bindingInput_ < fuel →
    match (cursor q s).next with
    | .ok none => ∃ t st', (step_loop srv fuel).run s = .ok false t ∧ Reading q t st' ∧
        cursor q t = Cursor.finished
    | .ok (some (row, c)) => ∃ t st', (step_loop srv fuel).run s = .ok true t ∧ Reading q t st' ∧
        cursor q t = c ∧ AtRow srv t row
    | .error e => ∃ t, (step_loop srv fuel).run s = .error e t := by
  intro fuel
  induction fuel with
  | zero =>
      intro s st _ hfuel
      exact absurd hfuel (Nat.not_lt_zero _)
  | succ fuel ih =>
      intro s st hs hfuel
      cases hunread : unread s with
      | cons row rows =>
          obtain ⟨t, st', hfetch, ht, hrest, hinput, hrow⟩ := fetch_row_next hsrv hs hunread
          have hnext : (cursor q s).next = .ok (some (row,
              ⟨rows, (parameter_rows s.self.bindingInput_).map (Except.map q.rows)⟩)) := by
            rw [cursor, hunread, Cursor.next_cons]
          rw [hnext]
          refine ⟨t, st', ?_, ht, by rw [cursor, hrest, hinput], hrow⟩
          rw [step_loop, run_bind_ok hfetch]
          rfl
      | nil =>
          obtain ⟨t, hfetch, ht, hrest, hinput⟩ := fetch_row_done hsrv hs hunread
          rw [step_loop, run_bind_ok hfetch, cursor, hunread, ← hinput]
          rw [← hinput] at hfuel
          by_cases hrows : t.self.bindingInput_.i < t.self.bindingInput_.n_rows
          · cases hrow : param_row t.self.bindingInput_ t.self.bindingInput_.i with
            | error e =>
                have hopen := open_next hsrv ht.serves (ht.matched hrows).1 (ht.matched hrows).2 hrows
                rw [hrow] at hopen
                obtain ⟨u, hbind⟩ := hopen
                have hnext : (⟨[], (parameter_rows t.self.bindingInput_).map (Except.map q.rows)⟩ :
                    Cursor Exc Row).next = .error e := by
                  rw [parameter_rows_next hrows rfl, hrow]
                  rfl
                rw [hnext]
                exact ⟨u, run_bind_error hbind⟩
            | ok row =>
                obtain ⟨u, v, st', hbind, hexecute, hreads, hleft, rest, hparams, hcursor⟩ :=
                  open_reads hsrv ht hrows hrow
                have hrest := ih hreads (Nat.lt_of_lt_of_le hleft (Nat.le_of_lt_succ hfuel))
                rw [hcursor] at hrest
                rw [hparams, List.map_cons]
                have hloop : (step_loop srv fuel).run v = (do
                    if ← input bind_next_row then do
                      execute srv
                      step_loop srv fuel
                    else
                      pure false : EStateM Exc (Obj MariaResultPrep) Bool).run t := by
                  rw [run_bind_ok hbind, if_pos rfl, run_bind_ok hexecute]
                rw [hloop] at hrest
                exact hrest
          · have hdone := parameter_rows_done (Nat.le_of_not_lt hrows)
            rw [hdone]
            exact ⟨t, st, run_bind_ok (input_done (Nat.le_of_not_lt hrows)), ht,
              by rw [cursor, hrest, hdone]; rfl⟩

-- The cursor after a call of step(), by the row that it returned.
theorem step_run (hsrv : Answers srv q) (hs : Reading q s st) :
    match (cursor q s).next with
    | .ok none => ∃ t st', (step srv).run s = .ok false t ∧ Reading q t st' ∧
        cursor q t = Cursor.finished
    | .ok (some (row, c)) => ∃ t st', (step srv).run s = .ok true t ∧ Reading q t st' ∧
        cursor q t = c ∧ AtRow srv t row
    | .error e => ∃ t, (step srv).run s = .error e t := by
  have hloop := step_loop_run hsrv _ hs (Nat.lt_succ_self _)
  cases hnext : (cursor q s).next with
  | error e =>
      rw [hnext] at hloop
      obtain ⟨t, hrun⟩ := hloop
      exact ⟨t, by simp [step, hrun]⟩
  | ok result =>
      rw [hnext] at hloop
      cases result with
      | none =>
          obtain ⟨t, st', hrun, hreads, hcursor⟩ := hloop
          exact ⟨t, st', by simp [step, hrun], hreads, hcursor⟩
      | some next =>
          obtain ⟨t, st', hrun, hreads, hcursor, hrow⟩ := hloop
          refine ⟨{ t with self.rowsFetched_ := t.self.rowsFetched_ + 1 }, st', by simp [step, hrun],
            ⟨?_, hreads.bound, hreads.current, hreads.matched⟩, hcursor, hrow.current, hrow.types,
            hrow.holds⟩
          have hserves := hreads.serves
          exact hserves.next (outputBound_next hserves.output rfl rfl rfl hserves.output.stmt rfl)
            rfl rfl rfl rfl hserves.reading

end Next

section Values

-- Reading the values of a row moves no cursor.
theorem Reading.values {t : Obj MariaResultPrep} (hs : Reading q s st) (hread : ReadValues s t) :
    Reading q t st ∧ cursor q t = cursor q s := by
  obtain ⟨⟨-, -, hmysql, hself, hslots⟩, houtput⟩ := hread
  have hmysql : t.mysql = { s.mysql with tick := t.mysql.tick } := hmysql
  have hcomplete : t.self.complete_ = s.self.complete_ := by rw [houtput]
  have hinput : t.self.bindingInput_ = s.self.bindingInput_ := by rw [houtput]
  have htypes : t.self.types_ = s.self.types_ := by rw [houtput]
  have hreading : t.mysql.reading = s.mysql.reading := by rw [hmysql]
  refine ⟨⟨?_, ?_, ?_, ?_⟩, ?_⟩
  · refine hs.serves.next ⟨?_, ?_, ?_, ?_, ?_, ?_⟩ ?_ ?_ rfl rfl ?_
    · rw [houtput]
      exact hs.serves.output.statement
    · rw [hmysql]
      exact hs.serves.output.stmt
    · rw [hs.serves.output.binds, htypes]
    · exact (congrArg MariaRow.pStatement_ hself).trans hs.serves.output.output
    · rw [htypes]
      exact (MariaRow.types_of_keeps hslots).trans hs.serves.output.types
    · exact MariaRow.shaped_of_keeps hslots hs.serves.output.shaped
    · rw [houtput]
    · rw [hmysql]
    · rw [hreading]
      exact hs.serves.reading
  · rw [houtput]
    exact hs.bound
  · rw [hcomplete, hreading]
    exact hs.current
  · rw [hinput]
    exact hs.matched
  · rw [cursor, cursor, unread, unread, hcomplete, hreading, hinput]

-- So does looking for an interrupt.
theorem Reading.tick (hs : Reading q s st) (n : Nat) :
    Reading q { s with mysql.tick := n } st ∧ cursor q { s with mysql.tick := n } = cursor q s := by
  have hserves := hs.serves
  refine ⟨⟨hserves.next (outputBound_next hserves.output rfl rfl rfl hserves.output.stmt rfl) rfl rfl
    rfl rfl hserves.reading, hs.bound, hs.current, hs.matched⟩, rfl⟩

-- The row goes into the frame, or one of its values cannot be converted.
theorem write_row_run (hs : Reading q s st) {row : Row} (hrow : AtRow srv s row) {out : DataFrame} {n : Nat} {rows : List (List Cell)}
    (hout : Filled q.types out n rows) (hn : rows.length < n) :
    ∃ t, Reading q t st ∧ cursor q t = cursor q s ∧
      (set_list_values srv rows.length (List.range s.self.nCols_) out).run s =
        match row_cells q.types row with
        | .ok cells =>
            .ok { out with columns := out.columns.zipWith (put_cell rows.length) cells } t
        | .error e => .error e t := by
  have hcolumns : s.self.nCols_ = out.columns.length := by
    rw [hs.serves.columns, hout.columns_length]
  obtain ⟨t, hread, hrun⟩ := @set_list_values_run srv row rows.length out.columns s [] out hrow
    rfl (by rw [hout.types, hs.serves.types]) (fun x hx => by rw [hout.room x hx]; exact hn)
  obtain ⟨ht, hcursor⟩ := hs.values hread
  refine ⟨t, ht, hcursor, ?_⟩
  rw [hcolumns, List.range_eq_range']
  rw [hs.serves.types] at hrun
  exact hrun

end Values

end RMariaDB.MariaResultPrep
