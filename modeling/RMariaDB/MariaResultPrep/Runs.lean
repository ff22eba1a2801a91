import RMariaDB.MariaResultPrep.Binds
import RMariaDB.MariaResultPrep.Fetch

-- What a query delivers over any number of binds and fetches.

namespace RMariaDB.MariaResultPrep

open Program MariaBinding

variable {srv : Server} {q : Query} {s t : Obj MariaResultPrep} {st : MYSQL_STMT}

section Calls

-- Nothing of an earlier command is left on the connection.
structure Idle (m : MYSQL) : Prop where
  connected : m.connected = true
  reading : m.reading = none
  more : m.more = []
  unstored : m.unstored = false

def opened (srv : Server) (is_statement : Bool) (sql : String) :
    EStateM Exc (Obj MariaResultPrep) Unit := do
  construct srv is_statement
  send_query srv sql

-- The state in which a query is opened. A query without parameters is also executed.
def after_open (q : Query) (s : Obj MariaResultPrep) (is_statement : Bool) (st : MYSQL_STMT)
    (mysql : MYSQL) : Obj MariaResultPrep where
  conn := s.conn
  mysql := { mysql with
    stmts := Function.update s.mysql.stmts q.handle (some { st with
      sql := q.sql
      param_count := q.param_count
      bind := q.types.map fun type => (MariaRow.new_slot type).binding })
    next_stmt := q.handle + 1
    metas := s.mysql.next_meta :: s.mysql.metas
    next_meta := s.mysql.next_meta + 1 }
  warnings := s.warnings ++ q.fields.filterMap fun field => unrecognized_field_type field.type
  self := {
    pStatement_ := some q.handle
    pSpec_ := some ⟨s.mysql.next_meta, q.fields⟩
    nCols_ := q.fields.length
    nParams_ := q.param_count
    bound_ := q.param_count = 0
    is_statement_ := is_statement
    types_ := q.types
    names_ := q.fields.map MYSQL_FIELD.name
    bindingOutput_ := {
      pStatement_ := some q.handle
      n_ := q.fields.length
      slots := q.types.map MariaRow.new_slot } }

theorem after_open_serves {is_statement : Bool} {mysql : MYSQL} (hidle : Idle s.mysql)
    (hmysql : mysql = { s.mysql with
      tick := mysql.tick, ledger := mysql.ledger, reading := mysql.reading })
    (hreading : mysql.reading = none ∨ ∃ rows, mysql.reading = some (q.handle, rows)) :
    ∃ st', Serves q (after_open q s is_statement st mysql) st' := by
  have hconnected : mysql.connected = true := by rw [hmysql]; exact hidle.connected
  have hmore : mysql.more = [] := by rw [hmysql]; exact hidle.more
  have hunstored : mysql.unstored = false := by rw [hmysql]; exact hidle.unstored
  refine ⟨_, ⟨⟨rfl, Function.update_self .., rfl, rfl, ?_, ?_⟩, rfl, rfl, rfl, ?_, rfl, hconnected,
    hmore, hunstored, hreading⟩⟩
  · exact (List.map_map ..).trans (List.map_id'' (fun _ => rfl) q.types)
  · intro slot hslot
    obtain ⟨type, _, rfl⟩ := List.mem_map.mp hslot
    exact MariaRow.new_slot_shaped type
  · exact (List.length_map ..).symm

theorem opened_run (hsrv : Answers srv q) (hidle : Idle s.mysql)
    (hhandle : s.mysql.next_stmt = q.handle) (hinit : srv.stmt_init s.mysql.tick = true)
    (is_statement : Bool) : ∃ t st, (opened srv is_statement q.sql).run s = .ok () t ∧
      Serves q t st ∧ t.self.bindingInput_ = {} ∧ t.self.complete_ = false ∧
      (t.self.bound_ = true ↔ q.param_count = 0) ∧
      (q.param_count = 0 → t.mysql.reading = some (q.handle, q.rows [])) := by
  obtain ⟨hconnected, hreading, hmore, hunstored⟩ := id hidle
  by_cases hcount : q.param_count = 0
  · obtain ⟨r, hr, hrows⟩ := hsrv.execute (s.mysql.tick + 1 + 1) []
    obtain ⟨st', hserves⟩ := @after_open_serves q s
      { fields := r.fields <|> some q.fields, affected_rows := r.affected_rows } is_statement
      { s.mysql with
        tick := s.mysql.tick + 1 + 1 + 1 + 1
        ledger := if r.dml then s.mysql.ledger.run else s.mysql.ledger
        reading := some (q.handle, q.rows []) } hidle rfl (.inr ⟨_, rfl⟩)
    refine ⟨_, st', ?_, hserves, rfl, rfl, decide_eq_true_iff, fun _ => rfl⟩
    simp [opened, construct, mysql_stmt_init, hinit, send_query, mysql_stmt_prepare, deref,
      MYSQL.refuses, hconnected, hreading, hmore, hunstored, hsrv.prepare, mysql_stmt_param_count,
      mysql_stmt_result_metadata, hcount, execute, has_result, mysql_stmt_execute, hr, hrows,
      cache_metadata, mysql_fetch_fields, output, MariaRow.setup, mysql_stmt_bind_result,
      hsrv.bind_result, after_open, hhandle, Query.types]
  · obtain ⟨st', hserves⟩ := @after_open_serves q s { fields := some q.fields } is_statement
      { s.mysql with tick := s.mysql.tick + 1 + 1 + 1 } hidle
      rfl (.inl hreading)
    refine ⟨_, st', ?_, hserves, rfl, rfl, decide_eq_true_iff, fun h => absurd h hcount⟩
    simp [opened, construct, mysql_stmt_init, hinit, send_query, mysql_stmt_prepare, deref,
      MYSQL.refuses, hconnected, hreading, hmore, hunstored, hsrv.prepare, mysql_stmt_param_count,
      mysql_stmt_result_metadata, hcount, cache_metadata, mysql_fetch_fields, output,
      MariaRow.setup, mysql_stmt_bind_result, hsrv.bind_result, after_open, hhandle, Query.types]

-- A query without parameters can be read once it is opened.
theorem opened_reading (hsrv : Answers srv q) (hserves : Serves q t st)
    (hinput : t.self.bindingInput_ = {}) (hcomplete : t.self.complete_ = false)
    (hbound : t.self.bound_ = true) (hreading : t.mysql.reading = some (q.handle, q.rows [])) :
    Reading q t st ∧ cursor q t = ⟨q.rows [], []⟩ := by
  refine ⟨⟨hserves, hbound, fun _ => ⟨_, hreading, hsrv.fits []⟩, fun hlt => ?_⟩, ?_⟩
  · rw [hinput] at hlt
    exact absurd hlt (Nat.lt_irrefl 0)
  · simp only [cursor, unread, hcomplete, hreading, hinput, parameter_rows]
    rfl

-- The rows of the parameters, as they are sent.
def sent (params : List SEXP) : List (Except Exc (List Param)) :=
  (List.range (params.head?.elim 0 SEXP.xlength)).map fun i => do
    let kinds ← params.mapM kind_of
    row_of i kinds params

theorem sent_eq {params : List SEXP} {kinds : List (MariaFieldType × enum_field_types)}
    (h : params.mapM kind_of = .ok kinds) : sent params =
      (List.range (params.head?.elim 0 SEXP.xlength)).map fun i => row_of i kinds params := by
  simp only [sent, h, ok_bind]

-- The state after the columns have been accepted.
def bound (q : Query) (s : Obj MariaResultPrep) (params : List SEXP) (slots : List Slot) :
    Obj MariaResultPrep :=
  { s with
    self.rowsAffected_ := 0
    self.complete_ := true
    self.bound_ := true
    self.bindingInput_ := columns_set s.self.bindingInput_ q.handle params slots }

variable (srv) in
theorem bind_accepted (hs : Serves q s st) {params : List SEXP}
    (haccepted : Accepted q.param_count params) : ∃ slots,
      (bind srv params).run s = .ok () (bound q s params slots) ∧ slots.length = params.length ∧
      params.mapM kind_of = .ok (slots.map Slot.kind) := by
  rw [← hs.param_count] at haccepted
  obtain ⟨slots, hrun, hslots⟩ := bind_params_accepted hs.output.statement hs.output.stmt haccepted
  refine ⟨slots, ?_, hslots⟩
  rw [bind_eq, run_bind_ok hrun]
  exact bind_rows_result hs.has_result

theorem bind_rejected (hs : Serves q s st) {params : List SEXP}
    (hrejected : ¬Accepted q.param_count params) : ∃ e t, (bind srv params).run s = .error e t := by
  rw [← hs.param_count] at hrejected
  obtain ⟨message, b, hrun, -⟩ :=
    bind_params_rejected hs.output.statement hs.output.stmt hrejected
  exact ⟨.stop message, _, by rw [bind_eq, run_bind_error hrun]⟩

-- After a bind every parameter row is still to be executed.
theorem parameter_rows_set {p k : Nat} {b : MariaBinding} {params : List SEXP} {slots : List Slot}
    (haccepted : Accepted p params) (hkinds : params.mapM kind_of = .ok (slots.map Slot.kind)) :
    parameter_rows (columns_set b k params slots) = sent params := by
  cases params with
  | nil => exact absurd haccepted.1.symm haccepted.2.1
  | cons col cols =>
      rw [sent_eq hkinds]
      simp only [parameter_rows, columns_set, Nat.sub_zero, ← List.range_eq_range']
      rfl

theorem bound_reading (hs : Serves q s st) {params : List SEXP} {slots : List Slot}
    (haccepted : Accepted q.param_count params) (hlen : slots.length = params.length)
    (hkinds : params.mapM kind_of = .ok (slots.map Slot.kind)) :
    Reading q (bound q s params slots) st ∧
      cursor q (bound q s params slots) = ⟨[], (sent params).map (Except.map q.rows)⟩ := by
  have houtput := outputBound_next (t := bound q s params slots) hs.output rfl rfl rfl
    hs.output.stmt rfl
  refine ⟨⟨hs.next houtput rfl rfl rfl rfl hs.reading, rfl, fun h => (by cases h),
    fun _ => ⟨⟨rfl, hlen, hkinds⟩, rfl⟩⟩, ?_⟩
  rw [cursor, ← parameter_rows_set haccepted hkinds]
  rfl

end Calls

section Runs

-- Successful calls on one result: the parameters bound last, and the frames that
-- have been fetched since.
inductive Run (srv : Server) (q : Query) :
    Obj MariaResultPrep → Option (List SEXP) → List DataFrame → Prop where
  | send {s t : Obj MariaResultPrep} {is_statement : Bool} : Idle s.mysql →
      s.mysql.next_stmt = q.handle → (opened srv is_statement q.sql).run s = .ok () t →
      Run srv q t none []
  | bind {s t : Obj MariaResultPrep} {last : Option (List SEXP)} {frames : List DataFrame}
      {params : List SEXP} : Run srv q s last frames → (bind srv params).run s = .ok () t →
      Run srv q t (some params) []
  | fetch {s t : Obj MariaResultPrep} {last : Option (List SEXP)} {frames : List DataFrame}
      {fuel : Nat} {n : ℤ} {df : DataFrame} : Run srv q s last frames →
      (fetch srv fuel n).run s = .ok df t → Run srv q t last (frames ++ [df])

-- The executions since the parameters were bound, or the one without parameters.
def Query.executions (q : Query) : Option (List SEXP) → List (Except Exc (List Param))
  | none => if q.param_count = 0 then [.ok []] else []
  | some params => sent params

-- All the rows that there are, in the order of the parameter rows.
def Query.total (q : Query) (last : Option (List SEXP)) : List Row :=
  Cursor.available ((q.executions last).map (Except.map q.rows))

def delivered (frames : List DataFrame) : List (List Cell) := frames.flatMap DataFrame.rows

-- What was delivered and what is left are all the rows.
structure Accounts (q : Query) (s : Obj MariaResultPrep) (last : Option (List SEXP))
    (frames : List DataFrame) : Prop where
  serves : ∃ st, Serves q s st
  unbound : s.self.bound_ = false → frames = [] ∧ q.total last = []
  bound : s.self.bound_ = true → (∃ st, Reading q s st) ∧
    (∀ result ∈ (cursor q s).waiting, ∃ params ∈ q.executions last, result = Except.map q.rows params) ∧
    ∃ rows, q.total last = rows ++ (cursor q s).remaining ∧
      rows.mapM (row_cells q.types) = .ok (delivered frames)

-- A fetch that returned has returned what its cursor yields.
theorem fetch_ok (hsrv : Answers srv q) (hs : Reading q s st) {fuel : Nat} {n : ℤ} {df : DataFrame}
    (h : (fetch srv fuel n).run s = .ok df t) : ∃ st' rows c, Reading q t st' ∧
      Cursor.collect (row_cells q.types) (requested n (cursor q s).remaining.length) (cursor q s) =
        .ok (rows, c) ∧ df.rows = rows ∧ cursor q t = c := by
  rcases fetch_run hsrv hs fuel n with ⟨-, u, hrun⟩ | ⟨-, u, hrun⟩ | hfetch
  · rw [h] at hrun
    cases hrun
  · rw [h] at hrun
    cases hrun
  · cases hcollect : Cursor.collect (row_cells q.types)
        (requested n (cursor q s).remaining.length) (cursor q s) with
    | error e =>
        rw [hcollect] at hfetch
        obtain ⟨u, hrun⟩ := hfetch
        rw [h] at hrun
        cases hrun
    | ok result =>
        rw [hcollect] at hfetch
        obtain ⟨df', u, st', hrun, hrows, hreads, hcursor⟩ := hfetch
        rw [h] at hrun
        cases hrun
        exact ⟨st', result.1, result.2, hreads, rfl, hrows, hcursor⟩

theorem Run.accounts (hsrv : Answers srv q) {last : Option (List SEXP)} {frames : List DataFrame}
    (h : Run srv q s last frames) : Accounts q s last frames := by
  induction h with
  | @send s t is_statement hidle hhandle hrun =>
      have hinit : srv.stmt_init s.mysql.tick = true := by
        by_contra hinit
        simp [opened, construct, mysql_stmt_init, hinit] at hrun
      obtain ⟨u, st, hopened, hserves, hinput, hcomplete, hbound, hreading⟩ :=
        opened_run hsrv hidle hhandle hinit is_statement
      rw [hopened] at hrun
      cases hrun
      refine ⟨⟨st, hserves⟩, fun h => ⟨rfl, ?_⟩, fun h => ?_⟩
      · have hcount : q.param_count ≠ 0 := fun hcount => by
          rw [hbound.mpr hcount] at h
          cases h
        simp [Query.total, Query.executions, hcount, Cursor.available]
      · have hcount := hbound.mp h
        obtain ⟨hreads, hcursor⟩ := opened_reading hsrv hserves hinput hcomplete h (hreading hcount)
        refine ⟨⟨st, hreads⟩, ?_, [], ?_, rfl⟩
        · rw [hcursor]
          intro result hresult
          cases hresult
        · rw [hcursor]
          simp [Query.total, Query.executions, hcount, Cursor.available, Cursor.remaining, Except.map]
  | @bind s t last frames params _ hrun ih =>
      obtain ⟨st, hserves⟩ := ih.serves
      have haccepted : Accepted q.param_count params := by
        by_contra hrejected
        obtain ⟨e, u, hbind⟩ := bind_rejected hserves hrejected
        rw [hbind] at hrun
        cases hrun
      obtain ⟨slots, hbind, hlen, hkinds⟩ := bind_accepted srv hserves haccepted
      rw [hbind] at hrun
      cases hrun
      obtain ⟨hreads, hcursor⟩ := bound_reading hserves haccepted hlen hkinds
      refine ⟨⟨st, hreads.serves⟩, fun h => (by cases h), fun _ => ⟨⟨st, hreads⟩, ?_, [], ?_, rfl⟩⟩
      · rw [hcursor]
        intro result hresult
        obtain ⟨params, hparams, rfl⟩ := List.mem_map.mp hresult
        exact ⟨params, hparams, rfl⟩
      · rw [hcursor]
        rfl
  | @fetch s t last frames fuel n df _ hrun ih =>
      have hbound : s.self.bound_ = true := by
        by_contra hbound
        rw [fetch_unbound (Bool.not_eq_true _ ▸ hbound)] at hrun
        cases hrun
      obtain ⟨⟨st, hreads⟩, hwaiting, rows, htotal, hrows⟩ := ih.bound hbound
      obtain ⟨st', more, c, ht, hcollect, hdf, hcursor⟩ := fetch_ok hsrv hreads hrun
      obtain ⟨hsubset, rows', hremaining, -, hmore⟩ := Cursor.collect_accounts _ hcollect
      refine ⟨⟨st', ht.serves⟩, fun h => ?_, fun _ => ⟨⟨st', ht⟩, ?_, rows ++ rows', ?_, ?_⟩⟩
      · rw [ht.bound] at h
        cases h
      · rw [hcursor]
        exact fun result hresult => hwaiting result (hsubset hresult)
      · rw [htotal, hremaining, hcursor, List.append_assoc]
      · rw [delivered, List.flatMap_append, List.flatMap_singleton, List.mapM_append, hrows, hmore,
          hdf]
        rfl

-- Every parameter row and every row of the results can be converted.
structure Convertible (q : Query) (last : Option (List SEXP)) : Prop where
  params : ∀ params ∈ q.executions last, ∃ row, params = .ok row
  rows : ∀ row ∈ q.total last, ∃ cells, row_cells q.types row = .ok cells

theorem executions_plain (q : Query) (last : Option (List SEXP)) :
    ∀ params ∈ q.executions last, Plain params := by
  intro params hparams
  cases last with
  | none =>
      simp only [Query.executions] at hparams
      split at hparams
      · rw [List.mem_singleton.mp hparams]
        exact Plain.ok _
      · cases hparams
  | some cols =>
      obtain ⟨i, _, rfl⟩ := List.mem_map.mp hparams
      exact (Plain.mapM fun col _ => kind_of_plain col).bind fun kinds => row_of_plain i kinds cols

theorem row_cells_plain (types : List MariaFieldType) (row : Row) : Plain (row_cells types row) :=
  Plain.mapM fun c _ => MariaRow.cell_of_plain c.1 c.2

-- How many rows have not been delivered.
def left_over (q : Query) (last : Option (List SEXP)) (frames : List DataFrame) : Nat :=
  (q.total last).length - (delivered frames).length

theorem Accounts.left_over {last : Option (List SEXP)} {frames : List DataFrame}
    (h : Accounts q s last frames) (hbound : s.self.bound_ = true) :
    left_over q last frames = (cursor q s).remaining.length := by
  obtain ⟨-, -, rows, htotal, hrows⟩ := h.bound hbound
  rw [MariaResultPrep.left_over, htotal, List.length_append, length_of_mapM hrows]
  omega

-- What stops a fetch is a parameter row or a row of the results.
theorem Accounts.failure {last : Option (List SEXP)} {frames : List DataFrame}
    (h : Accounts q s last frames) (hbound : s.self.bound_ = true) {n : Nat} {e : Exc}
    (hcollect : Cursor.collect (row_cells q.types) n (cursor q s) = .error e) :
    e ≠ .outOfFuel ∧ ¬Convertible q last := by
  obtain ⟨-, hwaiting, rows, htotal, -⟩ := h.bound hbound
  rcases Cursor.collect_error _ hcollect with hresult | ⟨row, hrow, hcells⟩
  · obtain ⟨params, hparams, hmap⟩ := hwaiting _ hresult
    cases params with
    | ok params => cases hmap
    | error e' =>
        cases hmap
        refine ⟨(executions_plain q last _ hparams _ rfl).1, fun hconv => ?_⟩
        obtain ⟨row, hrow⟩ := hconv.params _ hparams
        cases hrow
  · refine ⟨(row_cells_plain q.types row _ hcells).1, fun hconv => ?_⟩
    obtain ⟨cells, hok⟩ := hconv.rows row (htotal ▸ List.mem_append_right _ hrow)
    rw [hcells] at hok
    cases hok

theorem rows_of_run (hsrv : Answers srv q) {last : Option (List SEXP)} {frames : List DataFrame}
    (hrun : Run srv q s last frames) : ∃ rows, rows <+: q.total last ∧
      rows.mapM (row_cells q.types) = .ok (delivered frames) := by
  have haccounts := hrun.accounts hsrv
  by_cases hbound : s.self.bound_ = true
  · obtain ⟨-, -, rows, htotal, hrows⟩ := haccounts.bound hbound
    exact ⟨rows, htotal ▸ List.prefix_append _ _, hrows⟩
  · obtain ⟨rfl, -⟩ := haccounts.unbound (Bool.not_eq_true _ ▸ hbound)
    exact ⟨[], List.nil_prefix, rfl⟩

theorem length_of_run (hsrv : Answers srv q) {last : Option (List SEXP)} {frames : List DataFrame}
    (hrun : Run srv q s last frames) {n : ℤ} {fuel : Nat} {df : DataFrame}
    (hfetch : (fetch srv fuel n).run s = .ok df t) : df.rows.length =
      if n < 0 then left_over q last frames else min n.toNat (left_over q last frames) := by
  have haccounts := hrun.accounts hsrv
  have hbound : s.self.bound_ = true := by
    by_contra hbound
    rw [fetch_unbound (Bool.not_eq_true _ ▸ hbound)] at hfetch
    cases hfetch
  obtain ⟨⟨st, hreads⟩, -⟩ := haccounts.bound hbound
  rw [haccounts.left_over hbound]
  obtain ⟨st', more, c, -, hcollect, rfl, -⟩ := fetch_ok hsrv hreads hfetch
  obtain ⟨-, rows', hremaining, hlength, hmore⟩ := Cursor.collect_accounts _ hcollect
  rw [length_of_mapM hmore, hlength]
  unfold requested
  split
  · omega
  · rfl

theorem end_of_run (hsrv : Answers srv q) {last : Option (List SEXP)} {frames : List DataFrame}
    (hrun : Run srv q s last frames) (hsize : (q.total last).length < 2 ^ 30) (n : ℤ) {fuel : Nat}
    (hfuel : left_over q last frames < fuel) :
    (∀ t, (fetch srv fuel n).run s ≠ .error .outOfFuel t) ∧
    (s.self.bound_ = true → Convertible q last → ∃ df t, (fetch srv fuel n).run s = .ok df t) := by
  have haccounts := hrun.accounts hsrv
  by_cases hbound : s.self.bound_ = true
  · obtain ⟨⟨st, hreads⟩, -, rows, htotal, -⟩ := haccounts.bound hbound
    rw [haccounts.left_over hbound] at hfuel
    have hsmall : (cursor q s).remaining.length < 2 ^ 30 := by
      rw [htotal, List.length_append] at hsize
      omega
    rcases fetch_run hsrv hreads fuel n with ⟨hle, -⟩ | ⟨hbig, -⟩ | hfetch
    · exact absurd hfuel (Nat.not_lt_of_le hle)
    · exact absurd hsmall (Nat.not_lt_of_le hbig)
    · cases hcollect : Cursor.collect (row_cells q.types)
          (requested n (cursor q s).remaining.length) (cursor q s) with
      | ok result =>
          rw [hcollect] at hfetch
          obtain ⟨df, u, -, hfetch, -⟩ := hfetch
          rw [hfetch]
          exact ⟨fun t h => (by cases h), fun _ _ => ⟨df, u, rfl⟩⟩
      | error e =>
          rw [hcollect] at hfetch
          obtain ⟨u, hfetch⟩ := hfetch
          obtain ⟨hfuel, hconvertible⟩ := haccounts.failure hbound hcollect
          rw [hfetch]
          refine ⟨fun t h => ?_, fun _ h => absurd h hconvertible⟩
          cases h
          exact hfuel rfl
  · rw [Bool.not_eq_true] at hbound
    refine ⟨fun t h => ?_, fun h => ?_⟩
    · rw [fetch_unbound hbound] at h
      cases h
    · rw [hbound] at h
      cases h

-- The rows of the frames are the rows of the executions, in order and without a
-- gap. A fetch of n rows returns n of them as long as there are that many, a fetch of
-- all rows returns the rest, and every fetch ends.
theorem rows_in_order {last : Option (List SEXP)} {frames : List DataFrame} (hsrv : Answers srv q)
    (hrun : Run srv q s last frames) (hsize : (q.total last).length < 2 ^ 30) :
    (∃ rows, rows <+: q.total last ∧ rows.mapM (row_cells q.types) = .ok (delivered frames)) ∧
    (∀ (n : ℤ) (fuel : Nat) (df : DataFrame) (t : Obj MariaResultPrep),
      (fetch srv fuel n).run s = .ok df t → df.rows.length =
        if n < 0 then left_over q last frames else min n.toNat (left_over q last frames)) ∧
    ∀ (n : ℤ) (fuel : Nat), left_over q last frames < fuel →
      (∀ t, (fetch srv fuel n).run s ≠ .error .outOfFuel t) ∧
      (s.self.bound_ = true → Convertible q last → ∃ df t, (fetch srv fuel n).run s = .ok df t) :=
  ⟨rows_of_run hsrv hrun, fun _ _ _ _ => length_of_run hsrv hrun,
    fun n _ => end_of_run hsrv hrun hsize n⟩

-- A query with one parameter, for which the server has no rows, one or two.
def numbers : Query where
  handle := 0
  sql := "SELECT n FROM t WHERE k = ?"
  param_count := 1
  fields := [⟨"n", .MYSQL_TYPE_LONG, 63, 11⟩]
  rows := fun params =>
    match params with
    | [⟨_, some (.int 1)⟩] => [[some (.int 10)]]
    | [⟨_, some (.int 2)⟩] => [[some (.int 20)], [some (.int 21)]]
    | _ => []

def numbers_server : Server := { Server.agreeable with
  prepare := fun _ _ => .ok ⟨numbers.param_count, some numbers.fields⟩
  execute := fun _ _ params => .ok { rows := some (numbers.rows params) } }

theorem numbers_answers : Answers numbers_server numbers := by
  refine ⟨fun _ => rfl, fun _ => rfl, fun _ params => ⟨_, rfl, rfl⟩, fun _ => rfl, fun _ => rfl,
    fun _ => rfl, ?_⟩
  intro params row hrow
  have hfits : ∃ v, row = [some (.int v)] := by
    simp only [numbers] at hrow
    split at hrow
    · exact ⟨10, List.mem_singleton.mp hrow⟩
    · rcases List.mem_cons.mp hrow with h | h
      · exact ⟨20, h⟩
      · exact ⟨21, List.mem_singleton.mp h⟩
    · cases hrow
  obtain ⟨v, rfl⟩ := hfits
  exact .cons trivial .nil

def three_keys : List SEXP := [.INTSXP [] [2, 3, 1]]

theorem numbers_run : ∃ s, Run numbers_server numbers s (some three_keys) [] ∧
    s.self.bound_ = true := by
  obtain ⟨s, st, hopened, hserves, -⟩ := opened_run (s := ⟨{}, {}⟩) numbers_answers
    ⟨rfl, rfl, rfl, rfl⟩ rfl rfl false
  have haccepted : Accepted numbers.param_count three_keys := ⟨rfl, by decide, _, rfl⟩
  obtain ⟨slots, hbind, -⟩ := bind_accepted numbers_server hserves haccepted
  exact ⟨_, .bind (.send ⟨rfl, rfl, rfl, rfl⟩ rfl hopened) hbind, rfl⟩

theorem three_keys_left : left_over numbers (some three_keys) [] = 3 := by decide

theorem three_keys_convertible : Convertible numbers (some three_keys) := by
  have hexecutions : numbers.executions (some three_keys) = [2, 3, 1].map fun k =>
      .ok [⟨.MYSQL_TYPE_LONG, some (.int k)⟩] := rfl
  have htotal : numbers.total (some three_keys) = [20, 21, 10].map fun n => [some (.int n)] := rfl
  constructor
  · rw [hexecutions]
    intro params hparams
    obtain ⟨k, _, rfl⟩ := List.mem_map.mp hparams
    exact ⟨_, rfl⟩
  · rw [htotal]
    intro row hrow
    obtain ⟨n, _, rfl⟩ := List.mem_map.mp hrow
    exact ⟨_, rfl⟩

theorem rows_in_order_three_keys : ∃ s df t,
    (fetch numbers_server 4 (-1)).run s = .ok df t ∧ df.rows.length = 3 := by
  obtain ⟨s, hrun, hbound⟩ := numbers_run
  obtain ⟨-, hlength, hends⟩ := rows_in_order numbers_answers hrun (by decide)
  obtain ⟨df, t, hfetch⟩ := (hends (-1) 4 (by decide)).2 hbound three_keys_convertible
  exact ⟨s, df, t, hfetch, (hlength _ _ _ _ hfetch).trans three_keys_left⟩

end Runs

end RMariaDB.MariaResultPrep
