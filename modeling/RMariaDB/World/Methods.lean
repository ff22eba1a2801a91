import RMariaDB.DbConnection.Exec
import RMariaDB.MariaResultPrep.Columns
import RMariaDB.MariaResultPrep.Runs
import RMariaDB.World

-- What the operations behind the calls do to the connection they share.

namespace RMariaDB

open Program DbConnection

variable {srv : Server}

-- No transaction begins or ends: work that is held back stays so.
structure Quiet (s s' : Shared) : Prop where
  transacting : s'.conn.transacting_ = s.conn.transacting_
  valid : s'.conn.pConn_ = s.conn.pConn_
  ledger : Ledger.Steps s.conn.transacting_ s.mysql.ledger s'.mysql.ledger

theorem Quiet.refl (s : Shared) : Quiet s s := ⟨rfl, rfl, Ledger.Steps.refl _⟩

theorem Quiet.trans {a b c : Shared} (h : Quiet a b) (h' : Quiet b c) : Quiet a c := by
  have hledger := h'.ledger
  rw [h.transacting] at hledger
  exact ⟨h'.transacting.trans h.transacting, h'.valid.trans h.valid, h.ledger.trans hledger⟩

-- Calls on an open handle run statements and commit nothing.
theorem Touches.quiet {b : Bool} {s s' : Shared} (h : Touches b s.mysql s'.mysql)
    (hconn : s'.conn = s.conn) : Quiet s s' :=
  ⟨by rw [hconn], by rw [hconn], h.ledger.weaken⟩

section Connection

-- The connection works for itself and touches no statement.
structure Spares (s s' : Shared) : Prop extends Quiet s s' where
  conn : s'.conn = s.conn
  stmts : s'.mysql.stmts = s.mysql.stmts
  metas : s'.mysql.metas = s.mysql.metas
  reading : s'.mysql.reading = s.mysql.reading

variable {s₀ s : Shared} {E : Exc → Prop}

theorem Spares.refl (s : Shared) : Spares s s := ⟨Quiet.refl s, rfl, rfl, rfl, rfl⟩

theorem Spares.trans {a b c : Shared} (h : Spares a b) (h' : Spares b c) : Spares a c :=
  ⟨h.toQuiet.trans h'.toQuiet, h'.conn.trans h.conn, h'.stmts.trans h.stmts, h'.metas.trans h.metas,
    h'.reading.trans h.reading⟩

theorem autocommitted_spares (s : Shared) : Spares s (autocommitted srv s) := by
  unfold autocommitted
  by_cases hopen : !s.conn.transacting_ && s.conn.pConn_
  · rw [if_pos hopen]
    simp only [Bool.and_eq_true, Bool.not_eq_true'] at hopen
    refine ⟨⟨rfl, rfl, ?_⟩, rfl, rfl, rfl, rfl⟩
    rw [hopen.1]
    simp only [MYSQL.after_end]
    split
    · exact (Ledger.Steps.refl _).commit
    · exact Ledger.Steps.refl _
  · rw [if_neg hopen]
    exact Spares.refl s

-- Nothing refuses the COMMIT.
theorem autocommitted_settles {s : Shared} (hsrv : ∀ t, srv.accepts t = true)
    (htransacting : s.conn.transacting_ = false) (hvalid : s.conn.pConn_ = true) (hs : Drained s)
    (hreading : s.mysql.reading = none) : (autocommitted srv s).mysql.ledger.pending = [] := by
  have hends : s.mysql.ends srv = true := by
    simp [MYSQL.ends, MYSQL.busy, hsrv, hs.1, hs.2, hreading]
  simp [autocommitted, htransacting, hvalid, MYSQL.after_end, hends, Ledger.commit]

-- While no transaction is open all work is committed, if the server accepts every COMMIT.
def Committed (srv : Server) (s : Shared) : Prop :=
  (∀ t, srv.accepts t = true) → s.conn.transacting_ = false → s.conn.pConn_ = true →
    s.mysql.ledger.pending = []

theorem autocommit_spares : Safe (Spares s₀) E (DbConnection.autocommit srv) := by
  intro s hs
  rw [autocommit_run]
  exact hs.trans (autocommitted_spares s)

theorem onMysql_spares {α : Type} {f : EStateM Exc MYSQL α}
    (hf : ∀ s, Spares s₀ s → Safe (fun m => Spares s₀ { s with mysql := m }) E f) :
    Safe (Spares s₀) E (onMysql f) := Safe.zoom (fun _ => rfl) hf

theorem run_batch_steps {held : Bool} {a b : Ledger} (h : Ledger.Steps held a b)
    (results : List (Except Failure Done)) : Ledger.Steps held a (run_batch b results) := by
  induction results generalizing b with
  | nil => exact h
  | cons result results ih =>
      cases result with
      | error f => exact h
      | ok d =>
          rw [run_batch]
          split
          · exact ih h.run
          · exact ih h

theorem mysql_real_query_spares (sql : String) :
    Safe (Spares s₀) E (onMysql (mysql_real_query srv sql)) := by
  refine onMysql_spares fun s _ => Safe.bind (Safe.modifyGet fun m hm => ?_) fun t => ?_
  · exact ⟨⟨hm.transacting, hm.valid, hm.ledger⟩, hm.conn, hm.stmts, hm.metas, hm.reading⟩
  refine Safe.get_bind fun m hm => Safe.ite (fun _ => ?_) fun _ => ?_
  · refine Safe.bind (Safe.set ?_) fun _ => Safe.pure 1
    exact ⟨⟨hm.transacting, hm.valid, hm.ledger⟩, hm.conn, hm.stmts, hm.metas, hm.reading⟩
  split
  · refine Safe.bind (Safe.set ?_) fun _ => Safe.pure 1
    exact ⟨⟨hm.transacting, hm.valid, hm.ledger⟩, hm.conn, hm.stmts, hm.metas, hm.reading⟩
  · refine Safe.bind (Safe.set ?_) fun _ => Safe.pure 0
    exact ⟨⟨hm.transacting, hm.valid, run_batch_steps hm.ledger _⟩, hm.conn, hm.stmts, hm.metas,
      hm.reading⟩

theorem exec_loop_spares (fuel : Nat) (hE : E .outOfFuel) :
    Safe (Spares s₀) E (DbConnection.exec_loop fuel) := by
  induction fuel with
  | zero => exact Safe.throw hE
  | succ fuel ih =>
      refine Safe.bind (onMysql_spares fun s _ => Safe.modifyGet fun m hm => ?_) fun _ => ?_
      · exact ⟨⟨hm.transacting, hm.valid, hm.ledger⟩, hm.conn, hm.stmts, hm.metas, hm.reading⟩
      refine Safe.bind ?_ fun status => Safe.ite (fun _ => ih) fun _ => Safe.pure ()
      refine onMysql_spares fun s _ => Safe.get_bind fun m hm => Safe.ite (fun _ => ?_) fun _ => ?_
      · refine Safe.bind (Safe.set ?_) fun _ => Safe.pure 1
        exact ⟨⟨hm.transacting, hm.valid, hm.ledger⟩, hm.conn, hm.stmts, hm.metas, hm.reading⟩
      split
      · exact Safe.pure (-1)
      · refine Safe.bind (Safe.set ?_) fun _ => Safe.pure 0
        exact ⟨⟨hm.transacting, hm.valid, hm.ledger⟩, hm.conn, hm.stmts, hm.metas, hm.reading⟩
      · refine Safe.bind (Safe.set ?_) fun _ => Safe.pure 1
        exact ⟨⟨hm.transacting, hm.valid, hm.ledger⟩, hm.conn, hm.stmts, hm.metas, hm.reading⟩

theorem check_connection_spares (hE : ∀ message, E (.stop message)) :
    Safe (Spares s₀) E DbConnection.check_connection := by
  refine Safe.bind (Safe.get_bind fun s _ => Safe.pure _) fun valid => ?_
  exact Safe.ite (fun _ => Safe.pure ()) fun _ => Safe.throw (hE _)

theorem exec_spares (sql : String) (hE : ∀ message, E (.stop message)) (hfuel : E .outOfFuel) :
    Safe (Spares s₀) E (DbConnection.exec srv sql) := by
  refine (check_connection_spares hE).bind fun _ => (mysql_real_query_spares sql).bind fun status => ?_
  refine Safe.ite (fun _ => Safe.get_bind fun s _ => Safe.throw (hE _)) fun _ => ?_
  refine Safe.get_bind fun s _ => (exec_loop_spares _ hfuel).bind fun _ => ?_
  exact autocommit_spares.bind fun _ => Safe.pure true

-- After exec() no result of its batch is left. What an execution that failed left uncommitted
-- was so before.
variable (srv) in
theorem exec_leaves (sql : String) {s : Shared} (hs : Drained s) :
    match (exec srv sql).run s with
    | .ok _ t => Drained t ∧ (s.mysql.reading = none → Committed srv t)
    | .error e t => e.Ends = false ∧ Drained t ∧ (Committed srv s → Committed srv t) := by
  by_cases hvalid : s.conn.pConn_ = true
  · cases hfirst : (answered srv s.mysql sql).first with
    | error f =>
        rw [exec_first_fails hvalid hfirst]
        exact ⟨rfl, hs, id⟩
    | ok d =>
        obtain ⟨v, hrun, hdrained, -, hsame⟩ := exec_first_succeeds hvalid hfirst
        rw [hrun]
        refine ⟨autocommitted_drained hdrained, fun hreading hsrv htransacting hvalid => ?_⟩
        rw [(autocommitted_spares v).conn] at htransacting hvalid
        exact autocommitted_settles hsrv htransacting hvalid hdrained (hsame.trans hreading)
  · rw [exec_closed hvalid]
    exact ⟨rfl, hs, id⟩

end Connection

namespace MariaResultPrep

-- No handle is held.
structure Free (m : MYSQL) : Prop where
  stmts : ∀ k, m.stmts k = none
  metas : m.metas = []
  reading : m.reading = none

-- The statement of a result is open, its handles are handles of the statement, and there
-- are no others.
structure Ready (m : MYSQL) (r : MariaResultPrep) : Prop where
  opened : IsOpen m r.pStatement_
  wired : Wired [] r.pStatement_ (fun _ _ => True) m r
  described : Described r
  only : ∀ k, (m.stmts k).isSome → r.pStatement_ = some k
  reading : ∀ k rows, m.reading = some (k, rows) → r.pStatement_ = some k

structure Closed (r : MariaResultPrep) : Prop where
  statement : r.pStatement_ = none
  spec : r.pSpec_ = none
  described : Described r

-- Handles are neither acquired, used nor given back.
structure Undisturbed (m m' : MYSQL) : Prop where
  stmts : m'.stmts = m.stmts
  metas : m'.metas = m.metas
  reading : ∀ x, m'.reading = some x → m.reading = some x

theorem undisturbed_of_spares {s s' : Shared} (hs : Spares s s') : Undisturbed s.mysql s'.mysql :=
  ⟨hs.stmts, hs.metas, fun _ hx => hs.reading ▸ hx⟩

theorem Free.stays {m m' : MYSQL} (h : Free m) (hm : Undisturbed m m') : Free m' := by
  refine ⟨by rw [hm.stmts]; exact h.stmts, hm.metas.trans h.metas, ?_⟩
  cases hreading : m'.reading with
  | none => rfl
  | some x => exact (hm.reading x hreading).symm.trans h.reading

-- A result stays ready while it works.
theorem Ready.works {T : Bool → MariaBinding → Prop} {m m' : MYSQL} {r r' : MariaResultPrep}
    (hr : Ready m r) (hm : Touches true m m') (hwired : Wired [] r.pStatement_ T m' r')
    (hdescribed : Described r') : Ready m' r' := by
  have hstatement := hwired.statement
  refine ⟨?_, ⟨rfl, hwired.metas, ?_, ?_, trivial⟩, hdescribed, fun k hk => ?_, fun k rows hrows => ?_⟩
  · rw [hstatement]
    exact hm.isOpen hr.opened
  · rw [hstatement]
    exact hwired.input
  · rw [hstatement]
    exact hwired.output
  · rw [hstatement]
    exact hr.only k (hm.opened k ▸ hk)
  · rw [hstatement]
    rcases hm.reading k rows hrows with hk | ⟨rows', hrows'⟩
    · exact hr.only k hk
    · exact hr.reading k rows' hrows'

-- And while other parts of the library work.
theorem Ready.stays {m m' : MYSQL} {r : MariaResultPrep} (hr : Ready m r) (hm : Undisturbed m m') :
    Ready m' r := by
  obtain ⟨⟨k, st, hk, hst⟩, hwired, hdescribed, honly, hreading⟩ := hr
  refine ⟨⟨k, st, hk, by rw [hm.stmts, hst]⟩, ?_, hdescribed, by rwa [hm.stmts], fun k rows hrows =>
    hreading k rows (hm.reading _ hrows)⟩
  exact ⟨hwired.statement, hm.metas.trans hwired.metas, hwired.input, hwired.output, trivial⟩

variable (srv) in
theorem close_closed {s : Obj MariaResultPrep} (hs : Closed s.self) :
    (close srv).run s = .ok () ⟨autocommitted srv s.toShared, s.self⟩ := by
  simp [close, hs.statement, hs.spec, autocommit_run]

-- All handles are given back before COMMIT is sent.
structure Releases (s u : Shared) : Prop where
  conn : u.conn = s.conn
  ledger : u.mysql.ledger = s.mysql.ledger
  drained : Drained s → Drained u
  free : Free u.mysql

theorem Releases.quiet {s u : Shared} (h : Releases s u) : Quiet s (autocommitted srv u) := by
  have hquiet : Quiet s u := by
    refine ⟨by rw [h.conn], by rw [h.conn], ?_⟩
    rw [h.ledger]
    exact Ledger.Steps.refl _
  exact hquiet.trans (autocommitted_spares u).toQuiet

theorem Releases.committed {s u : Shared} (h : Releases s u) (hs : Drained s) :
    Committed srv (autocommitted srv u) := by
  intro hsrv htransacting hvalid
  rw [(autocommitted_spares u).conn] at htransacting hvalid
  exact autocommitted_settles hsrv htransacting hvalid (h.drained hs) h.free.reading

theorem unread_dropped_same (m : MYSQL) (k : Nat) :
    (m.unread_dropped k).stmts = m.stmts ∧ (m.unread_dropped k).metas = m.metas ∧
      (m.unread_dropped k).ledger = m.ledger ∧ (m.unread_dropped k).more = m.more ∧
      (m.unread_dropped k).unstored = m.unstored := by
  unfold MYSQL.unread_dropped
  split
  · split <;> exact ⟨rfl, rfl, rfl, rfl, rfl⟩
  · exact ⟨rfl, rfl, rfl, rfl, rfl⟩

theorem unread_dropped_reading {m : MYSQL} {k : Nat}
    (h : ∀ k' rows, m.reading = some (k', rows) → k = k') : (m.unread_dropped k).reading = none := by
  unfold MYSQL.unread_dropped
  cases hreading : m.reading with
  | none => exact hreading
  | some x =>
      obtain ⟨k', rows⟩ := x
      obtain rfl := h k' rows hreading
      simp

-- The part of close() after the metadata is freed.
def close_statement (srv : Server) : EStateM Exc (Obj MariaResultPrep) Unit := do
  let s ← get
  match s.self.pStatement_ with
  | some k => do
      lib (mysql_stmt_close (some k))
      modifySelf fun r => { r with pStatement_ := none }
  | none => pure ()
  onShared (DbConnection.autocommit srv)

variable (srv) in
theorem close_statement_run {s : Obj MariaResultPrep} (hs : Ready s.mysql s.self)
    (hspec : s.self.pSpec_ = none) : ∃ u r, (close_statement srv).run s =
      .ok () ⟨autocommitted srv u, r⟩ ∧ Closed r ∧ Releases s.toShared u := by
  obtain ⟨k, st, hk, hst⟩ := hs.opened
  obtain ⟨-, hmetas, hledger, hmore, hunstored⟩ := unread_dropped_same s.mysql k
  let u : Shared := { s.toShared with
    mysql := { s.mysql.unread_dropped k with stmts := Function.update s.mysql.stmts k none } }
  have hfree : Free u.mysql := by
    refine ⟨fun k' => ?_, ?_, unread_dropped_reading fun k' rows hrows => ?_⟩
    · by_cases h : k' = k
      · rw [h]
        exact Function.update_self ..
      · refine (Function.update_of_ne h ..).trans ?_
        cases hst' : s.mysql.stmts k' with
        | none => rfl
        | some st' =>
            have hk' := hs.only k' (by rw [hst']; rfl)
            rw [hk, Option.some.injEq] at hk'
            exact absurd hk'.symm h
    · refine hmetas.trans (hs.wired.metas.trans ?_)
      rw [hspec]
      rfl
    · have hk' := hs.reading k' rows hrows
      rwa [hk, Option.some.injEq] at hk'
  refine ⟨u, { s.self with pStatement_ := none }, ?_,
    ⟨rfl, hspec, hs.described.names, hs.described.types⟩, rfl, hledger,
    fun h => ⟨hmore.trans h.1, hunstored.trans h.2⟩, hfree⟩
  simp [close_statement, hk, mysql_stmt_close, deref_run hst, autocommit_run, u]

variable (srv) in
theorem close_ready {s : Obj MariaResultPrep} (hs : Ready s.mysql s.self) :
    ∃ u r, (close srv).run s = .ok () ⟨autocommitted srv u, r⟩ ∧ Closed r ∧
      Releases s.toShared u := by
  cases hspec : s.self.pSpec_ with
  | none =>
      have hrest : (close srv).run s = (close_statement srv).run s := by
        simp only [close, EStateM.run_bind, EStateM.run_get, hspec]
        rfl
      rw [hrest]
      exact close_statement_run srv hs hspec
  | some x =>
      have hmem : x.id ∈ s.mysql.metas := hs.wired.spec hspec
      have hmetas : s.mysql.metas.erase x.id = [] := by
        rw [hs.wired.metas, hspec]
        exact List.erase_cons_head ..
      let v : Obj MariaResultPrep := { s with
        mysql.metas := s.mysql.metas.erase x.id
        self.pSpec_ := none }
      have hrest : (close srv).run s = (close_statement srv).run v := by
        simp only [close, EStateM.run_bind, EStateM.run_get, hspec, lib_run, mysql_free_result,
          hmem, if_true, EStateM.run_set, modifySelf_run]
        rfl
      have hv : Ready v.mysql v.self := ⟨hs.opened, ⟨rfl, hmetas, hs.wired.input, hs.wired.output,
        trivial⟩, ⟨hs.described.names, hs.described.types⟩, hs.only, hs.reading⟩
      obtain ⟨u, r, hrun, hclosed, hreleases⟩ := close_statement_run srv hv rfl
      rw [hrest]
      exact ⟨u, r, hrun, hclosed, hreleases.conn, hreleases.ledger, hreleases.drained, hreleases.free⟩

-- A new object, with nothing but a statement.
def constructed (sh : Shared) (is_statement : Bool) : Obj MariaResultPrep :=
  { sh with
    mysql := { sh.mysql with
      tick := sh.mysql.tick + 1
      stmts := Function.update sh.mysql.stmts sh.mysql.next_stmt (some {})
      next_stmt := sh.mysql.next_stmt + 1 }
    self := { pStatement_ := some sh.mysql.next_stmt, is_statement_ := is_statement } }

theorem construct_run {sh : Shared} (is_statement : Bool) (hinit : srv.stmt_init sh.mysql.tick = true) :
    (construct srv is_statement).run ⟨sh, {}⟩ = .ok () (constructed sh is_statement) := by
  simp [construct, mysql_stmt_init, hinit, constructed]

theorem construct_fails {sh : Shared} (is_statement : Bool)
    (hinit : ¬srv.stmt_init sh.mysql.tick = true) :
    (construct srv is_statement).run ⟨sh, {}⟩ = .error (.stop "Out of memory")
      ⟨{ sh with mysql.tick := sh.mysql.tick + 1 }, { is_statement_ := is_statement }⟩ := by
  simp [construct, mysql_stmt_init, hinit]

theorem constructed_opened (sh : Shared) (is_statement : Bool) :
    IsOpen (constructed sh is_statement).mysql (some sh.mysql.next_stmt) :=
  ⟨_, {}, rfl, Function.update_self ..⟩

theorem constructed_wired (sh : Shared) (is_statement : Bool) :
    Wired sh.mysql.metas (some sh.mysql.next_stmt) (fun _ b => b = {})
      (constructed sh is_statement).mysql (constructed sh is_statement).self :=
  ⟨rfl, rfl, fun hrows => absurd rfl hrows, fun hslots => absurd rfl hslots, rfl⟩

theorem constructed_blank (sh : Shared) (is_statement : Bool) :
    Blank (constructed sh is_statement).self := ⟨rfl, rfl, rfl, rfl, rfl⟩

variable (srv) in
theorem constructed_sent (sh : Shared) (is_statement : Bool) (sql : String) :
    match (send_query srv sql).run (constructed sh is_statement) with
    | .ok _ t => Within true sh.conn (constructed sh is_statement).mysql
        (Wired sh.mysql.metas (some sh.mysql.next_stmt) fun _ b => b = {}) t
    | .error e t => e ≠ .fault .handle ∧ Within true sh.conn (constructed sh is_statement).mysql
        (Wired sh.mysql.metas (some sh.mysql.next_stmt) fun _ b => b = {}) t := by
  have hsend := send_query_method srv (fun _ _ hb => hb) sql sh.conn _ (constructed sh is_statement)
    ⟨rfl, Touches.refl _, constructed_wired sh is_statement, rfl⟩
  cases hrun : (send_query srv sql).run (constructed sh is_statement) with
  | ok a t =>
      rw [hrun] at hsend
      exact hsend
  | error e t =>
      rw [hrun] at hsend
      exact ⟨fun he => hsend.2 he (constructed_opened sh is_statement), hsend.1⟩

-- A result is constructed and its query is sent.
theorem prepared_sent {sql : String} {is_statement : Bool} {sh : Shared} {r : MariaResultPrep}
    {t : Obj MariaResultPrep} (hrun : (World.prepared srv sql is_statement).run ⟨sh, {}⟩ = .ok r t) :
    t.self = r ∧ (send_query srv sql).run (constructed sh is_statement) = .ok () t := by
  by_cases hinit : srv.stmt_init sh.mysql.tick = true
  · rw [World.prepared, run_bind_ok (construct_run is_statement hinit)] at hrun
    cases hsent : (send_query srv sql).run (constructed sh is_statement) with
    | error e u =>
        obtain ⟨_, v, hcaught, -⟩ := of_run_bind_ok hrun
        rw [run_tryCatch, hsent] at hcaught
        by_cases hends : e.Ends = true
        · simp only [hends, if_true, run_throw, reduceCtorEq] at hcaught
        · simp only [hends, if_false, Bool.false_eq_true] at hcaught
          obtain ⟨_, _, _, hthrow⟩ := of_run_bind_ok hcaught
          cases hthrow
    | ok a u =>
        simp only [EStateM.run_bind, run_tryCatch, hsent, EStateM.run_get, EStateM.run_pure] at hrun
        cases hrun
        exact ⟨rfl, rfl⟩
  · rw [World.prepared, run_bind_error (construct_fails is_statement hinit)] at hrun
    cases hrun

-- A result whose query has been sent, whatever else there is on the connection.
theorem prepared_wired {sql : String} {is_statement : Bool} {sh : Shared} {r : MariaResultPrep}
    {t : Obj MariaResultPrep} (hrun : (World.prepared srv sql is_statement).run ⟨sh, {}⟩ = .ok r t) :
    t.self = r ∧ t.conn = sh.conn ∧
      Wired sh.mysql.metas r.pStatement_ (fun _ b => b = {}) t.mysql r := by
  obtain ⟨rfl, hsent⟩ := prepared_sent hrun
  have hsend := constructed_sent srv sh is_statement sql
  rw [hsent] at hsend
  refine ⟨rfl, hsend.conn, ?_⟩
  rw [hsend.self.statement]
  exact hsend.self

-- With nothing else open: a result that is ready, or an exception after which nothing
-- is left of it.
variable (srv) in
theorem prepared_run (sql : String) (is_statement : Bool) {sh : Shared} (hfree : Free sh.mysql)
    (hdrained : Drained sh) : match (World.prepared srv sql is_statement).run ⟨sh, {}⟩ with
    | .ok r t => t.conn = sh.conn ∧ Quiet sh t.toShared ∧ Drained t.toShared ∧ Ready t.mysql r
    | .error e t => e ≠ .fault .handle ∧ (e.Ends = false → t.conn = sh.conn ∧ Quiet sh t.toShared ∧
        Drained t.toShared ∧ Free t.mysql ∧ (Committed srv sh → Committed srv t.toShared)) := by
  by_cases hinit : srv.stmt_init sh.mysql.tick = true
  · let u := constructed sh is_statement
    have hquiet : Quiet sh u.toShared := ⟨rfl, rfl, Ledger.Steps.refl _⟩
    have hready : Ready u.mysql u.self := by
      refine ⟨constructed_opened sh is_statement, ⟨rfl, hfree.metas, fun hrows => absurd rfl hrows,
        fun hslots => absurd rfl hslots, trivial⟩, ⟨rfl, rfl⟩, fun k hk => ?_, fun k rows hrows => ?_⟩
      · by_cases h : k = sh.mysql.next_stmt
        · rw [h]
          rfl
        · have hnone : u.mysql.stmts k = none := (Function.update_of_ne h ..).trans (hfree.stmts k)
          rw [hnone] at hk
          cases hk
      · rw [show u.mysql.reading = none from hfree.reading] at hrows
        cases hrows
    have hend : ∀ t, Within true sh.conn u.mysql (Wired sh.mysql.metas u.self.pStatement_
        fun _ b => b = {}) t → Described t.self →
        t.conn = sh.conn ∧ Quiet sh t.toShared ∧ Drained t.toShared ∧ Ready t.mysql t.self := by
      intro t ht hdescribed
      have hwired := ht.self
      rw [hfree.metas] at hwired
      refine ⟨ht.conn, hquiet.trans (ht.mysql.quiet ht.conn), ?_, hready.works ht.mysql hwired hdescribed⟩
      exact ⟨ht.mysql.more.trans hdrained.1, ht.mysql.unstored.trans hdrained.2⟩
    have hsend := constructed_sent srv sh is_statement sql
    have hdescribed := send_query_described srv (constructed_blank sh is_statement) sql
      (constructed sh is_statement) (SameColumns.refl _)
    rw [World.prepared, run_bind_ok (construct_run is_statement hinit)]
    cases hrun : (send_query srv sql).run (constructed sh is_statement) with
    | ok a t =>
        rw [hrun] at hsend hdescribed
        simp only [EStateM.run_bind, run_tryCatch, hrun, EStateM.run_get, EStateM.run_pure]
        exact hend t hsend hdescribed
    | error e t =>
        rw [hrun] at hsend hdescribed
        obtain ⟨hconn, htquiet, htdrained, htready⟩ := hend t hsend.2 hdescribed
        by_cases hends : e.Ends = true
        · simp only [EStateM.run_bind, run_tryCatch, hrun, hends, if_true, run_throw]
          exact ⟨hsend.1, fun h => by cases h⟩
        · obtain ⟨v, r, hclose, -, hreleases⟩ := close_ready srv htready
          simp only [EStateM.run_bind, run_tryCatch, hrun, hends, hclose, if_false, run_throw,
            Bool.false_eq_true]
          refine ⟨hsend.1, fun _ => ⟨?_, htquiet.trans hreleases.quiet,
            autocommitted_drained (hreleases.drained htdrained),
            hreleases.free.stays (undisturbed_of_spares (autocommitted_spares v)), fun _ =>
            hreleases.committed htdrained⟩⟩
          exact (autocommitted_spares v).conn.trans (hreleases.conn.trans hconn)
  · rw [World.prepared, run_bind_error (construct_fails is_statement hinit)]
    exact ⟨by simp, fun _ => ⟨rfl, ⟨rfl, rfl, Ledger.Steps.refl _⟩, hdrained,
      ⟨hfree.stmts, hfree.metas, hfree.reading⟩, id⟩⟩

theorem prepared_of_opened {sql : String} {is_statement : Bool} {s t : Obj MariaResultPrep}
    (h : (opened srv is_statement sql).run s = .ok () t) :
    (World.prepared srv sql is_statement).run s = .ok t.self t := by
  obtain ⟨_, u, hconstruct, hsend⟩ := of_run_bind_ok h
  rw [World.prepared, run_bind_ok hconstruct]
  simp only [EStateM.run_bind, run_tryCatch, hsend, EStateM.run_get, EStateM.run_pure]

end MariaResultPrep

end RMariaDB
