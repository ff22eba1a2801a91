import RMariaDB.Connect.Handles
import RMariaDB.Functions.Runs

-- What dbConnect() returns, and what is left of the connection if it fails.

namespace RMariaDB.Connect

open Program World WriteTable Functions

variable {srv : Server} {w t : World} {α : Type}

section Accepted

-- The server took a statement: prepared, and executed if there is nothing to bind, or as it is.
inductive Accepted (srv : Server) (sql : String) : Prop where
  | prepared {tick : Nat} {p : Prepared} (hprepare : srv.prepare tick sql = .ok p)
      (hexecute : p.param_count = 0 → ∃ tick x, srv.execute tick sql [] = .ok x)
  | queried {tick : Nat} {d : Done} (hquery : (srv.query tick sql).first = .ok d)

variable {k : Nat} {st : MYSQL_STMT} {m m' : MYSQL} {sql : String}

theorem mysql_stmt_prepare_ok (hst : m.stmts k = some st)
    (h : (mysql_stmt_prepare srv (some k) sql).run m = .ok 0 m') :
    ∃ tick p, srv.prepare tick sql = .ok p ∧ m'.stmts k =
      some { st with sql := sql, param_count := p.param_count, fields := p.fields } := by
  simp only [mysql_stmt_prepare, EStateM.run_bind, deref_run hst, count_call_run, EStateM.run_get] at h
  split at h
  · simp [fail_stmt] at h
  · simp [fail_stmt] at h
  · rename_i p _ hprepare
    cases h
    exact ⟨_, p, hprepare, Function.update_self ..⟩

theorem mysql_stmt_execute_ok (hst : m.stmts k = some st)
    (h : (mysql_stmt_execute srv (some k)).run m = .ok 0 m') :
    ∃ tick x, srv.execute tick st.sql st.params = .ok x := by
  simp only [mysql_stmt_execute, EStateM.run_bind, deref_run hst, count_call_run, EStateM.run_get] at h
  split at h
  · simp [fail_stmt] at h
  · simp only [EStateM.run_bind, EStateM.run_modify] at h
    split at h
    · simp [fail_stmt] at h
    · rename_i x hexecute
      exact ⟨_, x, hexecute⟩

theorem mysql_stmt_param_count_ok {n : Nat} (hst : m.stmts k = some st)
    (h : (mysql_stmt_param_count (some k)).run m = .ok n m') : n = st.param_count ∧ m' = m := by
  rw [mysql_stmt_param_count, run_bind_ok (deref_run hst)] at h
  cases h
  exact ⟨rfl, rfl⟩

theorem mysql_stmt_result_metadata_ok {spec : Option MYSQL_RES} (hst : m.stmts k = some st)
    (h : (mysql_stmt_result_metadata (some k)).run m = .ok spec m') : m'.stmts = m.stmts := by
  rw [mysql_stmt_result_metadata, run_bind_ok (deref_run hst)] at h
  cases hfields : st.fields with
  | none =>
      simp only [hfields] at h
      cases h
      rfl
  | some fields =>
      simp only [hfields] at h
      cases h
      rfl

theorem execute_accepted {s u : Obj MariaResultPrep} (hk : s.self.pStatement_ = some k)
    (hst : s.mysql.stmts k = some st) (h : (MariaResultPrep.execute srv).run s = .ok () u) :
    ∃ tick x, srv.execute tick st.sql st.params = .ok x := by
  obtain ⟨_, v, hmodify, h⟩ := of_run_bind_ok h
  cases hmodify
  obtain ⟨_, _, hget, h⟩ := of_run_bind_ok h
  cases hget
  obtain ⟨status, v, hexecute, h⟩ := of_run_bind_ok h
  have hlib := (of_lib_ok hexecute).1
  dsimp only at hlib
  rw [hk] at hlib
  split at h
  · exact absurd h MariaResultPrep.throw_error_ne_ok
  · rename_i hstatus
    rw [Classical.not_not.mp hstatus] at hlib
    exact mysql_stmt_execute_ok hst hlib

theorem send_query_accepted {s u : Obj MariaResultPrep} (hk : s.self.pStatement_ = some k)
    (hst : s.mysql.stmts k = some {}) (h : (MariaResultPrep.send_query srv sql).run s = .ok () u) :
    Accepted srv sql := by
  obtain ⟨_, _, hget, h⟩ := of_run_bind_ok h
  cases hget
  obtain ⟨status, v, hprepare, h⟩ := of_run_bind_ok h
  obtain ⟨hprepare, hself⟩ := of_lib_ok hprepare
  rw [hk] at hprepare h
  split at h
  · obtain ⟨errno, _, -, h⟩ := of_run_bind_ok h
    split at h
    · cases h
    · exact absurd h MariaResultPrep.throw_error_ne_ok
  rename_i hstatus
  rw [Classical.not_not.mp hstatus] at hprepare
  obtain ⟨tick, p, hanswer, hst⟩ := mysql_stmt_prepare_ok hst hprepare
  obtain ⟨nParams, x, hcount, h⟩ := of_run_bind_ok h
  obtain ⟨hcount, hx⟩ := of_lib_ok hcount
  obtain ⟨hn, hsame⟩ := mysql_stmt_param_count_ok hst hcount
  rw [← hsame] at hst
  obtain ⟨_, x', hset, h⟩ := of_run_bind_ok h
  obtain ⟨hx', hsame⟩ := of_modifySelf_ok hset
  rw [← hsame] at hst
  obtain ⟨spec, y, hmetadata, h⟩ := of_run_bind_ok h
  obtain ⟨hmetadata, hy⟩ := of_lib_ok hmetadata
  rw [← mysql_stmt_result_metadata_ok hst hmetadata] at hst
  obtain ⟨_, z, hspec, h⟩ := of_run_bind_ok h
  obtain ⟨hz, hsame⟩ := of_modifySelf_ok hspec
  rw [← hsame] at hst
  refine .prepared hanswer fun hnone => ?_
  rw [if_pos (hn.trans hnone)] at h
  obtain ⟨_, _, hexecute, -⟩ := of_run_bind_ok h
  refine execute_accepted ?_ hst hexecute
  rw [hz, hy, hx', hx, hself]
  exact hk

-- A result object that was created has sent its statement.
theorem answered_accepted {d : Done} (h : (answered srv m sql).first = .ok d) : Accepted srv sql := by
  rw [answered] at h
  split at h
  · cases h
  · exact .queried h

theorem exec_accepted {s u : Shared} {b : Bool} (h : (DbConnection.exec srv sql).run s = .ok b u) :
    Accepted srv sql := by
  obtain ⟨_, v, -, h⟩ := of_run_bind_ok h
  obtain ⟨status, x, hquery, h⟩ := of_run_bind_ok h
  rw [onMysql_run] at hquery
  cases hanswer : (answered srv v.mysql sql).first with
  | ok d => exact answered_accepted hanswer
  | error f =>
      rw [mysql_real_query_fails hanswer] at hquery
      cases hquery
      obtain ⟨_, _, -, h⟩ := of_run_bind_ok h
      cases h

theorem try_prepared_accepted {is_statement b : Bool} {r : Nat}
    (h : (try_prepared srv r sql is_statement).run w = .ok b t) : b = false ∧ Accepted srv sql := by
  obtain ⟨res, u, hprepared, h⟩ := of_run_bind_ok h
  rw [onNew, run_zoom] at hprepared
  cases hrun : (prepared srv sql is_statement).run ⟨w.toShared, {}⟩ with
  | error e v =>
      rw [hrun] at hprepared
      cases hprepared
  | ok p v =>
      obtain ⟨_, _, -, h⟩ := of_run_bind_ok h
      cases h
      have hsend := (MariaResultPrep.prepared_sent hrun).2
      exact ⟨rfl, send_query_accepted rfl (Function.update_self ..) hsend⟩

theorem send_simple_accepted {r : Nat} (h : (do
    onConnection (MariaResultSimple.send_query srv sql)
    set_impl r .simple : EStateM Exc World Unit).run w = .ok () t) : Accepted srv sql := by
  obtain ⟨_, u, hsend, -⟩ := of_run_bind_ok h
  rw [onConnection_run] at hsend
  cases hrun : (MariaResultSimple.send_query srv sql).run w.toShared with
  | ok a x =>
      obtain ⟨b, _, hexec, -⟩ := of_run_bind_ok hrun
      exact exec_accepted hexec
  | error e x =>
      rw [hrun] at hsend
      cases hsend

-- A statement that cannot be prepared is sent as it is.
theorem construct_accepted {is_statement immediate : Bool} {r : Nat}
    (h : (construct srv r sql is_statement immediate).run w = .ok () t) : Accepted srv sql := by
  rw [construct] at h
  cases immediate with
  | true => exact send_simple_accepted h
  | false =>
      simp only [Bool.false_eq_true, if_false] at h
      rw [EStateM.run_bind, run_tryCatch] at h
      cases hrun : (try_prepared srv r sql is_statement).run w with
      | ok now u => exact (try_prepared_accepted hrun).2
      | error e u =>
          simp only [hrun] at h
          by_cases he : e = .unsupportedPS
          · simp only [he, if_true, EStateM.run_pure] at h
            exact send_simple_accepted h
          · simp only [he, if_false, run_throw] at h
            cases h

theorem create_accepted {is_statement immediate : Bool} {r : Nat}
    (h : (create srv sql is_statement immediate).run w = .ok r t) : Accepted srv sql := by
  obtain ⟨_, _, -, h⟩ := of_run_bind_ok h
  obtain ⟨_, _, -, h⟩ := of_run_bind_ok h
  obtain ⟨_, _, -, h⟩ := of_run_bind_ok h
  obtain ⟨_, u, -, h⟩ := of_run_bind_ok h
  obtain ⟨_, v, hconstruct, h⟩ := of_run_bind_ok h
  exact construct_accepted (of_run_onError_ok hconstruct)

variable {client : Client}

theorem dbSend_accepted {statement : Text} {params : Option Params} {is_statement immediate : Bool}
    {r : Nat} (h : (dbSend srv client statement params is_statement immediate).run w = .ok r t) :
    Accepted srv (String.ofList statement) := by
  obtain ⟨_, u, hcreate, -⟩ := of_run_bind_ok h
  rw [run_map, call, onOpen_run] at hcreate
  by_cases hreleased : w.released = true
  · rw [if_pos hreleased] at hcreate
    cases hcreate
  · rw [if_neg hreleased, run_map] at hcreate
    cases hrun : (create srv (String.ofList statement) is_statement immediate).run w with
    | ok r v => exact create_accepted hrun
    | error e v =>
        rw [hrun] at hcreate
        cases hcreate

theorem dbExecute_accepted {statement : Text} {params : Option Params} {immediate : Bool} {n : ℤ}
    (h : (Functions.dbExecute srv client statement params immediate).run w = .ok n t) :
    Accepted srv (String.ofList statement) := by
  obtain ⟨_, _, hsend, -⟩ := of_run_bind_ok h
  exact dbSend_accepted hsend

theorem dbGetQuery_accepted {statement : Text} {params : Option Params} {n : List Double} {fuel : Nat}
    {df : DataFrame} (h : (dbGetQuery srv client statement params n fuel).run w = .ok df t) :
    Accepted srv (String.ofList statement) := by
  obtain ⟨_, _, hsend, -⟩ := of_run_bind_ok h
  exact dbSend_accepted hsend

end Accepted

section Live

-- A connection without a transaction, between the calls of functions
structure AtRest (srv : Server) (w : World) : Prop extends Resting srv Ledger.WellFormed w where
  out : transacting w = false

theorem atRest_lasting : Lasting srv (AtRest srv) where
  sound := fun _ hw => ⟨hw.opened.sound, hw.opened.whole⟩
  serves := fun w t hw h => ⟨(resting_lasting wellFormed_sticks).serves w t hw.toResting h,
    h.quiet.transacting.trans hw.out⟩

theorem atRest_new : AtRest srv {} := ⟨resting_new, rfl⟩

-- The connected handle with such a connection
structure Live (env : Environment) (args : Arguments) (s : Session) : Prop where
  handle : Reached env.mysql args s.connecting
  world : ∃ w, s.world = some w ∧ AtRest env.srv w

variable {env : Environment} {args : Arguments} {A : α → Prop}

abbrev Lives (env : Environment) (args : Arguments) (A : α → Prop) (m : EStateM Exc Session α) : Prop :=
  Spec (Live env args) m (fun a s => A a ∧ Live env args s) fun e s => e.Ends = false → Live env args s

theorem onWorld_lives {m : EStateM Exc World α} (hm : Lasts (AtRest env.srv) m)
    (hA : ∀ w a t, m.run w = .ok a t → A a) : Lives env args A (onWorld m) := by
  intro s hs
  obtain ⟨w, hw, hrest⟩ := hs.world
  have h := hm w hrest
  have hrun : (onWorld m).run s =
      (zoom (fun _ => w) (fun t s => { s with world := some t }) m).run s := by
    rw [onWorld, EStateM.run_bind, EStateM.run_get]
    simp only [hw]
  rw [hrun, run_zoom]
  cases hresult : m.run w with
  | ok a t =>
      rw [hresult] at h
      exact ⟨hA w a t hresult, hs.handle, t, rfl, h⟩
  | error e t =>
      rw [hresult] at h
      exact fun hends => ⟨hs.handle, t, rfl, h hends⟩

theorem dbExecute_lives (statement : Text) :
    Lives env args (fun _ => Accepted env.srv (String.ofList statement)) (dbExecute env statement) :=
  onWorld_lives (dbExecute_lasts atRest_lasting statement none false) fun _ _ _ => dbExecute_accepted

theorem warn_lives (messages : List String) : Lives env args (fun _ => True) (warn messages) :=
  fun _ hs => ⟨trivial, ⟨hs.handle.open_, hs.handle.attempt⟩, hs.world⟩

theorem Lives.bind {β : Type} {B : β → Prop} {m : EStateM Exc Session α} {f : α → EStateM Exc Session β}
    (hm : Lives env args A m) (hf : ∀ a, A a → Lives env args B (f a)) : Lives env args B (m >>= f) :=
  Spec.bind hm fun a s hs => hf a hs.1 s hs.2

theorem Lives.pure {a : α} (ha : A a) : Lives env args A (pure a) := fun _ hs => ⟨ha, hs⟩

theorem Lives.throw (e : Exc) : Lives env args A (throw e : EStateM Exc Session α) := fun _ hs _ => hs

theorem Lives.liftM (x : Except Exc α) :
    Lives env args (fun a => x = .ok a) (liftM x : EStateM Exc Session α) := by
  cases x with
  | ok a => exact Lives.pure rfl
  | error e => exact Lives.throw e

-- What the time zone of the session comes from
def Chosen (env : Environment) (asked : Option String) (timezone : String) : Prop :=
  match asked with
  | some asked => timezone = asked ∧ ∃ quoted, dbQuoteString_one env.lib asked.toList = .ok quoted ∧
      Accepted env.srv (String.ofList (set_time_zone_sql quoted))
  | none => Accepted env.srv (String.ofList session_time_zone_sql)

theorem server_time_zone_lives (fuel : Nat) :
    Lives env args (Chosen env none) (server_time_zone env fuel) := by
  apply Lives.bind (onWorld_lives (dbGetQuery_lasts atRest_lasting _ none Functions.all_rows fuel)
    fun _ _ _ => dbGetQuery_accepted)
  intro df haccepted
  apply (Lives.liftM (only_cell df)).bind
  intro cell _
  cases cell with
  | str x =>
      cases x with
      | some s => exact Lives.pure haccepted
      | none => exact Lives.throw _
  | _ => exact Lives.throw _

theorem choose_time_zone_lives (asked : Option String) (fuel : Nat) :
    Lives env args (Chosen env asked) (choose_time_zone env asked fuel) := by
  cases asked with
  | none => exact server_time_zone_lives fuel
  | some asked =>
      apply (Lives.liftM (dbQuoteString_one env.lib asked.toList)).bind
      intro quoted hquoted
      apply (dbExecute_lives _).bind
      exact fun _ haccepted => Lives.pure ⟨rfl, quoted, hquoted, haccepted⟩

-- What was sent before the connection is returned, and the zones that come of it
structure SetUp (env : Environment) (a : ConnectArgs) (zones : Timezone.Zones) : Prop where
  chosen : ∃ timezone, Chosen env a.timezone timezone ∧ zones.timezone = Timezone.normalized timezone
  out : zones.timezone_out = (a.timezone_out.map Timezone.normalized).getD zones.timezone
  autocommit : Accepted env.srv (String.ofList autocommit_sql)

theorem set_up_lives (a : ConnectArgs) (fuel : Nat) :
    Lives env args (SetUp env a) (set_up env a fuel) := by
  apply (choose_time_zone_lives a.timezone fuel).bind
  intro timezone hchosen
  apply (warn_lives _).bind
  intro _ _
  apply (warn_lives _).bind
  intro _ _
  apply (dbExecute_lives autocommit_sql).bind
  intro _ haccepted
  refine Lives.pure ⟨⟨timezone, hchosen, rfl⟩, ?_, haccepted⟩
  cases a.timezone_out with
  | none => rfl
  | some zone => rfl

end Live

section Connected

-- Nothing is open: no handle, and nothing of a connection.
def Shut (s : Session) : Prop :=
  match s.world with
  | none => s.connecting.pConn_ = false ∧
      (phase s.connecting.calls = some .unborn ∨ phase s.connecting.calls = some .closed)
  | some w => w.released = true ∧ w.conn.pConn_ = false ∧ w.mysql.connected = false ∧
      (∀ k, w.mysql.stmts k = none) ∧ w.mysql.metas = []

-- A connection that is returned
structure Established (env : Environment) (a : ConnectArgs) (conn : Connection) (s : Session) :
    Prop where
  handle : ∃ args, create_args env a = .ok args ∧ Reached env.mysql args s.connecting
  set_up : SetUp env a conn.zones
  world : ∃ w, s.world = some w ∧ transacting w = false ∧
    ∀ v, Reaches (Functions.step env.srv) (fun _ _ => True) w v → Calm env.srv v

variable {env : Environment} {args : Arguments}

theorem GivenUp.phase {mysql : ClientLibrary} {e : Exc} {s : Connecting} (h : GivenUp mysql args e s) :
    phase s.calls = some .closed := by
  rcases h.calls with ⟨before, hcalls, hphase⟩ | ⟨before, endpoint, f, hcalls, hattempted, -, -⟩
  · rw [hcalls, phase_append, hphase]
    rfl
  · have hsplit : before ++ [.mysql_real_connect endpoint, .mysql_close] =
        (before ++ [.mysql_real_connect endpoint]) ++ [.mysql_close] := by
      rw [List.append_assoc]
      rfl
    rw [hcalls, hsplit, phase_append, phase_append, hattempted.configured]
    rfl

-- The connection is released when something fails after it was made.
theorem dbDisconnect_shuts :
    Spec (Live env args) (dbDisconnect env) (fun _ => Shut) fun _ _ => False := by
  intro s hs
  obtain ⟨w, hw, hrest⟩ := hs.world
  obtain ⟨warnings, hrun⟩ := disconnect_run env.srv w
  rw [if_pos ⟨hrest.opened.released, hrest.opened.valid⟩] at hrun
  have hfree := free_of_idle hrest.opened.sound hrest.idle
  simp only [dbDisconnect, onWorld, EStateM.run_bind, EStateM.run_get, hw, run_zoom, hrun,
    EStateM.run_pure]
  exact ⟨rfl, rfl, rfl, hfree.stmts, hfree.metas⟩

theorem connected_spec (a : ConnectArgs) (fuel : Nat) : Spec (Live env args)
    (onError Exc.Ends (set_up env a fuel) (dbDisconnect env))
    (fun zones s => SetUp env a zones ∧ Live env args s) fun e s => e.Ends = false → Shut s := by
  apply Spec.onError (set_up_lives a fuel)
  · intro e s hends _ hnot
    rw [hends] at hnot
    cases hnot
  · intro e hends s hs
    have h := dbDisconnect_shuts s (hs hends)
    split at h
    · exact fun _ => h
    · exact h.elim

-- Before the handle is there
structure Unconnected (s : Session) : Prop where
  world : s.world = none
  pConn_ : s.connecting.pConn_ = false
  calls : s.connecting.calls = []

theorem Unconnected.shut {s : Session} (h : Unconnected s) : Shut s := by
  rw [Shut, h.world, h.calls]
  exact ⟨h.pConn_, .inl rfl⟩

theorem warn_unconnected (messages : List String) {E : Exc → Session → Prop} :
    Spec Unconnected (warn messages) (fun _ => Unconnected) E := fun _ hs =>
  ⟨hs.world, hs.pConn_, hs.calls⟩

-- The handle, and then the connection around it
variable (env args) in
theorem onConnecting_live : Spec Unconnected (onConnecting (connection_create env.mysql args))
    (fun _ s => Live env args { s with world := some {} }) fun e s => e.Ends = false → Shut s := by
  intro s hs
  rw [onConnecting, run_zoom]
  cases hinit : env.mysql.init with
  | false =>
      obtain ⟨t, hrun⟩ := connection_create_null hinit args s.connecting
      rw [hrun]
      exact fun hnot => by cases hnot
  | true =>
      have h := connection_create_reaches hinit args s.connecting hs.calls
      cases hrun : (connection_create env.mysql args).run s.connecting with
      | ok _ t =>
          rw [hrun] at h
          exact ⟨h, {}, rfl, atRest_new⟩
      | error e t =>
          rw [hrun] at h
          intro _
          rw [Shut, hs.world]
          exact ⟨h.closed, .inr h.phase⟩

theorem dbConnect_spec (a : ConnectArgs) (fuel : Nat) : Spec Unconnected (dbConnect env a fuel)
    (fun conn => Established env a conn) fun e s => e.Ends = false → Shut s := by
  refine Spec.bind (Q := fun args s => create_args env a = .ok args ∧ Unconnected s) ?_ fun args => ?_
  · intro s hs
    rw [run_liftM]
    cases create_args env a with
    | ok args => exact ⟨rfl, hs⟩
    | error e => exact fun _ => hs.shut
  · refine Spec.ite (fun _ => Spec.throw fun s hs _ => hs.2.shut) fun _ s hs => ?_
    obtain ⟨hargs, hs⟩ := hs
    have hwarned : Spec Unconnected (if a.groups.isSome then
        warn ["Argument \x60groups\x60 is deprecated, use \x60group\x60 instead. "] else pure ())
        (fun _ => Unconnected) fun e s => e.Ends = false → Shut s :=
      Spec.ite (fun _ => warn_unconnected _) fun _ => Spec.pure fun _ => id
    refine Spec.bind hwarned (fun _ => ?_) s hs
    refine Spec.bind (onConnecting_live env args) fun _ => ?_
    refine Spec.bind (Q := fun _ => Live env args) (Spec.modify fun _ => id) fun _ => ?_
    refine Spec.bind (connected_spec a fuel) fun zones => Spec.pure fun s hs => ?_
    obtain ⟨hset, hlive⟩ := hs
    obtain ⟨w, hw, hrest⟩ := hlive.world
    refine ⟨⟨args, hargs, hlive.handle⟩, hset, w, hw, hrest.out, fun v hv => ?_⟩
    exact (reaches_resting wellFormed_sticks hv hrest.toResting).calm

-- Whatever is asked for and whatever the server, the client library and R's functions answer: what
-- is returned is a connection on which the time zone and autocommit = 0 were accepted, without a
-- transaction and calm between all calls that follow; after an error nothing is open.
theorem dbConnect_or_nothing_open (env : Environment) (a : ConnectArgs) (fuel : Nat) :
    match (dbConnect env a fuel).run {} with
    | .ok conn s => Established env a conn s
    | .error e s => e.Ends = false → Shut s := by
  have h := @dbConnect_spec env a fuel {} ⟨rfl, rfl, rfl⟩
  cases hrun : (dbConnect env a fuel).run {} with
  | ok conn s =>
      rw [hrun] at h
      exact h
  | error e s =>
      rw [hrun] at h
      exact h

end Connected

end RMariaDB.Connect
