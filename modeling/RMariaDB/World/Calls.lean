import RMariaDB.DbResult.Calls
import RMariaDB.World.Sound

-- What each call from R leaves behind.

namespace RMariaDB

open Program MariaResultPrep

variable {srv : Server} {α β : Type}

namespace DbResult

-- Work on the current result. What is not a prepared statement only warns.
structure Working (s₀ s : Obj DbResult) : Prop where
  conn : s.conn = s₀.conn
  quiet : Quiet s₀.toShared s.toShared
  drained : DbConnection.Drained s.toShared
  whole : s.self.impl ≠ none
  ready : ∀ p, s.self.impl = some (.prep p) → Ready s.mysql p
  simple : (∀ p, s.self.impl ≠ some (.prep p)) → s.self.impl = s₀.self.impl ∧ s.mysql = s₀.mysql

def Works (m : EStateM Exc (Obj DbResult) α) : Prop :=
  ∀ s₀, Safe (Working s₀) (fun e => e ≠ .fault .handle) m

-- Nothing changes but the warnings.
structure Warned (s₀ s : Shared) : Prop where
  conn : s.conn = s₀.conn
  mysql : s.mysql = s₀.mysql

theorem Warned.quiet {s₀ s : Shared} (h : Warned s₀ s) : Quiet s₀ s := by
  refine ⟨by rw [h.conn], by rw [h.conn], ?_⟩
  rw [h.mysql]
  exact Ledger.Steps.refl _

theorem Working.warned {s₀ : Obj DbResult} {sh t : Shared} (hs : Working s₀ ⟨sh, ⟨some .simple⟩⟩)
    (h : Warned sh t) : Working s₀ ⟨t, ⟨some .simple⟩⟩ := by
  have hsimple := hs.simple fun p hp => by cases hp
  refine ⟨h.conn.trans hs.conn, hs.quiet.trans h.quiet, ?_, hs.whole, fun p hp => (by cases hp),
    fun _ => ⟨hsimple.1, h.mysql.trans hsimple.2⟩⟩
  rw [DbConnection.Drained, h.mysql]
  exact hs.drained

theorem Working.prepared {s₀ : Obj DbResult} {sh : Shared} {p : MariaResultPrep}
    {t : Obj MariaResultPrep} (hs : Working s₀ ⟨sh, ⟨some (.prep p)⟩⟩)
    (ht : Within true sh.conn sh.mysql (Wired [] p.pStatement_ fun _ _ => True) t)
    (hdescribed : Described t.self) : Working s₀ ⟨t.toShared, ⟨some (.prep t.self)⟩⟩ := by
  refine ⟨ht.conn.trans hs.conn, hs.quiet.trans (ht.mysql.quiet ht.conn), ?_, by simp, ?_,
    fun hnot => absurd rfl (hnot t.self)⟩
  · exact ⟨ht.mysql.more.trans hs.drained.1, ht.mysql.unstored.trans hs.drained.2⟩
  · rintro p' hp
    cases hp
    exact (hs.ready p rfl).works ht.mysql ht.self hdescribed

theorem onImpl_works {prep : EStateM Exc (Obj MariaResultPrep) α} {simple : EStateM Exc Shared α}
    (hprep : ∀ h, Method true h (Wired [] h fun _ _ => True) prep)
    (hcolumns : ∀ r₀, Persists (SameColumns false r₀) prep)
    (hsimple : ∀ s₀, Safe (Warned s₀) (fun e => e ≠ .fault .handle) simple) :
    Works (onImpl prep simple) := by
  intro s₀ s hs
  rw [onImpl, EStateM.run_bind, EStateM.run_get]
  obtain ⟨sh, ⟨impl⟩⟩ := s
  cases impl with
  | none => exact absurd rfl hs.whole
  | some impl =>
      cases impl with
      | simple =>
          have h := hsimple sh sh ⟨rfl, rfl⟩
          dsimp only
          rw [onShared_run]
          cases hrun : simple.run sh with
          | ok a t =>
              rw [hrun] at h
              exact hs.warned h
          | error e t =>
              rw [hrun] at h
              exact ⟨hs.warned h.1, h.2⟩
      | prep p =>
          have hready : Ready sh.mysql p := hs.ready p rfl
          have h := hprep p.pStatement_ sh.conn sh.mysql ⟨sh, p⟩ ⟨rfl, Touches.refl _, hready.wired⟩
          have hsame := hcolumns p sh.mysql ⟨sh, p⟩ ⟨SameBinds.refl _, SameColumns.refl p⟩
          dsimp only
          rw [run_zoom]
          cases hrun : prep.run ⟨sh, p⟩ with
          | ok a t =>
              rw [hrun] at h hsame
              exact hs.prepared h (hsame.2.described hready.described)
          | error e t =>
              rw [hrun] at h hsame
              exact ⟨hs.prepared h.1 (hsame.1.2.described hready.described), fun he => h.2 he hready.opened⟩

theorem bind_works (params : List SEXP) : Works (DbResult.bind srv params) := by
  intro s₀
  have himpl : Works (onImpl (MariaResultPrep.bind srv params) MariaResultSimple.bind) := by
    refine onImpl_works (fun h => ?_) (fun _ => bind_persists params) fun s₀ => Safe.throw (by simp)
    rw [bind_eq]
    exact (bind_params_method (fun _ _ _ => id) params).bind fun _ =>
      bind_rows_method srv (fun _ _ _ _ => id) fun _ _ => id
  refine Safe.bind (fun s hs => ?_) fun _ => himpl s₀
  by_cases hequal : EqualLengths params
  · rw [validate_params_run hequal]
    exact hs
  · obtain ⟨message, hrun⟩ := validate_params_stop (s := s) hequal
    rw [hrun]
    exact ⟨hs, by simp⟩

theorem fetch_works (this fuel : Nat) (n_max : ℤ) : Works (DbResult.fetch srv this fuel n_max) := by
  refine fun s₀ => Safe.get_bind fun s _ => Safe.ite (fun _ => Safe.throw (by simp)) fun _ => ?_
  refine onImpl_works (fun h => fetch_method (fun _ _ _ _ => id) fuel n_max)
    (fun _ => fetch_persists fuel n_max) (fun s₀ => ?_) s₀
  exact Safe.bind (Safe.modify fun _ hs => ⟨hs.conn, hs.mysql⟩) fun _ => Safe.pure _

-- What is read from the object alone.
theorem onImpl_read_works {prep : MariaResultPrep → Except Exc α} (simple : α)
    (hprep : ∀ p, Plain (prep p)) : Works (onImpl (do
      let s ← get
      liftM (prep s.self)) (pure simple)) :=
  onImpl_works (fun _ => Method.get_bind fun _ _ => Method.plain (hprep _))
    (fun _ => Persists.get_bind fun _ _ => Persists.plain _) fun _ => Safe.pure _

theorem n_rows_fetched_works : Works DbResult.n_rows_fetched :=
  onImpl_read_works (0 : ℤ) fun p => Plain.ok p.n_rows_fetched

theorem n_rows_affected_works : Works DbResult.n_rows_affected :=
  onImpl_read_works (0 : ℤ) fun p => Plain.ok p.n_rows_affected

theorem get_column_info_works : Works DbResult.get_column_info := by
  refine onImpl_read_works ([] : List (String × String)) fun p => Plain.mapM fun i _ => ?_
  exact (index_plain _ _).bind fun _ => (index_plain _ _).bind fun _ => Plain.ok _

end DbResult

namespace World

open DbResult

variable {w w' : World} {r : Nat} {x : DbResult}

theorem Keeps.map {m : EStateM Exc World α} (h : Keeps srv w m) (f : α → β) : Keeps srv w (f <$> m) := by
  unfold Keeps at h ⊢
  rw [run_map]
  cases hrun : m.run w with
  | ok a t =>
      rw [hrun] at h
      exact h
  | error e t =>
      rw [hrun] at h
      exact h

theorem Keeps.bind_pure {m : EStateM Exc World α} (h : Keeps srv w m) (b : β) : Keeps srv w (do
    let _ ← m
    Pure.pure b) := by
  unfold Keeps at h ⊢
  rw [EStateM.run_bind]
  cases hrun : m.run w with
  | ok a t =>
      rw [hrun] at h
      exact h
  | error e t =>
      rw [hrun] at h
      exact h

-- The current result was worked on, and the connection still points to it.
variable (srv) in
theorem onResult_works (hw : Sound w) (hwhole : Whole w) (hr : w.conn.pCurrentResult_ = some r)
    (hx : w.results r = some x) {m : EStateM Exc (Obj DbResult) α} (hm : Works m) :
    match (onResult r m).run w with
    | .ok _ t => Kept srv w t ∧ t.conn = w.conn
    | .error e t => (Kept srv w t ∧ t.conn = w.conn) ∧ e ≠ .fault .handle := by
  have himpl : x.impl ≠ none := by
    intro h
    obtain ⟨impl⟩ := x
    cases h
    exact hwhole r hx
  have hready : ∀ p, x.impl = some (.prep p) → Ready w.mysql p := fun p hp =>
    hw.ready p ⟨r, hr, by rw [hx, ← hp]⟩
  have hnone : (∀ p, x.impl ≠ some (.prep p)) → ∀ p, ¬Active w p := by
    rintro hprep p ⟨r', hr', hp⟩
    rw [hr] at hr'
    cases hr'
    rw [hx, Option.some.injEq] at hp
    exact hprep p (by rw [hp])
  have h := hm ⟨w.toShared, x⟩ ⟨w.toShared, x⟩
    ⟨rfl, Quiet.refl _, hw.drained, himpl, hready, fun _ => ⟨rfl, rfl⟩⟩
  have hend : ∀ t, Working ⟨w.toShared, x⟩ t → Kept srv w (w.store r t) := by
    intro t ht
    refine ⟨hw.store_current hr hx ht.conn ht.ready ht.drained fun hprep => ?_, hwhole.store ht.whole,
      ht.quiet, rfl, fun hsettled hactive => ?_⟩
    · obtain ⟨himpl, hmysql⟩ := ht.simple hprep
      rw [hmysql]
      exact hw.free (hnone fun p => himpl ▸ hprep p)
    · have hprep : ∀ p, t.self.impl ≠ some (.prep p) := fun p hp =>
        hactive p ((active_store hr ht.conn p).mpr hp)
      obtain ⟨himpl, hmysql⟩ := ht.simple hprep
      have hcommitted := hsettled (hnone fun p => himpl ▸ hprep p)
      intro hsrv htransacting hvalid
      change t.mysql.ledger.pending = []
      change t.conn.transacting_ = false at htransacting
      change t.conn.pConn_ = true at hvalid
      rw [ht.conn] at htransacting hvalid
      rw [hmysql]
      exact hcommitted hsrv htransacting hvalid
  rw [onResult_run hx]
  cases hrun : m.run ⟨w.toShared, x⟩ with
  | ok a t =>
      rw [hrun] at h
      exact ⟨hend t h, h.conn⟩
  | error e t =>
      rw [hrun] at h
      exact ⟨⟨hend t h.1, h.1.conn⟩, h.2⟩

theorem onResult_keeps (hw : Sound w) (hwhole : Whole w) (hr : w.conn.pCurrentResult_ = some r)
    (hx : w.results r = some x) {m : EStateM Exc (Obj DbResult) α} (hm : Works m) :
    Keeps srv w (onResult r m) := by
  have h := onResult_works srv hw hwhole hr hx hm
  rw [Keeps]
  cases hrun : (onResult r m).run w with
  | ok a t =>
      rw [hrun] at h
      exact h.1
  | error e t =>
      rw [hrun] at h
      exact ⟨h.2, fun _ => h.1.1⟩

section Stale

-- A call that changes nothing and uses no handle: it answers from what is stored, or
-- it raises an R error.
def Stays {σ : Type} (s : σ) (m : EStateM Exc σ α) : Prop :=
  match m.run s with
  | .ok _ t => t = s
  | .error e t => t = s ∧ ∃ message, e = .stop message

theorem Stays.map {σ : Type} {s : σ} {m : EStateM Exc σ α} (h : Stays s m) (f : α → β) :
    Stays s (f <$> m) := by
  unfold Stays at h ⊢
  rw [run_map]
  cases hrun : m.run s with
  | ok a t =>
      rw [hrun] at h
      exact h
  | error e t =>
      rw [hrun] at h
      exact h

theorem Stays.bind_pure {σ : Type} {s : σ} {m : EStateM Exc σ α} (h : Stays s m) (b : β) :
    Stays s (do
      let _ ← m
      Pure.pure b) := by
  unfold Stays at h ⊢
  rw [EStateM.run_bind]
  cases hrun : m.run s with
  | ok a t =>
      rw [hrun] at h
      exact h
  | error e t =>
      rw [hrun] at h
      exact h

theorem store_same (hx : w.results r = some x) : w.store r ⟨w.toShared, x⟩ = w := by
  simp only [store, ← hx, Function.update_eq_self]

theorem onResult_stays (hx : w.results r = some x) {m : EStateM Exc (Obj DbResult) α}
    (h : Stays ⟨w.toShared, x⟩ m) : Stays w (onResult r m) := by
  unfold Stays at h ⊢
  rw [onResult_run hx]
  cases hrun : m.run ⟨w.toShared, x⟩ with
  | ok a t =>
      rw [hrun] at h
      cases h
      exact store_same hx
  | error e t =>
      rw [hrun] at h
      obtain ⟨rfl, hstop⟩ := h
      exact ⟨store_same hx, hstop⟩

theorem Stays.keeps {m : EStateM Exc World α} (h : Stays w m) (hw : Sound w) (hwhole : Whole w) :
    Keeps srv w m := by
  unfold Stays at h
  unfold Keeps
  cases hrun : m.run w with
  | ok a t =>
      rw [hrun] at h
      cases h
      exact Kept.refl hw hwhole
  | error e t =>
      rw [hrun] at h
      obtain ⟨rfl, message, rfl⟩ := h
      exact ⟨by simp, fun _ => Kept.refl hw hwhole⟩

theorem onImpl_read_stays {s : Obj DbResult} {prep : MariaResultPrep → Except Exc α} (simple : α)
    (hs : s.self.impl ≠ none) (hprep : ∀ p, s.self.impl = some (.prep p) → ∃ a, prep p = .ok a) :
    Stays s (onImpl (do
      let s ← get
      liftM (prep s.self)) (Pure.pure simple)) := by
  obtain ⟨sh, ⟨impl⟩⟩ := s
  cases impl with
  | none => exact absurd rfl hs
  | some impl =>
      cases impl with
      | simple => exact rfl
      | prep p =>
          obtain ⟨a, ha⟩ := hprep p rfl
          simp [Stays, onImpl, ha]

-- A bind that nothing stops reaches the statement of a result that is not the current one.
def Stale (w : World) : Op → Prop
  | .bind r params => w.conn.pCurrentResult_ ≠ some r ∧ EqualLengths params ∧
      ∃ p, w.results r = some ⟨some (.prep p)⟩
  | _ => False

-- The public operations of DbResult.
def Op.on : Op → Option Nat
  | .bind r _ | .fetch r _ _ | .has_completed r | .rows_fetched r | .rows_affected r
  | .column_info r => some r
  | _ => none

variable (srv) in
theorem stale_faults (hw : Sound w) {op : Op} (h : Stale w op) :
    ∃ t, (call srv op).run w = .error (.fault .handle) t := by
  cases op with
  | bind r params =>
      obtain ⟨hr, hequal, p, hp⟩ := h
      have hclosed := hw.closed r p hr hp
      have hparams : ∃ t, (MariaResultPrep.bind srv params).run ⟨w.toShared, p⟩ =
          .error (.fault .handle) t := by
        simp [MariaResultPrep.bind, input, MariaBinding.setup, mysql_stmt_param_count,
          hclosed.statement, deref]
      obtain ⟨t, hparams⟩ := hparams
      have himpl : (DbResult.bind srv params).run (wrap ⟨w.toShared, p⟩) =
          .error (.fault .handle) (wrap t) := by
        rw [DbResult.bind, run_bind_ok (validate_params_run hequal), onImpl_run, hparams]
      have hresult : (onResult r (DbResult.bind srv params)).run w =
          .error (.fault .handle) (w.store r (wrap t)) := by
        rw [onResult_run hp]
        simp only [wrap] at himpl
        rw [himpl]
        rfl
      refine ⟨w.store r (wrap t), ?_⟩
      rw [call, onLive, EStateM.run_bind, EStateM.run_get]
      simp only [hp, Option.isNone_some, Bool.false_eq_true, if_false, run_bind_error hresult]
  | _ => exact h.elim

-- The other operations on a result that is not the current one.
theorem stale_stays (hw : Sound w) (hwhole : Whole w) {op : Op} (hon : op.on = some r)
    (hx : w.results r = some x) (hr : w.conn.pCurrentResult_ ≠ some r) (hstale : ¬Stale w op) :
    Stays w (call srv op) := by
  have himpl : x.impl ≠ none := by
    intro h
    obtain ⟨impl⟩ := x
    cases h
    exact hwhole r hx
  have hlive : ∀ m : EStateM Exc World Reply, Stays w m → Stays w (onLive r m) := by
    intro m hm
    unfold Stays at hm ⊢
    rw [onLive, EStateM.run_bind, EStateM.run_get]
    simp only [hx, Option.isNone_some, Bool.false_eq_true, if_false]
    exact hm
  have hdescribed : ∀ p, x.impl = some (.prep p) → Described p := by
    rintro p hp
    obtain ⟨impl⟩ := x
    cases hp
    exact (hw.closed r p hr hx).described
  cases op with
  | bind r' params =>
      obtain rfl : r' = r := Option.some.inj hon
      refine hlive _ (Stays.bind_pure (onResult_stays hx ?_) _)
      by_cases hequal : EqualLengths params
      · obtain ⟨impl⟩ := x
        cases impl with
        | none => exact absurd rfl himpl
        | some impl =>
            cases impl with
            | prep p => exact absurd ⟨hr, hequal, p, hx⟩ hstale
            | simple =>
                rw [Stays, DbResult.bind, run_bind_ok (validate_params_run hequal)]
                exact ⟨rfl, _, rfl⟩
      · obtain ⟨message, hrun⟩ := validate_params_stop (s := ⟨w.toShared, x⟩) hequal
        rw [Stays, DbResult.bind, run_bind_error hrun]
        exact ⟨rfl, message, rfl⟩
  | fetch r' n fuel =>
      obtain rfl : r' = r := Option.some.inj hon
      refine hlive _ (Stays.map (onResult_stays hx ?_) _)
      simp [Stays, DbResult.fetch, hr]
  | has_completed r' =>
      obtain rfl : r' = r := Option.some.inj hon
      exact hlive _ (onResult_stays hx rfl)
  | rows_fetched r' =>
      obtain rfl : r' = r := Option.some.inj hon
      refine hlive _ (Stays.map (onResult_stays hx ?_) _)
      exact onImpl_read_stays 0 himpl fun p _ =>
        (⟨_, rfl⟩ : ∃ a, (.ok p.n_rows_fetched : Except Exc ℤ) = .ok a)
  | rows_affected r' =>
      obtain rfl : r' = r := Option.some.inj hon
      refine hlive _ (Stays.map (onResult_stays hx ?_) _)
      exact onImpl_read_stays 0 himpl fun p _ =>
        (⟨_, rfl⟩ : ∃ a, (.ok p.n_rows_affected : Except Exc ℤ) = .ok a)
  | column_info r' =>
      obtain rfl : r' = r := Option.some.inj hon
      refine hlive _ (Stays.map (onResult_stays hx ?_) _)
      exact onImpl_read_stays [] himpl fun p hp => column_info_described (hdescribed p hp)
  | _ => cases hon

end Stale

section Calls

theorem onLive_keeps (hw : Sound w) (hwhole : Whole w) {m : EStateM Exc World Reply}
    (hm : ∀ x, w.results r = some x → Keeps srv w m) : Keeps srv w (onLive r m) := by
  rw [Keeps, onLive, EStateM.run_bind, EStateM.run_get]
  cases hx : w.results r with
  | none =>
      simp only [hx, Option.isNone_none, if_true, run_throw]
      exact ⟨by simp, fun _ => Kept.refl hw hwhole⟩
  | some x =>
      simp only [hx, Option.isNone_some, Bool.false_eq_true, if_false]
      exact hm x hx

theorem onOpen_keeps (hw : Sound w) (hwhole : Whole w) {message : String}
    {m : EStateM Exc World Reply} (hm : Keeps srv w m) : Keeps srv w (onOpen message m) := by
  rw [Keeps, onOpen, EStateM.run_bind, EStateM.run_get]
  cases hreleased : w.released with
  | true =>
      simp only [hreleased, if_true, run_throw]
      exact ⟨by simp, fun _ => Kept.refl hw hwhole⟩
  | false =>
      simp only [hreleased, Bool.false_eq_true, if_false]
      exact hm

-- The operations that decide on a transaction.
def Op.decides : Op → Bool
  | .begin_transaction | .commit | .rollback | .disconnect => true
  | _ => false

theorem release_keeps (hw : Sound w) (hwhole : Whole w) (r : Nat) :
    Keeps srv w (call srv (.release r)) := by
  rw [Keeps, call, EStateM.run_bind, EStateM.run_get]
  cases hx : w.results r with
  | none =>
      simp only [hx, Option.isSome_none, Bool.false_eq_true, if_false]
      exact Kept.refl hw hwhole
  | some x =>
      obtain ⟨w', hrun, hkept⟩ := destroy_run srv hw hx fun r' _ => hwhole r'
      simp only [hx, Option.isSome_some, if_true, run_bind_ok hrun]
      exact hkept

theorem call_keeps (hw : Sound w) (hwhole : Whole w) {op : Op} (hquiet : op.decides = false)
    (hstale : ¬Stale w op) : Keeps srv w (call srv op) := by
  have hon : ∀ {r : Nat} {m : EStateM Exc World Reply}, op.on = some r → call srv op = onLive r m →
      (∀ x, w.results r = some x → w.conn.pCurrentResult_ = some r → Keeps srv w m) →
      Keeps srv w (call srv op) := by
    intro r m hop hcall hm
    cases hx : w.results r with
    | none =>
        rw [hcall]
        refine onLive_keeps hw hwhole fun x hx' => ?_
        rw [hx] at hx'
        cases hx'
    | some x =>
        by_cases hr : w.conn.pCurrentResult_ = some r
        · rw [hcall]
          exact onLive_keeps hw hwhole fun x hx => hm x hx hr
        · exact (stale_stays hw hwhole hop hx hr hstale).keeps hw hwhole
  cases op with
  | create sql is_statement immediate =>
      exact onOpen_keeps hw hwhole ((create_run hw hwhole sql is_statement immediate).map _)
  | release r => exact release_keeps hw hwhole r
  | bind r params =>
      exact hon rfl rfl fun x hx hr => (onResult_keeps hw hwhole hr hx (bind_works params)).bind_pure _
  | fetch r n fuel =>
      exact hon rfl rfl fun x hx hr => (onResult_keeps hw hwhole hr hx (fetch_works r fuel n)).map _
  | has_completed r =>
      exact hon rfl rfl fun x hx hr => onResult_keeps hw hwhole hr hx fun _ =>
        Safe.get_bind fun _ _ => Safe.pure _
  | rows_fetched r =>
      exact hon rfl rfl fun x hx hr => (onResult_keeps hw hwhole hr hx n_rows_fetched_works).map _
  | rows_affected r =>
      exact hon rfl rfl fun x hx hr => (onResult_keeps hw hwhole hr hx n_rows_affected_works).map _
  | column_info r =>
      exact hon rfl rfl fun x hx hr => (onResult_keeps hw hwhole hr hx get_column_info_works).map _
  | valid r => exact Kept.refl hw hwhole
  | is_transacting => exact onOpen_keeps hw hwhole (Kept.refl hw hwhole)
  | begin_transaction => cases hquiet
  | commit => cases hquiet
  | rollback => cases hquiet
  | disconnect => cases hquiet

end Calls

section Transactions

theorem onOpen_run (message : String) (m : EStateM Exc World Reply) (w : World) :
    (onOpen message m).run w = if w.released then .error (.stop message) w else m.run w := by
  rw [onOpen, EStateM.run_bind, EStateM.run_get]
  by_cases hreleased : w.released
  · rw [if_pos hreleased]
    exact congrArg (fun m => EStateM.run m w) (if_pos hreleased)
  · rw [if_neg hreleased]
    exact congrArg (fun m => EStateM.run m w) (if_neg hreleased)

def begun (w : World) : World := { w with conn.transacting_ := true }

-- After COMMIT or ROLLBACK, whether the server accepted it or not.
def ended (srv : Server) (f : Ledger → Ledger) (w : World) : World :=
  { w with mysql := w.mysql.after_end srv f, conn.transacting_ := false }

def disconnected (w : World) : World :=
  { w with
    mysql := { w.mysql with
      connected := false, ledger := w.mysql.ledger.discard, reading := none, more := [],
      unstored := false }
    conn.pConn_ := false
    released := true }

-- A method that needs a connection which is within a transaction, or not, and changes nothing
-- without one.
def Guarded (b : Bool) (f : Shared → Shared) (m : EStateM Exc Shared Unit) : Prop :=
  ∀ s, (s.conn.transacting_ = b ∧ s.conn.pConn_ = true) ∧ m.run s = .ok () (f s) ∨
    ¬(s.conn.transacting_ = b ∧ s.conn.pConn_ = true) ∧ ∃ message, m.run s = .error (.stop message) s

theorem begin_transaction_guarded : Guarded false
    (fun s => { s with conn.transacting_ := true }) DbConnection.begin_transaction := by
  intro s
  by_cases htransacting : s.conn.transacting_
  · refine .inr ⟨fun h => ?_, "Nested transactions not supported.", ?_⟩
    · exact absurd (htransacting.symm.trans h.1) (by decide)
    · simp [DbConnection.begin_transaction, DbConnection.is_transacting, htransacting]
  · by_cases hvalid : s.conn.pConn_
    · refine .inl ⟨⟨Bool.eq_false_of_not_eq_true htransacting, hvalid⟩, ?_⟩
      simp [DbConnection.begin_transaction, DbConnection.is_transacting, htransacting,
        DbConnection.check_connection, DbConnection.is_valid, hvalid, DbConnection.set_transacting]
    · refine .inr ⟨fun h => hvalid h.2, "Invalid or closed connection", ?_⟩
      simp [DbConnection.begin_transaction, DbConnection.is_transacting, htransacting,
        DbConnection.check_connection, DbConnection.is_valid, hvalid]

-- What commit() and rollback() have in common
def end_transaction (srv : Server) (f : Ledger → Ledger) : EStateM Exc Shared Unit := do
  if ← DbConnection.is_transacting then do
    DbConnection.check_connection
    let _ ← onMysql (mysql_end srv f)
    DbConnection.set_transacting false
  else
    throw (.stop "Call dbBegin() to start a transaction.")

theorem end_transaction_guarded (f : Ledger → Ledger) : Guarded true
    (fun s => { s with mysql := s.mysql.after_end srv f, conn.transacting_ := false })
    (end_transaction srv f) := by
  intro s
  by_cases htransacting : s.conn.transacting_
  · by_cases hvalid : s.conn.pConn_
    · refine .inl ⟨⟨htransacting, hvalid⟩, ?_⟩
      simp [end_transaction, DbConnection.is_transacting, htransacting,
        DbConnection.check_connection, DbConnection.is_valid, hvalid, mysql_end_run,
        DbConnection.set_transacting]
    · refine .inr ⟨fun h => hvalid h.2, "Invalid or closed connection", ?_⟩
      simp [end_transaction, DbConnection.is_transacting, htransacting,
        DbConnection.check_connection, DbConnection.is_valid, hvalid]
  · refine .inr ⟨fun h => htransacting h.1, "Call dbBegin() to start a transaction.", ?_⟩
    simp [end_transaction, DbConnection.is_transacting, htransacting]

theorem Guarded.call {b : Bool} {f : Shared → Shared} {m : EStateM Exc Shared Unit}
    (hm : Guarded b f m) (message : String) (w : World) :
    (w.released = false ∧ w.conn.transacting_ = b ∧ w.conn.pConn_ = true) ∧
        (onOpen message do
          onConnection m
          pure .done).run w = .ok .done { w with toShared := f w.toShared } ∨
      ¬(w.released = false ∧ w.conn.transacting_ = b ∧ w.conn.pConn_ = true) ∧
        ∃ message', (onOpen message do
          onConnection m
          pure .done).run w = .error (.stop message') w := by
  rw [onOpen_run]
  by_cases hreleased : w.released = true
  · rw [if_pos hreleased]
    exact .inr ⟨fun h => absurd (hreleased.symm.trans h.1) (by decide), message, rfl⟩
  · rw [if_neg hreleased, EStateM.run_bind, onConnection_run]
    rcases hm w.toShared with ⟨hready, hrun⟩ | ⟨hnot, message', hrun⟩
    · rw [hrun]
      exact .inl ⟨⟨Bool.eq_false_of_not_eq_true hreleased, hready⟩, rfl⟩
    · rw [hrun]
      exact .inr ⟨fun h => hnot h.2, message', rfl⟩

-- What a call that decides on a transaction does when it returns.
def decided (srv : Server) : Op → World → World
  | .begin_transaction, w => w.begun
  | .commit, w => w.ended srv Ledger.commit
  | .rollback, w => w.ended srv Ledger.discard
  | .disconnect, w => w.disconnected
  | _, w => w

-- When it does so; otherwise it raises an error and nothing changes.
def Decides (w : World) : Op → Prop
  | .begin_transaction =>
      w.released = false ∧ w.conn.transacting_ = false ∧ w.conn.pConn_ = true
  | .commit | .rollback =>
      w.released = false ∧ w.conn.transacting_ = true ∧ w.conn.pConn_ = true
  | _ => False

variable (srv) in
theorem decides_run (op : Op) (hop : op = .begin_transaction ∨ op = .commit ∨ op = .rollback)
    (w : World) : Decides w op ∧ (call srv op).run w = .ok .done (decided srv op w) ∨
      ¬Decides w op ∧ ∃ message, (call srv op).run w = .error (.stop message) w := by
  rcases hop with rfl | rfl | rfl
  · exact begin_transaction_guarded.call "bad_weak_ptr" w
  · exact (end_transaction_guarded Ledger.commit).call "bad_weak_ptr" w
  · exact (end_transaction_guarded Ledger.discard).call "bad_weak_ptr" w

-- Whether a call returns normally.
def returned (srv : Server) (op : Op) (w : World) : Bool :=
  match (call srv op).run w with
  | .ok _ _ => true
  | .error _ _ => false

theorem returned_iff {op : Op} (hop : op = .begin_transaction ∨ op = .commit ∨ op = .rollback) :
    returned srv op w = true ↔ Decides w op := by
  rcases decides_run srv op hop w with ⟨hdecides, hrun⟩ | ⟨hnot, message, hrun⟩
  · simp [returned, hrun, hdecides]
  · simp [returned, hrun, hnot]

variable (srv) in
theorem disconnect_run (w : World) : ∃ warnings,
    (call srv .disconnect).run w = .ok .done
      (if w.released = false ∧ w.conn.pConn_ = true then { w.disconnected with warnings := warnings }
      else { w with warnings := warnings }) := by
  rw [call, EStateM.run_bind, EStateM.run_get]
  cases hreleased : w.released with
  | true => exact ⟨_, by simp [hreleased, onConnection_run, warning]; rfl⟩
  | false =>
      cases hvalid : w.conn.pConn_ with
      | false => exact ⟨_, by simp [hreleased, hvalid, onConnection_run, warning]; rfl⟩
      | true =>
          cases hquery : w.conn.pCurrentResult_ with
          | none =>
              refine ⟨w.warnings, ?_⟩
              simp [hreleased, hvalid, hquery, onConnection_run, warning, DbConnection.disconnect,
                DbConnection.is_valid, DbConnection.has_query, mysql_close, disconnected]
          | some r =>
              refine ⟨w.warnings ++ ["There is a result object still in use.\n" ++
                "The connection will be automatically released when it is closed"], ?_⟩
              simp [hreleased, hvalid, hquery, onConnection_run, warning, DbConnection.disconnect,
                DbConnection.is_valid, DbConnection.has_query, mysql_close, disconnected]

-- What one call from R can do to the connection.
inductive Change (srv : Server) (w : World) : Op → World → Prop where
  | keeps {op : Op} {w' : World} (hnot : ¬Decides w op) (hkept : Kept srv w w') : Change srv w op w'
  | decides {op : Op} (h : Decides w op) : Change srv w op (decided srv op w)
  | disconnect (warnings : List String) (hreleased : w.released = false)
      (hvalid : w.conn.pConn_ = true) :
      Change srv w .disconnect { w.disconnected with warnings := warnings }

theorem warned_kept (hw : Sound w) (hwhole : Whole w) (warnings : List String) :
    Kept srv w { w with warnings := warnings } :=
  ⟨hw.share rfl ⟨rfl, rfl, fun _ => id⟩ hw.drained, hwhole, ⟨rfl, rfl, Ledger.Steps.refl _⟩, rfl, id⟩

theorem step_change {op : Op} (hw : Sound w) (hwhole : Whole w) (h : step srv op w = some w') :
    Change srv w op w' := by
  have hkept : ¬Decides w op → Keeps srv w (call srv op) → Change srv w op w' := by
    intro hnot hkeeps
    refine .keeps hnot ?_
    rw [Keeps] at hkeeps
    cases hrun : (call srv op).run w with
    | ok a t =>
        rw [hrun] at hkeeps
        simp only [step, after, hrun, Option.some.injEq] at h
        rwa [← h]
    | error e t =>
        rw [hrun] at hkeeps
        obtain ⟨hends, rfl⟩ := after_error hrun h
        exact hkeeps.2 hends
  have hdecide : op = .begin_transaction ∨ op = .commit ∨ op = .rollback → Change srv w op w' := by
    intro hop
    rcases decides_run srv op hop w with ⟨hdecides, hrun⟩ | ⟨hnot, message, hrun⟩
    · simp only [step, after, hrun, Option.some.injEq] at h
      rw [← h]
      exact .decides hdecides
    · rw [(after_error hrun h).2]
      exact .keeps hnot (Kept.refl hw hwhole)
  by_cases hstale : Stale w op
  · obtain ⟨t, hrun⟩ := stale_faults srv hw hstale
    cases (after_error hrun h).1
  cases op with
  | begin_transaction => exact hdecide (.inl rfl)
  | commit => exact hdecide (.inr (.inl rfl))
  | rollback => exact hdecide (.inr (.inr rfl))
  | disconnect =>
      obtain ⟨warnings, hrun⟩ := disconnect_run srv w
      simp only [step, after, hrun, Option.some.injEq] at h
      by_cases hopen : w.released = false ∧ w.conn.pConn_ = true
      · rw [if_pos hopen] at h
        rw [← h]
        exact .disconnect warnings hopen.1 hopen.2
      · rw [if_neg hopen] at h
        rw [← h]
        exact .keeps id (warned_kept hw hwhole warnings)
  | _ => exact hkept id (call_keeps hw hwhole rfl hstale)

theorem Change.sound {op : Op} (h : Change srv w op w') (hw : Sound w) (hwhole : Whole w) :
    Sound w' ∧ Whole w' := by
  cases h with
  | keeps _ hkept => exact ⟨hkept.sound, hkept.whole⟩
  | disconnect warnings =>
      have hstays : Undisturbed w.mysql w.disconnected.mysql := ⟨rfl, rfl, fun x hx => by cases hx⟩
      exact ⟨hw.share (t := { w.disconnected.toShared with warnings := warnings }) rfl hstays ⟨rfl, rfl⟩,
        hwhole⟩
  | decides hdecides =>
      have hstays : ∀ f, Undisturbed w.mysql (w.mysql.after_end srv f) := fun f => ⟨rfl, rfl, fun _ => id⟩
      cases op with
      | begin_transaction =>
          exact ⟨hw.share (t := w.begun.toShared) rfl ⟨rfl, rfl, fun _ => id⟩ hw.drained, hwhole⟩
      | commit =>
          exact ⟨hw.share (t := (w.ended srv Ledger.commit).toShared) rfl (hstays _) hw.drained, hwhole⟩
      | rollback =>
          exact ⟨hw.share (t := (w.ended srv Ledger.discard).toShared) rfl (hstays _) hw.drained, hwhole⟩
      | _ => exact hdecides.elim

theorem sound_new : Sound {} := by
  refine ⟨fun _ _ => rfl, ?_, ?_, ?_, ⟨rfl, rfl⟩, fun _ => ⟨fun _ => rfl, rfl, rfl⟩⟩
  · intro r hr
    cases hr
  · rintro p ⟨r, hr, -⟩
    cases hr
  · intro r p _ hp
    cases hp

theorem whole_new : Whole {} := by
  intro r hr
  cases hr

-- A new connection and whatever is done with it.
theorem reaches_sound {C : Op → World → Prop} (h : Reaches (step srv) C {} w) : Sound w ∧ Whole w :=
  h.invariant (I := fun w => Sound w ∧ Whole w) ⟨sound_new, whole_new⟩ fun _ _ _ hs _ hstep =>
    (step_change hs.1 hs.2 hstep).sound hs.1 hs.2

end Transactions

end World

end RMariaDB
