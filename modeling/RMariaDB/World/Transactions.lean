import RMariaDB.Lib.Session
import RMariaDB.World.Calls

-- What becomes of the work that is done on a connection.

namespace RMariaDB.World

open Program

variable {srv : Server} {w w' : World} {a a' : Audit} {op : Op}

-- What is remembered of a call that leads from w to w'.
def note (srv : Server) (op : Op) (w w' : World) (a : Audit) : Audit where
  begun :=
    if op = .begin_transaction ∧ returned srv op w = true then w.mysql.ledger.executed else a.begun
  rolledBack :=
    if op = .rollback ∧ returned srv op w = true then
      a.rolledBack ++ w.mysql.ledger.since a.begun
    else a.rolledBack
  outside :=
    if w.conn.transacting_ then a.outside
    else a.outside ++ w'.mysql.ledger.since w.mysql.ledger.executed
  undone :=
    if op = .rollback ∧ returned srv op w = true then
      a.undone ++ (w.mysql.ledger.lost w'.mysql.ledger).map (a.begun, ·)
    else a.undone

def observed (srv : Server) (op : Op) (s : World × Audit) : Option (World × Audit) :=
  (step srv op s.1).map fun w => (w, note srv op s.1 w s.2)

section Sessions

-- A connection as a session.
def session (w : World) (a : Audit) : Session :=
  { held := w.conn.transacting_, live := w.conn.pConn_, ledger := w.mysql.ledger, audit := a }

-- What a call does to the session.
inductive Moves (srv : Server) (op : Op) (w : World) (s : Session) : Session → Prop where
  | work (l : Ledger) (h : Ledger.Steps s.held s.ledger l) : Moves srv op w s (s.work l)
  | start (hop : op = .begin_transaction) (h : Decides w op) : Moves srv op w s s.start
  | commit (hop : op = .commit) (h : Decides w op) :
      Moves srv op w s (s.commit (w.mysql.ends srv))
  | rollback (hop : op = .rollback) (h : Decides w op) :
      Moves srv op w s (s.rollback (w.mysql.ends srv))
  | close (hop : op = .disconnect) : Moves srv op w s s.close

theorem Moves.step {s : Session} (h : Moves srv op w (session w a) s) : (session w a).Step s := by
  cases h with
  | work l h => exact .work l h
  | start hop h =>
      subst hop
      exact .start h.2.1
  | commit hop h =>
      subst hop
      exact .commit _ h.2.1 h.2.2
  | rollback hop h =>
      subst hop
      exact .rollback _ h.2.1 h.2.2
  | close => exact .close

-- A call that decides nothing only adds work.
theorem note_of_not_decides (h : ¬Decides w op) :
    note srv op w w' a = ((session w a).work w'.mysql.ledger).audit := by
  have hnot : ∀ {op' : Op}, op' = .begin_transaction ∨ op' = .commit ∨ op' = .rollback →
      ¬(op = op' ∧ returned srv op w = true) := by
    rintro op' hop ⟨rfl, hreturned⟩
    exact h ((returned_iff hop).mp hreturned)
  simp only [note, hnot (.inl rfl), hnot (.inr (.inr rfl)), if_false]
  rfl

theorem since_same (l l' : Ledger) (h : l'.executed = l.executed) : l'.since l.executed = [] := by
  simp [Ledger.since, h]

theorem Change.moves (h : Change srv w op w') :
    Moves srv op w (session w a) (session w' (note srv op w w' a)) := by
  cases h with
  | keeps hnot hkept =>
      rw [note_of_not_decides hnot]
      have hsame : session w' ((session w a).work w'.mysql.ledger).audit =
          (session w a).work w'.mysql.ledger := by
        simp only [session, Session.work, hkept.quiet.transacting, hkept.quiet.valid]
      rw [hsame]
      exact .work _ hkept.quiet.ledger
  | disconnect warnings =>
      rw [note_of_not_decides id]
      have hsame : session { w.disconnected with warnings := warnings }
          ((session w a).work { w.disconnected with warnings := warnings }.mysql.ledger).audit =
          (session w a).close := by
        simp only [session, Session.work, Session.close, disconnected,
          since_same w.mysql.ledger w.mysql.ledger.discard rfl, List.append_nil, ite_self]
      rw [hsame]
      exact .close rfl
  | decides hdecides =>
      cases op with
      | begin_transaction =>
          have hreturned : returned srv .begin_transaction w = true :=
            (returned_iff (.inl rfl)).mpr hdecides
          have hsame : session w.begun (note srv .begin_transaction w w.begun a) =
              (session w a).start := by
            simp [session, note, Session.start, begun, hreturned, hdecides.2.1,
              since_same w.mysql.ledger w.mysql.ledger rfl]
          rw [decided, hsame]
          exact .start rfl hdecides
      | commit =>
          have hsame : session (w.ended srv Ledger.commit) (note srv .commit w (w.ended srv Ledger.commit) a) =
              (session w a).commit (w.mysql.ends srv) := by
            simp [session, note, Session.commit, ended, MYSQL.after_end, hdecides.2.1]
          rw [decided, hsame]
          exact .commit rfl hdecides
      | rollback =>
          have hreturned : returned srv .rollback w = true :=
            (returned_iff (.inr (.inr rfl))).mpr hdecides
          have hsame : session (w.ended srv Ledger.discard)
              (note srv .rollback w (w.ended srv Ledger.discard) a) =
              (session w a).rollback (w.mysql.ends srv) := by
            simp [session, note, Session.rollback, ended, MYSQL.after_end, hreturned, hdecides.2.1]
          rw [decided, hsame]
          exact .rollback rfl hdecides
      | _ => exact hdecides.elim

-- What holds of the session of a new connection and is kept by the calls that meet `C`
-- holds after every run of them.
theorem observed_invariant {C : Op → World × Audit → Prop} {P : Session → Prop}
    (h : Reaches (observed srv) C ({}, {}) (w, a)) (hnew : P {})
    (hkept : ∀ op w a s, C op (w, a) → (session w a).Consistent → P (session w a) →
      Moves srv op w (session w a) s → P s) :
    Sound w ∧ Whole w ∧ (session w a).Consistent ∧ P (session w a) := by
  refine h.invariant (I := fun s : World × Audit => Sound s.1 ∧ Whole s.1 ∧ (session s.1 s.2).Consistent ∧
    P (session s.1 s.2)) ⟨sound_new, whole_new, Session.consistent_new, hnew⟩ ?_
  rintro op ⟨w, a⟩ ⟨w', a'⟩ ⟨hw, hwhole, hconsistent, hP⟩ hc hstep
  obtain ⟨u, hu, heq⟩ := Option.map_eq_some_iff.mp hstep
  cases heq
  have hchange := step_change hw hwhole hu
  obtain ⟨hw', hwhole'⟩ := hchange.sound hw hwhole
  have hmoves := hchange.moves (a := a)
  exact ⟨hw', hwhole', hmoves.step.consistent hconsistent, hkept op w a _ hc hconsistent hP hmoves⟩

end Sessions

-- The server turns a COMMIT or a ROLLBACK down.
def Refused (srv : Server) (w : World) : Prop :=
  w.mysql.busy = true ∨ srv.accepts w.mysql.tick = false

theorem ends_iff : w.mysql.ends srv = true ↔ ¬Refused srv w := by
  simp [MYSQL.ends, Refused]

section Rollback

-- Work is retracted for good, unless the ROLLBACK is turned down.
def RollsBack (srv : Server) (op : Op) (s : World × Audit) : Prop :=
  op = .rollback → Decides s.1 op → Refused srv s.1 → s.1.mysql.ledger.since s.2.begun = []

-- Once rollback() has returned no statement of its transaction is committed any more.
theorem rolled_back_stays_undone (h : Reaches (observed srv) (RollsBack srv) ({}, {}) (w, a)) :
    ∀ x ∈ a.rolledBack, x ∉ w.mysql.ledger.committed := by
  have hretracted : (session w a).Retracted := by
    refine (observed_invariant h ⟨(nomatch ·), fun _ => (nomatch ·)⟩ ?_).2.2.2
    intro op w a s hc hconsistent hs hmoves
    cases hmoves with
    | work l h => exact hs.work h
    | start => exact hs.start hconsistent
    | commit => exact hs.commit _
    | rollback hop h =>
        refine hs.rollback ?_ ?_
        · subst hop
          exact h.2.1
        · by_cases hends : w.mysql.ends srv = true
          · exact .inl hends
          · exact .inr (hc hop h (not_not.mp (ends_iff.not.mp hends)))
    | close => exact hs.close
  exact fun x hx => (hretracted.rolledBack x hx).2.2

-- The first statement inserts a row, the second one selects two rows.
def inserts_then_selects : Server := { Server.agreeable with
  prepare := fun t _ => .ok {
    param_count := 0
    fields := if t < 3 then none else some [⟨"a", .MYSQL_TYPE_LONG, 63, 11⟩] }
  execute := fun t _ _ =>
    if t < 3 then .ok { affected_rows := 1, dml := true }
    else .ok { rows := some [[some (.int 1)], [some (.int 2)]] } }

theorem rolled_back_stays_undone_insert : ∃ w a,
    Reaches (observed inserts_then_selects) (RollsBack inserts_then_selects) ({}, {}) (w, a) ∧
      a.rolledBack = [0] ∧ ∀ x ∈ a.rolledBack, x ∉ w.mysql.ledger.committed := by
  have hrun : (replay (observed inserts_then_selects)
      [.begin_transaction, .create "INSERT INTO t VALUES (1)" true false] ({}, {})).map
      (fun s => (s.1.mysql.busy, ((observed inserts_then_selects .rollback s).map (·.2.rolledBack)))) =
      some (false, some [0]) := by decide +kernel
  obtain ⟨s, hinsert, hs⟩ := Option.map_eq_some_iff.mp hrun
  rw [Prod.mk.injEq] at hs
  obtain ⟨⟨w, a⟩, hrollback, hback⟩ := Option.map_eq_some_iff.mp hs.2
  have haccepted : ¬Refused inserts_then_selects s.1 := by
    rintro (hbusy | hrefuses)
    · rw [hs.1] at hbusy
      cases hbusy
    · cases hrefuses
  have h : Reaches (observed inserts_then_selects) (RollsBack inserts_then_selects) ({}, {}) (w, a) :=
    ((Reaches.refl _).replay (by simp [RollsBack]) hinsert).tail
      (fun _ _ hrefused => absurd hrefused haccepted) hrollback
  exact ⟨w, a, h, hback, rolled_back_stays_undone h⟩

-- The rows of the SELECT are unread when the ROLLBACK is sent, and it is turned down. Clearing
-- the result commits the INSERT.
theorem rolled_back_insert_committed : ∃ w a,
    Reaches (observed inserts_then_selects) (fun _ _ => True) ({}, {}) (w, a) ∧
      ∃ x ∈ a.rolledBack, x ∈ w.mysql.ledger.committed := by
  have hrun : (replay (observed inserts_then_selects)
      [.begin_transaction, .create "INSERT INTO t VALUES (1)" true false,
        .create "SELECT a FROM t" false false, .rollback, .release 1] ({}, {})).map
      (fun s => (s.2.rolledBack, s.1.mysql.ledger.committed)) = some ([0], [0]) := by decide +kernel
  obtain ⟨⟨w, a⟩, hreplay, hs⟩ := Option.map_eq_some_iff.mp hrun
  simp only [Prod.mk.injEq] at hs
  refine ⟨w, a, (Reaches.refl _).replay (by simp) hreplay, 0, ?_, ?_⟩
  · simp [hs.1]
  · simp [hs.2]

-- dbRollback() discards only what was executed after its dbBegin(), if every dbBegin()
-- finds all earlier work committed.
def BeginsClean (op : Op) (s : World × Audit) : Prop :=
  op = .begin_transaction → Decides s.1 op → s.1.mysql.ledger.pending = []

theorem rollback_undoes_own (h : Reaches (observed srv) BeginsClean ({}, {}) (w, a)) :
    ∀ y ∈ a.undone, y.1 ≤ y.2 ∧ y.2 ∉ a.outside := by
  have hfair : (session w a).Fair := by
    refine (observed_invariant h ⟨fun _ => (nomatch ·), (nomatch ·), fun _ => (nomatch ·)⟩ ?_).2.2.2
    intro op w a s hc hconsistent hs hmoves
    cases hmoves with
    | work l h => exact hs.work hconsistent h
    | start hop h => exact hs.start (hc hop h)
    | commit => exact hs.commit _
    | rollback hop h =>
        subst hop
        exact hs.rollback hconsistent _ h.2.1
    | close => exact hs.close
  intro y hy
  obtain ⟨hbegun, -, hnot⟩ := hfair.undone y hy
  exact ⟨hbegun, hnot⟩

theorem rollback_undoes_own_insert : ∃ w a,
    Reaches (observed inserts_then_selects) BeginsClean ({}, {}) (w, a) ∧ a.undone = [(0, 0)] ∧
      ∀ y ∈ a.undone, y.1 ≤ y.2 ∧ y.2 ∉ a.outside := by
  have hrun : (replay (observed inserts_then_selects)
      [.begin_transaction, .create "INSERT INTO t VALUES (1)" true false, .rollback] ({}, {})).map
      (·.2.undone) = some [(0, 0)] := by decide +kernel
  obtain ⟨⟨w, a⟩, hreplay, hundone⟩ := Option.map_eq_some_iff.mp hrun
  rw [replay_cons] at hreplay
  obtain ⟨s, hbegin, hrest⟩ := Option.bind_eq_some_iff.mp hreplay
  have h : Reaches (observed inserts_then_selects) BeginsClean ({}, {}) (w, a) :=
    ((Reaches.refl _).tail (fun _ _ => rfl) hbegin).replay (by simp [BeginsClean]) hrest
  exact ⟨w, a, h, hundone, rollback_undoes_own h⟩

-- The result of the INSERT is not cleared yet when the transaction begins.
theorem rollback_undoes_earlier_insert : ∃ w a,
    Reaches (observed inserts_then_selects) (fun _ _ => True) ({}, {}) (w, a) ∧
      ∃ y ∈ a.undone, y.2 ∈ a.outside := by
  have hrun : (replay (observed inserts_then_selects)
      [.create "INSERT INTO t VALUES (1)" true false, .begin_transaction, .rollback] ({}, {})).map
      (fun s => (s.2.undone, s.2.outside)) = some ([(1, 0)], [0]) := by decide +kernel
  obtain ⟨⟨w, a⟩, hreplay, hs⟩ := Option.map_eq_some_iff.mp hrun
  simp only [Prod.mk.injEq] at hs
  refine ⟨w, a, (Reaches.refl _).replay (by simp) hreplay, (1, 0), ?_, ?_⟩
  · simp [hs.1]
  · simp [hs.2]

end Rollback

section Commit

-- If commit() returns, the server has committed all work of the transaction; if it raises
-- an error the transaction is still open.
structure CommitHolds (srv : Server) (w : World) (a : Audit) : Prop where
  durable : ∀ reply t, (call srv .commit).run w = .ok reply t →
    ∀ x ∈ t.mysql.ledger.since a.begun, x ∈ t.mysql.ledger.committed
  accepted : ∀ reply t, (call srv .commit).run w = .ok reply t → ¬Refused srv w
  raised : ∀ e t, (call srv .commit).run w = .error e t →
    t.conn.transacting_ = w.conn.transacting_

theorem commit_holds_iff (h : Reaches (observed srv) (fun _ _ => True) ({}, {}) (w, a)) :
    CommitHolds srv w a ↔ ¬(Decides w .commit ∧ Refused srv w) := by
  obtain ⟨-, -, hconsistent, -⟩ := observed_invariant (P := fun _ => True) h trivial
    fun _ _ _ _ _ _ _ _ => trivial
  rcases decides_run srv .commit (.inr (.inl rfl)) w with ⟨hdecides, hrun⟩ | ⟨hnot, message, hrun⟩
  · constructor
    · rintro hholds ⟨-, hrefused⟩
      exact hholds.accepted _ _ hrun hrefused
    · intro hrefused
      have hends : w.mysql.ends srv = true := ends_iff.mpr fun h => hrefused ⟨hdecides, h⟩
      refine ⟨fun reply t h x hx => ?_, fun _ _ _ h => hrefused ⟨hdecides, h⟩, fun e t h => ?_⟩
      · rw [hrun] at h
        cases h
        have hledger : (decided srv .commit w).mysql.ledger = w.mysql.ledger.commit := by
          simp [decided, ended, MYSQL.after_end, hends]
        rw [hledger] at hx ⊢
        exact hconsistent.commit hdecides.2.1 hdecides.2.2 x hx
      · rw [hrun] at h
        cases h
  · refine iff_of_true ⟨fun reply t h => ?_, fun reply t h => ?_, fun e t h => ?_⟩ fun h => hnot h.1
    · rw [hrun] at h
      cases h
    · rw [hrun] at h
      cases h
    · rw [hrun] at h
      cases h
      rfl

theorem commit_holds_iff_insert : ∃ w a, Decides w .commit ∧
    (CommitHolds inserts_then_selects w a ↔ ¬(Decides w .commit ∧ Refused inserts_then_selects w)) := by
  have hrun : (replay (observed inserts_then_selects)
      [.begin_transaction, .create "INSERT INTO t VALUES (1)" true false] ({}, {})).map
      (fun s => returned inserts_then_selects .commit s.1) = some true := by decide +kernel
  obtain ⟨⟨w, a⟩, hreplay, hreturned⟩ := Option.map_eq_some_iff.mp hrun
  exact ⟨w, a, (returned_iff (.inr (.inl rfl))).mp hreturned,
    commit_holds_iff ((Reaches.refl _).replay (by simp) hreplay)⟩

-- The server turns the COMMIT down.
def refusing : Server := { inserts_then_selects with accepts := fun _ => false }

theorem commit_ignores_refusal : ∃ w a,
    Reaches (observed refusing) (fun _ _ => True) ({}, {}) (w, a) ∧ ¬CommitHolds refusing w a := by
  have hrun : (replay (observed refusing)
      [.begin_transaction, .create "INSERT INTO t VALUES (1)" true false] ({}, {})).map
      (fun s => returned refusing .commit s.1) = some true := by decide +kernel
  obtain ⟨⟨w, a⟩, hreplay, hreturned⟩ := Option.map_eq_some_iff.mp hrun
  refine ⟨w, a, (Reaches.refl _).replay (by simp) hreplay, fun hholds => ?_⟩
  obtain ⟨-, hcommit⟩ | ⟨hnot, -⟩ := decides_run refusing .commit (.inr (.inl rfl)) w
  · exact hholds.accepted _ _ hcommit (.inr rfl)
  · exact hnot ((returned_iff (.inr (.inl rfl))).mp hreturned)

end Commit

section Disconnect

-- When dbDisconnect() returns, all that was executed is committed.
def Survives (srv : Server) (w : World) : Prop :=
  ∀ w', step srv .disconnect w = some w' →
    ∀ x, x < w'.mysql.ledger.executed → x ∈ w'.mysql.ledger.committed

-- A connection without transactions, until it is closed.
structure Autocommits (srv : Server) (w : World) : Prop where
  transacting : w.conn.transacting_ = false
  valid : w.released = false → w.conn.pConn_ = true
  wellFormed : w.mysql.ledger.WellFormed
  accounted : w.released = false → w.mysql.ledger.Accounted
  settled : w.released = false → Settled srv w

theorem autocommits_new : Autocommits srv {} :=
  ⟨rfl, fun _ => rfl, Session.consistent_new.wellFormed, fun _ _ => (nomatch ·),
    fun _ _ _ _ _ => rfl⟩

theorem Change.autocommits (h : Change srv w op w') (hop : op ≠ .begin_transaction)
    (hw : Autocommits srv w) : Autocommits srv w' := by
  cases h with
  | keeps _ hkept =>
      have hledger := hkept.quiet.ledger
      exact ⟨hkept.quiet.transacting.trans hw.transacting,
        fun h => hkept.quiet.valid.trans (hw.valid (hkept.released ▸ h)),
        hledger.wellFormed hw.wellFormed,
        fun h => hledger.accounted (hw.accounted (hkept.released ▸ h)),
        fun h => hkept.settled (hw.settled (hkept.released ▸ h))⟩
  | disconnect => exact ⟨hw.transacting, (nomatch ·), hw.wellFormed.discard, (nomatch ·), (nomatch ·)⟩
  | decides h =>
      have htransacting := hw.transacting
      cases op with
      | begin_transaction => exact absurd rfl hop
      | commit =>
          rw [h.2.1] at htransacting
          cases htransacting
      | rollback =>
          rw [h.2.1] at htransacting
          cases htransacting
      | _ => exact h.elim

-- Closing the connection commits nothing. With a server that accepts every COMMIT, work that is
-- still uncommitted then is that of a result which is open.
theorem autocommitted_survives_iff
    (h : Reaches (step srv) (fun op _ => op ≠ .begin_transaction) {} w) (hopen : w.released = false) :
    (Survives srv w ↔ w.mysql.ledger.pending = []) ∧
      ((∀ t, srv.accepts t = true) →
        (Survives srv w ↔ ¬((∃ p, Active w p) ∧ w.mysql.ledger.pending ≠ []))) := by
  obtain ⟨-, -, hw⟩ := h.invariant (I := fun w => Sound w ∧ Whole w ∧ Autocommits srv w)
    ⟨sound_new, whole_new, autocommits_new⟩ fun op s t hs hop hstep => by
      have hchange := step_change hs.1 hs.2.1 hstep
      obtain ⟨hsound, hwhole⟩ := hchange.sound hs.1 hs.2.1
      exact ⟨hsound, hwhole, hchange.autocommits hop hs.2.2⟩
  have hsurvives : Survives srv w ↔ w.mysql.ledger.pending = [] := by
    obtain ⟨warnings, hrun⟩ := disconnect_run srv w
    rw [if_pos ⟨hopen, hw.valid hopen⟩] at hrun
    have hstep : step srv .disconnect w = some { w.disconnected with warnings := warnings } := by
      rw [step, after, hrun]
    constructor
    · intro hall
      refine List.eq_nil_iff_forall_not_mem.mpr fun x hx => hw.wellFormed.disjoint x hx ?_
      exact hall _ hstep x (hw.wellFormed.pending_lt x hx)
    · intro hpending w' hw' x hx
      rw [hstep, Option.some.injEq] at hw'
      subst hw'
      have haccounted := hw.accounted hopen x hx
      rw [hpending] at haccounted
      exact haccounted.resolve_left List.not_mem_nil
  refine ⟨hsurvives, fun hsrv => hsurvives.trans ⟨fun hpending h => h.2 hpending, fun h => ?_⟩⟩
  by_contra hpending
  exact hpending (hw.settled hopen (fun p hp => h ⟨⟨p, hp⟩, hpending⟩) hsrv hw.transacting
    (hw.valid hopen))

theorem autocommitted_survives_cleared_insert : ∃ w, w.mysql.ledger.executed = 1 ∧
    (Survives inserts_then_selects w ↔ w.mysql.ledger.pending = []) ∧
      ((∀ t, inserts_then_selects.accepts t = true) →
        (Survives inserts_then_selects w ↔ ¬((∃ p, Active w p) ∧ w.mysql.ledger.pending ≠ []))) := by
  have hrun : (replay (step inserts_then_selects)
      [.create "INSERT INTO t VALUES (1)" true false, .release 0] {}).map
      (fun w => (w.mysql.ledger.executed, w.released)) = some (1, false) := by decide +kernel
  obtain ⟨w, hreplay, hw⟩ := Option.map_eq_some_iff.mp hrun
  rw [Prod.mk.injEq] at hw
  exact ⟨w, hw.1, autocommitted_survives_iff ((Reaches.refl _).replay (by simp) hreplay) hw.2⟩

-- The connection is closed while the result of the INSERT is open.
theorem open_insert_lost : ∃ w, Reaches (step inserts_then_selects)
    (fun op _ => op ≠ .begin_transaction) {} w ∧ ¬Survives inserts_then_selects w := by
  have hrun : (replay (step inserts_then_selects)
      [.create "INSERT INTO t VALUES (1)" true false] {}).bind
      (fun w => (step inserts_then_selects .disconnect w).map (·.mysql.ledger)) = some ⟨1, [], []⟩ := by
    decide +kernel
  obtain ⟨w, hreplay, hw⟩ := Option.bind_eq_some_iff.mp hrun
  obtain ⟨w', hstep, hledger⟩ := Option.map_eq_some_iff.mp hw
  refine ⟨w, (Reaches.refl _).replay (by simp) hreplay, fun hsurvives => ?_⟩
  have hcommitted := hsurvives w' hstep 0 (by rw [hledger]; exact Nat.zero_lt_one)
  rw [hledger] at hcommitted
  cases hcommitted

end Disconnect

end RMariaDB.World
