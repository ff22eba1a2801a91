import RMariaDB.World.Methods

-- Only the current result of a connection has an open statement.

namespace RMariaDB

open Program DbConnection MariaResultPrep

variable {srv : Server} {α : Type}

namespace DbResult

-- A result whose statement is open gives back all handles, then COMMIT is sent.
variable (srv) in
theorem close_ready {s : Obj DbResult} {p : MariaResultPrep} (hp : s.self.impl = some (.prep p))
    (hs : Ready s.mysql p) : ∃ u r, (DbResult.close srv).run s =
      .ok () ⟨autocommitted srv u, ⟨some (.prep r)⟩⟩ ∧ Closed r ∧ Releases s.toShared u := by
  obtain ⟨sh, ⟨impl⟩⟩ := s
  cases hp
  obtain ⟨u, r, hrun, hclosed, hreleases⟩ := MariaResultPrep.close_ready srv (s := ⟨sh, p⟩) hs
  refine ⟨u, r, ?_, hclosed, hreleases⟩
  simp [DbResult.close, onImpl, hrun]

variable (srv) in
theorem close_closed {s : Obj DbResult} {p : MariaResultPrep} (hp : s.self.impl = some (.prep p))
    (hs : Closed p) : (DbResult.close srv).run s = .ok () ⟨autocommitted srv s.toShared, s.self⟩ := by
  obtain ⟨sh, ⟨impl⟩⟩ := s
  cases hp
  have hrun := MariaResultPrep.close_closed srv (s := ⟨sh, p⟩) hs
  simp [DbResult.close, onImpl, hrun]

variable (srv) in
theorem close_other {s : Obj DbResult} (hs : ∀ p, s.self.impl ≠ some (.prep p)) :
    (DbResult.close srv).run s = .ok () s := by
  obtain ⟨sh, ⟨impl⟩⟩ := s
  cases impl with
  | none => rfl
  | some impl =>
      cases impl with
      | simple => rfl
      | prep p => exact absurd rfl (hs p)

end DbResult

namespace World

variable {w w' : World} {r : Nat} {x : DbResult}

-- The prepared statement of the current result.
def Active (w : World) (p : MariaResultPrep) : Prop :=
  ∃ r, w.conn.pCurrentResult_ = some r ∧ w.results r = some ⟨some (.prep p)⟩

-- The current result is ready, the others are closed, and all handles are its handles.
structure Sound (w : World) : Prop where
  fresh : ∀ r, w.next_result ≤ r → w.results r = none
  current : ∀ r, w.conn.pCurrentResult_ = some r → ∃ x, w.results r = some x
  ready : ∀ p, Active w p → Ready w.mysql p
  closed : ∀ r p, w.conn.pCurrentResult_ ≠ some r → w.results r = some ⟨some (.prep p)⟩ → Closed p
  drained : DbConnection.Drained w.toShared
  free : (∀ p, ¬Active w p) → Free w.mysql

-- All results are closed, whichever is the current one.
structure Cleared (w : World) : Prop where
  fresh : ∀ r, w.next_result ≤ r → w.results r = none
  closed : ∀ r p, w.results r = some ⟨some (.prep p)⟩ → Closed p
  drained : DbConnection.Drained w.toShared
  free : Free w.mysql

theorem Cleared.sound (h : Cleared w)
    (hcurrent : ∀ r, w.conn.pCurrentResult_ = some r → w.results r = some ⟨none⟩) : Sound w := by
  refine ⟨h.fresh, fun r hr => ⟨_, hcurrent r hr⟩, ?_, fun r p _ => h.closed r p, h.drained,
    fun _ => h.free⟩
  rintro p ⟨r, hr, hp⟩
  rw [hcurrent r hr] at hp
  cases hp

-- While nothing is open on the connection, no work waits for a COMMIT.
def Settled (srv : Server) (w : World) : Prop := (∀ p, ¬Active w p) → Committed srv w.toShared

-- What the object at one address becomes, with what it shares.
def store (w : World) (r : Nat) (t : Obj DbResult) : World :=
  { w with toShared := t.toShared, results := Function.update w.results r (some t.self) }

theorem store_self (w : World) (r : Nat) (t : Obj DbResult) : (w.store r t).results r = some t.self :=
  Function.update_self ..

theorem store_of_ne {r' : Nat} (h : r' ≠ r) (w : World) (t : Obj DbResult) :
    (w.store r t).results r' = w.results r' := Function.update_of_ne h ..

theorem onResult_run (hx : w.results r = some x) (m : EStateM Exc (Obj DbResult) α) :
    (onResult r m).run w = match m.run ⟨w.toShared, x⟩ with
      | .ok a t => .ok a (w.store r t)
      | .error e t => .error e (w.store r t) := by
  rw [onResult, EStateM.run_bind, EStateM.run_get]
  simp only [hx, run_zoom]
  cases m.run ⟨w.toShared, x⟩ <;> rfl

theorem onConnection_run (w : World) (m : EStateM Exc Shared α) :
    (onConnection m).run w = match m.run w.toShared with
      | .ok a t => .ok a { w with toShared := t }
      | .error e t => .error e { w with toShared := t } := by
  rw [onConnection, run_zoom]
  cases m.run w.toShared <;> rfl

theorem fresh_store (h : ∀ r, w.next_result ≤ r → w.results r = none) (hx : w.results r = some x)
    (t : Obj DbResult) : ∀ r', (w.store r t).next_result ≤ r' → (w.store r t).results r' = none := by
  intro r' hle
  by_cases hr : r' = r
  · subst hr
    rw [h r' hle] at hx
    cases hx
  · rw [store_of_ne hr]
    exact h r' hle

theorem active_store (hr : w.conn.pCurrentResult_ = some r) {t : Obj DbResult}
    (hconn : t.conn = w.conn) (p : MariaResultPrep) :
    Active (w.store r t) p ↔ t.self.impl = some (.prep p) := by
  have hcurrent : (w.store r t).conn.pCurrentResult_ = some r := by
    rw [← hr, ← hconn]
    rfl
  constructor
  · rintro ⟨r', hr', hp⟩
    rw [hcurrent] at hr'
    cases hr'
    rw [store_self, Option.some.injEq] at hp
    rw [hp]
  · intro hp
    refine ⟨r, hcurrent, ?_⟩
    rw [store_self, ← hp]

theorem active_store_of_ne (hr : w.conn.pCurrentResult_ ≠ some r) {t : Obj DbResult}
    (hconn : t.conn = w.conn) (p : MariaResultPrep) : Active (w.store r t) p ↔ Active w p := by
  have hcurrent : (w.store r t).conn.pCurrentResult_ = w.conn.pCurrentResult_ :=
    congrArg DbConnection.pCurrentResult_ hconn
  constructor
  · rintro ⟨r', hr', hp⟩
    rw [hcurrent] at hr'
    have hne : r' ≠ r := fun h => hr (h ▸ hr')
    rw [store_of_ne hne] at hp
    exact ⟨r', hr', hp⟩
  · rintro ⟨r', hr', hp⟩
    have hne : r' ≠ r := fun h => hr (h ▸ hr')
    exact ⟨r', hcurrent.trans hr', (store_of_ne hne w t).trans hp⟩

-- The current result was worked on.
theorem Sound.store_current (hw : Sound w) (hr : w.conn.pCurrentResult_ = some r)
    (hx : w.results r = some x) {t : Obj DbResult} (hconn : t.conn = w.conn)
    (hready : ∀ p, t.self.impl = some (.prep p) → Ready t.mysql p)
    (hdrained : DbConnection.Drained t.toShared)
    (hfree : (∀ p, t.self.impl ≠ some (.prep p)) → Free t.mysql) : Sound (w.store r t) := by
  have hcurrent : (w.store r t).conn.pCurrentResult_ = some r := by
    rw [← hr, ← hconn]
    rfl
  refine ⟨fresh_store hw.fresh hx t, fun r' hr' => ?_, fun p hp => ?_, fun r' p hr' hp => ?_, hdrained,
    fun hnone => hfree fun p hp => hnone p ((active_store hr hconn p).mpr hp)⟩
  · rw [hcurrent] at hr'
    cases hr'
    exact ⟨_, store_self w r t⟩
  · exact hready p ((active_store hr hconn p).mp hp)
  · rw [hcurrent] at hr'
    have hne : r' ≠ r := fun h => hr' (by rw [h])
    rw [store_of_ne hne] at hp
    exact hw.closed r' p (by rwa [hr]) hp

-- Another result was worked on, and no statement was touched.
theorem Sound.store_other (hw : Sound w) (hr : w.conn.pCurrentResult_ ≠ some r)
    (hx : w.results r = some x) {t : Obj DbResult} (hspares : Spares w.toShared t.toShared)
    (hdrained : DbConnection.Drained t.toShared)
    (ht : ∀ p, t.self.impl = some (.prep p) → Closed p) : Sound (w.store r t) := by
  have hcurrent : (w.store r t).conn.pCurrentResult_ = w.conn.pCurrentResult_ :=
    congrArg DbConnection.pCurrentResult_ hspares.conn
  have hstays := undisturbed_of_spares hspares
  have hactive := active_store_of_ne hr hspares.conn
  refine ⟨fresh_store hw.fresh hx t, fun r' hr' => ?_, fun p hp => ?_, fun r' p hr' hp => ?_, hdrained,
    fun hnone => (hw.free fun p hp => hnone p ((hactive p).mpr hp)).stays hstays⟩
  · rw [hcurrent] at hr'
    have hne : r' ≠ r := fun h => hr (h ▸ hr')
    rw [store_of_ne hne]
    exact hw.current r' hr'
  · exact (hw.ready p ((hactive p).mp hp)).stays hstays
  · rw [hcurrent] at hr'
    by_cases h : r' = r
    · subst h
      rw [store_self] at hp
      exact ht p (by rw [Option.some.inj hp])
    · rw [store_of_ne h] at hp
      exact hw.closed r' p hr' hp

-- Only the connection was worked on.
theorem Sound.share (hw : Sound w) {t : Shared} {released : Bool}
    (hcurrent : t.conn.pCurrentResult_ = w.conn.pCurrentResult_)
    (hstays : Undisturbed w.mysql t.mysql) (hdrained : DbConnection.Drained t) :
    Sound { w with toShared := t, released := released } := by
  have hactive : ∀ p, Active { w with toShared := t, released := released } p → Active w p := by
    rintro p ⟨r, hr, hp⟩
    exact ⟨r, hcurrent ▸ hr, hp⟩
  have hactive' : ∀ p, Active w p → Active { w with toShared := t, released := released } p := by
    rintro p ⟨r, hr, hp⟩
    exact ⟨r, hcurrent.trans hr, hp⟩
  exact ⟨hw.fresh, fun r hr => hw.current r (hcurrent ▸ hr),
    fun p hp => (hw.ready p (hactive p hp)).stays hstays, fun r p hr => hw.closed r p (hcurrent ▸ hr),
    hdrained, fun hnone => (hw.free fun p hp => hnone p (hactive' p hp)).stays hstays⟩

section Lifetime

-- All constructors have run to their end, but that of `this`.
def WholeBut (this : Nat) (w : World) : Prop := ∀ r, r ≠ this → w.results r ≠ some ⟨none⟩

def Whole (w : World) : Prop := ∀ r, w.results r ≠ some ⟨none⟩

-- What a call leaves when it begins and ends no transaction.
structure Kept (srv : Server) (w w' : World) : Prop where
  sound : Sound w'
  whole : Whole w'
  quiet : Quiet w.toShared w'.toShared
  released : w'.released = w.released
  settled : Settled srv w → Settled srv w'

theorem WholeBut.store {this : Nat} (hw : WholeBut this w) {t : Obj DbResult}
    (ht : r = this ∨ t.self.impl ≠ none) : WholeBut this (w.store r t) := by
  intro r' hr'
  by_cases h : r' = r
  · subst h
    rw [store_self]
    intro heq
    rcases ht with rfl | ht
    · exact hr' rfl
    · exact ht (congrArg DbResult.impl (Option.some.inj heq))
  · rw [store_of_ne h]
    exact hw r' hr'

theorem Whole.store (hw : Whole w) {t : Obj DbResult} (ht : t.self.impl ≠ none) :
    Whole (w.store r t) := by
  intro r'
  by_cases h : r' = r
  · subst h
    rw [store_self]
    exact fun heq => ht (congrArg DbResult.impl (Option.some.inj heq))
  · rw [store_of_ne h]
    exact hw r'

-- The current result is closed; the connection still points to it.
variable (srv) in
theorem close_current (hw : Sound w) (hr : w.conn.pCurrentResult_ = some r)
    (hx : w.results r = some x) : ∃ t, (onResult r (DbResult.close srv)).run w = .ok () (w.store r t) ∧
      Quiet w.toShared t.toShared ∧ t.conn = w.conn ∧ Cleared (w.store r t) ∧
      (t.self.impl = none → x.impl = none) ∧ (Settled srv w → Committed srv t.toShared) := by
  have hothers : ∀ t : Obj DbResult, (∀ p, t.self.impl = some (.prep p) → Closed p) →
      ∀ r' p, (w.store r t).results r' = some ⟨some (.prep p)⟩ → Closed p := by
    intro t ht r' p hp
    by_cases h : r' = r
    · subst h
      rw [store_self] at hp
      exact ht p (by rw [Option.some.inj hp])
    · rw [store_of_ne h] at hp
      refine hw.closed r' p (fun hr' => h ?_) hp
      rw [hr] at hr'
      exact (Option.some.inj hr').symm
  by_cases hprep : ∃ p, x.impl = some (.prep p)
  · obtain ⟨p, hp⟩ := hprep
    have hready : Ready w.mysql p := hw.ready p ⟨r, hr, by rw [hx, ← hp]⟩
    obtain ⟨u, q, hrun, hclosed, hreleases⟩ :=
      DbResult.close_ready srv (s := ⟨w.toShared, x⟩) hp hready
    refine ⟨⟨autocommitted srv u, ⟨some (.prep q)⟩⟩, by rw [onResult_run hx, hrun], hreleases.quiet,
      (autocommitted_spares u).conn.trans hreleases.conn,
      ⟨fresh_store hw.fresh hx _, hothers _ ?_, autocommitted_drained (hreleases.drained hw.drained),
        hreleases.free.stays (undisturbed_of_spares (autocommitted_spares u))⟩,
      fun h => (by cases h), fun _ => hreleases.committed hw.drained⟩
    rintro p' hp'
    cases hp'
    exact hclosed
  · have hprep' : ∀ p, x.impl ≠ some (.prep p) := fun p hp => hprep ⟨p, hp⟩
    have hnone : ∀ p, ¬Active w p := by
      rintro p ⟨r', hr', hp⟩
      rw [hr] at hr'
      cases hr'
      rw [hx, Option.some.injEq] at hp
      exact hprep' p (by rw [hp])
    refine ⟨⟨w.toShared, x⟩, by rw [onResult_run hx, DbResult.close_other srv hprep'], Quiet.refl _, rfl,
      ⟨fresh_store hw.fresh hx _, hothers _ fun p hp => absurd hp (hprep' p), hw.drained,
        hw.free hnone⟩, id, fun hsettled => hsettled hnone⟩

-- A result that is not the current one has nothing to close.
variable (srv) in
theorem close_other (hw : Sound w) (hr : w.conn.pCurrentResult_ ≠ some r)
    (hx : w.results r = some x) : ∃ t, (onResult r (DbResult.close srv)).run w = .ok () (w.store r t) ∧
      Spares w.toShared t.toShared ∧ Sound (w.store r t) ∧
      (Settled srv w → Settled srv (w.store r t)) := by
  by_cases hprep : ∃ p, x.impl = some (.prep p)
  · obtain ⟨p, hp⟩ := hprep
    have hclosed : Closed p := hw.closed r p hr (by rw [hx, ← hp])
    have hspares : Spares w.toShared (autocommitted srv w.toShared) := autocommitted_spares _
    have hsound : Sound (w.store r ⟨autocommitted srv w.toShared, x⟩) := by
      refine hw.store_other hr hx hspares (autocommitted_drained hw.drained) fun p' hp' => ?_
      exact hw.closed r p' hr (by rw [hx, ← hp'])
    refine ⟨⟨autocommitted srv w.toShared, x⟩, ?_, hspares, hsound, fun _ hnone => ?_⟩
    · rw [onResult_run hx, DbResult.close_closed srv hp hclosed]
    · intro hsrv htransacting hvalid
      have hconn : (w.store r ⟨autocommitted srv w.toShared, x⟩).conn = w.conn := hspares.conn
      rw [hconn] at htransacting hvalid
      have hfree := hw.free fun p hp => hnone p ((active_store_of_ne hr hspares.conn p).mpr hp)
      exact autocommitted_settles hsrv htransacting hvalid hw.drained hfree.reading
  · have hprep' : ∀ p, x.impl ≠ some (.prep p) := fun p hp => hprep ⟨p, hp⟩
    refine ⟨⟨w.toShared, x⟩, by rw [onResult_run hx, DbResult.close_other srv hprep'], Spares.refl _,
      hw.store_other hr hx (Spares.refl _) hw.drained fun p hp => absurd hp (hprep' p),
      fun hsettled hnone => hsettled fun p hp => hnone p ((active_store_of_ne hr rfl p).mpr hp)⟩

def pointing (w : World) (r : Option Nat) : World := { w with conn.pCurrentResult_ := r }

theorem Cleared.pointing (hw : Cleared w) (r : Option Nat) : Cleared (w.pointing r) :=
  ⟨hw.fresh, hw.closed, hw.drained, hw.free⟩

theorem Cleared.pointing_none (hw : Cleared w) : Sound (w.pointing none) :=
  (hw.pointing none).sound fun r hr => by cases hr

-- A new result is the current one and has no impl yet. All others are closed.
structure Building (srv : Server) (r : Nat) (w w' : World) : Prop where
  cleared : Cleared w'
  current : w'.conn.pCurrentResult_ = some r
  empty : w'.results r = some ⟨none⟩
  whole : WholeBut r w'
  quiet : Quiet w.toShared w'.toShared
  released : w'.released = w.released
  committed : Settled srv w → Committed srv w'.toShared

theorem Building.sound (h : Building srv r w w') : Sound w' := by
  refine h.cleared.sound fun r' hr' => ?_
  rw [h.current] at hr'
  cases hr'
  exact h.empty

theorem Building.share (h : Building srv r w w') {t : Shared} (hconn : t.conn = w'.conn)
    (hquiet : Quiet w'.toShared t) (hdrained : DbConnection.Drained t) (hfree : Free t.mysql)
    (hcommitted : Committed srv w'.toShared → Committed srv t) :
    Building srv r w { w' with toShared := t } :=
  ⟨⟨h.cleared.fresh, h.cleared.closed, hdrained, hfree⟩, by rw [← h.current, ← hconn], h.empty,
    h.whole, h.quiet.trans hquiet, h.released, fun hsettled => hcommitted (h.committed hsettled)⟩

-- A new result takes the place of the current one, which is closed.
variable (srv) in
theorem set_current_result_run (hw : Sound w) (hr : w.results r = some ⟨none⟩)
    (hne : w.conn.pCurrentResult_ ≠ some r) (hwhole : WholeBut r w) :
    ∃ w', (set_current_result srv r).run w = .ok () w' ∧ Building srv r w w' := by
  rw [set_current_result, EStateM.run_bind, EStateM.run_get]
  simp only [hne, if_false]
  cases hcurrent : w.conn.pCurrentResult_ with
  | none =>
      have hnone : ∀ p, ¬Active w p := by
        rintro p ⟨r', hr', -⟩
        rw [hcurrent] at hr'
        cases hr'
      have hcleared : Cleared w :=
        ⟨hw.fresh, fun r p => hw.closed r p (by simp [hcurrent]), hw.drained, hw.free hnone⟩
      exact ⟨w.pointing (some r), rfl, hcleared.pointing _, rfl, hr, hwhole,
        ⟨rfl, rfl, Ledger.Steps.refl _⟩, rfl, fun hsettled => hsettled hnone⟩
  | some old =>
      let u : World := { w with warnings := w.warnings ++ ["Cancelling previous query"] }
      have hu : Sound u := hw.share rfl ⟨rfl, rfl, fun _ => id⟩ hw.drained
      obtain ⟨x, hx⟩ := hw.current old hcurrent
      have hold : r ≠ old := fun h => hne (by rw [hcurrent, h])
      obtain ⟨t, hrun, hquiet, hconn, hcleared, hnone, hcommitted⟩ :=
        close_current srv (w := u) hu hcurrent hx
      have himpl : t.self.impl ≠ none := fun h => hwhole old hold.symm (by
        rw [hx]
        exact congrArg some (congrArg DbResult.mk (hnone h)))
      refine ⟨(u.store old t).pointing (some r), ?_, hcleared.pointing _, rfl, ?_,
        WholeBut.store (w := u) hwhole (.inr himpl),
        ⟨hquiet.transacting, hquiet.valid, hquiet.ledger⟩, rfl, fun hsettled =>
        hcommitted hsettled⟩
      · rw [run_bind_ok (a := ()) (t := u) (by rw [onConnection_run]; rfl), run_bind_ok hrun]
        rfl
      · exact (store_of_ne hold u t).trans hr

def without (w : World) (r : Nat) : World :=
  { w with results := Function.update w.results r none }

theorem without_eq_some {r' : Nat} {y : DbResult} (h : (w.without r).results r' = some y) :
    r' ≠ r ∧ w.results r' = some y := by
  change Function.update w.results r none r' = some y at h
  by_cases hr : r' = r
  · subst hr
    rw [Function.update_self] at h
    cases h
  · rw [Function.update_of_ne hr] at h
    exact ⟨hr, h⟩

theorem active_without (hr : w.conn.pCurrentResult_ ≠ some r) (p : MariaResultPrep) :
    Active (w.without r) p ↔ Active w p := by
  constructor
  · rintro ⟨r', hr', hp⟩
    exact ⟨r', hr', (without_eq_some hp).2⟩
  · rintro ⟨r', hr', hp⟩
    have hne : r' ≠ r := by
      rintro rfl
      exact hr hr'
    exact ⟨r', hr', (Function.update_of_ne hne ..).trans hp⟩

theorem Sound.without (hw : Sound w) (hr : w.conn.pCurrentResult_ ≠ some r) : Sound (w.without r) := by
  refine ⟨fun r' hle => ?_, fun r' hr' => ?_, fun p hp => hw.ready p ((active_without hr p).mp hp),
    fun r' p hr' hp => hw.closed r' p hr' (without_eq_some hp).2, hw.drained,
    fun hnone => hw.free fun p hp => hnone p ((active_without hr p).mpr hp)⟩
  · by_cases h : r' = r
    · rw [h]
      exact Function.update_self ..
    · exact (Function.update_of_ne h ..).trans (hw.fresh r' hle)
  · obtain ⟨y, hy⟩ := hw.current r' hr'
    have hne : r' ≠ r := by
      rintro rfl
      exact hr hr'
    exact ⟨y, (Function.update_of_ne hne ..).trans hy⟩

theorem WholeBut.without (hw : WholeBut r w) : Whole (w.without r) := by
  intro r' hr'
  obtain ⟨hne, hr'⟩ := without_eq_some hr'
  exact hw r' hne hr'

-- The scoped pointer closes the impl when the connection no longer points to it.
variable (srv) in
theorem close_remove (hw : Sound w) (hr : w.conn.pCurrentResult_ ≠ some r)
    (hx : w.results r = some x) (hwhole : WholeBut r w) : ∃ w', (do
      onResult r (DbResult.close srv)
      modify fun w : World => { w with results := Function.update w.results r none } :
        EStateM Exc World Unit).run w = .ok () w' ∧ Kept srv w w' := by
  obtain ⟨t, hrun, hspares, hsound, hsettled⟩ := close_other srv hw hr hx
  have hr' : (w.store r t).conn.pCurrentResult_ ≠ some r := by
    rw [show (w.store r t).conn = w.conn from hspares.conn]
    exact hr
  refine ⟨(w.store r t).without r, ?_, hsound.without hr', (hwhole.store (.inl rfl)).without,
    hspares.toQuiet, rfl, fun h hnone => ?_⟩
  · rw [run_bind_ok hrun]
    rfl
  · exact hsettled h fun p hp => hnone p ((active_without hr' p).mpr hp)

-- Whatever the object is, nothing is left of it.
variable (srv) in
theorem destroy_run (hw : Sound w) (hx : w.results r = some x) (hwhole : WholeBut r w) :
    ∃ w', (destroy srv r).run w = .ok () w' ∧ Kept srv w w' := by
  rw [destroy, EStateM.run_bind, EStateM.run_get]
  by_cases hcurrent : w.conn.pCurrentResult_ = some r
  · obtain ⟨t, hrun, hquiet, hconn, hcleared, -, hcommitted⟩ := close_current srv hw hcurrent hx
    let u := (w.store r t).pointing none
    have hreset : (reset_current_result srv r).run w = .ok () u := by
      rw [reset_current_result, EStateM.run_bind, EStateM.run_get]
      simp only [hcurrent, if_true, run_bind_ok hrun]
      rfl
    obtain ⟨w', hend, hkept⟩ := close_remove srv (w := u) hcleared.pointing_none
      (by simp [u, World.pointing]) (store_self w r t) (hwhole.store (.inl rfl))
    refine ⟨w', ?_, hkept.sound, hkept.whole, ?_, hkept.released, fun hsettled => ?_⟩
    · simp only [hcurrent, if_true, EStateM.run_bind, run_tryCatch, hreset] at hend ⊢
      exact hend
    · have hu : Quiet w.toShared u.toShared := ⟨hquiet.transacting, hquiet.valid, hquiet.ledger⟩
      exact hu.trans hkept.quiet
    · exact hkept.settled fun _ => hcommitted hsettled
  · obtain ⟨w', hend, hkept⟩ := close_remove srv hw hcurrent hx hwhole
    refine ⟨w', ?_, hkept⟩
    simp only [hcurrent, if_false]
    exact hend

-- The impl of the new result.
theorem Building.kept (h : Building srv r w w') {t : Obj DbResult} (ht : t.self.impl ≠ none)
    (hconn : t.conn = w'.conn) (hquiet : Quiet w'.toShared t.toShared)
    (hdrained : DbConnection.Drained t.toShared)
    (hready : ∀ p, t.self.impl = some (.prep p) → Ready t.mysql p)
    (hfree : (∀ p, t.self.impl ≠ some (.prep p)) → Free t.mysql)
    (hcommitted : (∀ p, t.self.impl ≠ some (.prep p)) → Committed srv t.toShared) :
    Kept srv w (w'.store r t) := by
  refine ⟨h.sound.store_current h.current h.empty hconn hready hdrained hfree, fun r' => ?_,
    h.quiet.trans hquiet, h.released, fun _ hnone => ?_⟩
  · by_cases hr : r' = r
    · subst hr
      rw [store_self]
      exact fun heq => ht (congrArg DbResult.impl (Option.some.inj heq))
    · rw [store_of_ne hr]
      exact h.whole r' hr
  · exact hcommitted fun p hp => hnone p ((active_store h.current hconn p).mpr hp)

variable (srv) in
theorem try_prepared_run (h : Building srv r w w') (sql : String) (is_statement : Bool) :
    match (try_prepared srv r sql is_statement).run w' with
    | .ok immediate t => immediate = false ∧ Kept srv w t
    | .error e t => e ≠ .fault .handle ∧ (e.Ends = false → Building srv r w t) := by
  have hprepared := prepared_run srv sql is_statement h.cleared.free h.cleared.drained
  rw [try_prepared, EStateM.run_bind, onNew, run_zoom]
  cases hrun : (prepared srv sql is_statement).run ⟨w'.toShared, {}⟩ with
  | ok p t =>
      rw [hrun] at hprepared
      obtain ⟨hconn, hquiet, hdrained, hready⟩ := hprepared
      refine ⟨rfl, h.kept (t := ⟨t.toShared, ⟨some (.prep p)⟩⟩) (by simp) hconn hquiet hdrained ?_
        (fun hnot => absurd rfl (hnot p)) fun hnot => absurd rfl (hnot p)⟩
      intro p' hp
      cases hp
      exact hready
  | error e t =>
      rw [hrun] at hprepared
      refine ⟨hprepared.1, fun hends => ?_⟩
      obtain ⟨hconn, hquiet, hdrained, hfree, hcommitted⟩ := hprepared.2 hends
      exact h.share hconn hquiet hdrained hfree hcommitted

variable (srv) in
theorem send_simple_run (h : Building srv r w w') (sql : String) :
    match (do
      onConnection (MariaResultSimple.send_query srv sql)
      set_impl r .simple : EStateM Exc World Unit).run w' with
    | .ok _ t => Kept srv w t
    | .error e t => e ≠ .fault .handle ∧ (e.Ends = false → Building srv r w t) := by
  have hsafe : Safe (Spares w'.toShared) (fun e => e ≠ .fault .handle) (exec srv sql) :=
    exec_spares sql (by simp) (by simp)
  have hspares := hsafe w'.toShared (Spares.refl _)
  have hleaves := exec_leaves srv sql h.cleared.drained
  rw [EStateM.run_bind, onConnection_run, MariaResultSimple.send_query, EStateM.run_bind]
  cases hrun : (DbConnection.exec srv sql).run w'.toShared with
  | ok a t =>
      rw [hrun] at hspares hleaves
      have hfree : Free t.mysql := h.cleared.free.stays (undisturbed_of_spares hspares)
      exact h.kept (t := ⟨t, ⟨some .simple⟩⟩) (by simp) hspares.conn hspares.toQuiet hleaves.1
        (fun p hp => by cases hp) (fun _ => hfree) fun _ => hleaves.2 h.cleared.free.reading
  | error e t =>
      rw [hrun] at hspares hleaves
      refine ⟨hspares.2, fun _ => ?_⟩
      exact h.share hspares.1.conn hspares.1.toQuiet hleaves.2.1
        (h.cleared.free.stays (undisturbed_of_spares hspares.1)) hleaves.2.2

variable (srv) in
theorem construct_run (h : Building srv r w w') (sql : String) (is_statement immediate : Bool) :
    match (construct srv r sql is_statement immediate).run w' with
    | .ok _ t => Kept srv w t
    | .error e t => e ≠ .fault .handle ∧ (e.Ends = false → Building srv r w t) := by
  rw [construct]
  cases immediate with
  | true => exact send_simple_run srv h sql
  | false =>
      have htry := try_prepared_run srv h sql is_statement
      simp only [Bool.false_eq_true, if_false]
      rw [EStateM.run_bind, run_tryCatch]
      cases hrun : (try_prepared srv r sql is_statement).run w' with
      | ok immediate t =>
          rw [hrun] at htry
          obtain ⟨rfl, hkept⟩ := htry
          exact hkept
      | error e t =>
          rw [hrun] at htry
          by_cases he : e = .unsupportedPS
          · subst he
            simp only [if_true, EStateM.run_pure]
            exact send_simple_run srv (htry.2 rfl) sql
          · simp only [he, if_false, run_throw]
            exact htry

-- A new object with nothing in it.
def allocated (w : World) : World :=
  { w with
    results := Function.update w.results w.next_result (some {})
    next_result := w.next_result + 1 }

theorem Sound.fresh_not_current (hw : Sound w) : w.conn.pCurrentResult_ ≠ some w.next_result := by
  intro h
  obtain ⟨x, hx⟩ := hw.current _ h
  rw [hw.fresh _ (Nat.le_refl _)] at hx
  cases hx

theorem allocated_of_ne (h : r ≠ w.next_result) : w.allocated.results r = w.results r :=
  Function.update_of_ne h ..

theorem active_allocated (hw : Sound w) (p : MariaResultPrep) : Active w.allocated p ↔ Active w p := by
  have hne : ∀ r, w.conn.pCurrentResult_ = some r → r ≠ w.next_result := by
    rintro r hr rfl
    exact hw.fresh_not_current hr
  constructor
  · rintro ⟨r, hr, hp⟩
    exact ⟨r, hr, (allocated_of_ne (hne r hr)).symm.trans hp⟩
  · rintro ⟨r, hr, hp⟩
    exact ⟨r, hr, (allocated_of_ne (hne r hr)).trans hp⟩

theorem Sound.allocated (hw : Sound w) : Sound w.allocated := by
  refine ⟨fun r hr => ?_, fun r hr => ?_, fun p hp => hw.ready p ((active_allocated hw p).mp hp),
    fun r p hr hp => ?_, hw.drained, fun hnone => hw.free fun p hp =>
      hnone p ((active_allocated hw p).mpr hp)⟩
  · have hne : r ≠ w.next_result := Nat.ne_of_gt hr
    exact (allocated_of_ne hne).trans (hw.fresh r (Nat.le_of_succ_le hr))
  · obtain ⟨x, hx⟩ := hw.current r hr
    refine ⟨x, (allocated_of_ne ?_).trans hx⟩
    rintro rfl
    exact hw.fresh_not_current hr
  · by_cases h : r = w.next_result
    · have hnew : w.allocated.results w.next_result = some ⟨none⟩ := Function.update_self ..
      rw [h, hnew] at hp
      cases hp
    · exact hw.closed r p hr ((allocated_of_ne h).symm.trans hp)

theorem Whole.allocated (hw : Whole w) : WholeBut w.next_result w.allocated := by
  intro r hr h
  exact hw r ((allocated_of_ne hr).symm.trans h)

-- What a call leaves, and how it ends, when it uses no closed handle.
def Keeps (srv : Server) (w : World) (m : EStateM Exc World α) : Prop :=
  match m.run w with
  | .ok _ t => Kept srv w t
  | .error e t => e ≠ .fault .handle ∧ (e.Ends = false → Kept srv w t)

theorem Kept.refl (hw : Sound w) (hwhole : Whole w) : Kept srv w w :=
  ⟨hw, hwhole, Quiet.refl _, rfl, id⟩

theorem create_closed (hvalid : ¬w.conn.pConn_ = true) (sql : String) (is_statement immediate : Bool) :
    (create srv sql is_statement immediate).run w =
      .error (.stop "Invalid or closed connection") w := by
  have hcheck : (onConnection DbConnection.check_connection).run w =
      .error (.stop "Invalid or closed connection") w := by
    rw [onConnection_run]
    simp [DbConnection.check_connection, DbConnection.is_valid, hvalid]
  rw [create, run_bind_error hcheck]

-- The constructor runs on a new result, and its exceptions destroy it.
variable (srv) in
theorem create_builds (hw : Sound w) (hwhole : Whole w) (hvalid : w.conn.pConn_ = true) (sql : String)
    (is_statement immediate : Bool) : ∃ u, Building srv w.next_result w u ∧
      (∀ t, (construct srv w.next_result sql is_statement immediate).run u = .ok () t →
        (create srv sql is_statement immediate).run w = .ok w.next_result t) ∧
      ∀ e t, (construct srv w.next_result sql is_statement immediate).run u = .error e t →
        (create srv sql is_statement immediate).run w = (do
          if e.Ends then throw e
          else do
            destroy srv w.next_result
            throw e : EStateM Exc World Nat).run t := by
  have hcheck : (onConnection DbConnection.check_connection).run w = .ok () w := by
    rw [onConnection_run]
    simp [DbConnection.check_connection, DbConnection.is_valid, hvalid]
  obtain ⟨u, hset, hallocated⟩ := set_current_result_run srv hw.allocated
    (Function.update_self ..) hw.fresh_not_current hwhole.allocated
  have hbuilding : Building srv w.next_result w u :=
    ⟨hallocated.cleared, hallocated.current, hallocated.empty, hallocated.whole, hallocated.quiet,
      hallocated.released, fun hsettled => hallocated.committed fun hnone =>
        hsettled fun p hp => hnone p ((active_allocated hw p).mpr hp)⟩
  have hrun : (create srv sql is_statement immediate).run w = (do
      tryCatch (construct srv w.next_result sql is_statement immediate) fun e =>
        if e.Ends then throw e
        else do
          destroy srv w.next_result
          throw e
      pure w.next_result : EStateM Exc World Nat).run u := by
    rw [create, run_bind_ok hcheck, EStateM.run_bind, EStateM.run_get]
    exact run_bind_ok hset
  refine ⟨u, hbuilding, fun t hbody => ?_, fun e t hbody => ?_⟩
  · rw [hrun, EStateM.run_bind, run_tryCatch, hbody]
    rfl
  · rw [hrun, EStateM.run_bind, run_tryCatch, hbody]
    by_cases hends : e.Ends = true
    · simp only [hends, if_true, run_throw]
    · simp only [hends, if_false, Bool.false_eq_true, EStateM.run_bind]
      cases (destroy srv w.next_result).run t <;> rfl

theorem create_run (hw : Sound w) (hwhole : Whole w) (sql : String) (is_statement immediate : Bool) :
    Keeps srv w (create srv sql is_statement immediate) := by
  by_cases hvalid : w.conn.pConn_ = true
  · obtain ⟨u, hbuilding, hok, herror⟩ :=
      create_builds srv hw hwhole hvalid sql is_statement immediate
    have hconstruct := construct_run srv hbuilding sql is_statement immediate
    rw [Keeps]
    cases hbody : (construct srv w.next_result sql is_statement immediate).run u with
    | ok a t =>
        rw [hbody] at hconstruct
        rw [hok t hbody]
        exact hconstruct
    | error e t =>
        rw [hbody] at hconstruct
        obtain ⟨hnot, hleft⟩ := hconstruct
        rw [herror e t hbody]
        cases hends : e.Ends with
        | true =>
            simp only [if_true, run_throw]
            exact ⟨hnot, fun h => by rw [hends] at h; cases h⟩
        | false =>
            have hleft := hleft hends
            obtain ⟨v, hdestroy, hkept⟩ := destroy_run srv hleft.sound hleft.empty hleft.whole
            simp only [Bool.false_eq_true, if_false, run_bind_ok hdestroy, run_throw]
            exact ⟨hnot, fun _ => ⟨hkept.sound, hkept.whole, hleft.quiet.trans hkept.quiet,
              hkept.released.trans hleft.released, fun hsettled => hkept.settled fun _ =>
              hleft.committed hsettled⟩⟩
  · rw [Keeps, create_closed hvalid]
    exact ⟨by simp, fun _ => Kept.refl hw hwhole⟩

end Lifetime

end World

end RMariaDB
