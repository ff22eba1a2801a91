import RMariaDB.MariaResultPrep.Ends
import RMariaDB.World.Calls

-- A result from its creation to its release, while it is the current one.

namespace RMariaDB

open Program DbConnection MariaResultPrep

variable {srv : Server} {α : Type}

namespace DbResult

theorem onImpl_raises {E : Exc → Prop} {prep : EStateM Exc (Obj MariaResultPrep) α}
    {simple : EStateM Exc Shared α} {s t : Obj DbResult} {e : Exc}
    (hprep : ∀ p, s.self.impl = some (.prep p) → ∀ u, prep.run ⟨s.toShared, p⟩ = .error e u → E e)
    (hsimple : ∀ u, simple.run s.toShared = .error e u → E e) (hnone : E (.fault .memory))
    (h : (onImpl prep simple).run s = .error e t) : E e := by
  rw [onImpl, EStateM.run_bind, EStateM.run_get] at h
  obtain ⟨sh, ⟨impl⟩⟩ := s
  cases impl with
  | none =>
      cases h
      exact hnone
  | some impl =>
      cases impl with
      | simple =>
          dsimp only at h
          rw [onShared_run] at h
          cases hrun : simple.run sh with
          | ok a u =>
              rw [hrun] at h
              cases h
          | error e' u =>
              rw [hrun] at h
              cases h
              exact hsimple u hrun
      | prep p =>
          dsimp only at h
          rw [run_zoom] at h
          cases hrun : prep.run ⟨sh, p⟩ with
          | ok a u =>
              rw [hrun] at h
              cases h
          | error e' u =>
              rw [hrun] at h
              cases h
              exact hprep p rfl u hrun

theorem bind_ends {params : List SEXP} {s t : Obj DbResult} {e : Exc}
    (h : (DbResult.bind srv params).run s = .error e t) : e ≠ .outOfFuel := by
  by_cases hequal : EqualLengths params
  · rw [DbResult.bind, run_bind_ok (validate_params_run hequal)] at h
    refine onImpl_raises (E := fun e => e ≠ .outOfFuel) (fun p _ u hrun => ?_) (fun u hrun => ?_)
      (by simp) h
    · have hbind := bind_raises srv params ⟨s.toShared, p⟩ trivial
      rw [hrun] at hbind
      exact hbind
    · cases hrun
      simp
  · obtain ⟨message, hrun⟩ := validate_params_stop (s := s) hequal
    rw [DbResult.bind, run_bind_error hrun] at h
    cases h
    simp

-- All rows that are unread are fetched with so much fuel.
theorem fetch_ends {this : Nat} {n_max : ℤ} {s t : Obj DbResult} {e : Exc}
    (hnew : ∀ p, s.self.impl = some (.prep p) → p.bindingInput_ = {})
    (h : (DbResult.fetch srv this (s.mysql.unread + 1) n_max).run s = .error e t) :
    e ≠ .outOfFuel := by
  rw [DbResult.fetch, EStateM.run_bind, EStateM.run_get] at h
  dsimp only at h
  rw [run_ite] at h
  split at h
  · cases h
    simp
  · refine onImpl_raises (E := fun e => e ≠ .outOfFuel) (fun p hp u hrun => ?_) (fun u hrun => ?_)
      (by simp) h
    · have hfetch := fetch_left srv (b := p.bindingInput_) (n := s.mysql.unread)
        (by rw [hnew p hp]; rfl) n_max ⟨s.toShared, p⟩ ⟨Nat.le_refl _, rfl⟩
      rw [hrun] at hfetch
      exact hfetch
    · cases hrun

end DbResult

namespace World

open DbResult

variable {w w' u : World} {r : Nat}

-- The parameters of a result that was just created
def New (w : World) (r : Nat) : Prop :=
  ∀ p, w.results r = some ⟨some (.prep p)⟩ → p.bindingInput_ = {}

theorem new_store {t : Obj DbResult}
    (h : ∀ p, t.self.impl = some (.prep p) → p.bindingInput_ = {}) : New (w.store r t) r := by
  intro p hp
  rw [store_self, Option.some.injEq] at hp
  exact h p (by rw [hp])

theorem current_store {t : Obj DbResult} (hconn : t.conn = w.conn)
    (hr : w.conn.pCurrentResult_ = some r) : (w.store r t).conn.pCurrentResult_ = some r := by
  rw [← hr, ← hconn]
  rfl

variable (srv) in
theorem try_prepared_new (h : Building srv r w w') (sql : String) (is_statement : Bool) :
    match (try_prepared srv r sql is_statement).run w' with
    | .ok _ t => t.conn.pCurrentResult_ = some r ∧ New t r
    | .error e _ => e.Ends = false := by
  have hfault := try_prepared_run srv h sql is_statement
  have hraises : Safe (Shares fun _ => True) (fun e => e.Ends = true → e = .fault .handle)
      (prepared srv sql is_statement) := prepared_raises (fun _ => rfl) (by simp [Exc.Ends])
        (by simp [Exc.Ends]) sql is_statement
  have hraised := hraises ⟨w'.toShared, {}⟩ trivial
  rw [try_prepared, EStateM.run_bind, onNew, run_zoom] at hfault ⊢
  cases hrun : (prepared srv sql is_statement).run ⟨w'.toShared, {}⟩ with
  | ok p t =>
      obtain ⟨rfl, hconn, hwired⟩ := prepared_wired hrun
      have ht : New (w'.store r ⟨t.toShared, ⟨some (.prep t.self)⟩⟩) r := by
        refine new_store fun p hp => ?_
        cases hp
        exact hwired.bound
      exact ⟨current_store (w := w') (t := ⟨t.toShared, ⟨some (.prep t.self)⟩⟩) hconn h.current, ht⟩
  | error e t =>
      rw [hrun] at hfault hraised
      by_contra hends
      exact hfault.1 (hraised.2 (Bool.eq_true_of_not_eq_false hends))

variable (srv) in
theorem send_simple_new (h : Building srv r w w') (sql : String) :
    match (do
      onConnection (MariaResultSimple.send_query srv sql)
      set_impl r .simple : EStateM Exc World Unit).run w' with
    | .ok _ t => t.conn.pCurrentResult_ = some r ∧ New t r
    | .error e _ => e.Ends = false := by
  have hsafe : Safe (Spares w'.toShared) (fun _ => True) (exec srv sql) :=
    exec_spares sql (by simp) (by simp)
  have hspares := hsafe w'.toShared (Spares.refl _)
  have hleaves := exec_leaves srv sql h.cleared.drained
  rw [EStateM.run_bind, onConnection_run, MariaResultSimple.send_query, EStateM.run_bind]
  cases hrun : (DbConnection.exec srv sql).run w'.toShared with
  | ok a t =>
      rw [hrun] at hspares
      refine ⟨current_store (w := w') (t := ⟨t, ⟨some .simple⟩⟩) hspares.conn h.current, ?_⟩
      exact new_store (w := w') (t := ⟨t, ⟨some .simple⟩⟩) fun p hp => by cases hp
  | error e t =>
      rw [hrun] at hleaves
      exact hleaves.1

variable (srv) in
theorem construct_new (h : Building srv r w w') (sql : String) (is_statement immediate : Bool) :
    match (construct srv r sql is_statement immediate).run w' with
    | .ok _ t => t.conn.pCurrentResult_ = some r ∧ New t r
    | .error e _ => e.Ends = false := by
  rw [construct]
  cases immediate with
  | true => exact send_simple_new srv h sql
  | false =>
      have htry := try_prepared_new srv h sql is_statement
      have hleft := try_prepared_run srv h sql is_statement
      simp only [Bool.false_eq_true, if_false]
      rw [EStateM.run_bind, run_tryCatch]
      cases hrun : (try_prepared srv r sql is_statement).run w' with
      | ok immediate t =>
          rw [hrun] at htry hleft
          obtain ⟨rfl, -⟩ := hleft
          exact htry
      | error e t =>
          rw [hrun] at htry hleft
          by_cases he : e = .unsupportedPS
          · subst he
            simp only [if_true, EStateM.run_pure]
            exact send_simple_new srv (hleft.2 rfl) sql
          · simp only [he, if_false, run_throw]
            exact htry

-- The connection no longer points to a result that was the current one.
theorem destroy_current {x : DbResult} (hw : Sound w) (hr : w.conn.pCurrentResult_ = some r)
    (hx : w.results r = some x) (h : (destroy srv r).run w = .ok () w') :
    w'.conn.pCurrentResult_ = none := by
  obtain ⟨t, hrun, -, -, hcleared, -, -⟩ := close_current srv hw hr hx
  let u := (w.store r t).pointing none
  have hreset : (reset_current_result srv r).run w = .ok () u := by
    rw [reset_current_result, EStateM.run_bind, EStateM.run_get]
    simp only [hr, if_true, run_bind_ok hrun]
    rfl
  obtain ⟨v, hclose, hspares, -, -⟩ := close_other srv (w := u) hcleared.pointing_none
    (by simp [u, World.pointing]) (store_self w r t)
  rw [destroy, EStateM.run_bind, EStateM.run_get] at h
  simp only [hr, if_true, EStateM.run_bind, run_tryCatch, hreset, hclose, EStateM.run_modify] at h
  cases h
  change v.conn.pCurrentResult_ = none
  rw [hspares.conn]
  rfl

-- What a call leaves when it is made for its own result alone.
structure Serves (srv : Server) (w w' : World) : Prop extends Kept srv w w' where
  idle : w.conn.pCurrentResult_ = none → w'.conn.pCurrentResult_ = none

-- A result of one's own that is the current one
structure Holding (srv : Server) (w : World) (r : Nat) (w' : World) : Prop
    extends Kept srv w w' where
  current : w'.conn.pCurrentResult_ = some r

theorem Kept.trans {a b c : World} (h : Kept srv a b) (h' : Kept srv b c) : Kept srv a c :=
  ⟨h'.sound, h'.whole, h.quiet.trans h'.quiet, h'.released.trans h.released,
    fun hsettled => h'.settled (h.settled hsettled)⟩

variable (srv) in
theorem create_serves (hw : Sound w) (hwhole : Whole w) (sql : String)
    (is_statement immediate : Bool) :
    match (create srv sql is_statement immediate).run w with
    | .ok r t => Holding srv w r t ∧ New t r
    | .error e t => e.Ends = false ∧ Serves srv w t := by
  have hkeeps : Keeps srv w (create srv sql is_statement immediate) :=
    create_run hw hwhole sql is_statement immediate
  by_cases hvalid : w.conn.pConn_ = true
  · obtain ⟨u, hbuilding, hok, herror⟩ :=
      create_builds srv hw hwhole hvalid sql is_statement immediate
    have hnew := construct_new srv hbuilding sql is_statement immediate
    have hconstruct := construct_run srv hbuilding sql is_statement immediate
    rw [Keeps] at hkeeps
    cases hbody : (construct srv w.next_result sql is_statement immediate).run u with
    | ok _ t =>
        rw [hbody] at hnew
        rw [hok t hbody] at hkeeps ⊢
        exact ⟨⟨hkeeps, hnew.1⟩, hnew.2⟩
    | error e t =>
        rw [hbody] at hnew hconstruct
        rw [herror e t hbody] at hkeeps ⊢
        have hleft := hconstruct.2 hnew
        obtain ⟨v, hdestroy, -⟩ := destroy_run srv hleft.sound hleft.empty hleft.whole
        simp only [hnew, Bool.false_eq_true, if_false, run_bind_ok hdestroy, run_throw] at hkeeps ⊢
        exact ⟨trivial, hkeeps.2 trivial,
          fun _ => destroy_current hleft.sound hleft.current hleft.empty hdestroy⟩
  · rw [create_closed hvalid]
    exact ⟨rfl, Kept.refl hw hwhole, id⟩

theorem release_serves (h : Holding srv w r u) : ∃ t, (call srv (.release r)).run u = .ok .done t ∧
    Serves srv w t := by
  obtain ⟨x, hx⟩ := h.sound.current r h.current
  obtain ⟨t, hrun, hkept⟩ := destroy_run srv h.sound hx fun r' _ => h.whole r'
  refine ⟨t, ?_, h.toKept.trans hkept, fun _ => destroy_current h.sound h.current hx hrun⟩
  rw [call, EStateM.run_bind, EStateM.run_get]
  simp only [hx, Option.isSome_some, if_true, run_bind_ok hrun]
  rfl

end World

end RMariaDB
