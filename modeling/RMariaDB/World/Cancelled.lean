import RMariaDB.World.Results

-- A result that is no longer the current one, for the rest of its life.

namespace RMariaDB.World

open Program DbResult

variable {srv : Server} {α : Type} {w w' : World} {r r' : Nat} {x : DbResult} {o : Option DbResult}
  {op : Op}

section Frame

-- What is at an address that no later result gets
structure Placed (r : Nat) (o : Option DbResult) (w : World) : Prop where
  result : w.results r = o
  given : r < w.next_result

abbrev Untouched (r : Nat) (o : Option DbResult) (m : EStateM Exc World α) : Prop :=
  Safe (Placed r o) (fun _ => True) m

theorem Placed.update (h : Placed r o w) (hne : r ≠ r') (y : Option DbResult) :
    Function.update w.results r' y r = o := (Function.update_of_ne hne ..).trans h.result

theorem Untouched.frame {τ : Type} {get : World → τ} {put : τ → World → World} {m : EStateM Exc τ α}
    (hput : ∀ t w, Placed r o w → Placed r o (put t w)) : Untouched r o (zoom get put m) :=
  Spec.mono (Spec.frame hput) (fun _ => id) (fun _ _ => id) fun _ _ h => ⟨h, trivial⟩

theorem onConnection_untouched (m : EStateM Exc Shared α) : Untouched r o (onConnection m) :=
  Untouched.frame fun _ _ h => ⟨h.result, h.given⟩

theorem onResult_untouched (hne : r ≠ r') (m : EStateM Exc (Obj DbResult) α) :
    Untouched r o (onResult r' m) := by
  apply Safe.get_bind
  intro w _
  cases w.results r' with
  | none => exact Safe.throw trivial
  | some x => exact Untouched.frame fun _ _ h => ⟨h.update hne _, h.given⟩

theorem set_current_untouched (c : Option Nat) : Untouched r o (set_current c) :=
  Safe.modify fun _ h => ⟨h.result, h.given⟩

theorem set_impl_untouched (hne : r ≠ r') (impl : MariaResultImpl) : Untouched r o (set_impl r' impl) :=
  Safe.modify fun _ h => ⟨h.update hne _, h.given⟩

theorem destroy_untouched (hne : r ≠ r') : Untouched r o (destroy srv r') := by
  have hclose : Untouched r o (onResult r' (DbResult.close srv)) := onResult_untouched hne _
  have hrest : Untouched r o (do
      onResult r' (DbResult.close srv)
      modify fun w => { w with results := Function.update w.results r' none }) :=
    hclose.bind fun _ => Safe.modify fun _ h => ⟨h.update hne _, h.given⟩
  have hreset : Untouched r o (reset_current_result srv r') :=
    Safe.get_bind fun _ _ => Safe.ite (fun _ => hclose.bind fun _ => set_current_untouched none)
      fun _ => Safe.pure ()
  refine Safe.get_bind fun w _ => Safe.ite (fun _ => ?_) fun _ => (Safe.pure ()).bind fun _ => hrest
  refine Safe.bind (Safe.tryCatch hreset fun e _ => ?_) fun _ => hrest
  exact Safe.ite (fun _ => Safe.throw trivial) fun _ => Safe.pure ()

theorem construct_untouched (hne : r ≠ r') (sql : String) (is_statement immediate : Bool) :
    Untouched r o (construct srv r' sql is_statement immediate) := by
  have hsimple : Untouched r o (do
      onConnection (MariaResultSimple.send_query srv sql)
      set_impl r' .simple) := (onConnection_untouched _).bind fun _ => set_impl_untouched hne _
  have hnew : Untouched r o (onNew (prepared srv sql is_statement)) :=
    Untouched.frame fun _ _ h => ⟨h.result, h.given⟩
  have htry : Untouched r o (try_prepared srv r' sql is_statement) :=
    hnew.bind fun _ => (set_impl_untouched hne _).bind fun _ => Safe.pure false
  cases immediate with
  | true => exact hsimple
  | false =>
      refine Safe.bind (Safe.tryCatch htry fun e _ => ?_) fun simple => ?_
      · exact Safe.ite (fun _ => Safe.pure true) fun _ => Safe.throw trivial
      · exact Safe.ite (fun _ => hsimple) fun _ => Safe.pure ()

-- The current result is closed, and no other one.
variable (srv) in
theorem set_current_result_placed (this : Nat) :
    Spec (fun w => Placed r o w ∧ w.conn.pCurrentResult_ ≠ some r) (set_current_result srv this)
      (fun _ => Placed r o) fun _ t => Placed r o t ∧ True := by
  apply Spec.get_bind
  rintro w ⟨hplaced, hr⟩
  have hset : Untouched r o (set_current (some this)) := set_current_untouched _
  refine Spec.mono (P := Placed r o) (Safe.ite (fun _ => Safe.pure ()) fun _ => ?_)
    (fun t ht => ht ▸ hplaced) (fun _ _ => id) fun _ _ => id
  cases hcurrent : w.conn.pCurrentResult_ with
  | none => exact (Safe.pure ()).bind fun _ => hset
  | some r' =>
      have hne : r ≠ r' := fun heq => hr (heq ▸ hcurrent)
      exact (onConnection_untouched _).bind fun _ => (onResult_untouched hne _).bind fun _ => hset

theorem create_placed (h : Placed r o w) (hr : w.conn.pCurrentResult_ ≠ some r) (sql : String)
    (is_statement immediate : Bool) : Spec (fun t => t = w) (create srv sql is_statement immediate)
      (fun _ => Placed r o) fun _ t => Placed r o t ∧ True := by
  rintro w rfl
  by_cases hvalid : w.conn.pConn_ = true
  · have hcheck : (onConnection DbConnection.check_connection).run w = .ok () w := by
      rw [onConnection_run]
      simp [DbConnection.check_connection, DbConnection.is_valid, hvalid]
    have hne : r ≠ w.next_result := Nat.ne_of_lt h.given
    have hbody : Untouched r o (do
        tryCatch (construct srv w.next_result sql is_statement immediate) fun e =>
          if e.Ends then throw e
          else do
            destroy srv w.next_result
            throw e
        pure w.next_result) := by
      refine Safe.bind (Safe.tryCatch (construct_untouched hne _ _ _) fun e _ => ?_) fun _ =>
        Safe.pure _
      exact Safe.ite (fun _ => Safe.throw trivial) fun _ =>
        (destroy_untouched hne).bind fun _ => Safe.throw trivial
    have hrest := Spec.bind (set_current_result_placed srv w.next_result) fun _ => hbody
    rw [create, run_bind_ok hcheck, EStateM.run_bind, EStateM.run_get]
    exact hrest w.allocated ⟨⟨(allocated_of_ne hne).trans h.result, Nat.lt_succ_of_lt h.given⟩, hr⟩
  · rw [create_closed hvalid]
    exact ⟨h, trivial⟩

end Frame

section Replaced

-- Another result is the current one, or none is.
structure Aside (r : Nat) (o : Option DbResult) (w : World) : Prop extends Placed r o w where
  replaced : w.conn.pCurrentResult_ ≠ some r

theorem create_replaced (hw : Sound w) (hwhole : Whole w) (h : Aside r o w) (sql : String)
    (is_statement immediate : Bool) : Spec (fun t => t = w) (create srv sql is_statement immediate)
      (fun _ t => t.conn.pCurrentResult_ ≠ some r) fun _ t => t.conn.pCurrentResult_ ≠ some r := by
  rintro w rfl
  by_cases hvalid : w.conn.pConn_ = true
  · obtain ⟨u, hbuilding, hok, herror⟩ :=
      create_builds srv hw hwhole hvalid sql is_statement immediate
    have hnew := construct_new srv hbuilding sql is_statement immediate
    have hconstruct := construct_run srv hbuilding sql is_statement immediate
    cases hbody : (construct srv w.next_result sql is_statement immediate).run u with
    | ok _ t =>
        rw [hbody] at hnew
        rw [hok t hbody]
        have hne : w.next_result ≠ r := Nat.ne_of_gt h.given
        simp only [hnew.1, ne_eq, Option.some.injEq, hne, not_false_eq_true]
    | error e t =>
        rw [hbody] at hnew hconstruct
        rw [herror e t hbody]
        have hleft := hconstruct.2 hnew
        obtain ⟨v, hdestroy, -⟩ := destroy_run srv hleft.sound hleft.empty hleft.whole
        have hnone := destroy_current hleft.sound hleft.current hleft.empty hdestroy
        simp [hnew, run_bind_ok hdestroy, hnone]
  · rw [create_closed hvalid]
    exact h.replaced

-- A result that is not the current one is closed and removed.
variable (srv) in
theorem destroy_other (hw : Sound w) (hr : w.conn.pCurrentResult_ ≠ some r)
    (hx : w.results r = some x) :
    ∃ t, (destroy srv r).run w = .ok () ((w.store r t).without r) ∧ t.conn = w.conn := by
  obtain ⟨t, hclose, hspares, -, -⟩ := close_other srv hw hr hx
  refine ⟨t, ?_, hspares.conn⟩
  rw [destroy, EStateM.run_bind, EStateM.run_get]
  simp only [hr, if_false]
  exact run_bind_ok hclose

theorem after_of_spec {Q : World → Prop} {m : EStateM Exc World α}
    (h : Spec (fun t => t = w) m (fun _ => Q) fun _ => Q) (hafter : after m w = some w') : Q w' := by
  have hw := h w rfl
  cases hrun : m.run w with
  | ok a t =>
      rw [hrun] at hw
      rw [after, hrun] at hafter
      cases hafter
      exact hw
  | error e t =>
      rw [hrun] at hw
      obtain ⟨-, rfl⟩ := after_error hrun hafter
      exact hw

theorem after_map {β : Type} (f : α → β) (m : EStateM Exc World α) : after (f <$> m) w = after m w := by
  rw [after, run_map, after]
  cases m.run w <;> rfl

theorem after_bind_pure {β : Type} (m : EStateM Exc World α) (b : β) :
    after (do let _ ← m; pure b) w = after m w := by
  rw [after, EStateM.run_bind, after]
  cases m.run w <;> rfl

theorem after_onOpen {message : String} {m : EStateM Exc World Reply}
    (h : after (onOpen message m) w = some w') : w' = w ∨ after m w = some w' := by
  rw [after, onOpen_run] at h
  by_cases hreleased : w.released = true
  · rw [if_pos hreleased] at h
    cases h
    exact .inl rfl
  · rw [if_neg hreleased] at h
    exact .inr h

theorem onLive_eq (m : EStateM Exc World Reply) : (onLive r m).run w =
    if (w.results r).isNone then .error (.stop "Invalid result set") w else m.run w := by
  rw [onLive, EStateM.run_bind, EStateM.run_get]
  exact run_ite _ _ _ w

theorem onResult_after (srv : Server) (hw : Sound w) (hwhole : Whole w)
    (hr : w.conn.pCurrentResult_ = some r) (hx : w.results r = some x)
    {m : EStateM Exc (Obj DbResult) α} (hm : Works m)
    (h : after (onResult r m) w = some w') : ∃ t, w' = w.store r t ∧ t.conn = w.conn := by
  refine after_of_spec (Q := fun w' => ∃ t, w' = w.store r t ∧ t.conn = w.conn) ?_ h
  rintro w rfl
  have hworks := onResult_works srv hw hwhole hr hx hm
  rw [onResult_run hx] at hworks ⊢
  cases hrun : m.run ⟨w.toShared, x⟩ with
  | ok a t =>
      rw [hrun] at hworks
      exact ⟨t, rfl, hworks.2⟩
  | error e t =>
      rw [hrun] at hworks
      exact ⟨t, rfl, hworks.1.2⟩

theorem Stays.after {m : EStateM Exc World α} (h : Stays w m) (hafter : after m w = some w') : w' = w := by
  refine after_of_spec (Q := fun t => t = w) ?_ hafter
  rintro w rfl
  unfold Stays at h
  cases hrun : m.run w with
  | ok a t =>
      rw [hrun] at h
      exact h
  | error e t =>
      rw [hrun] at h
      exact h.1

-- A call on a result does nothing unless it is the current one.
theorem step_onLive (hw : Sound w) (hwhole : Whole w) (hon : op.on = some r)
    (hstep : step srv op w = some w') {m : EStateM Exc World Reply} (hcall : call srv op = onLive r m)
    (hm : ∀ x, w.results r = some x → w.conn.pCurrentResult_ = some r → after m w = some w' →
      ∃ t, w' = w.store r t ∧ t.conn = w.conn) :
    w' = w ∨ w.conn.pCurrentResult_ = some r ∧ ∃ t, w' = w.store r t ∧ t.conn = w.conn := by
  cases hx : w.results r with
  | none =>
      have hrun : (call srv op).run w = .error (.stop "Invalid result set") w := by
        rw [hcall, onLive_eq, hx]
        rfl
      exact .inl (after_error hrun hstep).2
  | some x =>
      by_cases hr : w.conn.pCurrentResult_ = some r
      · refine .inr ⟨hr, hm x hx hr ?_⟩
        rw [step, hcall, after, onLive_eq, hx] at hstep
        exact hstep
      · by_cases hstale : Stale w op
        · obtain ⟨t, hrun⟩ := stale_faults srv hw hstale
          exact absurd (after_error hrun hstep).1 (by simp [Exc.Ends])
        · exact .inl ((stale_stays hw hwhole hon hx hr hstale).after hstep)

theorem step_on (hw : Sound w) (hwhole : Whole w) (hon : op.on = some r)
    (hstep : step srv op w = some w') :
    w' = w ∨ w.conn.pCurrentResult_ = some r ∧ ∃ t, w' = w.store r t ∧ t.conn = w.conn := by
  cases op with
  | bind r params =>
      cases hon
      refine step_onLive hw hwhole rfl hstep rfl fun x hx hr h => ?_
      rw [after_bind_pure] at h
      exact onResult_after srv hw hwhole hr hx (bind_works params) h
  | fetch r n fuel =>
      cases hon
      refine step_onLive hw hwhole rfl hstep rfl fun x hx hr h => ?_
      rw [after_map] at h
      exact onResult_after srv hw hwhole hr hx (fetch_works _ fuel n) h
  | has_completed r =>
      cases hon
      exact step_onLive hw hwhole rfl hstep rfl fun x hx hr h => onResult_after srv hw hwhole hr hx
        (fun _ => Safe.get_bind fun _ _ => Safe.pure _) h
  | rows_fetched r =>
      cases hon
      refine step_onLive hw hwhole rfl hstep rfl fun x hx hr h => ?_
      rw [after_map] at h
      exact onResult_after srv hw hwhole hr hx n_rows_fetched_works h
  | rows_affected r =>
      cases hon
      refine step_onLive hw hwhole rfl hstep rfl fun x hx hr h => ?_
      rw [after_map] at h
      exact onResult_after srv hw hwhole hr hx n_rows_affected_works h
  | column_info r =>
      cases hon
      refine step_onLive hw hwhole rfl hstep rfl fun x hx hr h => ?_
      rw [after_map] at h
      exact onResult_after srv hw hwhole hr hx get_column_info_works h
  | _ => cases hon

theorem on_aside (hw : Sound w) (hwhole : Whole w) (h : Aside r o w) (hon : op.on = some r')
    (hstep : step srv op w = some w') : Aside r o w' := by
  rcases step_on hw hwhole hon hstep with rfl | ⟨hr', t, rfl, hconn⟩
  · exact h
  · have hne : r ≠ r' := fun heq => h.replaced (heq ▸ hr')
    refine ⟨⟨(store_of_ne hne w t).trans h.result, h.given⟩, ?_⟩
    rw [show (w.store r' t).conn = w.conn from hconn]
    exact h.replaced

theorem decides_aside (h : Aside r o w) (hop : op = .begin_transaction ∨ op = .commit ∨ op = .rollback)
    (hstep : step srv op w = some w') : Aside r o w' := by
  rcases decides_run srv op hop w with ⟨-, hrun⟩ | ⟨-, message, hrun⟩
  · rw [step, after, hrun] at hstep
    cases hstep
    rcases hop with rfl | rfl | rfl
    · exact ⟨⟨h.result, h.given⟩, h.replaced⟩
    · exact ⟨⟨h.result, h.given⟩, h.replaced⟩
    · exact ⟨⟨h.result, h.given⟩, h.replaced⟩
  · obtain ⟨-, rfl⟩ := after_error hrun hstep
    exact h

theorem create_aside (hw : Sound w) (hwhole : Whole w) (h : Aside r o w) {sql : String}
    {is_statement immediate : Bool} (hstep : step srv (.create sql is_statement immediate) w = some w') :
    Aside r o w' := by
  rcases after_onOpen hstep with rfl | hafter
  · exact h
  rw [after_map] at hafter
  have hplaced := after_of_spec (Q := Placed r o) ((create_placed h.toPlaced h.replaced sql
    is_statement immediate).mono (fun _ => id) (fun _ _ => id) fun _ _ ht => ht.1) hafter
  exact ⟨hplaced, after_of_spec (create_replaced hw hwhole h sql is_statement immediate) hafter⟩

variable (srv) in
theorem release_aside (hw : Sound w) (h : Aside r o w) (hx : w.results r' = some x)
    (hrun : (destroy srv r').run w = .ok () w') :
    Aside r o w' ∨ Aside r none w' := by
  by_cases hr' : w.conn.pCurrentResult_ = some r'
  · have hne : r ≠ r' := fun heq => h.replaced (heq ▸ hr')
    have huntouched : Untouched r o (destroy srv r') := destroy_untouched hne
    have hplaced := huntouched w h.toPlaced
    rw [hrun] at hplaced
    refine .inl ⟨hplaced, ?_⟩
    simp [destroy_current hw hr' hx hrun]
  · obtain ⟨t, hother, hconn⟩ := destroy_other srv hw hr' hx
    cases hother.symm.trans hrun
    have hreplaced : ((w.store r' t).without r').conn.pCurrentResult_ ≠ some r := by
      rw [show ((w.store r' t).without r').conn = w.conn from hconn]
      exact h.replaced
    by_cases heq : r = r'
    · subst heq
      exact .inr ⟨⟨Function.update_self .., h.given⟩, hreplaced⟩
    · have hplaced : Placed r o (w.store r' t) := ⟨h.update heq _, h.given⟩
      exact .inl ⟨⟨hplaced.update heq _, h.given⟩, hreplaced⟩

-- What a call leaves of it
theorem step_aside (hw : Sound w) (hwhole : Whole w) (h : Aside r o w)
    (hstep : step srv op w = some w') : Aside r o w' ∨ Aside r none w' := by
  cases op with
  | create sql is_statement immediate => exact .inl (create_aside hw hwhole h hstep)
  | release r' =>
      rw [step, after, call, EStateM.run_bind, EStateM.run_get] at hstep
      cases hx : w.results r' with
      | none =>
          simp only [hx, Option.isSome_none, Bool.false_eq_true, if_false] at hstep
          cases hstep
          exact .inl h
      | some x =>
          obtain ⟨v, hrun, -⟩ := destroy_run srv hw hx fun r' _ => hwhole r'
          simp only [hx, Option.isSome_some, if_true, run_bind_ok hrun] at hstep
          cases hstep
          exact release_aside srv hw h hx hrun
  | bind r' params => exact .inl (on_aside hw hwhole h rfl hstep)
  | fetch r' n fuel => exact .inl (on_aside hw hwhole h rfl hstep)
  | has_completed r' => exact .inl (on_aside hw hwhole h rfl hstep)
  | rows_fetched r' => exact .inl (on_aside hw hwhole h rfl hstep)
  | rows_affected r' => exact .inl (on_aside hw hwhole h rfl hstep)
  | column_info r' => exact .inl (on_aside hw hwhole h rfl hstep)
  | valid r' =>
      cases hstep
      exact .inl h
  | is_transacting =>
      rcases after_onOpen hstep with rfl | hafter
      · exact .inl h
      · cases hafter
        exact .inl h
  | begin_transaction => exact .inl (decides_aside h (.inl rfl) hstep)
  | commit => exact .inl (decides_aside h (.inr (.inl rfl)) hstep)
  | rollback => exact .inl (decides_aside h (.inr (.inr rfl)) hstep)
  | disconnect =>
      obtain ⟨warnings, hrun⟩ := disconnect_run srv w
      rw [step, after, hrun] at hstep
      cases hstep
      refine .inl ?_
      split
      · exact ⟨⟨h.result, h.given⟩, h.replaced⟩
      · exact ⟨⟨h.result, h.given⟩, h.replaced⟩

end Replaced

section Answers

variable {σ β : Type} {m : EStateM Exc σ α} {s t : σ} {e : Exc}

-- What R sees of a call
def outcome (m : EStateM Exc σ α) (s : σ) : Except Exc α :=
  match m.run s with
  | .ok a _ => .ok a
  | .error e _ => .error e

theorem outcome_error (h : m.run s = .error e t) : outcome m s = .error e := by
  rw [outcome, h]

theorem outcome_map (f : α → β) : outcome (f <$> m) s = f <$> outcome m s := by
  rw [outcome, run_map, outcome]
  cases m.run s <;> rfl

theorem outcome_bind_pure (b : β) :
    outcome (do let _ ← m; pure b) s = (fun _ => b) <$> outcome m s := by
  rw [outcome, EStateM.run_bind, outcome]
  cases m.run s <;> rfl

theorem outcome_onResult (hx : w.results r = some x) (m : EStateM Exc (Obj DbResult) α) :
    outcome (onResult r m) w = outcome m ⟨w.toShared, x⟩ := by
  rw [outcome, onResult_run hx, outcome]
  cases m.run ⟨w.toShared, x⟩ <;> rfl

theorem outcome_onLive (hx : w.results r = some x) (m : EStateM Exc World Reply) :
    outcome (onLive r m) w = outcome m w := by
  rw [outcome, onLive_eq, hx]
  rfl

-- What is read from the object alone
theorem outcome_onImpl_read (prep : MariaResultPrep → Except Exc α) (simple : α) (sh sh' : Shared)
    (x : DbResult) : outcome (onImpl (do
      let s ← get
      liftM (prep s.self)) (pure simple)) ⟨sh, x⟩ = outcome (onImpl (do
      let s ← get
      liftM (prep s.self)) (pure simple)) ⟨sh', x⟩ := by
  obtain ⟨impl⟩ := x
  cases impl with
  | none => rfl
  | some impl =>
      cases impl with
      | simple => rfl
      | prep p =>
          simp only [outcome, onImpl, EStateM.run_bind, EStateM.run_get, run_zoom, run_liftM]
          cases prep p <;> rfl

-- Parameters that are turned down before the object is asked for anything
variable (srv) in
theorem bind_unequal {params : List SEXP} (h : ¬EqualLengths params) :
    ∃ e, ∀ s, outcome (DbResult.bind srv params) s = .error e := by
  cases params with
  | nil => exact absurd trivial h
  | cons col params =>
      cases hother : first_other col.xlength 1 params with
      | none => exact absurd ((first_other_eq_none 1).mp hother) h
      | some j =>
          refine ⟨.stop ("Parameter " ++ toString (j + 1) ++ " does not have length " ++
            toString col.xlength ++ "."), fun s => ?_⟩
          rw [DbResult.bind, validate_params, hother]
          rfl

-- The parameters of a result that is not the current one cannot be bound.
variable (srv) in
theorem bind_refused (r : Nat) (x : DbResult) (params : List SEXP) : ∃ e, ∀ w, Sound w →
    w.results r = some x → w.conn.pCurrentResult_ ≠ some r →
      outcome (call srv (.bind r params)) w = .error e := by
  by_cases hequal : EqualLengths params
  · obtain ⟨impl⟩ := x
    have hreach (w : World) (hx : w.results r = some ⟨impl⟩) :
        outcome (call srv (.bind r params)) w = (fun _ => Reply.done) <$>
          outcome (onImpl (MariaResultPrep.bind srv params) MariaResultSimple.bind)
            ⟨w.toShared, ⟨impl⟩⟩ := by
      rw [call, outcome_onLive hx, outcome_bind_pure, outcome_onResult hx, DbResult.bind, outcome,
        run_bind_ok (validate_params_run hequal), outcome]
    cases impl with
    | none => exact ⟨_, fun w _ hx _ => (hreach w hx).trans rfl⟩
    | some impl =>
        cases impl with
        | simple => exact ⟨_, fun w _ hx _ => (hreach w hx).trans rfl⟩
        | prep p =>
            refine ⟨.fault .handle, fun w hw hx hr => ?_⟩
            have hstale : Stale w (.bind r params) := ⟨hr, hequal, p, hx⟩
            obtain ⟨t, hrun⟩ := stale_faults srv hw hstale
            exact outcome_error hrun
  · obtain ⟨e, he⟩ := bind_unequal srv hequal
    refine ⟨e, fun w _ hx _ => ?_⟩
    rw [call, outcome_onLive hx, outcome_bind_pure, outcome_onResult hx, he]
    rfl

theorem fetch_refused (hr : w.conn.pCurrentResult_ ≠ some r) (hx : w.results r = some x) (n : ℤ)
    (fuel : Nat) : (call srv (.fetch r n fuel)).run w = .error (.stop "Inactive result set") w := by
  have hfetch : (DbResult.fetch srv r fuel n).run ⟨w.toShared, x⟩ =
      .error (.stop "Inactive result set") ⟨w.toShared, x⟩ := by
    simp [DbResult.fetch, hr]
  rw [call, onLive_eq, hx]
  simp only [Option.isNone_some, Bool.false_eq_true, if_false, run_map, onResult_run hx, hfetch,
    store_same hx]

-- A result that is not the current one always answers alike.
theorem outcome_same (hw : Sound w) (hw' : Sound w') (hx : w.results r = some x)
    (hx' : w'.results r = some x) (hr : w.conn.pCurrentResult_ ≠ some r)
    (hr' : w'.conn.pCurrentResult_ ≠ some r) (hon : op.on = some r) :
    outcome (call srv op) w' = outcome (call srv op) w := by
  have hread {γ : Type} (m : EStateM Exc (Obj DbResult) γ) (f : γ → Reply)
      (hm : outcome m ⟨w'.toShared, x⟩ = outcome m ⟨w.toShared, x⟩) :
      outcome (onLive r (f <$> onResult r m)) w' = outcome (onLive r (f <$> onResult r m)) w := by
    rw [outcome_onLive hx', outcome_onLive hx, outcome_map, outcome_map, outcome_onResult hx',
      outcome_onResult hx, hm]
  cases op with
  | bind r params =>
      cases hon
      obtain ⟨e, he⟩ := bind_refused srv r x params
      rw [he w hw hx hr, he w' hw' hx' hr']
  | fetch r n fuel =>
      cases hon
      rw [outcome_error (fetch_refused hr hx n fuel), outcome_error (fetch_refused hr' hx' n fuel)]
  | has_completed r =>
      cases hon
      rw [call, outcome_onLive hx, outcome_onLive hx', outcome_onResult hx, outcome_onResult hx']
      rfl
  | rows_fetched r =>
      cases hon
      exact hread _ _ (outcome_onImpl_read (fun p => .ok p.n_rows_fetched) 0 _ _ x)
  | rows_affected r =>
      cases hon
      exact hread _ _ (outcome_onImpl_read (fun p => .ok p.n_rows_affected) 0 _ _ x)
  | column_info r =>
      cases hon
      exact hread _ _ (outcome_onImpl_read _ [] _ _ x)
  | _ => cases hon

end Answers

section Runs

-- What is left of a result that was the current one: it gives no rows, takes no parameters and
-- answers as before, until it is released for good.
structure Cancelled (srv : Server) (r : Nat) (w w' : World) : Prop where
  invalid : outcome (call srv (.valid r)) w' = .ok (.bool false)
  unread : ∀ n fuel, ∃ message, (call srv (.fetch r n fuel)).run w' = .error (.stop message) w'
  unbound : ∀ params reply, outcome (call srv (.bind r params)) w' ≠ .ok reply
  answers : (w'.results r).isSome → ∀ op, op.on = some r →
    outcome (call srv op) w' = outcome (call srv op) w
  gone : w.results r = none → w'.results r = none

theorem reaches_aside {C : Op → World → Prop} (hw : Sound w) (hwhole : Whole w) (h : Aside r o w)
    (hlater : Reaches (step srv) C w w') : Sound w' ∧ (Aside r o w' ∨ Aside r none w') := by
  have hreached := hlater.invariant
    (I := fun v => (Sound v ∧ Whole v) ∧ (Aside r o v ∨ Aside r none v)) ⟨⟨hw, hwhole⟩, .inl h⟩ ?_
  · exact ⟨hreached.1.1, hreached.2⟩
  · rintro op v v' ⟨⟨hv, hvwhole⟩, haside⟩ - hstep
    refine ⟨(step_change hv hvwhole hstep).sound hv hvwhole, ?_⟩
    rcases haside with haside | hgone
    · exact step_aside hv hvwhole haside hstep
    · exact .inr ((step_aside hv hvwhole hgone hstep).elim id id)

-- Whatever is done on the connection later: a result that is not the current one never is again.
theorem cancelled_for_good (h : Reaches (step srv) (fun _ _ => True) {} w) (hr : r < w.next_result)
    (hcancelled : w.conn.pCurrentResult_ ≠ some r)
    (hlater : Reaches (step srv) (fun _ _ => True) w w') : Cancelled srv r w w' := by
  obtain ⟨hw, hwhole⟩ := reaches_sound h
  obtain ⟨hw', haside⟩ := reaches_aside hw hwhole ⟨⟨rfl, hr⟩, hcancelled⟩ hlater
  have hreplaced : w'.conn.pCurrentResult_ ≠ some r := haside.elim Aside.replaced Aside.replaced
  have hresult : w'.results r = w.results r ∨ w'.results r = none :=
    haside.imp (fun h => h.result) fun h => h.result
  have hreleased (hnone : w'.results r = none) (m : EStateM Exc World Reply) :
      (onLive r m).run w' = .error (.stop "Invalid result set") w' := by
    rw [onLive_eq, hnone]
    rfl
  refine ⟨?_, fun n fuel => ?_, fun params reply => ?_, fun hlive op hon => ?_, fun hnone => ?_⟩
  · simp [outcome, call, hreplaced]
  · cases hx : w'.results r with
    | none => exact ⟨_, hreleased hx _⟩
    | some x => exact ⟨_, fetch_refused hreplaced hx n fuel⟩
  · cases hx : w'.results r with
    | none =>
        rw [call, outcome_error (hreleased hx _)]
        exact fun heq => by cases heq
    | some x =>
        obtain ⟨e, he⟩ := bind_refused srv r x params
        rw [he w' hw' hx hreplaced]
        exact fun heq => by cases heq
  · obtain ⟨x, hx⟩ := Option.isSome_iff_exists.mp hlive
    rcases hresult with hsame | hnone
    · exact outcome_same hw hw' (hsame.symm.trans hx) hx hcancelled hreplaced hon
    · rw [hnone] at hx
      cases hx
  · exact hresult.elim (fun hsame => hsame.trans hnone) id

-- The first result is replaced by the second one, and later a transaction is begun.
theorem cancelled_for_good_replaced : ∃ w w', w.next_result = 2 ∧ w'.conn.transacting_ = true ∧
    Cancelled Server.agreeable 0 w w' := by
  let insert : Op := .create "INSERT INTO t VALUES (1)" true false
  obtain ⟨w₁, w, w', hfirst, hsecond, hbegin, hcurrent, hnext, htransacting⟩ : ∃ w₁ w w',
      step Server.agreeable insert {} = some w₁ ∧ step Server.agreeable insert w₁ = some w ∧
      step Server.agreeable .begin_transaction w = some w' ∧ w.conn.pCurrentResult_ = some 1 ∧
      w.next_result = 2 ∧ w'.conn.transacting_ = true := ⟨_, _, _, rfl, rfl, rfl, rfl, rfl, rfl⟩
  have hreaches : Reaches (step Server.agreeable) (fun _ _ => True) {} w :=
    .tail (.tail (.refl _) trivial hfirst) trivial hsecond
  have hlater : Reaches (step Server.agreeable) (fun _ _ => True) w w' :=
    .tail (.refl _) trivial hbegin
  have hgiven : 0 < w.next_result := by
    rw [hnext]
    decide
  have hother : w.conn.pCurrentResult_ ≠ some 0 := by
    rw [hcurrent]
    decide
  exact ⟨w, w', hnext, htransacting, cancelled_for_good hreaches hgiven hother hlater⟩

end Runs

end RMariaDB.World
