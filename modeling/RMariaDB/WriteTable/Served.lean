import RMariaDB.World.Results
import RMariaDB.WriteTable.Connected

-- What these functions leave of a connection: their results are released again.

namespace RMariaDB.WriteTable

open Program World

variable {srv : Server} {client : Client} {w₀ w : World} {r : Nat} {α β : Type}

-- An exception, after which nothing of a result is left unless nothing can follow it.
structure Failed (srv : Server) (w₀ : World) (e : Exc) (w : World) : Prop where
  ends : e ≠ .outOfFuel
  quiet : Quiet w₀.toShared w.toShared
  serves : e.Ends = false → Serves srv w₀ w

theorem serves_refl (hw : Sound w) (hwhole : Whole w) : Serves srv w w :=
  ⟨Kept.refl hw hwhole, id⟩

theorem failed_of_serves {e : Exc} (h : Serves srv w₀ w) (he : e ≠ .outOfFuel) :
    Failed srv w₀ e w := ⟨he, h.quiet, fun _ => h⟩

-- The warnings do not count.
variable (srv) in
theorem warning_serves (message : String) :
    Spec (Serves srv w₀) (onConnection (warning message)) (fun _ => Serves srv w₀)
      (Failed srv w₀) :=
  fun w hw => ⟨hw.toKept.trans (warned_kept hw.sound hw.whole (w.warnings ++ [message])), hw.idle⟩

section Holding

-- While a result of one's own is held
abbrev Held (srv : Server) (w₀ : World) (r : Nat) (m : EStateM Exc World α) : Prop :=
  Safe (Holding srv w₀ r) (fun e => e ≠ .outOfFuel) m

theorem warning_held (message : String) : Held srv w₀ r (onConnection (warning message)) :=
  fun w hw =>
    ⟨hw.toKept.trans (warned_kept hw.sound hw.whole (w.warnings ++ [message])), hw.current⟩

theorem onLive_run {x : DbResult} (hx : w.results r = some x) (m : EStateM Exc World Reply) :
    (onLive r m).run w = m.run w := by
  rw [onLive, EStateM.run_bind, EStateM.run_get]
  simp only [hx, Option.isNone_some, Bool.false_eq_true, if_false]

theorem onResult_held {m : EStateM Exc (Obj DbResult) α} (hw : Holding srv w₀ r w)
    (hm : DbResult.Works m) {x : DbResult} (hx : w.results r = some x)
    (hends : ∀ e t, m.run ⟨w.toShared, x⟩ = .error e t → e ≠ .outOfFuel) (f : α → β) :
    Spec (fun u => u = w) (f <$> onResult r m) (fun _ => Holding srv w₀ r)
      fun e t => Holding srv w₀ r t ∧ e ≠ .outOfFuel := by
  rintro w rfl
  have hworks := onResult_works srv hw.sound hw.whole hw.current hx hm
  have hrun := onResult_run hx m
  rw [run_map]
  cases hresult : (onResult r m).run w with
  | ok a t =>
      rw [hresult] at hworks
      exact ⟨hw.toKept.trans hworks.1, by rw [hworks.2, hw.current]⟩
  | error e t =>
      rw [hresult] at hworks
      refine ⟨⟨hw.toKept.trans hworks.1.1, by rw [hworks.1.2, hw.current]⟩, ?_⟩
      rw [hresult] at hrun
      cases hbody : m.run ⟨w.toShared, x⟩ with
      | ok a u =>
          rw [hbody] at hrun
          cases hrun
      | error e' u =>
          rw [hbody] at hrun
          cases hrun
          exact hends e u hbody

theorem bind_held (params : List SEXP) : Held srv w₀ r (call srv (.bind r params)) := by
  intro w hw
  obtain ⟨x, hx⟩ := hw.sound.current r hw.current
  have hworks : DbResult.Works (DbResult.bind srv params) := DbResult.bind_works params
  have hbind := onResult_held hw hworks hx (fun _ _ => DbResult.bind_ends) fun _ => Reply.done
  have hmap : (call srv (.bind r params)).run w =
      ((fun _ => Reply.done) <$> onResult r (DbResult.bind srv params)).run w := by
    rw [call, onLive_run hx, run_map, EStateM.run_bind]
    cases (onResult r (DbResult.bind srv params)).run w <;> rfl
  rw [hmap]
  exact hbind w rfl

theorem rows_affected_held : Held srv w₀ r (call srv (.rows_affected r)) := by
  intro w hw
  obtain ⟨x, hx⟩ := hw.sound.current r hw.current
  have hends : ∀ e t, DbResult.n_rows_affected.run ⟨w.toShared, x⟩ = .error e t →
      e ≠ .outOfFuel := by
    intro e t h
    refine DbResult.onImpl_raises (E := fun e => e ≠ .outOfFuel) (fun p _ u hrun => ?_)
      (fun u hrun => ?_) (by simp) h
    · cases hrun
    · cases hrun
  rw [call, onLive_run hx]
  exact onResult_held hw DbResult.n_rows_affected_works hx hends Reply.int w rfl

-- The bound is large enough for a result without parameters.
theorem fetch_held (hw : Holding srv w₀ r w) (hnew : New w r) (n : ℤ) :
    Spec (fun u => u = w) (call srv (.fetch r n (w.mysql.unread + 1)))
      (fun _ => Holding srv w₀ r) fun e t => Holding srv w₀ r t ∧ e ≠ .outOfFuel := by
  rintro w rfl
  obtain ⟨x, hx⟩ := hw.sound.current r hw.current
  have hworks : DbResult.Works (DbResult.fetch srv r (w.mysql.unread + 1) n) :=
    DbResult.fetch_works r _ n
  have hends : ∀ e t, (DbResult.fetch srv r (w.mysql.unread + 1) n).run ⟨w.toShared, x⟩ =
      .error e t → e ≠ .outOfFuel := by
    intro e t h
    refine DbResult.fetch_ends (s := ⟨w.toShared, x⟩) (fun p hp => hnew p ?_) h
    rw [hx, ← hp]
  rw [call, onLive_run hx]
  exact onResult_held hw hworks hx hends Reply.frame w rfl

end Holding

section Functions

theorem result_create_serves (sql : String) (is_statement immediate : Bool) :
    Spec (Serves srv w₀) (result_of <$> call srv (.create sql is_statement immediate))
      (fun r w => Holding srv w₀ r w ∧ New w r) (Failed srv w₀) := by
  intro w hw
  have hcreate := create_serves srv hw.sound hw.whole sql is_statement immediate
  rw [run_map, call, onOpen_run]
  by_cases hreleased : w.released = true
  · rw [if_pos hreleased]
    exact failed_of_serves hw (by simp)
  · rw [if_neg hreleased, run_map]
    cases hrun : (create srv sql is_statement immediate).run w with
    | ok r t =>
        rw [hrun] at hcreate
        exact ⟨⟨hw.toKept.trans hcreate.1.toKept, hcreate.1.current⟩, hcreate.2⟩
    | error e t =>
        rw [hrun] at hcreate
        obtain ⟨hends, hserves⟩ := hcreate
        refine failed_of_serves ⟨hw.toKept.trans hserves.toKept, hserves.idle ∘ hw.idle⟩ ?_
        rintro rfl
        cases hends

theorem dbClearResult_serves : Spec (Holding srv w₀ r) (dbClearResult srv r)
    (fun _ => Serves srv w₀) (Failed srv w₀) := by
  intro w hw
  obtain ⟨x, hx⟩ := hw.sound.current r hw.current
  obtain ⟨t, hrelease, hserves⟩ := release_serves hw
  have hvalid : (bool_of <$> call srv (.valid r)).run w = .ok true w := by
    rw [run_map, call, EStateM.run_bind, EStateM.run_get]
    simp [bool_of, hx, hw.current]
  rw [dbClearResult, run_bind_ok hvalid]
  simp only [if_true, run_bind_ok hrelease]
  exact hserves

theorem dbBind_held (params : List RVector) : Held srv w₀ r (dbBind srv client r params) := by
  apply Safe.bind
  · apply Safe.ite
    · exact fun _ => warning_held _
    · exact fun _ => Safe.pure ()
  intro _
  exact (bind_held _).bind fun _ => Safe.pure ()

-- Whatever fails while the result is held, it is cleared before the exception goes on.
theorem cleared {m : EStateM Exc World α} {P : World → Prop} {Q : α → World → Prop}
    (hm : Spec P m Q fun e w => Holding srv w₀ r w ∧ e ≠ .outOfFuel) :
    Spec P (onError Exc.Ends m (dbClearResult srv r)) Q (Failed srv w₀) := by
  apply Spec.onError hm
  · intro e w hends hw
    exact ⟨hw.2, hw.1.quiet, fun he => by rw [hends] at he; cases he⟩
  · intro e he w hw
    have hclear := dbClearResult_serves w hw.1
    split at hclear
    · exact failed_of_serves hclear hw.2
    · exact hclear

theorem dbSend_serves (statement : Text) (params : Option (List RVector))
    (is_statement immediate : Bool) : Spec (Serves srv w₀)
      (dbSend srv client statement params is_statement immediate)
      (fun r w => Holding srv w₀ r w ∧ (params = none → New w r)) (Failed srv w₀) := by
  apply (result_create_serves _ _ _).bind
  intro r
  apply Spec.bind (Q := fun _ w => Holding srv w₀ r w ∧ (params = none → New w r))
  · apply cleared
    cases params with
    | none => exact fun w hw => ⟨hw.1, fun _ => hw.2⟩
    | some params =>
        exact Spec.mono (dbBind_held params) (fun _ hw => hw.1) (fun _ _ hw => ⟨hw, nofun⟩)
          fun _ _ => id
  · exact fun _ _ hw => hw

-- The result is cleared in any case.
theorem onExit_serves {m : EStateM Exc World α} {P : World → Prop}
    (hm : Spec P m (fun _ => Holding srv w₀ r) fun e w => Holding srv w₀ r w ∧ e ≠ .outOfFuel) :
    Spec P (onExit Exc.Ends m (dbClearResult srv r)) (fun _ => Serves srv w₀) (Failed srv w₀) := by
  apply (cleared hm).bind
  intro a
  apply dbClearResult_serves.bind
  exact fun _ _ => id

theorem execute_statement_serves (statement : Statement) :
    Spec (Serves srv w₀) (execute_statement srv client statement) (fun _ => Serves srv w₀)
      (Failed srv w₀) := by
  apply (dbSend_serves _ _ _ _).bind
  intro rs
  apply onExit_serves
  exact Spec.mono (rows_affected_held.map _) (fun _ hw => hw.1) (fun _ _ => id) fun _ _ => id

theorem dbFetch_held : Spec (fun w => Holding srv w₀ r w ∧ New w r) (dbFetch srv client r)
    (fun _ => Holding srv w₀ r) fun e w => Holding srv w₀ r w ∧ e ≠ .outOfFuel := by
  apply Spec.get_bind
  intro w hw
  apply Spec.bind (Q := fun _ => Holding srv w₀ r)
  · intro u hu
    have hfetch := fetch_held hw.1 hw.2 (-1) u hu
    rw [run_map]
    split at hfetch
    · exact hfetch
    · exact hfetch
  · intro ret u hu
    rw [run_liftM, stop_if]
    cases client.fix (convert_bigint client.conn.bigint ret) with
    | ok df => exact hu
    | error message => exact ⟨hu, by simp⟩

theorem get_query_serves (statement : Statement) :
    Spec (Serves srv w₀) (get_query srv client statement) (fun _ => Serves srv w₀)
      (Failed srv w₀) := by
  apply (dbSend_serves _ _ _ _).bind
  intro rs
  apply onExit_serves
  exact Spec.mono dbFetch_held (fun _ hw => ⟨hw.1, hw.2 rfl⟩) (fun _ _ => id) fun _ _ => id

theorem write_file_serves (content : Bytes) :
    Spec (Serves srv w₀) ((connected srv client).write_file content) (fun _ => Serves srv w₀)
      (Failed srv w₀) := by
  intro w hw
  have hfile : (connected srv client).write_file content =
      liftM (stop_if (client.write_file content)) := rfl
  rw [hfile, run_liftM, stop_if]
  cases client.write_file content with
  | ok _ => exact hw
  | error message => exact failed_of_serves hw (by simp)

end Functions

end RMariaDB.WriteTable
