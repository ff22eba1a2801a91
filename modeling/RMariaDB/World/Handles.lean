import RMariaDB.World.Calls

-- No closed statement handle is used, except by one operation.

namespace RMariaDB.World

open Program DbResult MariaResultPrep

variable {srv : Server} {w : World} {op : Op}

-- The call uses no handle that is not open. On a result that is no longer the current one
-- it answers from what is stored, or it raises an R error.
def UsesOpenHandles (srv : Server) (w : World) (op : Op) : Prop :=
  (∀ t, (call srv op).run w ≠ .error (.fault .handle) t) ∧
    ∀ r, op.on = some r → (w.results r).isSome → w.conn.pCurrentResult_ ≠ some r →
      Stays w (call srv op)

theorem Keeps.no_fault {α : Type} {m : EStateM Exc World α} (h : Keeps srv w m) :
    ∀ t, m.run w ≠ .error (.fault .handle) t := by
  intro t hrun
  rw [Keeps, hrun] at h
  exact h.1 rfl

theorem decides_no_fault (hdecides : op.decides = true) :
    ∀ t, (call srv op).run w ≠ .error (.fault .handle) t := by
  have hdecide : op = .begin_transaction ∨ op = .commit ∨ op = .rollback →
      ∀ t, (call srv op).run w ≠ .error (.fault .handle) t := by
    intro hop t
    rcases decides_run srv op hop w with ⟨-, hrun⟩ | ⟨-, message, hrun⟩
    · rw [hrun]
      exact fun h => by cases h
    · rw [hrun]
      exact fun h => by cases h
  cases op with
  | begin_transaction => exact hdecide (.inl rfl)
  | commit => exact hdecide (.inr (.inl rfl))
  | rollback => exact hdecide (.inr (.inr rfl))
  | disconnect =>
      obtain ⟨warnings, hrun⟩ := disconnect_run srv w
      rw [hrun]
      exact fun t h => by cases h
  | _ => cases hdecides

-- Whatever was done before on the connection: only bind() goes to the statement of a
-- result without asking whether it is still the current one.
theorem uses_open_handles_iff (h : Reaches (step srv) (fun _ _ => True) {} w) (op : Op) :
    UsesOpenHandles srv w op ↔ ¬Stale w op := by
  obtain ⟨hw, hwhole⟩ := reaches_sound h
  constructor
  · rintro ⟨hno, -⟩ hstale
    obtain ⟨t, hrun⟩ := stale_faults srv hw hstale
    exact hno t hrun
  · intro hstale
    refine ⟨?_, fun r hon hlive hr => ?_⟩
    · cases hdecides : op.decides with
      | false => exact (call_keeps hw hwhole hdecides hstale).no_fault
      | true => exact decides_no_fault hdecides
    · obtain ⟨x, hx⟩ := Option.isSome_iff_exists.mp hlive
      exact stale_stays hw hwhole hon hx hr hstale

-- The first result is cancelled by the second one, which is cleared: fetching from the first one
-- is harmless, binding it is not.
theorem uses_open_handles_cancelled : ∃ w, w.conn.pCurrentResult_ = none ∧ (w.results 0).isSome ∧
    UsesOpenHandles Server.agreeable w (.fetch 0 (-1) 1) ∧
    ¬UsesOpenHandles Server.agreeable w (.bind 0 []) := by
  let insert : Op := .create "INSERT INTO t VALUES (1)" true false
  obtain ⟨w₁, w₂, w₃, hfirst, hsecond, hcleared, hcurrent, p, hp⟩ : ∃ w₁ w₂ w₃,
      step Server.agreeable insert {} = some w₁ ∧ step Server.agreeable insert w₁ = some w₂ ∧
      step Server.agreeable (.release 1) w₂ = some w₃ ∧
      w₃.conn.pCurrentResult_ = none ∧ ∃ p, w₃.results 0 = some ⟨some (.prep p)⟩ :=
    ⟨_, _, _, rfl, rfl, rfl, rfl, _, rfl⟩
  have hreaches : Reaches (step Server.agreeable) (fun _ _ => True) {} w₃ :=
    .tail (.tail (.tail (.refl _) trivial hfirst) trivial hsecond) trivial hcleared
  have hstale : Stale w₃ (.bind 0 []) := ⟨by rw [hcurrent]; simp, trivial, p, hp⟩
  refine ⟨w₃, hcurrent, by rw [hp]; rfl, ?_, fun huses => ?_⟩
  · exact (uses_open_handles_iff hreaches _).mpr id
  · exact (uses_open_handles_iff hreaches _).mp huses hstale

-- The first result is bound after the second one has replaced it.
theorem stale_bind_uses_closed_handle : ∃ w, Reaches (step Server.agreeable) (fun _ _ => True) {} w ∧
    ¬UsesOpenHandles Server.agreeable w (.bind 0 []) := by
  let insert : Op := .create "INSERT INTO t VALUES (1)" true false
  obtain ⟨w₁, w₂, hfirst, hsecond, hcurrent, p, hp⟩ : ∃ w₁ w₂,
      step Server.agreeable insert {} = some w₁ ∧ step Server.agreeable insert w₁ = some w₂ ∧
      w₂.conn.pCurrentResult_ = some 1 ∧ ∃ p, w₂.results 0 = some ⟨some (.prep p)⟩ :=
    ⟨_, _, rfl, rfl, rfl, _, rfl⟩
  have hreaches : Reaches (step Server.agreeable) (fun _ _ => True) {} w₂ :=
    .tail (.tail (.refl _) trivial hfirst) trivial hsecond
  refine ⟨w₂, hreaches, fun huses => ?_⟩
  have hstale : Stale w₂ (.bind 0 []) := ⟨by rw [hcurrent]; simp, trivial, p, hp⟩
  obtain ⟨t, hrun⟩ := stale_faults Server.agreeable (reaches_sound hreaches).1 hstale
  exact huses.1 t hrun

section Ownership

-- The connection points to a live result or to none, and this result holds all open handles.
structure Owned (w : World) : Prop where
  current : ∀ r, w.conn.pCurrentResult_ = some r → (w.results r).isSome
  others : ∀ r p, w.conn.pCurrentResult_ ≠ some r → w.results r = some ⟨some (.prep p)⟩ →
    p.pStatement_ = none ∧ p.pSpec_ = none
  statements : ∀ k, (w.mysql.stmts k).isSome → ∃ p, Active w p ∧ p.pStatement_ = some k
  metadata : ∀ m ∈ w.mysql.metas, ∃ p res, Active w p ∧ p.pSpec_ = some res ∧ res.id = m
  once : w.mysql.metas.Nodup

theorem Sound.owned (hw : Sound w) : Owned w := by
  refine ⟨fun r hr => ?_, fun r p hr hp => ?_, fun k hk => ?_, fun m hm => ?_, ?_⟩
  · obtain ⟨x, hx⟩ := hw.current r hr
    rw [hx]
    rfl
  · have hclosed := hw.closed r p hr hp
    exact ⟨hclosed.statement, hclosed.spec⟩
  · by_cases hactive : ∃ p, Active w p
    · obtain ⟨p, hp⟩ := hactive
      exact ⟨p, hp, (hw.ready p hp).only k hk⟩
    · rw [(hw.free (not_exists.mp hactive)).stmts k] at hk
      cases hk
  · by_cases hactive : ∃ p, Active w p
    · obtain ⟨p, hp⟩ := hactive
      rw [(hw.ready p hp).wired.metas, List.append_nil, Option.mem_toList,
        Option.map_eq_some_iff] at hm
      obtain ⟨res, hspec, hid⟩ := hm
      exact ⟨p, res, hp, hspec, hid⟩
    · rw [(hw.free (not_exists.mp hactive)).metas] at hm
      cases hm
  · by_cases hactive : ∃ p, Active w p
    · obtain ⟨p, hp⟩ := hactive
      rw [(hw.ready p hp).wired.metas, List.append_nil]
      cases p.pSpec_ with
      | none => exact List.nodup_nil
      | some res => exact List.pairwise_singleton _ _
    · rw [(hw.free (not_exists.mp hactive)).metas]
      exact List.nodup_nil

-- Whatever was done on the connection: what was acquired is held by a live result or was given
-- back, and nothing is given back twice or used afterwards.
theorem handles_owned (h : Reaches (step srv) (fun _ _ => True) {} w) :
    Owned w ∧ ∀ op, (∀ r params, op ≠ .bind r params) →
      ∀ t, (call srv op).run w ≠ .error (.fault .handle) t := by
  obtain ⟨hw, hwhole⟩ := reaches_sound h
  refine ⟨hw.owned, fun op hop => ?_⟩
  cases hdecides : op.decides with
  | true => exact decides_no_fault hdecides
  | false =>
      refine (call_keeps hw hwhole hdecides fun hstale => ?_).no_fault
      cases op with
      | bind r params => exact hop r params rfl
      | _ => exact hstale

-- The first result is cancelled by the second one, which is destroyed.
theorem handles_owned_cancelled : ∃ w, w.next_result = 2 ∧ Owned w ∧
    ∀ op, (∀ r params, op ≠ .bind r params) →
      ∀ t, (call Server.agreeable op).run w ≠ .error (.fault .handle) t := by
  have hrun : (replay (step Server.agreeable) [.create "INSERT INTO t VALUES (1)" true false,
      .create "INSERT INTO t VALUES (2)" true false, .release 1] {}).map (·.next_result) = some 2 := by
    decide +kernel
  obtain ⟨w, hreplay, hnext⟩ := Option.map_eq_some_iff.mp hrun
  exact ⟨w, hnext, handles_owned ((Reaches.refl _).replay (by simp) hreplay)⟩

end Ownership

end RMariaDB.World
