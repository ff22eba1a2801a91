import RMariaDB.Lib.Ledger

-- A session whose work is committed at once, except between the begin and the end of a
-- transaction, and what is remembered of its transactions.

structure Audit where
  -- how many statements had been executed when the last transaction began
  begun : Nat := 0
  -- the statements of the transactions that were rolled back
  rolledBack : List Nat := []
  -- the statements that were executed while no transaction was open
  outside : List Nat := []
  -- the statements that a rollback discarded, each with the begin of that transaction
  undone : List (Nat × Nat) := []
deriving DecidableEq, Repr

structure Session where
  held : Bool := false
  live : Bool := true
  ledger : Ledger := {}
  audit : Audit := {}
deriving DecidableEq, Repr

namespace Session

def work (l : Ledger) (s : Session) : Session :=
  { s with
    ledger := l
    audit.outside := if s.held then s.audit.outside
      else s.audit.outside ++ l.since s.ledger.executed }

def start (s : Session) : Session :=
  { s with held := true, audit.begun := s.ledger.executed }

-- `done` is whether the decision reached the server.
def commit (done : Bool) (s : Session) : Session :=
  { s with held := false, ledger := if done then s.ledger.commit else s.ledger }

def rollback (done : Bool) (s : Session) : Session :=
  let l := if done then s.ledger.discard else s.ledger
  { s with
    held := false
    ledger := l
    audit.rolledBack := s.audit.rolledBack ++ s.ledger.since s.audit.begun
    audit.undone := s.audit.undone ++ (s.ledger.lost l).map (s.audit.begun, ·) }

def close (s : Session) : Session := { s with live := false, ledger := s.ledger.discard }

inductive Step (s : Session) : Session → Prop where
  | work (l : Ledger) (h : Ledger.Steps s.held s.ledger l) : Step s (s.work l)
  | start (h : s.held = false) : Step s s.start
  | commit (done : Bool) (h : s.held = true) (hlive : s.live = true) : Step s (s.commit done)
  | rollback (done : Bool) (h : s.held = true) (hlive : s.live = true) : Step s (s.rollback done)
  | close : Step s s.close

variable {s s' : Session}

-- During a transaction its own work waits.
structure Consistent (s : Session) : Prop where
  wellFormed : s.ledger.WellFormed
  begun_le : s.audit.begun ≤ s.ledger.executed
  held : s.held = true → s.live = true → ∀ x ∈ s.ledger.since s.audit.begun, x ∈ s.ledger.pending

theorem consistent_new : Consistent {} :=
  ⟨⟨fun _ => (nomatch ·), fun _ => (nomatch ·), fun _ => (nomatch ·)⟩, Nat.le_refl _, (nomatch ·)⟩

theorem Step.consistent (h : Step s s') (hs : s.Consistent) : s'.Consistent := by
  cases h with
  | work l h =>
      refine ⟨h.wellFormed hs.wellFormed, hs.begun_le.trans h.executed_le, fun hheld hlive x hx => ?_⟩
      change s.held = true at hheld
      rw [hheld] at h
      obtain ⟨hbegun, hlt⟩ := Ledger.mem_since.mp hx
      change x ∈ l.pending
      rw [h.held.2, List.mem_append]
      by_cases hold : x < s.ledger.executed
      · exact .inl (hs.held hheld hlive x (Ledger.mem_since.mpr ⟨hbegun, hold⟩))
      · exact .inr (Ledger.mem_since.mpr ⟨Nat.not_lt.mp hold, hlt⟩)
  | start h =>
      refine ⟨hs.wellFormed, Nat.le_refl _, fun _ _ x hx => ?_⟩
      obtain ⟨hbegun, hlt⟩ := Ledger.mem_since.mp hx
      exact absurd hbegun (Nat.not_le.mpr hlt)
  | commit done h hlive =>
      cases done with
      | true => exact ⟨hs.wellFormed.commit, hs.begun_le, (nomatch ·)⟩
      | false => exact ⟨hs.wellFormed, hs.begun_le, (nomatch ·)⟩
  | rollback done h hlive =>
      cases done with
      | true => exact ⟨hs.wellFormed.discard, hs.begun_le, (nomatch ·)⟩
      | false => exact ⟨hs.wellFormed, hs.begun_le, (nomatch ·)⟩
  | close => exact ⟨hs.wellFormed.discard, hs.begun_le, fun _ => (nomatch ·)⟩

-- A COMMIT that reaches the server makes the work of its transaction durable.
theorem Consistent.commit (hs : s.Consistent) (h : s.held = true) (hlive : s.live = true) :
    ∀ x ∈ s.ledger.since s.audit.begun, x ∈ (s.commit true).ledger.committed := fun x hx =>
  List.mem_append_right _ (hs.held h hlive x hx)

-- No statement of a transaction that was rolled back is durable or can become so.
structure Retracted (s : Session) : Prop where
  committed : s.held = true → ∀ x ∈ s.ledger.committed, x < s.audit.begun
  rolledBack : ∀ x ∈ s.audit.rolledBack,
    x < s.ledger.executed ∧ x ∉ s.ledger.pending ∧ x ∉ s.ledger.committed

-- Every rollback reaches the server, unless there is nothing to roll back.
def Retracts (s : Session) (done : Bool) : Prop :=
  done = true ∨ s.ledger.since s.audit.begun = []

theorem Retracted.work (hs : s.Retracted) {l : Ledger} (h : Ledger.Steps s.held s.ledger l) :
    (s.work l).Retracted := by
  refine ⟨fun hheld x hx => ?_, fun x hx => ?_⟩
  · change s.held = true at hheld
    rw [hheld] at h
    change x ∈ l.committed at hx
    rw [h.held.1] at hx
    exact hs.committed hheld x hx
  · obtain ⟨hlt, hpending, hcommitted⟩ := hs.rolledBack x hx
    have hnot : ¬(x ∈ l.pending ∨ x ∈ l.committed) := by
      intro hrecorded
      rcases h.fresh hrecorded with hold | hnew
      · exact hold.elim hpending hcommitted
      · exact absurd hlt (Nat.not_lt.mpr hnew)
    exact ⟨hlt.trans_le h.executed_le, fun h => hnot (.inl h), fun h => hnot (.inr h)⟩

theorem Retracted.start (hs : s.Retracted) (hc : s.Consistent) : s.start.Retracted :=
  ⟨fun _ x hx => hc.wellFormed.committed_lt x hx, hs.rolledBack⟩

theorem Retracted.commit (hs : s.Retracted) (done : Bool) : (s.commit done).Retracted := by
  refine ⟨(nomatch ·), fun x hx => ?_⟩
  obtain ⟨hlt, hpending, hcommitted⟩ := hs.rolledBack x hx
  cases done with
  | false => exact ⟨hlt, hpending, hcommitted⟩
  | true =>
      refine ⟨hlt, List.not_mem_nil, fun h => ?_⟩
      rcases List.mem_append.mp h with h | h
      · exact hcommitted h
      · exact hpending h

theorem Retracted.rollback (hs : s.Retracted) {done : Bool} (h : s.held = true)
    (hdone : s.Retracts done) : (s.rollback done).Retracted := by
  refine ⟨(nomatch ·), fun x hx => ?_⟩
  rcases List.mem_append.mp hx with hold | hnew
  · obtain ⟨hlt, hpending, hcommitted⟩ := hs.rolledBack x hold
    cases done with
    | false => exact ⟨hlt, hpending, hcommitted⟩
    | true => exact ⟨hlt, List.not_mem_nil, hcommitted⟩
  · rcases hdone with rfl | hnone
    · obtain ⟨hbegun, hlt⟩ := Ledger.mem_since.mp hnew
      exact ⟨hlt, List.not_mem_nil, fun hc => absurd (hs.committed h x hc) (Nat.not_lt.mpr hbegun)⟩
    · rw [hnone] at hnew
      cases hnew

theorem Retracted.close (hs : s.Retracted) : s.close.Retracted :=
  ⟨hs.committed, fun x hx => ⟨(hs.rolledBack x hx).1, List.not_mem_nil, (hs.rolledBack x hx).2.2⟩⟩

-- What was executed outside of transactions is not discarded.
structure Fair (s : Session) : Prop where
  outside : ∀ x ∈ s.audit.outside, x < s.ledger.executed ∧ (s.held = true → x < s.audit.begun)
  pending : s.held = true → ∀ x ∈ s.ledger.pending, s.audit.begun ≤ x
  undone : ∀ y ∈ s.audit.undone, y.1 ≤ y.2 ∧ y.2 < s.ledger.executed ∧ y.2 ∉ s.audit.outside

theorem Fair.work (hs : s.Fair) (hc : s.Consistent) {l : Ledger}
    (h : Ledger.Steps s.held s.ledger l) : (s.work l).Fair := by
  have hle := h.executed_le
  cases hheld : s.held with
  | true =>
      rw [hheld] at h
      have hsame : (s.work l).audit.outside = s.audit.outside := if_pos hheld
      refine ⟨fun x hx => ?_, fun _ x hx => ?_, fun y hy => ?_⟩
      · rw [hsame] at hx
        exact ⟨(hs.outside x hx).1.trans_le hle, (hs.outside x hx).2⟩
      · change x ∈ l.pending at hx
        rw [h.held.2, List.mem_append] at hx
        rcases hx with hx | hx
        · exact hs.pending hheld x hx
        · exact hc.begun_le.trans (Ledger.mem_since.mp hx).1
      · obtain ⟨hbegun, hlt, hnot⟩ := hs.undone y hy
        rw [hsame]
        exact ⟨hbegun, hlt.trans_le hle, hnot⟩
  | false =>
      have hmore : (s.work l).audit.outside = s.audit.outside ++ l.since s.ledger.executed :=
        if_neg (by rw [hheld]; exact Bool.false_ne_true)
      have hnot : (s.work l).held ≠ true := by
        change s.held ≠ true
        rw [hheld]
        exact Bool.false_ne_true
      refine ⟨fun x hx => ?_, fun h => absurd h hnot, fun y hy => ?_⟩
      · rw [hmore, List.mem_append] at hx
        refine ⟨?_, fun h => absurd h hnot⟩
        rcases hx with hx | hx
        · exact (hs.outside x hx).1.trans_le hle
        · exact (Ledger.mem_since.mp hx).2
      · obtain ⟨hbegun, hlt, hnot⟩ := hs.undone y hy
        refine ⟨hbegun, hlt.trans_le hle, fun hx => ?_⟩
        rw [hmore, List.mem_append] at hx
        rcases hx with hx | hx
        · exact hnot hx
        · exact absurd hlt (Nat.not_lt.mpr (Ledger.mem_since.mp hx).1)

-- A transaction that begins finds no work waiting.
theorem Fair.start (hs : s.Fair) (hpending : s.ledger.pending = []) : s.start.Fair := by
  refine ⟨fun x hx => ⟨(hs.outside x hx).1, fun _ => (hs.outside x hx).1⟩, fun _ x hx => ?_, hs.undone⟩
  change x ∈ s.ledger.pending at hx
  rw [hpending] at hx
  cases hx

theorem Fair.commit (hs : s.Fair) (done : Bool) : (s.commit done).Fair := by
  cases done with
  | true =>
      exact ⟨fun x hx => ⟨(hs.outside x hx).1, (nomatch ·)⟩, (nomatch ·), hs.undone⟩
  | false =>
      exact ⟨fun x hx => ⟨(hs.outside x hx).1, (nomatch ·)⟩, (nomatch ·), hs.undone⟩

theorem Fair.rollback (hs : s.Fair) (hc : s.Consistent) (done : Bool) (h : s.held = true) :
    (s.rollback done).Fair := by
  have hexecuted : (s.rollback done).ledger.executed = s.ledger.executed := by
    cases done <;> rfl
  refine ⟨fun x hx => ⟨?_, (nomatch ·)⟩, (nomatch ·), fun y hy => ?_⟩
  · rw [hexecuted]
    exact (hs.outside x hx).1
  · rw [hexecuted]
    rcases List.mem_append.mp hy with hy | hy
    · exact hs.undone y hy
    · obtain ⟨x, hx, rfl⟩ := List.mem_map.mp hy
      have hpending := Ledger.mem_pending_of_lost hx
      refine ⟨hs.pending h x hpending, hc.wellFormed.pending_lt x hpending, fun houtside => ?_⟩
      exact absurd ((hs.outside x houtside).2 h) (Nat.not_lt.mpr (hs.pending h x hpending))

theorem Fair.close (hs : s.Fair) : s.close.Fair :=
  ⟨hs.outside, fun _ _ => (nomatch ·), hs.undone⟩

end Session
