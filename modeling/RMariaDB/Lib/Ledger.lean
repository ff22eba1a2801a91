import Mathlib.Logic.Relation
import Mathlib.Data.List.Range

-- The statements of one session, numbered in the order of their execution:
-- which of them wait for a commit and which are durable.
structure Ledger where
  executed : Nat := 0
  pending : List Nat := []
  committed : List Nat := []
deriving DecidableEq, Repr

namespace Ledger

def run (ledger : Ledger) : Ledger :=
  { ledger with executed := ledger.executed + 1, pending := ledger.pending ++ [ledger.executed] }

def commit (ledger : Ledger) : Ledger :=
  { ledger with pending := [], committed := ledger.committed ++ ledger.pending }

def discard (ledger : Ledger) : Ledger := { ledger with pending := [] }

-- What a session may do by itself. While its work is held back only an explicit
-- decision, which is not a step, commits or discards it.
inductive Step (held : Bool) : Ledger → Ledger → Prop where
  | run (ledger : Ledger) : Step held ledger ledger.run
  | commit (ledger : Ledger) (h : held = false) : Step held ledger ledger.commit

def Steps (held : Bool) : Ledger → Ledger → Prop := Relation.ReflTransGen (Step held)

theorem Steps.refl {held : Bool} (ledger : Ledger) : Steps held ledger ledger :=
  Relation.ReflTransGen.refl

theorem Steps.trans {held : Bool} {a b c : Ledger} (h : Steps held a b) (h' : Steps held b c) :
    Steps held a c :=
  Relation.ReflTransGen.trans h h'

theorem Steps.run {held : Bool} {a b : Ledger} (h : Steps held a b) : Steps held a b.run :=
  Relation.ReflTransGen.tail h (.run b)

theorem Steps.commit {a b : Ledger} (h : Steps false a b) : Steps false a b.commit :=
  Relation.ReflTransGen.tail h (.commit b rfl)

-- What is possible while work is held back is possible at all times.
theorem Steps.weaken {held : Bool} {a b : Ledger} (h : Steps true a b) : Steps held a b := by
  induction h with
  | refl => exact Steps.refl _
  | tail _ hlast ih =>
      cases hlast with
      | run => exact ih.run
      | commit h => cases h

-- Statements executed between two states.
def since (start : Nat) (ledger : Ledger) : List Nat :=
  List.range' start (ledger.executed - start)

@[simp] theorem mem_since {start x : Nat} {ledger : Ledger} :
    x ∈ ledger.since start ↔ start ≤ x ∧ x < ledger.executed := by
  simp only [since, List.mem_range'_1]
  omega

structure WellFormed (ledger : Ledger) : Prop where
  pending_lt : ∀ x ∈ ledger.pending, x < ledger.executed
  committed_lt : ∀ x ∈ ledger.committed, x < ledger.executed
  disjoint : ∀ x ∈ ledger.pending, x ∉ ledger.committed

theorem WellFormed.discard {ledger : Ledger} (h : ledger.WellFormed) :
    ledger.discard.WellFormed :=
  ⟨by simp [Ledger.discard], h.committed_lt, by simp [Ledger.discard]⟩

theorem WellFormed.commit {ledger : Ledger} (h : ledger.WellFormed) :
    ledger.commit.WellFormed := by
  refine ⟨by simp [Ledger.commit], ?_, by simp [Ledger.commit]⟩
  intro x hx
  rcases List.mem_append.mp hx with hx | hx
  · exact h.committed_lt x hx
  · exact h.pending_lt x hx

theorem WellFormed.run {ledger : Ledger} (h : ledger.WellFormed) : ledger.run.WellFormed := by
  refine ⟨?_, ?_, ?_⟩
  · intro x hx
    rcases List.mem_append.mp hx with hx | hx
    · exact (h.pending_lt x hx).trans (Nat.lt_succ_self _)
    · rw [List.mem_singleton.mp hx]
      exact Nat.lt_succ_self _
  · intro x hx
    exact (h.committed_lt x hx).trans (Nat.lt_succ_self _)
  · intro x hx hc
    rcases List.mem_append.mp hx with hx | hx
    · exact h.disjoint x hx hc
    · rw [List.mem_singleton.mp hx] at hc
      exact absurd (h.committed_lt _ hc) (Nat.lt_irrefl _)

theorem Steps.wellFormed {held : Bool} {a b : Ledger} (h : Steps held a b) (ha : a.WellFormed) :
    b.WellFormed := by
  induction h with
  | refl => exact ha
  | tail _ hs ih =>
      cases hs with
      | run => exact ih.run
      | commit => exact ih.commit

theorem Steps.executed_le {held : Bool} {a b : Ledger} (h : Steps held a b) :
    a.executed ≤ b.executed := by
  induction h with
  | refl => exact Nat.le_refl _
  | tail _ hs ih =>
      cases hs with
      | run => exact ih.trans (Nat.le_succ _)
      | commit => exact ih

-- Work that is held back waits, all of it and in order.
theorem Steps.held {a b : Ledger} (h : Steps true a b) :
    b.committed = a.committed ∧ b.pending = a.pending ++ b.since a.executed := by
  induction h with
  | refl => simp [since]
  | @tail b c hab hs ih =>
      cases hs with
      | run =>
          have hle := Steps.executed_le hab
          refine ⟨ih.1, ?_⟩
          have hlen : b.executed + 1 - a.executed = b.executed - a.executed + 1 := by omega
          have hlast : a.executed + (b.executed - a.executed) = b.executed := by omega
          simp only [Ledger.run, since, ih.2, hlen, List.range'_concat, List.append_assoc,
            Nat.one_mul, hlast]
      | commit h => cases h

-- Nothing is recorded but what was executed on the way.
theorem Steps.fresh {held : Bool} {a b : Ledger} (h : Steps held a b) {x : Nat}
    (hx : x ∈ b.pending ∨ x ∈ b.committed) :
    (x ∈ a.pending ∨ x ∈ a.committed) ∨ a.executed ≤ x := by
  induction h with
  | refl => exact .inl hx
  | @tail b c hab hs ih =>
      cases hs with
      | run =>
          simp only [Ledger.run, List.mem_append, List.mem_singleton] at hx
          rcases hx with (hx | rfl) | hx
          · exact ih (.inl hx)
          · exact .inr (Steps.executed_le hab)
          · exact ih (.inr hx)
      | commit =>
          simp only [Ledger.commit, List.mem_append, List.not_mem_nil, false_or] at hx
          exact ih hx.symm

-- What waited in one state and is not recorded any more in the other.
def lost (before after : Ledger) : List Nat :=
  before.pending.filter fun x => x ∉ after.pending ++ after.committed

theorem mem_pending_of_lost {a b : Ledger} {x : Nat} (h : x ∈ lost a b) : x ∈ a.pending :=
  List.mem_of_mem_filter h

-- Every statement waits or is durable.
def Accounted (ledger : Ledger) : Prop :=
  ∀ x, x < ledger.executed → x ∈ ledger.pending ∨ x ∈ ledger.committed

theorem Steps.accounted {held : Bool} {a b : Ledger} (h : Steps held a b) (ha : a.Accounted) :
    b.Accounted := by
  induction h with
  | refl => exact ha
  | tail _ hs ih =>
      cases hs with
      | run =>
          intro x hx
          simp only [Ledger.run, List.mem_append, List.mem_singleton] at hx ⊢
          rcases Nat.lt_succ_iff_lt_or_eq.mp hx with hx | hx
          · exact (ih x hx).imp_left .inl
          · exact .inl (.inr hx)
      | commit => exact fun x hx => .inr (List.mem_append.mpr (ih x hx).symm)

end Ledger
