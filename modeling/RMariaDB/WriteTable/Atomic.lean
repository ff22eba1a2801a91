import RMariaDB.Table.Lossless
import RMariaDB.WriteTable.Database
import RMariaDB.WriteTable.Tracked

-- Rows are appended all together or not at all.

namespace RMariaDB.WriteTable

open Program World

variable {srv : Server} {client : Client} {w t : World} {l : Ledger} {α : Type}

-- Between BEGIN and its end, since the work that had been done in `l`
structure InTransaction (l : Ledger) (w : World) : Prop where
  at_true : At Opened transacting true w
  idle : w.conn.pCurrentResult_ = none
  ledger : Ledger.Steps true l w.mysql.ledger

section Steps

theorem in_serves (hw : InTransaction l w) (h : Serves srv w t) : InTransaction l t := by
  have hledger := h.quiet.ledger
  rw [show w.conn.transacting_ = true from hw.at_true.2] at hledger
  exact ⟨opened_serves hw.at_true h, h.idle hw.idle, hw.ledger.trans hledger⟩

-- Without an open result nothing is unread, and the server does not turn the end down.
theorem ends_of_idle (hsrv : ∀ t, srv.accepts t = true) (hw : InTransaction l w) :
    w.mysql.ends srv = true := by
  have hsound := hw.at_true.1.sound
  have hfree : MariaResultPrep.Free w.mysql := by
    refine hsound.free ?_
    rintro p ⟨r, hr, -⟩
    rw [hw.idle] at hr
    cases hr
  simp [MYSQL.ends, MYSQL.busy, hsrv, hsound.drained.1, hsound.drained.2, hfree.reading]

end Steps

section Ledgers

-- Statements that are neither committed nor wait for it
def Gone (xs : List Nat) (l : Ledger) : Prop :=
  ∀ x ∈ xs, x < l.executed ∧ x ∉ l.pending ∧ x ∉ l.committed

theorem gone_commit {xs : List Nat} (h : Gone xs l) : Gone xs l.commit := by
  intro x hx
  obtain ⟨hlt, hpending, hcommitted⟩ := h x hx
  exact ⟨hlt, List.not_mem_nil, fun hmem => (List.mem_append.mp hmem).elim hcommitted hpending⟩

theorem gone_discard {xs : List Nat} (h : Gone xs l) : Gone xs l.discard := fun x hx =>
  ⟨(h x hx).1, List.not_mem_nil, (h x hx).2.2⟩

theorem gone_steps {xs : List Nat} {held : Bool} {l' : Ledger} (h : Gone xs l)
    (hsteps : Ledger.Steps held l l') : Gone xs l' := by
  intro x hx
  obtain ⟨hlt, hpending, hcommitted⟩ := h x hx
  have hnew : ¬(x ∈ l'.pending ∨ x ∈ l'.committed) := by
    intro hmem
    rcases hsteps.fresh hmem with (hold | hold) | hle
    · exact hpending hold
    · exact hcommitted hold
    · omega
  exact ⟨hlt.trans_le hsteps.executed_le, fun hmem => hnew (.inl hmem),
    fun hmem => hnew (.inr hmem)⟩

-- What was done in a transaction is gone after its ROLLBACK.
theorem gone_of_discard {l' : Ledger} (hl : l.WellFormed) (h : Ledger.Steps true l l') :
    Gone (l'.discard.since l.executed) l'.discard := by
  intro x hx
  obtain ⟨hle, hlt⟩ := Ledger.mem_since.mp hx
  refine ⟨hlt, List.not_mem_nil, fun hcommitted => ?_⟩
  have hold : x ∈ l.committed := h.held.1 ▸ hcommitted
  have := hl.committed_lt x hold
  omega

end Ledgers

section Rows

end Rows

section Outcomes

variable (srv client) (name : Text) (value : RFrame) (flags : Flags)

-- The rows were appended by statements that the server says added all of them, and everything
-- that was executed since the BEGIN is durable.
structure Stored (w t : World) : Prop where
  appended : 0 < value.nrow → ∃ u v out,
    (prepare_table (connected srv client) name value flags).run w.begun = .ok () u ∧
    (append_rows (connected srv client) client.lib client.conn name (strings_frame value)).run u =
      .ok out v ∧ less out value.nrow = .ok false ∧ t = v.ended srv Ledger.commit
  committed : ∀ x ∈ t.mysql.ledger.since w.mysql.ledger.executed, x ∈ t.mysql.ledger.committed

end Outcomes

section Runs

variable {name : Text} {value : RFrame} {e : Exc}

theorem ended_ledger (hsrv : ∀ t, srv.accepts t = true) (h : InTransaction l w)
    (f : Ledger → Ledger) : (w.ended srv f).mysql.ledger = f w.mysql.ledger := by
  change (w.mysql.after_end srv f).ledger = f w.mysql.ledger
  rw [MYSQL.after_end]
  exact if_pos (ends_of_idle hsrv h)

def local_client : Client where
  dbi := { sqlCreateTable := fun name _ _ => name, sqlAppendTableTemplate := fun name _ => name }
  lib := Table.utc
  conn := {}
  quoted_tempfile := "'/tmp/file'".toList
  paste := fun _ => ""
  write_file := fun _ => .ok ()
  fix := .ok

end Runs

end RMariaDB.WriteTable
