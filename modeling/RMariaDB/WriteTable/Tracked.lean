import RMariaDB.World.Transactions
import RMariaDB.WriteTable.Brackets
import RMariaDB.WriteTable.Served

-- The transactions of a connection before and after these functions.

namespace RMariaDB.WriteTable

open Program World

variable {srv : Server} {client : Client} {w w₀ t : World} {b : Bool} {α : Type}

structure Opened (w : World) : Prop where
  sound : Sound w
  whole : Whole w
  released : w.released = false
  valid : w.conn.pConn_ = true

def transacting (w : World) : Bool := w.conn.transacting_

section Decisions

theorem is_transacting_run (hw : w.released = false) :
    (connected srv client).is_transacting.run w = .ok (transacting w) w := by
  have hrun : (connected srv client).is_transacting.run w =
      (bool_of <$> call srv .is_transacting).run w := rfl
  rw [hrun, run_map, call, onOpen_run, hw, if_neg Bool.false_ne_true, run_map, onConnection_run]
  rfl

-- BEGIN, COMMIT and ROLLBACK where they are possible
theorem dbBegin_run (hw : Opened w) (hout : transacting w = false) :
    (connected srv client).dbBegin.run w = .ok () w.begun := by
  obtain ⟨-, hrun⟩ | ⟨hnot, -⟩ := decides_run srv .begin_transaction (.inl rfl) w
  · exact run_bind_ok hrun
  · exact absurd ⟨hw.released, hout, hw.valid⟩ hnot

theorem dbCommit_run (hw : Opened w) (hin : transacting w = true) :
    (connected srv client).dbCommit.run w = .ok () (w.ended srv Ledger.commit) := by
  obtain ⟨-, hrun⟩ | ⟨hnot, -⟩ := decides_run srv .commit (.inr (.inl rfl)) w
  · exact run_bind_ok hrun
  · exact absurd ⟨hw.released, hin, hw.valid⟩ hnot

theorem dbRollback_run (hw : Opened w) (hin : transacting w = true) :
    (connected srv client).dbRollback.run w = .ok () (w.ended srv Ledger.discard) := by
  obtain ⟨-, hrun⟩ | ⟨hnot, -⟩ := decides_run srv .rollback (.inr (.inr rfl)) w
  · exact run_bind_ok hrun
  · exact absurd ⟨hw.released, hin, hw.valid⟩ hnot

theorem begun_opened (hw : Opened w) : Opened w.begun :=
  ⟨hw.sound.share (t := w.begun.toShared) rfl ⟨rfl, rfl, fun _ => id⟩ hw.sound.drained, hw.whole,
    hw.released, hw.valid⟩

theorem ended_opened (hw : Opened w) (f : Ledger → Ledger) : Opened (w.ended srv f) :=
  ⟨hw.sound.share (t := (w.ended srv f).toShared) rfl ⟨rfl, rfl, fun _ => id⟩ hw.sound.drained,
    hw.whole, hw.released, hw.valid⟩

end Decisions

section Opened

theorem opened_serves (hw : At Opened transacting b w) (h : Serves srv w t) :
    At Opened transacting b t :=
  ⟨⟨h.sound, h.whole, h.released.trans hw.1.released, h.quiet.valid.trans hw.1.valid⟩,
    h.quiet.transacting.trans hw.2⟩

end Opened

section Released

variable {conn : DbConnection}

end Released

section Bounds

structure Intact (w : World) : Prop where
  sound : Sound w
  whole : Whole w

variable {lib : RLibrary} {slots : MariaDBConnection} {name : Text} {value : RFrame}

end Bounds

section Transactions

variable {lib : RLibrary} {slots : MariaDBConnection} {name : Text} {value : RFrame}

-- What holds of a connection whatever is done with it
structure Regular (w : World) : Prop where
  sound : Sound w
  whole : Whole w
  wellFormed : w.mysql.ledger.WellFormed
  valid : w.released = false → w.conn.pConn_ = true

theorem regular_new : Regular {} :=
  ⟨sound_new, whole_new, Session.consistent_new.wellFormed, fun _ => rfl⟩

end Transactions

end RMariaDB.WriteTable
