import RMariaDB.WriteTable.Steps

-- The transactions that these functions open and close, whatever their steps do.

namespace RMariaDB.WriteTable

open Program

variable {σ α β : Type} {I : σ → Prop} {flag : σ → Bool} {b : Bool}

-- The invariant, within a transaction or outside of one.
def At (I : σ → Prop) (flag : σ → Bool) (b : Bool) (s : σ) : Prop := I s ∧ flag s = b

-- A program that goes from `P` to `Q` or raises with `E`, unless nothing can follow it.
def Leads (P : σ → Prop) (m : EStateM Exc σ α) (Q E : σ → Prop) : Prop :=
  Spec P m (fun _ => Q) fun e s => e.Ends = true ∨ E s

-- What is needed of a connection: only BEGIN, COMMIT and ROLLBACK move it into a transaction
-- or out of one, and the last two do not fail within a transaction.
structure Tracks (d : Driver σ) (I : σ → Prop) (flag : σ → Bool) : Prop where
  dbIsValid : ∀ b, Leads (At I flag b) d.dbIsValid (At I flag b) (At I flag b)
  is_transacting : ∀ b, Spec (At I flag b) d.is_transacting
    (fun answer s => answer = b ∧ At I flag b s) fun e s => e.Ends = true ∨ At I flag b s
  dbBegin : Leads (At I flag false) d.dbBegin (At I flag true) (At I flag false)
  nested : Leads (At I flag true) d.dbBegin (fun _ => False) (At I flag true)
  dbCommit : Leads (At I flag true) d.dbCommit (At I flag false) fun _ => False
  dbRollback : Leads (At I flag true) d.dbRollback (At I flag false) fun _ => False
  dbExecute : ∀ b statement, Leads (At I flag b) (d.dbExecute statement) (At I flag b) (At I flag b)
  dbGetQuery : ∀ b statement,
    Leads (At I flag b) (d.dbGetQuery statement) (At I flag b) (At I flag b)
  write_file : ∀ b content, Leads (At I flag b) (d.write_file content) (At I flag b) (At I flag b)
  warning : ∀ b message, Leads (At I flag b) (d.warning message) (At I flag b) (At I flag b)

-- A program that leaves no transaction behind and ends none.
abbrev Balanced (I : σ → Prop) (flag : σ → Bool) (b : Bool) (m : EStateM Exc σ α) : Prop :=
  Leads (At I flag b) m (At I flag b) (At I flag b)

section Rules

variable {P Q R E : σ → Prop}

theorem Leads.bind {m : EStateM Exc σ α} {f : α → EStateM Exc σ β} (hm : Leads P m Q E)
    (hf : ∀ a, Leads Q (f a) R E) : Leads P (m >>= f) R E := Spec.bind hm hf

theorem Leads.ite {c : Prop} [Decidable c] {m n : EStateM Exc σ α} (hm : Leads P m Q E)
    (hn : Leads P n Q E) : Leads P (if c then m else n) Q E :=
  Spec.ite (fun _ => hm) fun _ => hn

theorem Leads.mono {m : EStateM Exc σ α} {E' : σ → Prop} (h : Leads P m Q E)
    (he : ∀ s, E s → E' s) : Leads P m Q E' :=
  Spec.mono h (fun _ => id) (fun _ _ => id) fun _ s => Or.imp_right (he s)

theorem Balanced.pure (a : α) : Balanced I flag b (pure a) := fun _ hs => hs

theorem Balanced.throw (e : Exc) : Balanced I flag b (throw e : EStateM Exc σ α) :=
  fun _ hs => .inr hs

theorem Balanced.liftM (x : Except Exc α) : Balanced I flag b (liftM x) := by
  cases x with
  | ok a => exact Balanced.pure a
  | error e => exact Balanced.throw e

end Rules

variable {d : Driver σ} (h : Tracks d I flag) (lib : RLibrary) (conn : MariaDBConnection)
  (name : Text) (value : RFrame)

include h

variable (b) in
theorem Tracks.holds :
    Holds d (At I flag b) fun e s => e.Ends = true ∨ At I flag b s where
  raised := fun _ _ _ => .inr
  caught := fun _ _ he hs => hs.resolve_left (he ▸ Bool.false_ne_true)
  dbIsValid := h.dbIsValid b
  dbExecute := h.dbExecute b
  dbGetQuery := h.dbGetQuery b
  write_file := h.write_file b
  warning := h.warning b

section Append

end Append

section Write

theorem write_rows_balanced (flags : Flags) (need_transaction : Bool) :
    Balanced I flag b (write_rows d lib conn name value flags need_transaction) :=
  write_rows_holds (h.holds b) lib conn name value flags need_transaction

end Write

end RMariaDB.WriteTable
