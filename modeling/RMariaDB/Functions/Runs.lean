import RMariaDB.Functions.Sends
import RMariaDB.WriteTable.Atomic

-- A connection between these functions, and their transactions.

namespace RMariaDB.Functions

open Program World WriteTable

variable {srv : Server} {client : Client} {lib : Library} {w t : World} {P Q : World → Prop}
  {α β : Type}

-- What stays while the functions use results of their own
structure Lasting (srv : Server) (P : World → Prop) : Prop where
  sound : ∀ w, P w → Sound w ∧ Whole w
  serves : ∀ w t, P w → Serves srv w t → P t

-- An exception after which P holds again, if anything can follow it
def Upset (P : World → Prop) (e : Exc) (w : World) : Prop := e.Ends = false → P w

-- P holds before and after.
abbrev Lasts (P : World → Prop) (m : EStateM Exc World α) : Prop :=
  Spec P m (fun _ => P) (Upset P)

section Rules

theorem Lasts.throw (e : Exc) : Lasts P (throw e : EStateM Exc World α) := fun _ hw _ => hw

theorem Lasts.pure (a : α) : Lasts P (pure a) := fun _ hw => hw

theorem Lasts.liftM (x : Except Exc α) : Lasts P (liftM x : EStateM Exc World α) := by
  cases x with
  | ok a => exact Lasts.pure a
  | error e => exact Lasts.throw e

theorem Lasts.bind {m : EStateM Exc World α} {f : α → EStateM Exc World β} (hm : Lasts P m)
    (hf : ∀ a, Lasts P (f a)) : Lasts P (m >>= f) := Spec.bind hm hf

theorem Lasts.ite {c : Prop} [Decidable c] {m n : EStateM Exc World α} (hm : Lasts P m)
    (hn : Lasts P n) : Lasts P (if c then m else n) := Spec.ite (fun _ => hm) fun _ => hn

theorem Lasts.done {m : EStateM Exc World α} (hm : Lasts P m) : Lasts P (done m) :=
  hm.bind fun _ => Lasts.pure ()

end Rules

section Functions

variable (hP : Lasting srv P)

include hP

theorem Lasting.lasts {m : EStateM Exc World α}
    (hm : ∀ w₀, Spec (Serves srv w₀) m (fun _ => Serves srv w₀) (Upset (Serves srv w₀))) :
    Lasts P m := by
  intro w hw
  obtain ⟨hsound, hwhole⟩ := hP.sound w hw
  have h := hm w w (serves_refl hsound hwhole)
  split at h
  · exact hP.serves w _ hw h
  · exact fun hends => hP.serves w _ hw (h hends)

theorem Lasting.holds : Holds (connected srv client) P (Upset P) where
  raised := fun _ _ _ hw _ => hw
  caught := fun _ _ he h => h he
  dbIsValid := fun _ hw => hw
  dbExecute statement := hP.lasts fun _ =>
    Spec.mono (execute_statement_serves statement) (fun _ => id) (fun _ _ => id) fun _ _ h => h.serves
  dbGetQuery statement := hP.lasts fun _ =>
    Spec.mono (get_query_serves statement) (fun _ => id) (fun _ _ => id) fun _ _ h => h.serves
  write_file content := hP.lasts fun _ =>
    Spec.mono (write_file_serves content) (fun _ => id) (fun _ _ => id) fun _ _ h => h.serves
  warning message := hP.lasts fun _ =>
    Spec.mono (warning_serves srv message) (fun _ => id) (fun _ _ => id) fun _ _ h => h.serves

theorem dbGetQuery_lasts (statement : Text) (params : Option Params) (n : List Double) (fuel : Nat) :
    Lasts P (dbGetQuery srv client statement params n fuel) :=
  hP.lasts fun _ => Spec.mono (dbGetQuery_raised statement params n fuel) (fun _ => id)
    (fun _ _ => id) fun _ _ h => h.serves

theorem dbExecute_lasts (statement : Text) (params : Option Params) (immediate : Bool) :
    Lasts P (dbExecute srv client statement params immediate) :=
  hP.lasts fun _ => Spec.mono (dbExecute_raised statement params immediate) (fun _ => id)
    (fun _ _ => id) fun _ _ h => h.serves

theorem dbRemoveTable_lasts (name : Text) (temporary fail_if_missing : Bool) :
    Lasts P (dbRemoveTable (connected srv client) name temporary fail_if_missing) :=
  Lasts.done (hP.holds.dbExecute _)

theorem dbReadTable_lasts (name : Text) (row_names : Option SEXP) (check_names : SEXP) (fuel : Nat) :
    Lasts P (dbReadTable srv client lib name row_names check_names fuel) := by
  apply (Lasts.liftM _).bind
  intro _
  apply (Lasts.liftM _).bind
  intro _
  apply (dbGetQuery_lasts hP _ _ _ _).bind
  intro out
  apply (Lasts.liftM _).bind
  intro check
  exact Lasts.ite (Lasts.pure _) (Lasts.pure _)

theorem dbListTables_lasts (fuel : Nat) : Lasts P (dbListTables srv client fuel) := by
  apply (dbGetQuery_lasts hP _ _ _ _).bind
  intro df
  split
  · exact Lasts.pure _
  · exact Lasts.throw _

theorem dbListObjects_lasts (x : Option Prefix) (fuel : Nat) :
    Lasts P (dbListObjects srv client lib x fuel) := by
  apply (Lasts.liftM _).bind
  intro query
  split
  · exact Lasts.pure _
  · apply (dbGetQuery_lasts hP _ _ _ _).bind
    exact fun _ => Lasts.pure _

theorem load_file_lasts (name value : Text) (format : FileFormat) :
    Lasts P (load_file srv client lib name value format) := by
  apply (Lasts.liftM _).bind
  intro path
  apply (Lasts.liftM _).bind
  intro path
  apply (Lasts.liftM _).bind
  intro sep
  apply (Lasts.liftM _).bind
  intro quote
  apply (Lasts.liftM _).bind
  intro eol
  exact (dbExecute_lasts hP _ _ _).done

theorem dbWriteTable_file_lasts (name value : Text) (flags : Flags) (format : FileFormat) :
    Lasts P (dbWriteTable_file srv client lib name value flags format) := by
  apply Lasts.ite (Lasts.throw _)
  apply (dbExistsTable_holds hP.holds name).bind
  intro found
  apply Lasts.ite (Lasts.throw _)
  apply Lasts.bind
  · exact Lasts.ite (dbRemoveTable_lasts hP name false true) (Lasts.pure ())
  intro _
  apply Lasts.ite (Lasts.throw _)
  apply Lasts.bind
  · apply Lasts.ite
    · apply (Lasts.liftM _).bind
      exact fun types => (dbExecute_lasts hP _ _ _).done
    · exact Lasts.pure ()
  · exact fun _ => load_file_lasts hP name value format

-- A transaction of its own, or an error where there is one already
theorem dbAppendTable_lasts (name : Text) (value : RFrame) (safe : Bool)
    (hbegin : Spec P (connected srv client).dbBegin (fun _ => Q) (Upset P))
    (hin : Spec Q (onError Exc.Ends (load_committed (connected srv client) name value)
      (connected srv client).dbRollback) (fun _ => P) (Upset P)) :
    Lasts P (dbAppendTable (connected srv client) client.lib client.conn name value safe) := by
  apply Lasts.ite
  · apply append_table_holds hP.holds
    apply Lasts.ite
    · apply Lasts.ite
      · exact Spec.bind hbegin fun _ => hin
      · exact load_counted_holds hP.holds name value
    · exact dbExecute_holds hP.holds _
  · exact dbExecute_holds hP.holds _

theorem dbWriteTable_lasts (name : Text) (value : RFrame) (flags : Flags)
    (hflag : Spec P (connected srv client).is_transacting
      (fun answer w => P w ∧ (answer = false → Q w)) (Upset P))
    (hout : Spec Q (do
      (connected srv client).dbBegin
      onError Exc.Ends (write_rows (connected srv client) client.lib client.conn name value flags true)
        (connected srv client).dbRollback
      (connected srv client).dbCommit) (fun _ => P) (Upset P)) :
    Lasts P (dbWriteTable (connected srv client) client.lib client.conn name value flags) := by
  apply (Lasts.liftM _).bind
  intro _
  apply Spec.bind hflag
  intro answer
  apply Spec.ite
  · intro _ w hw
    exact write_rows_holds hP.holds client.lib client.conn name value flags false w hw.1
  · intro hanswer w hw
    exact hout w (hw.2 (Bool.eq_false_of_not_eq_true hanswer))

-- The functions that decide on no transaction
def Function.plain : Function → Bool
  | .dbAppendTable .. | .dbWriteTable .. | .dbBegin | .dbCommit | .dbRollback => false
  | _ => true

theorem plain_lasts {f : Function} (hf : f.plain = true) : Lasts P (f.run srv client lib) := by
  cases f with
  | dbGetQuery statement params n fuel => exact (dbGetQuery_lasts hP statement params n fuel).done
  | dbExecute statement params immediate => exact (dbExecute_lasts hP statement params immediate).done
  | dbExistsTable name => exact Lasts.done (dbExistsTable_holds hP.holds name)
  | dbRemoveTable name temporary fail_if_missing =>
      exact dbRemoveTable_lasts hP name temporary fail_if_missing
  | dbCreateTable name fields temporary => exact Lasts.done (hP.holds.dbExecute _)
  | dbWriteTable_file name value flags format =>
      exact dbWriteTable_file_lasts hP name value flags format
  | dbReadTable name row_names check_names fuel =>
      exact (dbReadTable_lasts hP name row_names check_names fuel).done
  | dbListTables fuel => exact (dbListTables_lasts hP fuel).done
  | dbListObjects x fuel => exact (dbListObjects_lasts hP x fuel).done
  | _ => cases hf

end Functions

section Resting

-- What no COMMIT and no ROLLBACK takes back
structure Sticks (K : Ledger → Prop) : Prop where
  steps : ∀ held l l', Ledger.Steps held l l' → K l → K l'
  commit : ∀ l, K l → K l.commit
  discard : ∀ l, K l → K l.discard

-- Between two functions
structure Resting (srv : Server) (K : Ledger → Prop) (w : World) : Prop where
  opened : Opened w
  idle : w.conn.pCurrentResult_ = none
  settled : Committed srv w.toShared
  ledger : K w.mysql.ledger

variable {K : Ledger → Prop} {l : Ledger}

theorem not_active (hw : w.conn.pCurrentResult_ = none) (p : MariaResultPrep) : ¬Active w p := by
  rintro ⟨r, hr, -⟩
  rw [hw] at hr
  cases hr

theorem free_of_idle (hw : Sound w) (hidle : w.conn.pCurrentResult_ = none) :
    MariaResultPrep.Free w.mysql := hw.free (not_active hidle)

theorem not_busy (hw : Sound w) (hidle : w.conn.pCurrentResult_ = none) : w.mysql.busy = false := by
  simp [MYSQL.busy, hw.drained.1, hw.drained.2, (free_of_idle hw hidle).reading]

theorem resting_lasting (hK : Sticks K) : Lasting srv (Resting srv K) where
  sound := fun _ hw => ⟨hw.opened.sound, hw.opened.whole⟩
  serves := by
    intro w t hw h
    have hidle := h.idle hw.idle
    have hopened := (opened_serves (b := transacting w) ⟨hw.opened, rfl⟩ h).1
    exact ⟨hopened, hidle, h.settled (fun _ => hw.settled) (not_active hidle),
      hK.steps _ _ _ h.quiet.ledger hw.ledger⟩

theorem transaction_lasting : Lasting srv (InTransaction l) where
  sound := fun _ hw => ⟨hw.at_true.1.sound, hw.at_true.1.whole⟩
  serves := fun _ _ => in_serves

theorem begun_resting (hw : Resting srv K w) : Resting srv K w.begun :=
  ⟨begun_opened hw.opened, hw.idle, fun _ htransacting => Bool.noConfusion htransacting, hw.ledger⟩

theorem ended_resting {f : Ledger → Ledger} (hpending : ∀ l, (f l).pending = [])
    (hK : ∀ l, K l → K (f l)) (hw : Resting srv K w) : Resting srv K (w.ended srv f) := by
  have hledger : (w.ended srv f).mysql.ledger = if w.mysql.ends srv then f w.mysql.ledger
      else w.mysql.ledger := rfl
  refine ⟨ended_opened hw.opened f, hw.idle, fun hsrv _ _ => ?_, ?_⟩
  · have hends : w.mysql.ends srv = true := by
      simp [MYSQL.ends, not_busy hw.opened.sound hw.idle, hsrv]
    rw [hledger, if_pos hends, hpending]
  · rw [hledger]
    split
    · exact hK _ hw.ledger
    · exact hw.ledger

-- A decision is made, or it is an error and nothing happens.
theorem decides_lasts {op : Op} (hop : op = .begin_transaction ∨ op = .commit ∨ op = .rollback)
    (h : ∀ w, P w → Decides w op → P (decided srv op w)) : Lasts P (do
      let _ ← call srv op
      pure ()) := by
  intro w hw
  rcases decides_run srv op hop w with ⟨hdecides, hrun⟩ | ⟨-, message, hrun⟩
  · rw [run_bind_ok hrun]
    exact h w hw hdecides
  · rw [run_bind_error hrun]
    exact fun _ => hw

theorem dbBegin_resting : Lasts (Resting srv K) (connected srv client).dbBegin :=
  decides_lasts (.inl rfl) fun _ hw _ => begun_resting hw

variable (hK : Sticks K)

include hK

theorem dbCommit_resting : Lasts (Resting srv K) (connected srv client).dbCommit :=
  decides_lasts (.inr (.inl rfl)) fun _ hw _ => ended_resting (fun _ => rfl) hK.commit hw

theorem dbRollback_resting : Lasts (Resting srv K) (connected srv client).dbRollback :=
  decides_lasts (.inr (.inr rfl)) fun _ hw _ => ended_resting (fun _ => rfl) hK.discard hw

theorem rolled_back_resting {m : EStateM Exc World α} (hm : Lasts (Resting srv K) m) :
    Lasts (Resting srv K) (onError Exc.Ends m (connected srv client).dbRollback) := by
  apply Spec.onError hm
  · intro e w hends hw
    exact hw
  · intro e he w hw
    have hrun := @dbRollback_resting srv client K hK w (hw he)
    split at hrun
    · exact fun _ => hrun
    · rename_i e' t _
      exact fun hends => hrun hends

theorem load_committed_resting (name : Text) (value : RFrame) :
    Lasts (Resting srv K) (load_committed (connected srv client) name value) := by
  apply Lasts.bind (load_counted_holds (resting_lasting hK).holds name value)
  intro out
  apply (Lasts.liftM _).bind
  intro few
  apply Lasts.ite (Lasts.throw _)
  exact (dbCommit_resting hK).bind fun _ => Lasts.pure _

theorem run_resting (f : Function) : Lasts (Resting srv K) (f.run srv client lib) := by
  have hP : Lasting srv (Resting srv K) := resting_lasting hK
  cases f with
  | dbAppendTable name value safe =>
      apply Lasts.done
      exact dbAppendTable_lasts hP name value safe dbBegin_resting
        (rolled_back_resting hK (load_committed_resting hK name value))
  | dbWriteTable name value flags =>
      apply dbWriteTable_lasts hP name value flags (Q := Resting srv K)
      · intro w hw
        rw [is_transacting_run hw.opened.released]
        exact ⟨hw, fun _ => hw⟩
      · apply dbBegin_resting.bind
        intro _
        apply Lasts.bind _ fun _ => dbCommit_resting hK
        exact rolled_back_resting hK
          (write_rows_holds hP.holds client.lib client.conn name value flags true)
  | dbBegin => exact dbBegin_resting
  | dbCommit => exact dbCommit_resting hK
  | dbRollback => exact dbRollback_resting hK
  | _ => exact plain_lasts hP rfl

end Resting

section Calm

-- No result is the current one, nothing of a result is open or unread, and outside of a transaction
-- nothing waits for a COMMIT that the server accepts.
structure Calm (srv : Server) (w : World) : Prop where
  current : w.conn.pCurrentResult_ = none
  statements : ∀ k, w.mysql.stmts k = none
  metadata : w.mysql.metas = []
  unread : w.mysql.busy = false
  committed : (∀ t, srv.accepts t = true) → w.conn.transacting_ = false →
    w.mysql.ledger.pending = []

variable {K : Ledger → Prop}

theorem Resting.calm (hw : Resting srv K w) : Calm srv w :=
  have hfree := free_of_idle hw.opened.sound hw.idle
  ⟨hw.idle, hfree.stmts, hfree.metas, not_busy hw.opened.sound hw.idle,
    fun hsrv hout => hw.settled hsrv hout hw.opened.valid⟩

theorem lasts_after {m : EStateM Exc World α} (hm : Lasts P m) (hw : P w)
    (h : after m w = some t) : P t := by
  have hrun := hm w hw
  rw [after] at h
  split at hrun
  · rename_i a u hok
    rw [hok] at h
    cases h
    exact hrun
  · rename_i e u herror
    rw [herror] at h
    dsimp only at h
    split at h
    · cases h
    · rename_i hends
      cases h
      exact hrun (Bool.eq_false_of_not_eq_true hends)

theorem reaches_resting {C : Call → World → Prop} (hK : Sticks K) (h : Reaches (step srv) C w t)
    (hw : Resting srv K w) : Resting srv K t :=
  h.invariant hw fun c _ _ hs _ hstep => lasts_after (run_resting hK c.function) hs hstep

theorem wellFormed_sticks : Sticks Ledger.WellFormed where
  steps := fun _ _ _ h hl => h.wellFormed hl
  commit := fun _ => Ledger.WellFormed.commit
  discard := fun _ => Ledger.WellFormed.discard

theorem gone_sticks (xs : List Nat) : Sticks (Gone xs) where
  steps := fun _ _ _ h hl => gone_steps hl h
  commit := fun _ => gone_commit
  discard := fun _ => gone_discard

theorem resting_new : Resting srv Ledger.WellFormed {} :=
  ⟨⟨sound_new, whole_new, rfl, rfl⟩, rfl, fun _ _ _ => rfl, regular_new.wellFormed⟩

theorem raised_no_handle {m : EStateM Exc World α} (hw : Resting srv K w)
    (hm : Spec (Serves srv w) m (fun _ => Serves srv w) (Raised srv w)) (t : World) :
    m.run w ≠ .error (.fault .handle) t := by
  intro hrun
  have h := hm w (serves_refl hw.opened.sound hw.opened.whole)
  rw [hrun] at h
  exact h.handle rfl

-- Whatever was called before and however it failed: functions that clear their results leave
-- a calm connection, and they use no closed handle.
theorem calm_between_functions (h : Reaches (step srv) (fun _ _ => True) {} w) :
    Calm srv w ∧
      (∀ client statement params n fuel t,
        (dbGetQuery srv client statement params n fuel).run w ≠ .error (.fault .handle) t) ∧
      ∀ client statement params immediate t,
        (dbExecute srv client statement params immediate).run w ≠ .error (.fault .handle) t := by
  have hw := reaches_resting wellFormed_sticks h resting_new
  refine ⟨hw.calm, ?_, ?_⟩
  · exact fun client statement params n fuel =>
      raised_no_handle hw (dbGetQuery_raised statement params n fuel)
  · exact fun client statement params immediate =>
      raised_no_handle hw (dbExecute_raised statement params immediate)

-- Every statement changes data.
def changing : Server := { Server.agreeable with
  execute := fun _ _ _ => .ok { affected_rows := 1, dml := true } }

def plain_library : Library where
  dbQuoteString := fun x => .ok (x.map fun t => t.getD "NULL".toList)
  text := fun s => s.map fun b => Char.ofNat b.toNat
  make_names := id
  read_table := fun _ _ _ _ _ => .error "no lines available in input"
  normalizePath := .ok

def insert (k : Nat) : Call :=
  ⟨local_client, plain_library, .dbExecute ("INSERT INTO t VALUES (".toList ++ (toString k).toList ++
    ")".toList) none false⟩

def made (f : Function) : Call := ⟨local_client, plain_library, f⟩

-- The second dbBegin() and the query for half a row are errors.
theorem calm_after_errors : ∃ w, w.mysql.ledger = { executed := 3, committed := [0] } ∧
    Calm changing w ∧
      (∀ client statement params n fuel t,
        (dbGetQuery changing client statement params n fuel).run w ≠ .error (.fault .handle) t) ∧
      ∀ client statement params immediate t,
        (dbExecute changing client statement params immediate).run w ≠ .error (.fault .handle) t := by
  have hrun : (replay (step changing) [insert 1, made .dbBegin, insert 2, made .dbBegin,
      made (.dbGetQuery "SELECT a FROM t".toList none [.finite (1 / 2)] 10),
      made .dbRollback] {}).map (·.mysql.ledger) = some { executed := 3, committed := [0] } := by
    decide +kernel
  obtain ⟨w, hreplay, hledger⟩ := Option.map_eq_some_iff.mp hrun
  exact ⟨w, hledger, calm_between_functions ((Reaches.refl _).replay (by simp) hreplay)⟩

end Calm

section Transactions

variable {l : Ledger}

def Function.ends : Function → Bool
  | .dbCommit | .dbRollback => true
  | _ => false

-- Within a transaction another one is an error.
theorem dbBegin_nested :
    Spec (InTransaction l) (connected srv client).dbBegin (fun _ _ => False) (Upset (InTransaction l)) := by
  intro w hw
  rcases decides_run srv .begin_transaction (.inl rfl) w with ⟨hdecides, -⟩ | ⟨-, message, hrun⟩
  · exact absurd (hdecides.2.1.symm.trans hw.at_true.2) Bool.false_ne_true
  · have hnested : (connected srv client).dbBegin.run w = .error (.stop message) w :=
      run_bind_error hrun
    rw [hnested]
    exact fun _ => hw

theorem run_in_transaction {f : Function} (hf : f.ends = false) :
    Lasts (InTransaction l) (f.run srv client lib) := by
  have hP : Lasting srv (InTransaction l) := transaction_lasting
  cases f with
  | dbAppendTable name value safe =>
      apply Lasts.done
      exact dbAppendTable_lasts hP name value safe dbBegin_nested fun _ hw => hw.elim
  | dbWriteTable name value flags =>
      apply dbWriteTable_lasts hP name value flags (Q := fun _ => False)
      · intro w hw
        rw [is_transacting_run hw.at_true.1.released]
        exact ⟨hw, fun hout => absurd (hout.symm.trans hw.at_true.2) Bool.false_ne_true⟩
      · exact fun _ hw => hw.elim
  | dbBegin => exact Spec.mono dbBegin_nested (fun _ => id) (fun _ _ => False.elim) fun _ _ => id
  | dbCommit => cases hf
  | dbRollback => cases hf
  | _ => exact plain_lasts hP rfl

-- The work that was done between the dbBegin() in `w` and `t`
structure AllOrNothing (srv : Server) (w t : World) : Prop where
  held : transacting t = true ∧ t.mysql.ledger.committed = w.mysql.ledger.committed
  commit : ∀ c, c.function = .dbCommit → ∃ u, step srv c t = some u ∧ transacting u = false ∧
    u.mysql.ledger.committed =
      w.mysql.ledger.committed ++ t.mysql.ledger.since w.mysql.ledger.executed
  rollback : ∀ c, c.function = .dbRollback → ∃ u, step srv c t = some u ∧ transacting u = false ∧
    u.mysql.ledger.committed = w.mysql.ledger.committed ∧
      ∀ v, Reaches (step srv) (fun _ _ => True) u v →
        ∀ x ∈ t.mysql.ledger.since w.mysql.ledger.executed, x ∉ v.mysql.ledger.committed

theorem after_ok {m : EStateM Exc World α} {a : α} (h : m.run w = .ok a t) : after m w = some t := by
  rw [after, h]

-- Functions that are called between dbBegin() and the end of the transaction, and fail or not:
-- dbCommit() makes all that they executed durable, in order, and dbRollback() undoes all of it
-- and nothing else.
theorem transaction_all_or_nothing (hsrv : ∀ t, srv.accepts t = true) {b : World} {c : Call}
    (h : Reaches (step srv) (fun _ _ => True) {} w) (hout : transacting w = false)
    (hc : c.function = .dbBegin) (hbegin : step srv c w = some b)
    (hrun : Reaches (step srv) (fun c _ => c.function.ends = false) b t) : AllOrNothing srv w t := by
  have hw := reaches_resting wellFormed_sticks h resting_new
  have hpending := hw.calm.committed hsrv hout
  have hstart : InTransaction w.mysql.ledger b := by
    have hb : step srv c w = some w.begun := by
      rw [step, Call.run, hc]
      exact after_ok (dbBegin_run hw.opened hout)
    cases hb.symm.trans hbegin
    exact ⟨⟨begun_opened hw.opened, rfl⟩, hw.idle, Ledger.Steps.refl _⟩
  have ht : InTransaction w.mysql.ledger t :=
    hrun.invariant hstart fun c _ _ hs hf hstep => lasts_after (run_in_transaction hf) hs hstep
  obtain ⟨hcommitted, hheld⟩ := ht.ledger.held
  rw [hpending, List.nil_append] at hheld
  refine ⟨⟨ht.at_true.2, hcommitted⟩, fun c hc => ?_, fun c hc => ?_⟩
  · refine ⟨t.ended srv Ledger.commit, ?_, rfl, ?_⟩
    · rw [step, Call.run, hc]
      exact after_ok (dbCommit_run ht.at_true.1 ht.at_true.2)
    · rw [ended_ledger hsrv ht, Ledger.commit, hcommitted, hheld]
  · have hgone := gone_of_discard hw.ledger ht.ledger
    rw [← ended_ledger hsrv ht Ledger.discard] at hgone
    have hend : Resting srv (Gone (t.mysql.ledger.since w.mysql.ledger.executed))
        (t.ended srv Ledger.discard) := by
      refine ⟨ended_opened ht.at_true.1 _, ht.idle, fun _ _ _ => ?_, ?_⟩
      · rw [ended_ledger hsrv ht]
        rfl
      · rw [ended_ledger hsrv ht] at hgone ⊢
        exact hgone
    refine ⟨t.ended srv Ledger.discard, ?_, rfl, ?_, fun v hv x hx => ?_⟩
    · rw [step, Call.run, hc]
      exact after_ok (dbRollback_run ht.at_true.1 ht.at_true.2)
    · rw [ended_ledger hsrv ht]
      exact hcommitted
    · exact ((reaches_resting (gone_sticks _) hv hend).ledger x hx).2.2

-- One INSERT before the transaction and one within it, next to another dbBegin()
theorem transaction_of_one_insert : ∃ w t, w.mysql.ledger.executed = 1 ∧
    t.mysql.ledger.since w.mysql.ledger.executed = [1] ∧ AllOrNothing changing w t := by
  have hrun : (replay (step changing) [insert 1] {}).map (fun w => (w.mysql.ledger.executed,
      transacting w, (step changing (made .dbBegin) w).map fun b =>
        (replay (step changing) [insert 2, made .dbBegin] b).map (·.mysql.ledger.since 1))) =
      some (1, false, some (some [1])) := by decide +kernel
  obtain ⟨w, hfirst, hw⟩ := Option.map_eq_some_iff.mp hrun
  simp only [Prod.mk.injEq] at hw
  obtain ⟨hexecuted, hout, hb⟩ := hw
  obtain ⟨b, hbegin, hb⟩ := Option.map_eq_some_iff.mp hb
  obtain ⟨t, hreplay, ht⟩ := Option.map_eq_some_iff.mp hb
  refine ⟨w, t, hexecuted, by rw [hexecuted, ht], transaction_all_or_nothing (c := made .dbBegin)
    (fun _ => rfl) ((Reaches.refl _).replay (by simp) hfirst) hout rfl hbegin
    ((Reaches.refl _).replay ?_ hreplay)⟩
  intro c hc _
  simp only [List.mem_cons, List.not_mem_nil, or_false] at hc
  rcases hc with rfl | rfl <;> rfl

end Transactions

end RMariaDB.Functions
