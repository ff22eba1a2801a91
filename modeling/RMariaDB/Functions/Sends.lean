import RMariaDB.Functions
import RMariaDB.WriteTable.Tracked

-- What is sent by these functions leaves nothing of its result on the connection.

namespace RMariaDB.Functions

open Program World WriteTable

variable {srv : Server} {client : Client} {lib : Library} {w₀ w : World} {r : Nat} {α : Type}

-- An exception that comes from no closed handle. Nothing of a result is left after it, unless
-- nothing can follow.
structure Raised (srv : Server) (w₀ : World) (e : Exc) (w : World) : Prop where
  handle : e ≠ .fault .handle
  serves : e.Ends = false → Serves srv w₀ w

section Holding

-- While a result of one's own is held
abbrev Handled (srv : Server) (w₀ : World) (r : Nat) (m : EStateM Exc World α) : Prop :=
  Safe (Holding srv w₀ r) (fun e => e ≠ .fault .handle) m

theorem onResult_handled {m : EStateM Exc (Obj DbResult) α} (hm : DbResult.Works m) :
    Handled srv w₀ r (onResult r m) := by
  intro w hw
  obtain ⟨x, hx⟩ := hw.sound.current r hw.current
  have hworks := onResult_works srv hw.sound hw.whole hw.current hx hm
  cases hrun : (onResult r m).run w with
  | ok a t =>
      rw [hrun] at hworks
      exact ⟨hw.toKept.trans hworks.1, by rw [hworks.2, hw.current]⟩
  | error e t =>
      rw [hrun] at hworks
      exact ⟨⟨hw.toKept.trans hworks.1.1, by rw [hworks.1.2, hw.current]⟩, hworks.2⟩

theorem onLive_handled {m : EStateM Exc World Reply} (hm : Handled srv w₀ r m) :
    Handled srv w₀ r (onLive r m) := by
  intro w hw
  obtain ⟨x, hx⟩ := hw.sound.current r hw.current
  rw [onLive_run hx]
  exact hm w hw

theorem warning_handled (message : String) :
    Handled srv w₀ r (onConnection (warning message)) := fun w hw =>
  ⟨hw.toKept.trans (warned_kept hw.sound hw.whole (w.warnings ++ [message])), hw.current⟩

theorem plain_handled {x : Except Exc α} (hx : Plain x) :
    Handled srv w₀ r (liftM x : EStateM Exc World α) :=
  Safe.liftM fun e he => (hx e he).2

theorem stop_if_plain (x : Except String α) : Plain (stop_if x) := by
  cases x with
  | ok a => exact Plain.ok a
  | error message => exact Plain.stop message

theorem fetch_count_plain (n : List Double) : Plain (fetch_count n) := by
  unfold fetch_count
  split
  · exact Plain.stop _
  · exact Plain.stop _
  · exact Plain.ok _
  · exact Plain.stop _
  · apply Plain.ite (Plain.stop _)
    apply Plain.ite (Plain.stop _)
    exact Plain.ite (Plain.ok _) Plain.arithmetic
  · exact Plain.stop _

theorem dbBind_handled (params : Params) : Handled srv w₀ r (dbBind srv client r params) := by
  apply Safe.ite
  · exact fun _ => Safe.throw (by simp)
  intro _
  apply Safe.bind
  · apply Safe.ite
    · exact fun _ => warning_handled _
    · exact fun _ => Safe.pure ()
  intro _
  apply Safe.bind _ fun _ => Safe.pure ()
  apply onLive_handled
  exact (onResult_handled (DbResult.bind_works _)).bind fun _ => Safe.pure _

theorem dbFetch_handled (n : List Double) (fuel : Nat) :
    Handled srv w₀ r (dbFetch srv client r n fuel) := by
  apply (plain_handled (fetch_count_plain n)).bind
  intro n
  apply Safe.bind
  · apply Safe.map
    apply onLive_handled
    exact (onResult_handled (DbResult.fetch_works r fuel n)).map _
  · exact fun ret => plain_handled (stop_if_plain _)

theorem dbHasCompleted_handled : Handled srv w₀ r (dbHasCompleted srv r) := by
  apply Safe.map
  apply onLive_handled
  exact onResult_handled fun _ => Safe.get_bind fun _ _ => Safe.pure _

theorem dbGetRowsAffected_handled : Handled srv w₀ r (dbGetRowsAffected srv r) := by
  apply Safe.map
  apply onLive_handled
  exact (onResult_handled DbResult.n_rows_affected_works).map _

end Holding

section Clearing

theorem clears (hw : Holding srv w₀ r w) :
    ∃ t, (dbClearResult srv r).run w = .ok () t ∧ Serves srv w₀ t := by
  obtain ⟨x, hx⟩ := hw.sound.current r hw.current
  obtain ⟨t, hrelease, hserves⟩ := release_serves hw
  have hvalid : (bool_of <$> call srv (.valid r)).run w = .ok true w := by
    rw [run_map, call, EStateM.run_bind, EStateM.run_get]
    simp [bool_of, hx, hw.current]
  refine ⟨t, ?_, hserves⟩
  rw [dbClearResult, run_bind_ok hvalid]
  simp only [if_true, run_bind_ok hrelease, EStateM.run_pure]

variable {P : World → Prop} {m : EStateM Exc World α} {Q : α → World → Prop}

-- The result is cleared on the way out of an exception.
theorem onError_raised
    (hm : Spec P m Q fun e w => Holding srv w₀ r w ∧ e ≠ .fault .handle) :
    Spec P (onError Exc.Ends m (dbClearResult srv r)) Q (Raised srv w₀) := by
  apply Spec.onError hm
  · intro e w hends hw
    exact ⟨hw.2, fun hnot => absurd (hends.symm.trans hnot) (by decide)⟩
  · intro e _ w hw
    obtain ⟨t, hrun, hserves⟩ := clears hw.1
    rw [hrun]
    exact ⟨hw.2, fun _ => hserves⟩

-- It is cleared in any case.
theorem onExit_raised (hm : Handled srv w₀ r m) :
    Spec (Holding srv w₀ r) (onExit Exc.Ends m (dbClearResult srv r)) (fun _ => Serves srv w₀)
      (Raised srv w₀) := by
  apply (onError_raised hm).bind
  intro a w hw
  obtain ⟨t, hrun, hserves⟩ := clears hw
  rw [run_bind_ok hrun]
  exact hserves

end Clearing

section Sending

theorem result_create_raised (sql : String) (is_statement immediate : Bool) :
    Spec (Serves srv w₀) (result_of <$> call srv (.create sql is_statement immediate))
      (Holding srv w₀) (Raised srv w₀) := by
  intro w hw
  have hcreate := create_serves srv hw.sound hw.whole sql is_statement immediate
  rw [run_map, call, onOpen_run]
  by_cases hreleased : w.released = true
  · rw [if_pos hreleased]
    exact ⟨by simp, fun _ => hw⟩
  · rw [if_neg hreleased, run_map]
    cases hrun : (create srv sql is_statement immediate).run w with
    | ok r t =>
        rw [hrun] at hcreate
        exact ⟨hw.toKept.trans hcreate.1.toKept, hcreate.1.current⟩
    | error e t =>
        rw [hrun] at hcreate
        obtain ⟨hends, hserves⟩ := hcreate
        refine ⟨?_, fun _ => ⟨hw.toKept.trans hserves.toKept, hserves.idle ∘ hw.idle⟩⟩
        rintro rfl
        cases hends

theorem dbSend_raised (statement : Text) (params : Option Params) (is_statement immediate : Bool) :
    Spec (Serves srv w₀) (dbSend srv client statement params is_statement immediate)
      (Holding srv w₀) (Raised srv w₀) := by
  apply (result_create_raised _ _ _).bind
  intro r
  apply Spec.bind (Q := fun _ => Holding srv w₀ r)
  · apply onError_raised
    cases params with
    | none => exact fun _ hw => hw
    | some params => exact dbBind_handled params
  · exact fun _ _ hw => hw

theorem dbGetQuery_raised (statement : Text) (params : Option Params) (n : List Double)
    (fuel : Nat) : Spec (Serves srv w₀) (dbGetQuery srv client statement params n fuel)
      (fun _ => Serves srv w₀) (Raised srv w₀) := by
  apply (dbSend_raised _ _ _ _).bind
  intro rs
  apply onExit_raised
  apply (dbFetch_handled n fuel).bind
  intro df
  apply dbHasCompleted_handled.bind
  intro completed
  apply Safe.bind
  · apply Safe.ite
    · exact fun _ => warning_handled _
    · exact fun _ => Safe.pure ()
  · exact fun _ => Safe.pure df

theorem dbExecute_raised (statement : Text) (params : Option Params) (immediate : Bool) :
    Spec (Serves srv w₀) (dbExecute srv client statement params immediate)
      (fun _ => Serves srv w₀) (Raised srv w₀) := by
  apply (dbSend_raised _ _ _ _).bind
  intro rs
  exact onExit_raised dbGetRowsAffected_handled

end Sending

end RMariaDB.Functions
