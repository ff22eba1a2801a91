import RMariaDB.Lib.Trace
import RMariaDB.MariaResultPrep.Frames
import RMariaDB.MariaResultPrep.Runs

-- The room that fetch() has for the rows that it reads.

namespace RMariaDB.MariaResultPrep

open Program

-- A row that step() has found, a value of an int, or a call of set_list_value() with the
-- capacity and the lengths of all columns.
inductive Event
  | stepped
  | int (n : Nat)
  | set_list_value (i n : Nat) (lengths : List Nat)
deriving DecidableEq, Repr

def Event.Sound : Event → Prop
  | stepped => True
  | int n => n ≤ INT_MAX
  | set_list_value i n lengths => i < n ∧ ∀ length ∈ lengths, length = n

namespace Traced

variable (srv : Server)

def set_list_values (i n : Nat) : List Nat → DataFrame →
    EStateM Exc (Obj MariaResultPrep × List Event) DataFrame
  | [], out => pure out
  | j :: js, out => do
      let x ← index out.columns j
      note (.set_list_value i n (out.columns.map fun x => x.cells.length))
      let x ← silent (output (MariaRow.set_list_value srv x i j))
      set_list_values i n js { out with columns := out.columns.set j x }

def fetch_loop (n_max : ℤ) : Nat → Nat → Nat → DataFrame →
    EStateM Exc (Obj MariaResultPrep × List Event) (Nat × Nat × DataFrame)
  | 0, _, _, _ => throw .outOfFuel
  | fuel + 1, i, n, out => do
      if i ≥ n ∧ n_max > 0 then
        pure (i, n, out)
      else if ← silent (step srv) then do
        note .stepped
        note (.int (if i ≥ n then n * 2 else n))
        if i ≥ n ∧ n * 2 > INT_MAX then
          throw (.fault .arithmetic)
        else do
          let grown := if i ≥ n then (n * 2, df_resize out (n * 2)) else (n, out)
          let s ← silent get
          let out ← set_list_values srv i grown.1 (List.range s.self.nCols_) grown.2
          note (.int (i + 1))
          if (i + 1) % 1024 = 0 then
            silent (lib (check_user_interrupt srv))
          else
            pure ()
          fetch_loop n_max fuel (i + 1) grown.1 out
      else
        pure (i, n, out)

def fetch (fuel : Nat) (n_max : ℤ) : EStateM Exc (Obj MariaResultPrep × List Event) DataFrame := do
  let s ← silent get
  if !s.self.bound_ then
    throw (.stop "Query needs to be bound before fetching")
  else if !s.self.has_result then do
    if s.self.names_.length = 0 then
      silent (onShared (warning ("Use dbExecute() instead of dbGetQuery() for statements, and also " ++
        "avoid dbFetch()")))
    else
      pure ()
    pure (df_create s.self.types_ s.self.names_ 0)
  else do
    let n := if n_max < 0 then 100 else n_max.toNat
    note (.int n)
    let out := df_create s.self.types_ s.self.names_ n
    if n = 0 then
      pure out
    else do
      let (i, n, out) ← fetch_loop srv n_max fuel 0 n out
      let out := if i < n then df_resize out i else out
      let s ← silent get
      pure (df_s3 out s.self.types_)

end Traced

section Erases

variable (srv : Server)

theorem set_list_values_erases (i n : Nat) (js : List Nat) : ∀ out,
    Erases (Traced.set_list_values srv i n js out) (set_list_values srv i js out) := by
  induction js with
  | nil => exact fun out => Erases.pure out
  | cons j js ih =>
      intro out
      refine (Erases.liftM _).bind fun x => Erases.note_bind _ ?_
      exact (Erases.silent _).bind fun x => ih _

theorem fetch_loop_erases (n_max : ℤ) (fuel : Nat) : ∀ i n out,
    Erases (Traced.fetch_loop srv n_max fuel i n out) (fetch_loop srv n_max fuel i n out) := by
  induction fuel with
  | zero => exact fun i n out => Erases.throw _
  | succ fuel ih =>
      intro i n out
      refine Erases.ite (fun _ => Erases.pure _) fun _ => (Erases.silent _).bind fun row => ?_
      refine Erases.ite (fun _ => Erases.note_bind _ (Erases.note_bind _ ?_)) fun _ => Erases.pure _
      refine Erases.ite (fun _ => Erases.throw _) fun _ => (Erases.silent _).bind fun s => ?_
      refine (set_list_values_erases srv _ _ _ _).bind fun out => Erases.note_bind _ ?_
      exact Erases.ite (fun _ => (Erases.silent _).bind fun _ => ih _ _ _) fun _ => ih _ _ _

-- Without its record the traced function is fetch().
theorem fetch_erases (fuel : Nat) (n_max : ℤ) :
    Erases (Traced.fetch srv fuel n_max) (fetch srv fuel n_max) := by
  refine (Erases.silent _).bind fun s => Erases.ite (fun _ => Erases.throw _) fun _ => ?_
  refine Erases.ite (fun _ => ?_) fun _ => Erases.note_bind _ ?_
  · exact Erases.ite (fun _ => (Erases.silent _).bind fun _ => Erases.pure _) fun _ => Erases.pure _
  · refine Erases.ite (fun _ => Erases.pure _) fun _ => (fetch_loop_erases srv _ _ _ _ _).bind ?_
    exact fun _ => (Erases.silent _).bind fun s => Erases.pure _

end Erases

section Capacity

-- 100 * 2^24, the last capacity whose double is not an int.
def limit : Nat := 1677721600

-- The capacities of a fetch: n_max, or 100 doubled a number of times.
structure Capacity (n_max : ℤ) (n : Nat) : Prop where
  pos : 0 < n
  int : n ≤ INT_MAX
  doubled : n_max ≤ 0 → ∃ k, k ≤ 24 ∧ n = 100 * 2 ^ k

variable {n_max : ℤ} {n : Nat}

theorem capacity_capacity (hn : n_max ≠ 0) (hint : n_max ≤ INT_MAX) :
    Capacity n_max (capacity n_max) := by
  refine ⟨capacity_pos hn, ?_, fun hmax => ⟨0, by decide, ?_⟩⟩
  · unfold capacity
    split
    · decide
    · omega
  · rw [capacity, if_pos (by omega)]
    rfl

theorem double_pow_le {k : Nat} (hk : k < 24) : 100 * 2 ^ k * 2 ≤ limit := by
  have hpow : 2 ^ (k + 1) ≤ 2 ^ 24 := Nat.pow_le_pow_right (by decide) hk
  rw [Nat.pow_succ] at hpow
  unfold limit
  omega

-- Doubling stops being possible at the limit and not before.
theorem Capacity.double (h : Capacity n_max n) (hmax : n_max ≤ 0) :
    if n * 2 > INT_MAX then n = limit else Capacity n_max (n * 2) := by
  obtain ⟨hpos, -, hdoubled⟩ := h
  obtain ⟨k, hk, rfl⟩ := hdoubled hmax
  rcases Nat.lt_or_eq_of_le hk with hlt | rfl
  · have hle : 100 * 2 ^ k * 2 ≤ INT_MAX := Nat.le_trans (double_pow_le hlt) (by decide)
    rw [if_neg (Nat.not_lt.mpr hle)]
    exact ⟨by omega, hle, fun _ => ⟨k + 1, hlt, by rw [Nat.pow_succ, Nat.mul_assoc]⟩⟩
  · rw [if_pos (by decide)]
    rfl

-- The capacity is no more than the limit, in a fetch of all rows.
theorem Capacity.le_limit (h : Capacity n_max n) (hmax : n_max ≤ 0) : n ≤ limit := by
  obtain ⟨k, hk, rfl⟩ := h.doubled hmax
  have hpow : 2 ^ k ≤ 2 ^ 24 := Nat.pow_le_pow_right (by decide) hk
  unfold limit
  omega

end Capacity

section Turns

-- What is recorded of the calls of a row.
def Steady (ws : List Event) : Prop := ∀ e ∈ ws, e.Sound ∧ e ≠ .stepped

variable {srv : Server} {names : List String} {width i n : Nat} {out : DataFrame}
  {s u : Obj MariaResultPrep}

theorem steady_nil : Steady [] := fun e he => by cases he

theorem Steady.count_stepped {ws : List Event} (h : Steady ws) : ws.count .stepped = 0 :=
  List.count_eq_zero.mpr fun hmem => (h _ hmem).2 rfl

theorem Steady.append {ws vs : List Event} (h : Steady ws) (h' : Steady vs) : Steady (ws ++ vs) := by
  intro e he
  rcases List.mem_append.mp he with he | he
  · exact h e he
  · exact h' e he

theorem steady_int {m : Nat} (h : m ≤ INT_MAX) : Steady [.int m] := by
  intro e he
  cases List.mem_singleton.mp he
  exact ⟨h, by simp⟩

variable (srv) in
-- The calls are made with room in every column, and keep the lengths of the columns.
theorem set_list_values_traces (hi : i < n) (js : List Nat) : ∀ {s : Obj MariaResultPrep}
    {out : DataFrame}, Framed names width n out → ∃ ws, Steady ws ∧
      Traces (Traced.set_list_values srv i n js out) (set_list_values srv i js out) s ws := by
  induction js with
  | nil =>
      intro s out _
      exact ⟨[], steady_nil, Traces.pure out⟩
  | cons j js ih =>
      intro s out hout
      cases hcol : index out.columns j with
      | error e =>
          refine ⟨[], steady_nil, (Traces.liftM _).bind_error (t := s) (e := e) ?_⟩
          rw [run_liftM, hcol]
      | ok x =>
          have hcall : Steady [.set_list_value i n (out.columns.map fun x => x.cells.length)] := by
            intro e he
            cases List.mem_singleton.mp he
            refine ⟨⟨hi, fun length hlength => ?_⟩, by simp⟩
            obtain ⟨y, hy, rfl⟩ := List.mem_map.mp hlength
            exact hout.cells y hy
          cases hrun : (output (MariaRow.set_list_value srv x i j)).run s with
          | error e t =>
              refine ⟨_, hcall, Traces.liftM_bind hcol (Traces.note_bind _ ?_)⟩
              exact (Traces.silent _).bind_error hrun
          | ok y t =>
              have hlength : y.cells.length = n := by
                rw [output, onMember_run] at hrun
                split at hrun
                · next hvalue =>
                    cases hrun
                    rw [set_list_value_length hvalue]
                    exact hout.cells x (List.mem_of_getElem? (index_eq_ok_iff.mp hcol))
                · cases hrun
              obtain ⟨ws, hws, htraces⟩ := ih (s := t) (hout.set (j := j) hlength)
              refine ⟨_ :: ws, ?_, Traces.liftM_bind hcol
                (Traces.note_bind _ (Traces.silent_bind hrun htraces))⟩
              intro e he
              rcases List.mem_cons.mp he with rfl | he
              · exact hcall _ (List.mem_singleton.mpr rfl)
              · exact hws e he

variable (out) in
-- The loop ends where the next capacity is not an int.
theorem overflow_traces {n_max : ℤ} (fuel : Nat) (hfull : ¬(i ≥ n ∧ n_max > 0))
    (hover : i ≥ n ∧ n * 2 > INT_MAX) (hstep : (step srv).run s = .ok true u) :
    (fetch_loop srv n_max (fuel + 1) i n out).run s = .error (.fault .arithmetic) u ∧
      Traces (Traced.fetch_loop srv n_max (fuel + 1) i n out)
        (fetch_loop srv n_max (fuel + 1) i n out) s [.stepped, .int (n * 2)] := by
  constructor
  · rw [fetch_loop, if_neg hfull, run_bind_ok hstep, if_pos rfl, if_pos hover]
    rfl
  · rw [Traced.fetch_loop, fetch_loop, if_neg hfull, if_neg hfull, if_pos hover.1]
    refine Traces.silent_bind hstep (Traces.note_bind _ (Traces.note_bind _ ?_))
    rw [if_pos hover, if_pos hover]
    exact Traces.throw _

variable (srv out) in
-- Without a row the loop ends and records nothing.
theorem ended_traces {n_max : ℤ} (fuel : Nat)
    (h : ¬(i ≥ n ∧ n_max > 0) → ∀ u, (step srv).run s ≠ .ok true u) :
    Traces (Traced.fetch_loop srv n_max (fuel + 1) i n out)
        (fetch_loop srv n_max (fuel + 1) i n out) s [] ∧
      ∀ i' n' out' t, (fetch_loop srv n_max (fuel + 1) i n out).run s = .ok (i', n', out') t →
        i' = i := by
  by_cases hfull : i ≥ n ∧ n_max > 0
  · rw [Traced.fetch_loop, fetch_loop, if_pos hfull, if_pos hfull]
    exact ⟨Traces.pure _, fun _ _ _ _ hrun => by cases hrun; rfl⟩
  rw [Traced.fetch_loop, fetch_loop, if_neg hfull, if_neg hfull]
  cases hstep : (step srv).run s with
  | error e u =>
      rw [run_bind_error hstep]
      exact ⟨(Traces.silent _).bind_error hstep, fun _ _ _ _ hrun => by cases hrun⟩
  | ok row u =>
      cases row with
      | false =>
          rw [run_bind_ok hstep]
          exact ⟨Traces.silent_bind hstep (Traces.pure _), fun _ _ _ _ hrun => by cases hrun; rfl⟩
      | true => exact absurd hstep (h hfull u)

-- There is room for one more row.
theorem grown_room {n_max : ℤ} (hfull : ¬(i ≥ n ∧ n_max > 0)) (hover : ¬(i ≥ n ∧ n * 2 > INT_MAX))
    (hcap : Capacity n_max n) (hout : Framed names width n out) (hle : i ≤ n) :
    ∃ m grown, (if i ≥ n then (n * 2, df_resize out (n * 2)) else (n, out)) = (m, grown) ∧
      Capacity n_max m ∧ i < m ∧ Framed names width m grown := by
  by_cases hi : i ≥ n
  · have hdouble := hcap.double (not_lt.mp fun hmax => hfull ⟨hi, hmax⟩)
    rw [if_neg fun h => hover ⟨hi, h⟩] at hdouble
    have hpos := hcap.pos
    exact ⟨n * 2, _, if_pos hi, hdouble, by omega, hout.resize _⟩
  · exact ⟨n, out, if_neg hi, hcap, by omega, hout⟩

-- What is left of a turn of the loop once the row is in the frame
def next_turn (srv : Server) (n_max : ℤ) (fuel i m : Nat) (out : DataFrame) :
    EStateM Exc (Obj MariaResultPrep) (Nat × Nat × DataFrame) := do
  if (i + 1) % 1024 = 0 then lib (check_user_interrupt srv) else pure ()
  fetch_loop srv n_max fuel (i + 1) m out

def Traced.next_turn (srv : Server) (n_max : ℤ) (fuel i m : Nat) (out : DataFrame) :
    EStateM Exc (Obj MariaResultPrep × List Event) (Nat × Nat × DataFrame) := do
  if (i + 1) % 1024 = 0 then silent (lib (check_user_interrupt srv)) else pure ()
  Traced.fetch_loop srv n_max fuel (i + 1) m out

variable (srv) in
-- The user may interrupt before the next turn, which starts in the same state but for the clock.
theorem next_turn_traces (n_max : ℤ) (fuel i m : Nat) (out : DataFrame) (v : Obj MariaResultPrep) :
    (∃ t, (next_turn srv n_max fuel i m out).run v = .error .interrupt t ∧
      (∃ tick, srv.interrupt tick = true) ∧
      Traces (Traced.next_turn srv n_max fuel i m out) (next_turn srv n_max fuel i m out) v []) ∨
    ∃ w, (w = v ∨ w = { v with mysql.tick := v.mysql.tick + 1 }) ∧
      (next_turn srv n_max fuel i m out).run v = (fetch_loop srv n_max fuel (i + 1) m out).run w ∧
      ∀ vs, Traces (Traced.fetch_loop srv n_max fuel (i + 1) m out)
          (fetch_loop srv n_max fuel (i + 1) m out) w vs →
        Traces (Traced.next_turn srv n_max fuel i m out) (next_turn srv n_max fuel i m out) v vs := by
  unfold next_turn Traced.next_turn
  by_cases hc : (i + 1) % 1024 = 0
  · have hcheck : (lib (check_user_interrupt srv)).run v =
        if srv.interrupt v.mysql.tick then .error .interrupt { v with mysql.tick := v.mysql.tick + 1 }
        else .ok () { v with mysql.tick := v.mysql.tick + 1 } := by
      cases hinterrupt : srv.interrupt v.mysql.tick <;> simp [check_user_interrupt, hinterrupt]
    simp only [if_pos hc]
    cases hinterrupt : srv.interrupt v.mysql.tick with
    | true =>
        rw [hinterrupt, if_pos rfl] at hcheck
        exact .inl ⟨_, run_bind_error hcheck, ⟨_, hinterrupt⟩, (Traces.silent _).bind_error hcheck⟩
    | false =>
        rw [hinterrupt, if_neg Bool.false_ne_true] at hcheck
        exact .inr ⟨_, .inr rfl, run_bind_ok hcheck, fun vs h => Traces.silent_bind hcheck h⟩
  · simp only [if_neg hc]
    exact .inr ⟨v, .inl rfl, rfl, fun vs h => h⟩

-- A turn for a row that is there, up to where its values are set
theorem turn_eq {n_max : ℤ} {m : Nat} {grown : DataFrame} (fuel : Nat)
    (hfull : ¬(i ≥ n ∧ n_max > 0)) (hover : ¬(i ≥ n ∧ n * 2 > INT_MAX))
    (hstep : (step srv).run s = .ok true u)
    (hgrown : (if i ≥ n then (n * 2, df_resize out (n * 2)) else (n, out)) = (m, grown)) :
    (fetch_loop srv n_max (fuel + 1) i n out).run s = (do
      let out ← set_list_values srv i (List.range u.self.nCols_) grown
      next_turn srv n_max fuel i m out).run u ∧
    ∀ ws, Traces (do
        let out ← Traced.set_list_values srv i m (List.range u.self.nCols_) grown
        note (.int (i + 1))
        Traced.next_turn srv n_max fuel i m out) (do
        let out ← set_list_values srv i (List.range u.self.nCols_) grown
        next_turn srv n_max fuel i m out) u ws →
      Traces (Traced.fetch_loop srv n_max (fuel + 1) i n out)
        (fetch_loop srv n_max (fuel + 1) i n out) s (.stepped :: .int m :: ws) := by
  constructor
  · rw [fetch_loop, if_neg hfull, run_bind_ok hstep, if_pos rfl, if_neg hover, hgrown]
    rfl
  · intro ws h
    have hm : (if i ≥ n then n * 2 else n) = m := by
      have hfst := congrArg Prod.fst hgrown
      by_cases hn : i ≥ n
      · rw [if_pos hn] at hfst ⊢
        exact hfst
      · rw [if_neg hn] at hfst ⊢
        exact hfst
    rw [Traced.fetch_loop, fetch_loop, if_neg hfull, if_neg hfull]
    refine Traces.silent_bind hstep (Traces.note_bind _ ?_)
    rw [hm]
    refine Traces.note_bind _ ?_
    rw [if_neg hover, if_neg hover, hgrown]
    exact Traces.get_bind h

variable (srv) in
-- A turn of the loop for a row that is there: the row is not delivered, or the user interrupts,
-- or the loop goes on.
theorem turn_traces {n_max : ℤ} (fuel : Nat) (hfull : ¬(i ≥ n ∧ n_max > 0))
    (hover : ¬(i ≥ n ∧ n * 2 > INT_MAX)) (hcap : Capacity n_max n) (hout : Framed names width n out)
    (hle : i ≤ n) (hstep : (step srv).run s = .ok true u) :
    ∃ m grown, (if i ≥ n then (n * 2, df_resize out (n * 2)) else (n, out)) = (m, grown) ∧
      Capacity n_max m ∧ i < m ∧ Framed names width m grown ∧ ∃ ws, Steady ws ∧
      ((∃ e t, (fetch_loop srv n_max (fuel + 1) i n out).run s = .error e t ∧
          Traces (Traced.fetch_loop srv n_max (fuel + 1) i n out)
            (fetch_loop srv n_max (fuel + 1) i n out) s (.stepped :: ws) ∧
          ((set_list_values srv i (List.range u.self.nCols_) grown).run u = .error e t ∨
            ∃ tick, srv.interrupt tick = true)) ∨
        ∃ out' v w, (set_list_values srv i (List.range u.self.nCols_) grown).run u = .ok out' v ∧
          (w = v ∨ w = { v with mysql.tick := v.mysql.tick + 1 }) ∧
          (fetch_loop srv n_max (fuel + 1) i n out).run s =
            (fetch_loop srv n_max fuel (i + 1) m out').run w ∧
          ∀ vs, Traces (Traced.fetch_loop srv n_max fuel (i + 1) m out')
              (fetch_loop srv n_max fuel (i + 1) m out') w vs →
            Traces (Traced.fetch_loop srv n_max (fuel + 1) i n out)
              (fetch_loop srv n_max (fuel + 1) i n out) s (.stepped :: ws ++ vs)) := by
  obtain ⟨m, grown, hgrown, hcap', hi, hframed⟩ := grown_room hfull hover hcap hout hle
  refine ⟨m, grown, hgrown, hcap', hi, hframed, ?_⟩
  obtain ⟨hrunturn, hturn⟩ := turn_eq fuel hfull hover hstep hgrown
  obtain ⟨calls, hcalls, hvalues⟩ := set_list_values_traces srv hi (List.range u.self.nCols_)
    (s := u) hframed
  have hgrowth : Steady ([.int m] ++ calls) := (steady_int hcap'.int).append hcalls
  have hcounted : Steady ([.int m] ++ calls ++ [.int (i + 1)]) :=
    hgrowth.append (steady_int (Nat.le_trans hi hcap'.int))
  cases hrun : (set_list_values srv i (List.range u.self.nCols_) grown).run u with
  | error e t =>
      refine ⟨[.int m] ++ calls, hgrowth, .inl ⟨e, t, ?_, ?_, .inl rfl⟩⟩
      · exact hrunturn.trans (run_bind_error hrun)
      · exact hturn _ (hvalues.bind_error hrun)
  | ok out' v =>
      refine ⟨[.int m] ++ calls ++ [.int (i + 1)], hcounted, ?_⟩
      have hrecord (vs : List Event) : .stepped :: .int m :: (calls ++ .int (i + 1) :: vs) =
          .stepped :: ([.int m] ++ calls ++ [.int (i + 1)]) ++ vs := by simp
      have hrunnext := hrunturn.trans (run_bind_ok hrun)
      rcases next_turn_traces srv n_max fuel i m out' v with
        ⟨t, hcheck, hinterrupt, htraces⟩ | ⟨w, hw, hcheck, htraces⟩
      · have hnone := hrecord []
        rw [List.append_nil] at hnone
        refine .inl ⟨.interrupt, t, hrunnext.trans hcheck, ?_, .inr hinterrupt⟩
        rw [← hnone]
        exact hturn _ (hvalues.bind hrun (htraces.note_bind _))
      · refine .inr ⟨out', v, w, rfl, hw, hrunnext.trans hcheck, fun vs h => ?_⟩
        rw [← hrecord]
        exact hturn _ (hvalues.bind hrun ((htraces vs h).note_bind _))

end Turns

section Loop

variable {srv : Server} {names : List String} {width : Nat} {n_max : ℤ}

-- A turn that goes on records one row and nothing that is not sound.
theorem steady_record {ws : List Event} (h : Steady ws) (vs : List Event) :
    (.stepped :: ws ++ vs).count .stepped = vs.count .stepped + 1 ∧
      ((∀ e ∈ .stepped :: ws ++ vs, e.Sound) ↔ ∀ e ∈ vs, e.Sound) := by
  constructor
  · rw [List.cons_append, List.count_cons_self, List.count_append, h.count_stepped, Nat.zero_add]
  · constructor
    · exact fun hall e he => hall e (List.mem_append_right _ he)
    · intro hall e he
      rcases List.mem_append.mp he with he | he
      · rcases List.mem_cons.mp he with rfl | he
        · trivial
        · exact (h e he).1
      · exact hall e he

variable (srv) in
-- Whatever the server answers: an int overflows only in a fetch of all rows, and the rows that
-- are found are those that are counted.
theorem fetch_loop_traces (fuel : Nat) : ∀ {i n : Nat} {out : DataFrame} {s : Obj MariaResultPrep},
    Capacity n_max n → Framed names width n out → i ≤ n → ∃ ws,
      Traces (Traced.fetch_loop srv n_max fuel i n out) (fetch_loop srv n_max fuel i n out) s ws ∧
      (¬(∀ e ∈ ws, e.Sound) → n_max ≤ 0 ∧ limit < i + ws.count .stepped) ∧
      ∀ i' n' out' t, (fetch_loop srv n_max fuel i n out).run s = .ok (i', n', out') t →
        i' = i + ws.count .stepped := by
  induction fuel with
  | zero =>
      exact fun _ _ _ => ⟨[], Traces.throw _, fun h => absurd (List.forall_mem_nil _) h,
        fun _ _ _ _ h => by cases h⟩
  | succ fuel ih =>
      intro i n out s hcap hout hle
      by_cases hrow : ¬(i ≥ n ∧ n_max > 0) ∧ ∃ u, (step srv).run s = .ok true u
      · obtain ⟨hfull, u, hstep⟩ := hrow
        by_cases hover : i ≥ n ∧ n * 2 > INT_MAX
        · have hmax : n_max ≤ 0 := not_lt.mp fun hmax => hfull ⟨hover.1, hmax⟩
          have hlimit := hcap.double hmax
          rw [if_pos hover.2] at hlimit
          obtain ⟨hrun, htraces⟩ := overflow_traces out fuel hfull hover hstep
          refine ⟨_, htraces, fun _ => ⟨hmax, ?_⟩, fun _ _ _ _ h => by cases hrun.symm.trans h⟩
          exact Nat.lt_succ_of_le (hlimit ▸ hover.1)
        obtain ⟨m, grown, -, hcap', hi, hframed, ws, hws, hturn⟩ :=
          turn_traces srv fuel hfull hover hcap hout hle hstep
        rcases hturn with ⟨e, t, hrun, htraces, -⟩ | ⟨out', v, w, hvalues, -, hrun, htraces⟩
        · refine ⟨_, htraces, fun h => absurd ?_ h, fun _ _ _ _ h => by cases hrun.symm.trans h⟩
          exact List.forall_mem_cons.mpr ⟨trivial, fun e he => (hws e he).1⟩
        · have hvalued := set_list_values_framed _ _ hvalues hframed
          obtain ⟨vs, hvs, hsound, hcount⟩ := ih (s := w) hcap' hvalued hi
          obtain ⟨hstepped, hall⟩ := steady_record hws vs
          refine ⟨_, htraces vs hvs, fun h => ?_, fun i' n' out' t h => ?_⟩
          · obtain ⟨hmax, hlimit⟩ := hsound fun hvs => h (hall.mpr hvs)
            exact ⟨hmax, by omega⟩
          · have hi' := hcount i' n' out' t (hrun.symm.trans h)
            omega
      · obtain ⟨htraces, hends⟩ := ended_traces srv out fuel fun hfull u hstep =>
          hrow ⟨hfull, u, hstep⟩
        exact ⟨[], htraces, fun h => absurd (List.forall_mem_nil _) h, hends⟩

end Loop

section Overflows

-- There is a row behind those that fill the largest frame, and all of these can be converted.
-- Rows that were delivered before count.
def Overflows (types : List MariaFieldType) (i : Nat) (rows : List Row) : Prop :=
  limit < i + rows.length ∧ ∃ cells, (rows.take (limit - i)).mapM (row_cells types) = .ok cells

variable {types : List MariaFieldType} {i : Nat} {row : Row} {rows : List Row}

theorem overflows_cons_ok {cells : List Cell} (hi : i < limit)
    (hcells : row_cells types row = .ok cells) :
    Overflows types i (row :: rows) ↔ Overflows types (i + 1) rows := by
  have htake : limit - i = limit - (i + 1) + 1 := by omega
  unfold Overflows
  rw [htake, List.take_succ_cons, List.length_cons, List.mapM_cons, hcells, ok_bind, ← Nat.add_assoc,
    Nat.add_right_comm]
  refine and_congr Iff.rfl ⟨?_, ?_⟩
  · rintro ⟨all, hall⟩
    obtain ⟨rest, hrest, -⟩ := of_bind_eq_ok hall
    exact ⟨rest, hrest⟩
  · rintro ⟨rest, hrest⟩
    exact ⟨cells :: rest, by rw [hrest]; rfl⟩

theorem not_overflows_cons_error {e : Exc} (hi : i < limit) (hcells : row_cells types row = .error e) :
    ¬Overflows types i (row :: rows) := by
  have htake : limit - i = limit - (i + 1) + 1 := by omega
  rintro ⟨-, cells, h⟩
  rw [htake, List.take_succ_cons, List.mapM_cons, hcells] at h
  cases h

theorem overflows_limit : Overflows types limit (row :: rows) := by
  refine ⟨by rw [List.length_cons]; omega, [], ?_⟩
  rw [Nat.sub_self]
  rfl

theorem not_overflows_nil (hi : i ≤ limit) : ¬Overflows types i [] :=
  fun h => Nat.not_lt.mpr hi h.1

variable {srv : Server} {q : Query} {n_max : ℤ}

theorem framed_of_filled {out : DataFrame} {n : Nat} {done : List (List Cell)}
    (hout : Filled types out n done) : Framed out.names out.columns.length n out :=
  ⟨rfl, rfl, hout.row_names, hout.room⟩

-- A row whose values were set could be converted, and is in the frame.
theorem row_written {u v : Obj MariaResultPrep} {st : MYSQL_STMT} {m : Nat} {grown out' : DataFrame}
    {done : List (List Cell)} (hu : Reading q u st) (hrow : AtRow srv u row)
    (hfilled : Filled q.types grown m done) (hroom : done.length < m)
    (h : (set_list_values srv done.length (List.range u.self.nCols_) grown).run u = .ok out' v) :
    ∃ cells, row_cells q.types row = .ok cells ∧ Filled q.types out' m (done ++ [cells]) ∧
      Reading q v st ∧ cursor q v = cursor q u := by
  obtain ⟨t, ht, hcursor, hwrite⟩ := write_row_run hu hrow hfilled hroom
  cases hcells : row_cells q.types row with
  | error e =>
      rw [hcells, h] at hwrite
      cases hwrite
  | ok cells =>
      rw [hcells, h] at hwrite
      cases hwrite
      have hlen : grown.columns.length = cells.length := by
        rw [length_of_mapM hcells, List.length_zip, hrow.length, hu.serves.types, Nat.min_self,
          hfilled.columns_length]
      exact ⟨cells, rfl, hfilled.put hroom hlen, ht, hcursor⟩

-- A row whose values were not set could not be converted.
theorem row_refused {u v : Obj MariaResultPrep} {st : MYSQL_STMT} {m : Nat} {grown : DataFrame}
    {done : List (List Cell)} {e : Exc} (hu : Reading q u st) (hrow : AtRow srv u row)
    (hfilled : Filled q.types grown m done) (hroom : done.length < m)
    (h : (set_list_values srv done.length (List.range u.self.nCols_) grown).run u = .error e v) :
    ∃ e, row_cells q.types row = .error e := by
  obtain ⟨t, -, -, hwrite⟩ := write_row_run hu hrow hfilled hroom
  cases hcells : row_cells q.types row with
  | error e => exact ⟨e, rfl⟩
  | ok cells =>
      rw [hcells, h] at hwrite
      cases hwrite

-- A server that answers makes an int overflow exactly where there are too many rows.
theorem fetch_loop_overflows (hsrv : Answers srv q) (hmax : n_max ≤ 0) (fuel : Nat) :
    ∀ {s : Obj MariaResultPrep} {st : MYSQL_STMT} {n : Nat} {out : DataFrame}
      {done : List (List Cell)}, Reading q s st → Filled q.types out n done → Capacity n_max n →
      (cursor q s).remaining.length < fuel → ∃ ws,
        Traces (Traced.fetch_loop srv n_max fuel done.length n out)
          (fetch_loop srv n_max fuel done.length n out) s ws ∧
        ((∀ e ∈ ws, e.Sound) ↔ ¬Overflows q.types done.length (cursor q s).remaining) := by
  induction fuel with
  | zero => exact fun _ _ _ h => absurd h (Nat.not_lt_zero _)
  | succ fuel ih =>
      intro s st n out done hs hout hcap hfuel
      have hfull : ¬(done.length ≥ n ∧ n_max > 0) := fun h => absurd h.2 (not_lt.mpr hmax)
      have hlimit := Nat.le_trans hout.fits (hcap.le_limit hmax)
      have hstep := step_run hsrv hs
      -- what is left when the loop ends without a row
      have hends (hnone : (cursor q s).remaining = [])
          (h : ∀ u, (step srv).run s ≠ .ok true u) : ∃ ws,
          Traces (Traced.fetch_loop srv n_max (fuel + 1) done.length n out)
            (fetch_loop srv n_max (fuel + 1) done.length n out) s ws ∧
          ((∀ e ∈ ws, e.Sound) ↔ ¬Overflows q.types done.length (cursor q s).remaining) := by
        rw [hnone]
        exact ⟨[], (ended_traces srv out fuel fun _ => h).1,
          iff_of_true (List.forall_mem_nil _) (not_overflows_nil hlimit)⟩
      cases hnext : (cursor q s).next with
      | error e =>
          rw [hnext] at hstep
          obtain ⟨t, hstep⟩ := hstep
          exact hends (Cursor.remaining_of_next_error hnext) fun u h => by cases hstep.symm.trans h
      | ok result =>
          rw [hnext] at hstep
          cases result with
          | none =>
              obtain ⟨t, st', hstep, -, -⟩ := hstep
              exact hends (Cursor.remaining_of_next_none hnext) fun u h => by cases hstep.symm.trans h
          | some next =>
              obtain ⟨row, c⟩ := next
              obtain ⟨u, st', hstep, hu, hcursor, hrow⟩ := hstep
              rw [Cursor.remaining_of_next_some hnext] at hfuel ⊢
              by_cases hover : done.length ≥ n ∧ n * 2 > INT_MAX
              · have hdouble := hcap.double hmax
                rw [if_pos hover.2] at hdouble
                have hi : done.length = limit := Nat.le_antisymm hlimit (hdouble ▸ hover.1)
                refine ⟨_, (overflow_traces out fuel hfull hover hstep).2, iff_of_false ?_ ?_⟩
                · exact fun h => Nat.not_lt.mpr (h (.int (n * 2)) (by simp)) hover.2
                · rw [hi]
                  exact not_not.mpr overflows_limit
              obtain ⟨m, grown, hgrown, hcap', hroom, -, ws, hws, hturn⟩ :=
                turn_traces srv fuel hfull hover hcap (framed_of_filled hout) hout.fits hstep
              obtain ⟨m', grown', hgrown', hfilled, -, -⟩ := filled_grown hout hcap.pos hfull
              cases hgrown'.symm.trans hgrown
              have hi := Nat.lt_of_lt_of_le hroom (hcap'.le_limit hmax)
              rcases hturn with ⟨e, v, -, htraces, hvalues | ⟨tick, htick⟩⟩ |
                ⟨out', v, w, hvalues, hw, -, htraces⟩
              · obtain ⟨e', hcells⟩ := row_refused hu hrow hfilled hroom hvalues
                exact ⟨_, htraces, iff_of_true
                  (List.forall_mem_cons.mpr ⟨trivial, fun e he => (hws e he).1⟩)
                  (not_overflows_cons_error hi hcells)⟩
              · cases (hsrv.interrupt tick).symm.trans htick
              · obtain ⟨cells, hcells, hput, hv, hc⟩ := row_written hu hrow hfilled hroom hvalues
                have hreads : Reading q w st' ∧ cursor q w = c := by
                  rcases hw with rfl | rfl
                  · exact ⟨hv, hc.trans hcursor⟩
                  · obtain ⟨htick, hsame⟩ := hv.tick (v.mysql.tick + 1)
                    exact ⟨htick, hsame.trans (hc.trans hcursor)⟩
                obtain ⟨hw, hcw⟩ := hreads
                have hrest := ih hw hput hcap' (by rw [hcw]; exact Nat.lt_of_succ_lt_succ hfuel)
                rw [hcw, List.length_append, List.length_singleton] at hrest
                obtain ⟨vs, hvs, hsound⟩ := hrest
                exact ⟨_, htraces vs hvs, (steady_record hws vs).2.trans
                  (hsound.trans (not_congr (overflows_cons_ok hi hcells)).symm)⟩

end Overflows

section Fetch

variable {srv : Server} {s : Obj MariaResultPrep} {n_max : ℤ} {fuel : Nat}

theorem fetch_traces_loop (hbound : s.self.bound_ = true) (hresult : s.self.has_result = true)
    (hn : n_max ≠ 0) {ws : List Event}
    (h : Traces (Traced.fetch_loop srv n_max fuel 0 (capacity n_max)
        (df_create s.self.types_ s.self.names_ (capacity n_max)))
      (fetch_loop srv n_max fuel 0 (capacity n_max)
        (df_create s.self.types_ s.self.names_ (capacity n_max))) s ws) :
    Traces (Traced.fetch srv fuel n_max) (fetch srv fuel n_max) s
      (.int (capacity n_max) :: ws) := by
  have hpos := Nat.ne_of_gt (capacity_pos hn)
  unfold capacity at hpos h ⊢
  rw [Traced.fetch, fetch]
  refine Traces.get_bind ?_
  simp only [hbound, hresult, Bool.not_true, Bool.false_eq_true, if_false]
  refine Traces.note_bind _ ?_
  rw [if_neg hpos, if_neg hpos]
  exact h.bind_silent fun r t => Traces.get_bind (Traces.pure _)

variable (srv fuel) in
-- A fetch that does not come to its loop
theorem fetch_traces_short (h : ¬(s.self.bound_ = true ∧ s.self.has_result = true ∧ n_max ≠ 0)) :
    ∃ ws, Traces (Traced.fetch srv fuel n_max) (fetch srv fuel n_max) s ws ∧
      (∀ e ∈ ws, e.Sound) ∧ ws.count .stepped = 0 ∧
      ∀ df t, (fetch srv fuel n_max).run s = .ok df t →
        Framed s.self.names_ s.self.types_.length 0 df := by
  by_cases hbound : s.self.bound_ = true
  · by_cases hresult : s.self.has_result = true
    · have hn : n_max = 0 := by tauto
      subst hn
      refine ⟨[.int 0], ?_, fun e he => ?_, rfl, fun df t hrun => ?_⟩
      · rw [Traced.fetch, fetch]
        refine Traces.get_bind ?_
        simp only [hbound, hresult, Bool.not_true, Bool.false_eq_true, if_false]
        exact Traces.note_bind _ (Traces.pure _)
      · cases List.mem_singleton.mp he
        exact Nat.zero_le _
      · cases (fetch_zero hbound hresult fuel).symm.trans hrun
        exact framed_create _ _ _
    · rw [Bool.not_eq_true] at hresult
      refine ⟨[], ?_, List.forall_mem_nil _, rfl, fun df t hrun => ?_⟩
      · rw [Traced.fetch, fetch]
        refine Traces.get_bind ?_
        simp only [hbound, hresult, Bool.not_true, Bool.not_false, Bool.false_eq_true, if_false,
          if_true]
        refine Traces.ite (fun _ => ?_) fun _ => Traces.pure _
        exact (Traces.silent _).bind_silent fun _ _ => Traces.pure _
      · obtain ⟨u, hempty, -, -⟩ := fetch_resultless srv hbound hresult fuel n_max
        cases hempty.symm.trans hrun
        exact framed_create _ _ _
  · rw [Bool.not_eq_true] at hbound
    refine ⟨[], ?_, List.forall_mem_nil _, rfl, fun df t hrun => ?_⟩
    · rw [Traced.fetch, fetch]
      refine Traces.get_bind ?_
      simp only [hbound, Bool.not_false, if_true]
      exact Traces.throw _
    · cases (fetch_unbound hbound fuel n_max).symm.trans hrun

-- Every call of set_list_value() has room in every column, the ints are ints, and the frame
-- has the rows that step() has found.
structure HasRoom (srv : Server) (fuel : Nat) (n_max : ℤ) (s : Obj MariaResultPrep) : Prop where
  sound : ∀ e ∈ record (Traced.fetch srv fuel n_max) s, e.Sound
  rows : ∀ df t, (fetch srv fuel n_max).run s = .ok df t → Framed s.self.names_ s.self.types_.length
    ((record (Traced.fetch srv fuel n_max) s).count .stepped) df

variable (srv s fuel) in
theorem fetch_traces (hint : n_max ≤ INT_MAX) :
    (¬(∀ e ∈ record (Traced.fetch srv fuel n_max) s, e.Sound) → n_max < 0 ∧
      limit < (record (Traced.fetch srv fuel n_max) s).count .stepped) ∧
    ∀ df t, (fetch srv fuel n_max).run s = .ok df t → Framed s.self.names_ s.self.types_.length
      ((record (Traced.fetch srv fuel n_max) s).count .stepped) df := by
  by_cases hloops : s.self.bound_ = true ∧ s.self.has_result = true ∧ n_max ≠ 0
  · obtain ⟨hbound, hresult, hn⟩ := hloops
    have hcap := capacity_capacity hn hint
    obtain ⟨ws, hws, hsound, hcount⟩ := fetch_loop_traces srv fuel (s := s) hcap
      (framed_create s.self.names_ s.self.types_ _) (Nat.zero_le _)
    rw [(fetch_traces_loop hbound hresult hn hws).record, List.count_cons_of_ne (by simp)]
    rw [Nat.zero_add] at hsound
    constructor
    · intro h
      obtain ⟨hmax, hlimit⟩ := hsound fun hall => h (List.forall_mem_cons.mpr ⟨hcap.int, hall⟩)
      exact ⟨lt_of_le_of_ne hmax hn, hlimit⟩
    · intro df t hrun
      rw [fetch_loops hbound hresult hn] at hrun
      obtain ⟨⟨i, n, out⟩, u, hloop, hrun⟩ := of_run_bind_ok hrun
      obtain ⟨hframed, hle, -, -⟩ := fetch_loop_framed _ hloop (framed_create _ _ _)
        (Nat.zero_le _) hcap.pos
      have hsame : SameColumns false s.self u.self :=
        (fetch_loop_persists _ _ _ _ _).run_ok hloop (SameColumns.refl _)
      rw [← Nat.zero_add (ws.count _), ← hcount i n out u hloop]
      cases hrun
      rw [hsame.types]
      exact hframed.trimmed hle
  · obtain ⟨ws, hws, hsound, hcount, hframed⟩ := fetch_traces_short srv fuel hloops
    rw [hws.record, hcount]
    exact ⟨fun h => absurd hsound h, hframed⟩

theorem hasRoom_or (srv : Server) (fuel : Nat) (s : Obj MariaResultPrep) (hint : n_max ≤ INT_MAX) :
    HasRoom srv fuel n_max s ∨
      n_max < 0 ∧ limit < (record (Traced.fetch srv fuel n_max) s).count .stepped := by
  obtain ⟨hsound, hrows⟩ := fetch_traces srv s fuel hint
  by_cases h : ∀ e ∈ record (Traced.fetch srv fuel n_max) s, e.Sound
  · exact .inl ⟨h, hrows⟩
  · exact .inr (hsound h)

theorem hasRoom_iff {q : Query} {st : MYSQL_STMT} (hint : n_max ≤ INT_MAX) (hsrv : Answers srv q)
    (hs : Reading q s st) (hfuel : (cursor q s).remaining.length < fuel) :
    HasRoom srv fuel n_max s ↔ ¬(n_max < 0 ∧ limit < (cursor q s).remaining.length ∧
      ∃ cells, ((cursor q s).remaining.take limit).mapM (row_cells q.types) = .ok cells) := by
  by_cases hneg : n_max < 0
  · have hcap := capacity_capacity (Int.ne_of_lt hneg) hint
    have hout := filled_create q.types s.self.names_ (capacity n_max)
    obtain ⟨ws, hws, hsound⟩ := fetch_loop_overflows hsrv (le_of_lt hneg) fuel hs hout hcap hfuel
    rw [← hs.serves.types] at hws
    have hrecord := (fetch_traces_loop hs.bound hs.serves.has_result (Int.ne_of_lt hneg) hws).record
    have hoverflows : Overflows q.types 0 (cursor q s).remaining ↔
        n_max < 0 ∧ limit < (cursor q s).remaining.length ∧
          ∃ cells, ((cursor q s).remaining.take limit).mapM (row_cells q.types) = .ok cells := by
      rw [Overflows, Nat.zero_add, Nat.sub_zero, and_iff_right hneg]
    rw [← hoverflows]
    refine Iff.trans ⟨fun h => ?_, fun h => ⟨?_, (fetch_traces srv s fuel hint).2⟩⟩ hsound
    · have hall := h.sound
      rw [hrecord] at hall
      exact (List.forall_mem_cons.mp hall).2
    · rw [hrecord]
      exact List.forall_mem_cons.mpr ⟨hcap.int, h⟩
  · refine iff_of_true ?_ fun h => hneg h.1
    exact (hasRoom_or srv fuel s hint).resolve_right fun h => hneg h.1

-- There is always room when a number of rows is asked for. All the rows of a result have room if
-- they are no more than the last capacity that can be doubled, or one of these cannot be converted.
theorem fetch_room_iff (hint : n_max ≤ INT_MAX) :
    (∀ srv fuel s, HasRoom srv fuel n_max s ∨
      n_max < 0 ∧ limit < (record (Traced.fetch srv fuel n_max) s).count .stepped) ∧
    ∀ srv q fuel s st, Answers srv q → Reading q s st → (cursor q s).remaining.length < fuel →
      (HasRoom srv fuel n_max s ↔ ¬(n_max < 0 ∧ limit < (cursor q s).remaining.length ∧
        ∃ cells, ((cursor q s).remaining.take limit).mapM (row_cells q.types) = .ok cells)) :=
  ⟨fun srv fuel s => hasRoom_or srv fuel s hint,
    fun _ _ _ _ _ hsrv hs hfuel => hasRoom_iff hint hsrv hs hfuel⟩

-- A query for the numbers of a table with some rows
def counted (rows : Nat) : Query where
  handle := 0
  sql := "SELECT n FROM t"
  param_count := 0
  fields := [⟨"n", .MYSQL_TYPE_LONG, 63, 11⟩]
  rows := fun _ => List.replicate rows [some (.int 0)]

def counted_server (rows : Nat) : Server := { Server.agreeable with
  prepare := fun _ _ => .ok ⟨0, some (counted rows).fields⟩
  execute := fun _ _ _ => .ok { rows := some (List.replicate rows [some (.int 0)]) } }

theorem counted_answers (rows : Nat) : Answers (counted_server rows) (counted rows) := by
  refine ⟨fun _ => rfl, fun _ => rfl, fun _ params => ⟨_, rfl, rfl⟩, fun _ => rfl, fun _ => rfl,
    fun _ => rfl, fun params row hrow => ?_⟩
  cases List.eq_of_mem_replicate hrow
  exact .cons trivial .nil

theorem counted_reading (rows : Nat) : ∃ s st,
    (opened (counted_server rows) false (counted rows).sql).run ⟨{}, {}⟩ = .ok () s ∧
      Reading (counted rows) s st ∧
      (cursor (counted rows) s).remaining = List.replicate rows [some (.int 0)] := by
  obtain ⟨s, st, hopened, hserves, hinput, hcomplete, hbound, hreading⟩ :=
    opened_run (s := ⟨{}, {}⟩) (counted_answers rows) ⟨rfl, rfl, rfl, rfl⟩ rfl rfl false
  obtain ⟨hreads, hcursor⟩ := opened_reading (counted_answers rows) hserves hinput hcomplete
    (hbound.mpr rfl) (hreading rfl)
  refine ⟨s, st, hopened, hreads, ?_⟩
  rw [hcursor, Cursor.remaining, Cursor.available, List.append_nil]
  rfl

theorem counted_cells (rows n : Nat) : ∃ cells, (List.replicate n [some (.int 0)]).mapM
    (row_cells (counted rows).types) = .ok cells := by
  have hcells : ∀ row ∈ List.replicate n [some (SqlValue.int 0)], ∃ cells,
      row_cells (counted rows).types row = .ok cells ∧ True := by
    intro row hrow
    cases List.eq_of_mem_replicate hrow
    exact ⟨_, rfl, trivial⟩
  obtain ⟨cells, hcells, -⟩ := mapM_eq_ok hcells
  exact ⟨cells, hcells⟩

theorem fetch_room_iff_two_rows : ∃ s st, Reading (counted 2) s st ∧
    HasRoom (counted_server 2) 3 (-1) s := by
  obtain ⟨s, st, -, hreads, hremaining⟩ := counted_reading 2
  have hfuel : (cursor (counted 2) s).remaining.length < 3 := by
    rw [hremaining, List.length_replicate]
    decide
  have hint : (-1 : ℤ) ≤ INT_MAX := by decide
  have hroom := (fetch_room_iff hint).2 (counted_server 2) (counted 2) 3 s st (counted_answers 2)
    hreads hfuel
  refine ⟨s, st, hreads, hroom.mpr fun h => ?_⟩
  rw [hremaining, List.length_replicate] at h
  exact absurd h.2.1 (by decide)

-- One row more than the largest frame that is filled by doubling
theorem doubling_overflows : ∃ s,
    (opened (counted_server (limit + 1)) false (counted (limit + 1)).sql).run ⟨{}, {}⟩ = .ok () s ∧
      (cursor (counted (limit + 1)) s).remaining.length ≤ INT_MAX ∧
      ¬HasRoom (counted_server (limit + 1)) (limit + 2) (-1) s := by
  obtain ⟨s, st, hopened, hreads, hremaining⟩ := counted_reading (limit + 1)
  have hlength : (cursor (counted (limit + 1)) s).remaining.length = limit + 1 := by
    rw [hremaining, List.length_replicate]
  have hint : (-1 : ℤ) ≤ INT_MAX := by decide
  have hfuel : (cursor (counted (limit + 1)) s).remaining.length < limit + 2 := by omega
  refine ⟨s, hopened, by rw [hlength]; decide, fun h => ?_⟩
  have hroom := (hasRoom_iff hint (counted_answers (limit + 1)) hreads hfuel).mp h
  refine hroom ⟨by decide, by omega, ?_⟩
  rw [hremaining, List.take_replicate, Nat.min_eq_left (Nat.le_succ _)]
  exact counted_cells (limit + 1) limit

end Fetch

end RMariaDB.MariaResultPrep
