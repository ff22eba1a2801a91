import RMariaDB.DbResult.Calls
import RMariaDB.MariaResultPrep.Complete

-- Whether rows are left when complete() says that there are none.

namespace RMariaDB.DbResult

open Program MariaBinding MariaResultPrep

variable {srv : Server} {this : Nat} {s t : Obj DbResult} {u v : Obj MariaResultPrep}

-- An active result whose flags can be relied upon.
structure Relies (srv : Server) (this : Nat) (u : Obj MariaResultPrep) : Prop where
  active : u.conn.pCurrentResult_ = some this
  wired : ∃ l, Wired l u.self.pStatement_ (fun _ _ => True) u.mysql u.self
  spent : u.self.bound_ = true → u.self.has_result = true → u.self.complete_ = true → Spent srv u

theorem sent_relies (h : Sent srv this s) : ∃ u, s = wrap u ∧ Relies srv this u := by
  obtain ⟨u, l, rfl, hactive, hwired⟩ := sent_wired h
  refine ⟨u, rfl, hactive, ⟨l, hwired.mono fun _ _ _ => trivial⟩, fun _ _ _ => .inl ?_⟩
  intro hi
  rw [hwired.bound] at hi
  cases hi

-- complete_ is set only when the parameter rows that wait have no results.
def Timely (srv : Server) (c : Call) (s : Obj DbResult) : Prop :=
  match c with
  | .bind params => ∀ u st, s = wrap u → u.self.pStatement_.bind u.mysql.stmts = some st →
      EqualLengths params → u.self.has_result = true →
      (Accepted st.param_count params → Barren srv st.sql (sent params)) ∧
      (¬Accepted st.param_count params → u.self.complete = true →
        ¬LeavesRows u.self.bindingInput_ st.param_count params)
  | .fetch _ _ => True

-- A query whose results are not known before it is executed leaves complete_ unset.
theorem bind_rows_resultless (hresult : u.self.has_result = false)
    (hafter : after (bind_rows srv) u = some v) : Unflagged v := by
  have hspec : Spec Unflagged (do
      execute_rows srv (rows_left u.self.bindingInput_ + 1)
      modifySelf fun r => { r with bound_ := true }) (fun _ => Unflagged) fun _ => Unflagged :=
    (execute_rows_spec _).bind fun _ => Spec.modify fun s hs => hs
  have hrun := hspec u fun h => by rw [hresult] at h; cases h
  have heq : (bind_rows srv).run u = (do
      execute_rows srv (rows_left u.self.bindingInput_ + 1)
      modifySelf fun r => { r with bound_ := true } : EStateM Exc (Obj MariaResultPrep) Unit).run u := by
    rw [bind_rows, EStateM.run_bind, EStateM.run_get]
    simp only [hresult, Bool.false_eq_true, if_false]
  rw [after, heq] at hafter
  split at hafter
  · rename_i a w hw
    rw [hw] at hrun
    cases hafter
    exact hrun
  · rename_i e w hw
    rw [hw] at hrun
    obtain ⟨-, hw⟩ := Option.ite_none_left_eq_some.mp hafter
    cases hw
    exact hrun

theorem bind_relies {params : List SEXP} (hu : Relies srv this u) (hequal : EqualLengths params)
    (hc : Timely srv (.bind params) (wrap u))
    (hafter : after (MariaResultPrep.bind srv params) u = some v) : Relies srv this v := by
  obtain ⟨l, hl⟩ := hu.wired
  obtain ⟨hconn, hwired⟩ := bind_wired hafter hl
  refine ⟨hconn ▸ hu.active, ⟨l, hwired⟩, ?_⟩
  obtain ⟨k, st, hk, hst, ⟨haccepted, slots, hlen, hkinds, hrest⟩ | ⟨hrejected, b, hb, hleaves, rfl⟩⟩ :=
    bind_cases hafter
  · have hstmt : u.self.pStatement_.bind u.mysql.stmts = some st := by rw [hk]; exact hst
    intro _ hresult hcomplete
    by_cases hbefore : u.self.has_result = true
    · rw [after, bind_rows_result (s := set_up u k params slots) hbefore] at hrest
      cases hrest
      refine .inr ⟨k, hk, hbefore, fun _ => ⟨⟨rfl, hlen, hkinds⟩, rfl⟩, ⟨st, hst, ?_⟩, .inl rfl⟩
      change Barren srv st.sql (parameter_rows (columns_set _ _ _ _))
      rw [parameter_rows_set haccepted hkinds]
      exact (hc u st rfl hstmt hequal hbefore).1 haccepted
    · have hflag := bind_rows_resultless (Bool.not_eq_true _ ▸ hbefore) hrest hresult
      rw [hflag] at hcomplete
      cases hcomplete
  · intro hbound hresult hcomplete
    have hstmt : u.self.pStatement_.bind u.mysql.stmts = some st := by rw [hk]; exact hst
    have hended : u.self.complete = true := by
      simp only [MariaResultPrep.complete, show u.self.bound_ = true from hbound, Bool.not_true, Bool.false_eq_true,
        if_false, show u.self.complete_ = true from hcomplete, Bool.or_true]
    exact .inl fun hi => absurd (hleaves.mp hi) ((hc u st rfl hstmt hequal hresult).2 hrejected hended)

theorem fetch_relies (hu : Relies srv this u) {n : ℤ} {fuel : Nat}
    (hafter : after (MariaResultPrep.fetch srv fuel n) u = some v) : Relies srv this v := by
  obtain ⟨l, hl⟩ := hu.wired
  obtain ⟨hconn, hwired⟩ := fetch_wired hafter hl
  refine ⟨hconn ▸ hu.active, ⟨l, hwired⟩, ?_⟩
  intro hbound hresult hcomplete
  by_cases hbefore : u.self.bound_ = true
  · by_cases hrows : u.self.has_result = true
    · by_cases hn : n = 0
      · subst hn
        rw [after, fetch_zero hbefore hrows] at hafter
        cases hafter
        exact hu.spent hbound hresult hcomplete
      · have hsettles := fetch_loops_settles srv hbefore hrows hn fuel
        rw [after] at hafter
        split at hafter
        · rename_i df w hw
          rw [hw] at hsettles
          cases hafter
          exact .inl (hsettles.1 hcomplete)
        · rename_i e w hw
          rw [hw] at hsettles
          obtain ⟨hends, hw⟩ := Option.ite_none_left_eq_some.mp hafter
          cases hw
          exact .inl (hsettles (Bool.not_eq_true _ ▸ hends) hcomplete)
    · obtain ⟨w, hrun, hself, -⟩ :=
        fetch_resultless srv hbefore (Bool.not_eq_true _ ▸ hrows) fuel n
      rw [after, hrun] at hafter
      cases hafter
      rw [hself] at hresult
      exact absurd hresult hrows
  · rw [after, fetch_unbound (Bool.not_eq_true _ ▸ hbefore)] at hafter
    cases hafter
    exact absurd hbound hbefore

theorem relies_next {c : Call} (hu : Relies srv this u) (hc : Timely srv c (wrap u))
    (hnext : next srv this c (wrap u) = some t) : ∃ v, t = wrap v ∧ Relies srv this v := by
  obtain ⟨v, rfl, ⟨params, rfl, -, rfl⟩ | ⟨params, rfl, hequal, hafter⟩ | ⟨n, fuel, rfl, hafter⟩⟩ :=
    next_cases hu.active hnext
  · exact ⟨v, rfl, hu⟩
  · exact ⟨v, rfl, bind_relies hu hequal hc hafter⟩
  · exact ⟨v, rfl, fetch_relies hu hafter⟩

-- while (!complete()) fetch(n)
def drain (srv : Server) (n : ℤ) (fuel : Nat) : Nat → EStateM Exc (Obj MariaResultPrep) (List DataFrame)
  | 0 => throw .outOfFuel
  | k + 1 => do
      let s ← get
      if s.self.complete then
        pure []
      else do
        let df ← MariaResultPrep.fetch srv fuel n
        let rest ← drain srv n fuel k
        pure (df :: rest)

def NothingLeft (srv : Server) (u : Obj MariaResultPrep) : Prop :=
  ∀ n fuel df v, (MariaResultPrep.fetch srv fuel n).run u = .ok df v → df.rows = []

-- When complete() is true no fetch returns a row. It is true after a fetch of all
-- rows, and where the loop ends nothing is left.
structure Completes (srv : Server) (u : Obj MariaResultPrep) : Prop where
  nothing : u.self.complete = true → NothingLeft srv u
  all : ∀ n fuel df v, n < 0 → (MariaResultPrep.fetch srv fuel n).run u = .ok df v →
    v.self.complete = true
  loop : ∀ n fuel k frames v, (drain srv n fuel k).run u = .ok frames v → NothingLeft srv v

theorem Relies.nothing (hu : Relies srv this u) (hcomplete : u.self.complete = true) :
    NothingLeft srv u := by
  intro n fuel df v hfetch
  refine fetch_spent hcomplete (hu.spent ?_) hfetch
  by_contra hbound
  simp [MariaResultPrep.complete, hbound] at hcomplete

theorem Relies.all (hu : Relies srv this u) {n : ℤ} (hn : n < 0) {fuel : Nat} {df : DataFrame}
    (hrun : (MariaResultPrep.fetch srv fuel n).run u = .ok df v) : v.self.complete = true := by
  have hbound : u.self.bound_ = true := by
    by_contra hbound
    rw [fetch_unbound (Bool.not_eq_true _ ▸ hbound)] at hrun
    cases hrun
  by_cases hresult : u.self.has_result = true
  · have hafter : after (MariaResultPrep.fetch srv fuel n) u = some v := by rw [after, hrun]
    obtain ⟨l, hl⟩ := hu.wired
    have hwithin := (fetch_method (T := fun bound _ => bound = true) (fun _ _ _ _ => id) fuel n).after
      hafter ⟨rfl, hl.metas, hl.input, hl.output, hbound⟩
    have hsettles := fetch_loops_settles srv hbound hresult (Int.ne_of_lt hn) fuel
    rw [hrun] at hsettles
    simp only [MariaResultPrep.complete, hwithin.self.bound, hsettles.2 hn, Bool.not_true,
      Bool.false_eq_true, if_false, Bool.or_true]
  · rw [Bool.not_eq_true] at hresult
    obtain ⟨w, hempty, hself, -⟩ := fetch_resultless srv hbound hresult fuel n
    rw [hempty] at hrun
    cases hrun
    simp only [MariaResultPrep.complete, hself, hbound, hresult, Bool.not_true, Bool.not_false,
      Bool.false_eq_true, if_false, Bool.true_or]

theorem Relies.loop (n : ℤ) (fuel k : Nat) : ∀ u frames v, Relies srv this u →
    (drain srv n fuel k).run u = .ok frames v → NothingLeft srv v := by
  induction k with
  | zero => exact fun u frames v _ h => by cases h
  | succ k ih =>
      intro u frames v hu hrun
      rw [drain, EStateM.run_bind, EStateM.run_get] at hrun
      by_cases hcomplete : u.self.complete = true
      · simp only [hcomplete, if_true] at hrun
        cases hrun
        exact hu.nothing hcomplete
      · simp only [hcomplete, Bool.false_eq_true, if_false] at hrun
        obtain ⟨df, w, hfetch, hrun⟩ := of_run_bind_ok hrun
        obtain ⟨rest, x, hrest, hrun⟩ := of_run_bind_ok hrun
        cases hrun
        exact ih w rest v (fetch_relies hu (by rw [after, hfetch])) hrest

theorem complete_holds (hsent : Sent srv this s)
    (hrun : Reaches (next srv this) (Timely srv) s t) : ∀ u, t = wrap u → Completes srv u := by
  have hrelies : ∃ u, t = wrap u ∧ Relies srv this u := by
    refine hrun.invariant (I := fun t => ∃ u, t = wrap u ∧ Relies srv this u) (sent_relies hsent) ?_
    rintro c _ t ⟨u, rfl, hu⟩ hc hnext
    exact relies_next hu hc hnext
  obtain ⟨u, rfl, hu⟩ := hrelies
  intro v hv
  cases wrap_inj hv
  exact ⟨hu.nothing, fun _ _ _ _ hn => hu.all hn,
    fun n fuel k frames v => Relies.loop n fuel k _ frames v hu⟩

section Exactness

variable {q : Query}

theorem barren_iff (hsrv : Answers srv q) (rows : List (Except Exc (List Param))) :
    Barren srv q.sql rows ↔ Cursor.available (rows.map (Except.map q.rows)) = [] := by
  induction rows with
  | nil => exact iff_of_true trivial rfl
  | cons params rows ih =>
      cases params with
      | error e => exact iff_of_true trivial rfl
      | ok params =>
          rw [Barren, ih, List.map_cons, Except.map, Cursor.available, List.append_eq_nil_iff]
          refine and_congr_left fun _ => ⟨fun h => ?_, fun h t r hr => ?_⟩
          · obtain ⟨r, hr, hrows⟩ := hsrv.execute 0 params
            simpa [hrows] using h 0 r hr
          · obtain ⟨r', hr', hrows⟩ := hsrv.execute t params
            rw [hr] at hr'
            cases hr'
            rw [hrows]
            exact h

-- A key that has no rows.
def no_such_key : List SEXP := [.INTSXP [] [3]]

theorem complete_holds_no_such_key : ∃ u, u.self.complete = true ∧ Completes numbers_server u := by
  obtain ⟨u, st, hsent, hserves, -⟩ := sent_serves 0 numbers_answers rfl rfl
  obtain ⟨slots, hbind, hnext⟩ := next_bind_accepted numbers_server 0 hserves
    (show EqualLengths no_such_key by simp [EqualLengths, no_such_key]) ⟨rfl, by decide, _, rfl⟩
  have htimely : Timely numbers_server (.bind no_such_key) (wrap u) := by
    intro w st' hw hst _ _
    cases wrap_inj hw
    rw [hserves.output.statement, Option.bind_some, hserves.output.stmt] at hst
    cases hst
    refine ⟨fun _ => ?_, fun hrejected => absurd ?_ hrejected⟩
    · rw [hserves.sql]
      exact (barren_iff numbers_answers _).mpr rfl
    · rw [hserves.param_count]
      exact ⟨rfl, by decide, _, rfl⟩
  exact ⟨bound numbers u no_such_key slots, by simp [MariaResultPrep.complete, bound],
    complete_holds hsent (.tail (.refl _) htimely hnext) _ rfl⟩

-- As long as no call fails, nothing is left after a bind if and only if its parameter
-- rows have no results; complete() is true in any case.
theorem bind_completes_iff {params : List SEXP} (hsrv : Answers srv q)
    (hrun : Run srv q u (some params) []) (hsize : (q.total (some params)).length < 2 ^ 30)
    (hconvertible : Convertible q (some params)) (hbound : u.self.bound_ = true) :
    NothingLeft srv u ↔ Barren srv q.sql (sent params) := by
  have hleft : left_over q (some params) [] = (q.total (some params)).length := rfl
  rw [barren_iff hsrv, ← List.length_eq_zero_iff]
  change _ ↔ (q.total (some params)).length = 0
  rw [← hleft]
  constructor
  · intro h
    obtain ⟨df, v, hfetch⟩ :=
      (end_of_run hsrv hrun hsize (-1) (Nat.lt_succ_self _)).2 hbound hconvertible
    have hrows := length_of_run hsrv hrun hfetch
    rw [h _ _ _ _ hfetch, if_pos (by decide)] at hrows
    exact hrows.symm
  · intro h n fuel df v hfetch
    have hrows := length_of_run hsrv hrun hfetch
    rw [h, Nat.min_zero, ite_self] at hrows
    exact List.length_eq_zero_iff.mp hrows

-- Bound to keys of which one has no rows, one has one and one has two.
theorem three_keys_not_complete : ∃ s u, Sent numbers_server 0 s ∧
    Reaches (next numbers_server 0) (fun _ _ => True) s (wrap u) ∧ ¬Completes numbers_server u := by
  obtain ⟨u, st, hsent, hserves, hrun⟩ := sent_serves 0 numbers_answers rfl rfl
  obtain ⟨slots, hbind, hnext⟩ := next_bind_accepted numbers_server 0 hserves
    (show EqualLengths three_keys by simp [EqualLengths, three_keys]) ⟨rfl, by decide, _, rfl⟩
  refine ⟨wrap u, _, hsent, .tail (.refl _) trivial hnext, fun h => ?_⟩
  have hbound := hrun.bind hbind
  obtain ⟨df, v, hfetch⟩ := (end_of_run numbers_answers hbound (by decide) (-1)
    (Nat.lt_succ_self _)).2 rfl three_keys_convertible
  have hcomplete : (bound numbers u three_keys slots).self.complete = true := by
    simp [MariaResultPrep.complete, bound]
  have hrows := length_of_run numbers_answers hbound hfetch
  rw [h.nothing hcomplete _ _ _ _ hfetch] at hrows
  cases hrows

end Exactness

end RMariaDB.DbResult
