import RMariaDB.World.Methods

-- The calls that R makes on an active result.

namespace RMariaDB.DbResult

open Program MariaBinding MariaResultPrep

variable {srv : Server} {this : Nat} {s : Obj DbResult}

inductive Call where
  | bind (params : List SEXP)
  | fetch (n : ℤ) (fuel : Nat)

def call (srv : Server) (this : Nat) : Call → EStateM Exc (Obj DbResult) Unit
  | .bind params => DbResult.bind srv params
  | .fetch n fuel => do
      let _ ← DbResult.fetch srv this fuel n
      pure ()

def next (srv : Server) (this : Nat) (c : Call) (s : Obj DbResult) : Option (Obj DbResult) :=
  after (call srv this c) s

def wrap (u : Obj MariaResultPrep) : Obj DbResult := ⟨u.toShared, ⟨some (.prep u.self)⟩⟩

theorem wrap_inj {u v : Obj MariaResultPrep} (h : wrap u = wrap v) : u = v := by
  cases u
  cases v
  cases h
  rfl

-- A result whose query has just been sent.
def Sent (srv : Server) (this : Nat) (s : Obj DbResult) : Prop :=
  ∃ sql is_statement sh r u, (World.prepared srv sql is_statement).run ⟨sh, {}⟩ = .ok r u ∧
    sh.conn.pCurrentResult_ = some this ∧ s = wrap u

-- It is wired up and has no parameters.
theorem sent_wired (h : Sent srv this s) : ∃ u l, s = wrap u ∧
    u.conn.pCurrentResult_ = some this ∧
    Wired l u.self.pStatement_ (fun _ b => b = {}) u.mysql u.self := by
  obtain ⟨sql, is_statement, sh, r, u, hrun, hactive, rfl⟩ := h
  obtain ⟨rfl, hconn, hwired⟩ := prepared_wired hrun
  exact ⟨u, _, rfl, by rw [hconn, hactive], hwired⟩

-- The parameters that validate_params() lets through.
def EqualLengths : List SEXP → Prop
  | [] => True
  | col :: params => ∀ col' ∈ params, col'.xlength = col.xlength

theorem first_other_eq_none {n : Nat} {params : List SEXP} (j : Nat) :
    first_other n j params = none ↔ ∀ col ∈ params, col.xlength = n := by
  induction params generalizing j with
  | nil => simp [first_other]
  | cons col params ih =>
      by_cases hcol : col.xlength = n
      · simp [first_other, hcol, ih]
      · simp [first_other, hcol]

theorem validate_params_run {params : List SEXP} (h : EqualLengths params) :
    (validate_params params).run s = .ok () s := by
  cases params with
  | nil => rfl
  | cons col params => simp [validate_params, (first_other_eq_none 1).mpr h]

theorem validate_params_stop {params : List SEXP} (h : ¬EqualLengths params) :
    ∃ message, (validate_params params).run s = .error (.stop message) s := by
  cases params with
  | nil => exact absurd trivial h
  | cons col params =>
      cases hother : first_other col.xlength 1 params with
      | none => exact absurd ((first_other_eq_none 1).mp hother) h
      | some j => simp [validate_params, hother]

-- All columns have the length of the first one.
theorem EqualLengths.xlength {params : List SEXP} (h : EqualLengths params) (n : Nat) :
    ∀ col ∈ params, col.xlength = params.head?.elim n SEXP.xlength := by
  cases params with
  | nil => simp
  | cons first params =>
      intro col hcol
      rcases List.mem_cons.mp hcol with rfl | hcol
      · rfl
      · exact h col hcol

theorem onImpl_run {α : Type} (prep : EStateM Exc (Obj MariaResultPrep) α)
    (simple : EStateM Exc Shared α) (u : Obj MariaResultPrep) : (onImpl prep simple).run (wrap u) =
      match prep.run u with
      | .ok a t => .ok a (wrap t)
      | .error e t => .error e (wrap t) := by
  simp only [onImpl, EStateM.run_bind, EStateM.run_get, wrap, run_zoom]
  cases prep.run u <;> rfl

-- A call on an active result is a call on the object behind it.
theorem next_bind {params : List SEXP} (h : EqualLengths params) (u : Obj MariaResultPrep) :
    next srv this (.bind params) (wrap u) = (after (MariaResultPrep.bind srv params) u).map wrap := by
  simp only [next, after, call, DbResult.bind, run_bind_ok (validate_params_run h), onImpl_run]
  cases hrun : (MariaResultPrep.bind srv params).run u with
  | ok a t => rfl
  | error e t => cases e <;> rfl

theorem next_bind_stop {params : List SEXP} (h : ¬EqualLengths params) (s : Obj DbResult) :
    next srv this (.bind params) s = some s := by
  obtain ⟨message, hrun⟩ := validate_params_stop (s := s) h
  simp only [next, after, call, DbResult.bind, run_bind_error hrun]
  rfl

theorem next_fetch {u : Obj MariaResultPrep} (hactive : u.conn.pCurrentResult_ = some this) (n : ℤ)
    (fuel : Nat) : next srv this (.fetch n fuel) (wrap u) =
      (after (MariaResultPrep.fetch srv fuel n) u).map wrap := by
  have hactive' : (wrap u).conn.pCurrentResult_ = some this := hactive
  simp only [next, after, call, DbResult.fetch, EStateM.run_bind, EStateM.run_get, hactive', ne_eq,
    not_true_eq_false, if_false, onImpl_run]
  cases hrun : (MariaResultPrep.fetch srv fuel n).run u with
  | ok a t => rfl
  | error e t => cases e <;> rfl

-- What a call on an active result comes to.
theorem next_cases {c : Call} {u : Obj MariaResultPrep} (hactive : u.conn.pCurrentResult_ = some this)
    (hnext : next srv this c (wrap u) = some s) : ∃ v, s = wrap v ∧
      ((∃ params, c = .bind params ∧ ¬EqualLengths params ∧ v = u) ∨
        (∃ params, c = .bind params ∧ EqualLengths params ∧
          after (MariaResultPrep.bind srv params) u = some v) ∨
        ∃ n fuel, c = .fetch n fuel ∧ after (MariaResultPrep.fetch srv fuel n) u = some v) := by
  cases c with
  | bind params =>
      by_cases hequal : EqualLengths params
      · rw [next_bind hequal] at hnext
        obtain ⟨v, hafter, rfl⟩ := Option.map_eq_some_iff.mp hnext
        exact ⟨v, rfl, .inr (.inl ⟨params, rfl, hequal, hafter⟩)⟩
      · rw [next_bind_stop hequal] at hnext
        cases hnext
        exact ⟨u, rfl, .inl ⟨params, rfl, hequal, rfl⟩⟩
  | fetch n fuel =>
      rw [next_fetch hactive] at hnext
      obtain ⟨v, hafter, rfl⟩ := Option.map_eq_some_iff.mp hnext
      exact ⟨v, rfl, .inr (.inr ⟨n, fuel, rfl, hafter⟩)⟩

-- A bind works on the statement of its result only.
theorem bind_wired {l : List Nat} {params : List SEXP} {u v : Obj MariaResultPrep}
    (hafter : after (MariaResultPrep.bind srv params) u = some v)
    (hu : Wired l u.self.pStatement_ (fun _ _ => True) u.mysql u.self) :
    v.conn = u.conn ∧ Wired l v.self.pStatement_ (fun _ _ => True) v.mysql v.self := by
  obtain ⟨k, st, hk, -, ⟨-, slots, -, -, hrest⟩ | ⟨-, b, hb, -, rfl⟩⟩ := bind_cases hafter
  · have hwithin := (bind_rows_method srv (T := fun _ _ => True) (fun _ _ _ _ => id)
      fun _ _ => id).after (h := u.self.pStatement_) hrest
      ⟨rfl, hu.metas, fun _ => hk.symm, hu.output, trivial⟩
    exact ⟨hwithin.conn, hwithin.self.statement.symm ▸ hwithin.self⟩
  · exact ⟨rfl, rfl, hu.metas, fun _ => hb.trans hk.symm, hu.output, trivial⟩

theorem fetch_wired {l : List Nat} {n : ℤ} {fuel : Nat} {u v : Obj MariaResultPrep}
    (hafter : after (MariaResultPrep.fetch srv fuel n) u = some v)
    (hu : Wired l u.self.pStatement_ (fun _ _ => True) u.mysql u.self) :
    v.conn = u.conn ∧ Wired l v.self.pStatement_ (fun _ _ => True) v.mysql v.self := by
  have hwithin := (fetch_method (T := fun _ _ => True) (fun _ _ _ _ => id) fuel n).after hafter hu
  exact ⟨hwithin.conn, hwithin.self.statement.symm ▸ hwithin.self⟩

-- A query that the server answers, sent on a new connection.
variable (this) in
theorem sent_serves {q : Query} (hsrv : Answers srv q) (hhandle : q.handle = 0)
    (hinit : srv.stmt_init 0 = true) : ∃ u st, Sent srv this (wrap u) ∧ Serves q u st ∧
      Run srv q u none [] := by
  let sh : Shared := { conn.pCurrentResult_ := some this }
  obtain ⟨u, st, hopened, hserves, -⟩ := opened_run (s := ⟨sh, {}⟩) hsrv ⟨rfl, rfl, rfl, rfl⟩
    hhandle.symm hinit false
  refine ⟨u, st, ⟨_, _, sh, _, u, prepared_of_opened hopened, rfl, rfl⟩, hserves, ?_⟩
  exact .send ⟨rfl, rfl, rfl, rfl⟩ hhandle.symm hopened

-- Columns that the query accepts are bound.
variable (srv this) in
theorem next_bind_accepted {q : Query} {u : Obj MariaResultPrep} {st : MYSQL_STMT}
    (hs : Serves q u st) {params : List SEXP} (hequal : EqualLengths params)
    (haccepted : Accepted q.param_count params) : ∃ slots,
      (MariaResultPrep.bind srv params).run u = .ok () (bound q u params slots) ∧
      next srv this (.bind params) (wrap u) = some (wrap (bound q u params slots)) := by
  obtain ⟨slots, hbind, -⟩ := bind_accepted srv hs haccepted
  refine ⟨slots, hbind, ?_⟩
  rw [next_bind hequal]
  simp only [after, hbind, Option.map_some]

end RMariaDB.DbResult
