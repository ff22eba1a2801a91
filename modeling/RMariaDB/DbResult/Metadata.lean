import RMariaDB.DbResult.Calls
import RMariaDB.MariaResultPrep.Frames

-- Whether the columns of a result are known when it has some.

namespace RMariaDB.DbResult

open Program MariaBinding MariaResultPrep

variable {srv : Server} {this : Nat} {u v w : Obj MariaResultPrep}

-- What is cached describes the columns, and a fetch returns all of them for each row it counts.
structure MetadataHolds (srv : Server) (u : Obj MariaResultPrep) : Prop where
  columned : ∀ spec, u.self.pSpec_ = some spec → Columned u spec
  fetched : ∀ spec, u.self.pSpec_ = some spec → ∀ n fuel df v,
    (MariaResultPrep.fetch srv fuel n).run u = .ok df v →
    ∃ k, v.self.rowsFetched_ = u.self.rowsFetched_ + k ∧
      Framed (spec.fields.map MYSQL_FIELD.name) spec.fields.length k df

-- A bind that is accepted leaves the results of all its parameter rows to be fetched.
def Delivers (srv : Server) (u : Obj MariaResultPrep) : Prop :=
  ∀ params v, (MariaResultPrep.bind srv params).run u = .ok () v → v.self.has_result = true →
    v.self.bindingInput_.i = 0 ∧ v.self.complete_ = true

theorem sent_columns (h : Sent srv this (wrap u)) :
    (∃ spec, u.self.pSpec_ = some spec ∧ Columned u spec) ∨
      u.self.has_result = false ∧ u.self.bindingOutput_.pStatement_ = none := by
  obtain ⟨sql, is_statement, sh, r, t, hrun, -, hwrap⟩ := h
  cases wrap_inj hwrap
  obtain ⟨-, hsent⟩ := prepared_sent hrun
  have hcolumns := send_query_columns srv (constructed_blank sh is_statement) sql
    (constructed sh is_statement) (SameColumns.refl _)
  rw [hsent] at hcolumns
  refine hcolumns.imp_right ?_
  rintro ⟨hspec, hsame⟩
  exact ⟨by rw [has_result, hspec]; rfl, hsame.output.1⟩

-- What stays the same over the calls on a result that has been sent.
structure Follows (this : Nat) (u v : Obj MariaResultPrep) : Prop where
  active : v.conn.pCurrentResult_ = some this
  wired : ∃ l, Wired l v.self.pStatement_ (fun _ _ => True) v.mysql v.self
  binds : ∀ k st, u.mysql.stmts k = some st → ∃ st', v.mysql.stmts k = some st' ∧ st'.bind = st.bind
  columns : SameColumns false u.self v.self

theorem sent_follows (h : Sent srv this (wrap u)) : Follows this u u := by
  obtain ⟨v, l, hwrap, hactive, hwired⟩ := sent_wired h
  cases wrap_inj hwrap
  exact ⟨hactive, ⟨l, hwired.mono fun _ _ _ => trivial⟩, fun k st hst => ⟨st, hst, rfl⟩,
    SameColumns.refl _⟩

theorem Follows.step (h : Follows this u v) {l : List Nat} (hconn : w.conn = v.conn)
    (hwired : Wired l w.self.pStatement_ (fun _ _ => True) w.mysql w.self)
    (hkept : SameBinds v.mysql w.mysql ∧ SameColumns false u.self w.self) : Follows this u w := by
  refine ⟨hconn ▸ h.active, ⟨l, hwired⟩, fun k st hst => ?_, hkept.2⟩
  obtain ⟨st₁, hst₁, hbind₁⟩ := h.binds k st hst
  obtain ⟨st₂, hst₂, hbind₂⟩ := hkept.1.get hst₁
  exact ⟨st₂, hst₂, hbind₂.trans hbind₁⟩

theorem follows_next {s : Obj DbResult} {c : Call} (h : Follows this u v)
    (hnext : next srv this c (wrap v) = some s) : ∃ w, s = wrap w ∧ Follows this u w := by
  obtain ⟨l, hl⟩ := h.wired
  obtain ⟨w, rfl, ⟨params, rfl, -, rfl⟩ | ⟨params, rfl, -, hafter⟩ | ⟨n, fuel, rfl, hafter⟩⟩ :=
    next_cases h.active hnext
  · exact ⟨w, rfl, h⟩
  · obtain ⟨hconn, hwired⟩ := bind_wired hafter hl
    exact ⟨w, rfl, h.step hconn hwired ((bind_persists params).after hafter h.columns)⟩
  · obtain ⟨hconn, hwired⟩ := fetch_wired hafter hl
    exact ⟨w, rfl, h.step hconn hwired ((fetch_persists fuel n).after hafter h.columns)⟩

theorem Follows.columned (h : Follows this u v) {spec : MYSQL_RES} (hu : Columned u spec) :
    Columned v spec := by
  have htypes := h.columns.types
  obtain ⟨k, st, hk, hst, hbind⟩ := hu.binds
  obtain ⟨st', hst', hbind'⟩ := h.binds k st hst
  refine ⟨h.columns.nCols.trans hu.nCols, h.columns.names.trans hu.names, htypes.trans hu.types, ?_,
    k, st', h.columns.statement.trans hk, hst', ?_⟩
  · rw [h.columns.statement, htypes]
    exact ⟨h.columns.output.1.trans hu.output.1, h.columns.output.2.trans hu.output.2⟩
  · rw [hbind', hbind, htypes]

theorem bind_delivers (hresult : u.self.has_result = true) : Delivers srv u := by
  intro params v hrun _
  rw [bind_eq] at hrun
  obtain ⟨_, x, hparams, hrows⟩ := of_run_bind_ok hrun
  rcases deref_cases u.self.pStatement_ u.mysql with hderef | ⟨k, st, ⟨hk, hst⟩, -⟩
  · simp [bind_params, input, MariaBinding.setup, mysql_stmt_param_count, hderef] at hparams
  by_cases haccepted : Accepted st.param_count params
  · obtain ⟨slots, haccept, -⟩ := bind_params_accepted hk hst haccepted
    rw [haccept] at hparams
    cases hparams
    rw [bind_rows_result (s := set_up u k params slots) hresult] at hrows
    cases hrows
    exact ⟨rfl, rfl⟩
  · obtain ⟨message, b, hreject, -⟩ := bind_params_rejected hk hst haccepted
    rw [hreject] at hparams
    cases hparams

-- The columns are known if and only if the server has described them by the time send_query()
-- returns, and then a bind loses no results. What it describes later is not cached.
theorem metadata_holds_iff (hsent : Sent srv this (wrap u))
    (hrun : Reaches (next srv this) (fun _ _ => True) (wrap u) (wrap v)) :
    (MetadataHolds srv v ↔ (v.self.has_result = true → u.self.has_result = true)) ∧
      (u.self.has_result = true → Delivers srv v) := by
  have hcolumns := sent_columns hsent
  obtain ⟨w, hw, hfollows⟩ : ∃ w, wrap v = wrap w ∧ Follows this u w := by
    refine hrun.invariant (I := fun s => ∃ w, s = wrap w ∧ Follows this u w)
      ⟨u, rfl, sent_follows hsent⟩ ?_
    rintro c _ t ⟨w, rfl, hw⟩ - hnext
    exact follows_next hw hnext
  cases wrap_inj hw
  refine ⟨⟨fun hholds hresult => ?_, fun hearly => ?_⟩, fun hresult => ?_⟩
  · obtain ⟨spec, hspec⟩ := Option.isSome_iff_exists.mp hresult
    rcases hcolumns with ⟨spec', hspec', -⟩ | ⟨-, hnone⟩
    · rw [has_result, hspec']
      rfl
    · -- no buffers were bound, so that the row has no statement to be fetched from
      have hcolumned := hholds.columned spec hspec
      obtain ⟨k, st, hk, -⟩ := hcolumned.binds
      have hstatement := hcolumned.output.1
      rw [hk, hfollows.columns.output.1, hnone] at hstatement
      cases hstatement
  · have hcolumned : ∀ spec, v.self.pSpec_ = some spec → Columned v spec := by
      intro spec hspec
      have hresult : u.self.has_result = true := hearly (by rw [has_result, hspec]; rfl)
      rcases hcolumns with ⟨spec', hspec', hu⟩ | ⟨hno, -⟩
      · have hsame := hfollows.columns.spec hresult
        rw [hspec, hspec', Option.some.injEq] at hsame
        rw [hsame]
        exact hfollows.columned hu
      · rw [hno] at hresult
        cases hresult
    refine ⟨hcolumned, fun spec hspec n fuel df w hfetch => ?_⟩
    obtain ⟨k, hcount, hframed⟩ := fetch_framed hfetch
    have hspecified := hcolumned spec hspec
    refine ⟨k, hcount, ?_⟩
    rw [hspecified.names, hspecified.types, List.length_map] at hframed
    exact hframed
  · refine bind_delivers ?_
    rw [has_result, hfollows.columns.spec hresult]
    exact hresult

theorem metadata_holds_iff_numbers : ∃ u v : Obj MariaResultPrep,
    v.self.bound_ = true ∧ v.self.has_result = true ∧
    (MetadataHolds numbers_server v ↔ (v.self.has_result = true → u.self.has_result = true)) ∧
    (u.self.has_result = true → Delivers numbers_server v) := by
  obtain ⟨u, st, hsent, hserves, -⟩ := sent_serves 0 numbers_answers rfl rfl
  obtain ⟨slots, -, hnext⟩ := next_bind_accepted numbers_server 0 hserves
    (show EqualLengths three_keys by simp [EqualLengths, three_keys]) ⟨rfl, by decide, _, rfl⟩
  exact ⟨u, bound numbers u three_keys slots, rfl, hserves.has_result,
    metadata_holds_iff hsent (.tail (.refl _) trivial hnext)⟩

-- A procedure with a parameter: its results are described when it is executed.
def procedure : Server := { Server.agreeable with
  prepare := fun _ _ => .ok ⟨1, none⟩
  execute := fun _ _ _ => .ok {
    fields := some [⟨"n", .MYSQL_TYPE_LONG, 63, 11⟩]
    rows := some [[some (.int 1)]] } }

-- How many columns are described and how many are cached, when it was prepared and called.
def described_and_cached : Option (Option Nat × Nat) :=
  match (World.prepared procedure "CALL p(?)" false).run ⟨{ conn.pCurrentResult_ := some 0 }, {}⟩ with
  | .ok _ u => (after (MariaResultPrep.bind procedure [.INTSXP [] [1]]) u).map fun v =>
      (v.self.pSpec_.map fun spec => spec.fields.length, v.self.nCols_)
  | .error _ _ => none

theorem late_metadata_not_cached : ∃ u v, Sent procedure 0 (wrap u) ∧
    Reaches (next procedure 0) (fun _ _ => True) (wrap u) (wrap v) ∧ ¬MetadataHolds procedure v := by
  have hdescribed : described_and_cached = some (some 1, 0) := by decide +kernel
  unfold described_and_cached at hdescribed
  split at hdescribed
  · rename_i r u hrun
    obtain ⟨v, hafter, hv⟩ := Option.map_eq_some_iff.mp hdescribed
    simp only [Prod.mk.injEq] at hv
    obtain ⟨spec, hspec, hfields⟩ := Option.map_eq_some_iff.mp hv.1
    have hbind : next procedure 0 (.bind [.INTSXP [] [1]]) (wrap u) = some (wrap v) := by
      rw [next_bind (by simp [EqualLengths]), hafter]
      rfl
    refine ⟨u, v, ⟨_, _, _, r, u, hrun, rfl, rfl⟩, .tail (.refl _) trivial hbind, fun hholds => ?_⟩
    have hcolumns := (hholds.columned spec hspec).nCols
    rw [hfields, hv.2] at hcolumns
    cases hcolumns
  · cases hdescribed

end RMariaDB.DbResult
