import RMariaDB.MariaResultPrep.Frames
import RMariaDB.MariaResultPrep.Runs

-- Whether the frames of one result have columns of the same types.

namespace RMariaDB.MariaResultPrep

open Program

variable {srv : Server} {s t : Obj MariaResultPrep} {df : DataFrame}
  {types : List MariaFieldType}

section Kinds

-- The storage type of a column and its attributes
structure ColumnKind where
  type : SEXPTYPE
  klass : List String
  units : Option String
deriving DecidableEq, Repr

def kind (x : Column) : ColumnKind := ⟨x.type, x.klass, x.units⟩

def kinds (df : DataFrame) : List ColumnKind := df.columns.map kind

-- What Rf_allocVector() and Rf_lengthgets() make
def bare_kind (type : MariaFieldType) : ColumnKind := ⟨type_sexp type, [], none⟩

-- What df_create() and df_s3() make of a column
def column_kind (type : MariaFieldType) : ColumnKind :=
  kind (s3_class (allocVector (type_sexp type) 0) type)

def Classed (type : MariaFieldType) : Prop :=
  type = .MY_DATE ∨ type = .MY_DATE_TIME ∨ type = .MY_TIME ∨ type = .MY_INT64

instance (type : MariaFieldType) : Decidable (Classed type) :=
  inferInstanceAs (Decidable (_ ∨ _ ∨ _ ∨ _))

theorem bare_kind_iff (type : MariaFieldType) :
    bare_kind type = column_kind type ↔ ¬Classed type := by
  cases type <;> decide

theorem kind_s3 {x : Column} {type : MariaFieldType} (h : kind x = bare_kind type) :
    kind (s3_class x type) = column_kind type := by
  obtain ⟨htype, hklass, hunits⟩ := ColumnKind.mk.inj h
  cases type <;> simp [kind, s3_class, column_kind, allocVector, htype, hklass, hunits]

theorem kinds_create (names : List String) (n : Nat) :
    kinds (df_create types names n) = types.map bare_kind := by
  rw [kinds, df_create, List.map_map]
  rfl

-- Resizing drops the attributes, of which there are none yet.
theorem kinds_resize (h : kinds df = types.map bare_kind) (n : Nat) :
    kinds (df_resize df n) = types.map bare_kind := by
  rw [kinds, df_resize, List.map_map, ← h, kinds]
  apply List.map_congr_left
  intro x hx
  have hbare : kind x ∈ types.map bare_kind := h ▸ List.mem_map_of_mem hx
  obtain ⟨type, -, htype⟩ := List.mem_map.mp hbare
  obtain ⟨-, hklass, hunits⟩ := ColumnKind.mk.inj htype
  rw [Function.comp_apply, kind, kind, ← hklass, ← hunits]
  rfl

theorem kinds_s3 : ∀ {columns : List Column} {types : List MariaFieldType},
    columns.map kind = types.map bare_kind →
      (columns.zipWith s3_class types).map kind = types.map column_kind := by
  intro columns
  induction columns with
  | nil =>
      intro types h
      cases types with
      | nil => rfl
      | cons type types => cases h
  | cons x columns ih =>
      intro types h
      cases types with
      | nil => cases h
      | cons type types =>
          obtain ⟨hx, hcolumns⟩ := List.cons.inj h
          rw [List.zipWith_cons_cons, List.map_cons, List.map_cons, kind_s3 hx, ih hcolumns]

theorem assign_kind {type : SEXPTYPE} {x y : Column} {i : Nat} {cell : Cell}
    (h : MariaRow.assign type x i cell = .ok y) : kind y = kind x := by
  unfold MariaRow.assign at h
  split at h
  · cases h
  split at h
  · cases h
    rfl
  · split at h
    · cases h
    · cases h
    · cases h

theorem set_list_value_kind {x y : Column} {i j : Nat} {u v : Obj MariaRow}
    (hrun : (MariaRow.set_list_value srv x i j).run u = .ok y v) : kind y = kind x := by
  rw [MariaRow.set_list_value, EStateM.run_bind, EStateM.run_get] at hrun
  obtain ⟨slot, _, -, hrun⟩ := of_run_bind_ok hrun
  obtain ⟨cell, _, -, hrun⟩ := of_run_bind_ok hrun
  rw [run_liftM] at hrun
  cases hassign : MariaRow.assign (type_sexp slot.type) x i cell with
  | error e =>
      rw [hassign] at hrun
      cases hrun
  | ok z =>
      rw [hassign] at hrun
      cases hrun
      exact assign_kind hassign

theorem set_list_values_kinds (i : Nat) (js : List Nat) : ∀ {s : Obj MariaResultPrep}
    {out out' : DataFrame}, (set_list_values srv i js out).run s = .ok out' t →
      kinds out' = kinds out := by
  induction js with
  | nil =>
      intro s out out' hrun
      cases hrun
      rfl
  | cons j js ih =>
      intro s out out' hrun
      obtain ⟨x, u, hx, hrun⟩ := of_run_bind_ok hrun
      obtain ⟨y, v, hy, hrun⟩ := of_run_bind_ok hrun
      rw [ih hrun, kinds, kinds, List.map_set]
      rw [run_liftM] at hx
      rw [output, onMember_run] at hy
      split at hy
      · rename_i hvalue
        cases hy
        rw [set_list_value_kind hvalue]
        cases hcol : index out.columns j with
        | error e =>
            rw [hcol] at hx
            cases hx
        | ok z =>
            rw [hcol] at hx
            cases hx
            have hj : (out.columns.map kind)[j]? = some (kind x) := by
              rw [List.getElem?_map, index_eq_ok_iff.mp hcol]
              rfl
            obtain ⟨hlt, hj⟩ := List.getElem?_eq_some_iff.mp hj
            rw [← hj]
            exact List.set_getElem_self hlt
      · cases hy

theorem fetch_loop_kinds {n_max : ℤ} (fuel : Nat) : ∀ {i n i' n' : Nat} {out out' : DataFrame}
    {s : Obj MariaResultPrep}, (fetch_loop srv n_max fuel i n out).run s = .ok (i', n', out') t →
    kinds out = types.map bare_kind → kinds out' = types.map bare_kind := by
  induction fuel with
  | zero => exact fun hrun => by cases hrun
  | succ fuel ih =>
      intro i n i' n' out out' s hrun hout
      rw [fetch_loop] at hrun
      split at hrun
      · cases hrun
        exact hout
      obtain ⟨row, u, hstep, hrun⟩ := of_run_bind_ok hrun
      cases row with
      | false =>
          cases hrun
          exact hout
      | true =>
          simp only [if_true] at hrun
          split at hrun
          · cases hrun
          rw [EStateM.run_bind, EStateM.run_get] at hrun
          obtain ⟨out₁, v, hvalues, hrun⟩ := of_run_bind_ok hrun
          have hgrown : kinds (if i ≥ n then (n * 2, df_resize out (n * 2)) else (n, out)).2 =
              types.map bare_kind := by
            split
            · exact kinds_resize hout _
            · exact hout
          have hvalued := (set_list_values_kinds _ _ hvalues).trans hgrown
          split at hrun
          · obtain ⟨_, x, -, hrun⟩ := of_run_bind_ok hrun
            exact ih hrun hvalued
          · exact ih hrun hvalued

-- A fetch of no rows leaves out the attributes.
theorem fetch_kinds {n_max : ℤ} {fuel : Nat} (hresult : s.self.has_result = true)
    (hrun : (fetch srv fuel n_max).run s = .ok df t) : kinds df =
      s.self.types_.map (if n_max = 0 then bare_kind else column_kind) := by
  have hsame : SameColumns false s.self t.self :=
    (fetch_persists fuel n_max).run_ok hrun (SameColumns.refl _)
  by_cases hbound : s.self.bound_ = true
  · by_cases hn : n_max = 0
    · subst hn
      rw [fetch_zero hbound hresult] at hrun
      cases hrun
      exact kinds_create _ _
    · rw [fetch_loops hbound hresult hn] at hrun
      obtain ⟨⟨i, n, out⟩, u, hloop, hrun⟩ := of_run_bind_ok hrun
      have hout := fetch_loop_kinds _ hloop (kinds_create _ _)
      cases hrun
      rw [if_neg hn, hsame.types]
      apply kinds_s3
      by_cases hlt : i < n
      · rw [if_pos hlt]
        exact kinds_resize hout i
      · rw [if_neg hlt]
        exact hout
  · rw [fetch_unbound (Bool.not_eq_true _ ▸ hbound)] at hrun
    cases hrun

end Kinds

section Binding

def append_column (x y : Column) : Column := { x with cells := x.cells ++ y.cells }

-- Row-binding two frames whose columns have the same names and types
def bind_frames (df df' : DataFrame) : Option DataFrame :=
  if df.names = df'.names ∧ kinds df = kinds df' then
    some {
      names := df.names
      row_names := df.row_names + df'.row_names
      columns := df.columns.zipWith append_column df'.columns }
  else
    none

def row_bind : List DataFrame → Option DataFrame
  | [] => none
  | df :: dfs => dfs.foldlM bind_frames df

variable {r : MariaResultPrep} {n m : Nat}

-- The names, the storage types and the attributes that df_create() and df_s3() assign
structure Stable (r : MariaResultPrep) (df : DataFrame) : Prop where
  names : df.names = r.names_
  kinds : kinds df = r.types_.map column_kind

structure Chunk (r : MariaResultPrep) (n : Nat) (df : DataFrame) : Prop extends Stable r df where
  framed : Framed r.names_ r.types_.length n df

theorem map_some_reduceOption : ∀ {l : List (Option Cell)}, (∀ o ∈ l, o.isSome = true) →
    l.reduceOption.map some = l := by
  intro l
  induction l with
  | nil => exact fun _ => rfl
  | cons o l ih =>
      intro h
      obtain ⟨cell, rfl⟩ := Option.isSome_iff_exists.mp (h o List.mem_cons_self)
      rw [List.reduceOption_cons_of_some, List.map_cons,
        ih fun o ho => h o (List.mem_cons_of_mem _ ho)]

theorem Framed.row_eq {names : List String} {count i : Nat} (h : Framed names count n df)
    (hi : i < n) : (df.columns.map fun x => x.cells[i]?) = (df.row i).map some := by
  refine (map_some_reduceOption fun o ho => ?_).symm
  obtain ⟨x, hx, rfl⟩ := List.mem_map.mp ho
  rw [List.getElem?_eq_getElem (by rw [h.cells x hx]; exact hi)]
  rfl

theorem Framed.rows_eq {names : List String} {count : Nat} (h : Framed names count n df) :
    df.rows = (List.range n).map df.row := by
  rw [DataFrame.rows, DataFrame.nrow, h.row_names, neg_neg, Int.toNat_natCast]

-- A column is given by its type and by its cells.
theorem columns_ext : ∀ {xs ys : List Column}, xs.map kind = ys.map kind →
    (∀ x ∈ xs, x.cells.length = n) → (∀ y ∈ ys, y.cells.length = n) →
    (∀ i < n, (xs.map fun x => x.cells[i]?) = ys.map fun y => y.cells[i]?) → xs = ys := by
  intro xs
  induction xs with
  | nil =>
      intro ys hkinds _ _ _
      exact (List.map_eq_nil_iff.mp hkinds.symm).symm
  | cons x xs ih =>
      intro ys hkinds hxs hys hcells
      cases ys with
      | nil => cases hkinds
      | cons y ys =>
          obtain ⟨hkind, hrest⟩ := List.cons.inj hkinds
          have htail : xs = ys := by
            apply ih hrest
            · exact fun x hx => hxs x (List.mem_cons_of_mem _ hx)
            · exact fun y hy => hys y (List.mem_cons_of_mem _ hy)
            · exact fun i hi => (List.cons.inj (hcells i hi)).2
          have hhead : x.cells = y.cells := by
            apply List.ext_getElem?
            intro i
            by_cases hi : i < n
            · exact (List.cons.inj (hcells i hi)).1
            · rw [List.getElem?_eq_none, List.getElem?_eq_none]
              · rw [hys y List.mem_cons_self]
                omega
              · rw [hxs x List.mem_cons_self]
                omega
          obtain ⟨htype, hklass, hunits⟩ := ColumnKind.mk.inj hkind
          rw [htail]
          congr 1
          cases x
          cases y
          simp_all

-- Two chunks with the same rows are the same.
theorem chunk_ext {df' : DataFrame} (h : Chunk r n df) (h' : Chunk r m df')
    (hrows : df.rows = df'.rows) : df = df' := by
  rw [h.framed.rows_eq, h'.framed.rows_eq] at hrows
  have hlength := congrArg List.length hrows
  rw [List.length_map, List.length_map, List.length_range, List.length_range] at hlength
  subst hlength
  have hcolumns : df.columns = df'.columns := by
    apply columns_ext (h.kinds.trans h'.kinds.symm) h.framed.cells h'.framed.cells
    intro i hi
    have hrow := congrArg (·[i]?) hrows
    simp only [List.getElem?_map, List.getElem?_range hi, Option.map_some, Option.some.injEq]
      at hrow
    rw [h.framed.row_eq hi, h'.framed.row_eq hi, hrow]
  cases df
  cases df'
  cases h.names.trans h'.names.symm
  cases h.framed.row_names.trans h'.framed.row_names.symm
  cases hcolumns
  rfl

theorem append_kinds : ∀ {xs ys : List Column}, xs.length = ys.length →
    (xs.zipWith append_column ys).map kind = xs.map kind := by
  intro xs ys hlen
  exact map_zipWith_left append_column kind xs (fun _ _ _ => rfl) hlen

theorem append_upper {i : Nat} : ∀ {xs ys : List Column}, (∀ x ∈ xs, x.cells.length = n) →
    xs.length = ys.length →
    ((xs.zipWith append_column ys).map fun x => x.cells[n + i]?) = ys.map fun y => y.cells[i]? := by
  intro xs
  induction xs with
  | nil =>
      intro ys _ hlen
      obtain rfl := List.length_eq_zero_iff.mp hlen.symm
      rfl
  | cons x xs ih =>
      intro ys hxs hlen
      obtain ⟨y, ys, rfl⟩ := List.exists_cons_of_length_eq_add_one hlen.symm
      have hupper : (append_column x y).cells[n + i]? = y.cells[i]? := by
        rw [append_column, List.getElem?_append_right (by rw [hxs x List.mem_cons_self]; omega),
          hxs x List.mem_cons_self, Nat.add_sub_cancel_left]
      rw [List.zipWith_cons_cons, List.map_cons, List.map_cons, hupper,
        ih (fun x hx => hxs x (List.mem_cons_of_mem _ hx)) (Nat.succ.inj hlen)]

theorem append_lower {i : Nat} (hi : i < n) {xs ys : List Column}
    (hxs : ∀ x ∈ xs, x.cells.length = n) (hlen : xs.length = ys.length) :
    ((xs.zipWith append_column ys).map fun x => x.cells[i]?) = xs.map fun x => x.cells[i]? := by
  refine map_zipWith_left append_column _ xs (fun x hx y => ?_) hlen
  exact List.getElem?_append_left (by rw [hxs x hx]; exact hi)

-- Chunks of n and of m rows make one of n + m rows.
theorem bind_frames_chunk {df' : DataFrame} (h : Chunk r n df) (h' : Chunk r m df') :
    ∃ out, bind_frames df df' = some out ∧ Chunk r (n + m) out ∧
      out.rows = df.rows ++ df'.rows := by
  have hlen : df.columns.length = df'.columns.length :=
    h.framed.columns.trans h'.framed.columns.symm
  refine ⟨_, if_pos ⟨h.names.trans h'.names.symm, h.kinds.trans h'.kinds.symm⟩, ?_⟩
  have hframed : Framed r.names_ r.types_.length (n + m) {
      names := df.names
      row_names := df.row_names + df'.row_names
      columns := df.columns.zipWith append_column df'.columns } := by
    refine ⟨h.names, ?_, ?_, fun x hx => ?_⟩
    · rw [List.length_zipWith, ← hlen, Nat.min_self]
      exact h.framed.columns
    · rw [h.framed.row_names, h'.framed.row_names, Nat.cast_add, neg_add]
    · obtain ⟨j, hj⟩ := List.mem_iff_getElem?.mp hx
      rw [List.getElem?_zipWith] at hj
      split at hj
      · rename_i y z hy hz
        cases hj
        rw [append_column, List.length_append, h.framed.cells y (List.mem_of_getElem? hy),
          h'.framed.cells z (List.mem_of_getElem? hz)]
      · cases hj
  refine ⟨⟨⟨h.names, (append_kinds hlen).trans h.kinds⟩, hframed⟩, ?_⟩
  rw [hframed.rows_eq, h.framed.rows_eq, h'.framed.rows_eq, List.range_add, List.map_append,
    List.map_map]
  congr 1
  · apply List.map_congr_left
    intro i hi
    rw [DataFrame.row, append_lower (List.mem_range.mp hi) h.framed.cells hlen]
    rfl
  · apply List.map_congr_left
    intro i _
    rw [Function.comp_apply, DataFrame.row, append_upper h.framed.cells hlen]
    rfl

theorem foldlM_chunks : ∀ {dfs : List DataFrame} {df : DataFrame} {n : Nat}, Chunk r n df →
    (∀ df' ∈ dfs, ∃ m, Chunk r m df') → ∃ out k, dfs.foldlM bind_frames df = some out ∧
      Chunk r k out ∧ out.rows = df.rows ++ delivered dfs := by
  intro dfs
  induction dfs with
  | nil => exact fun {df n} h _ => ⟨df, n, rfl, h, (List.append_nil _).symm⟩
  | cons df' dfs ih =>
      intro df n h hdfs
      obtain ⟨m, h'⟩ := hdfs df' List.mem_cons_self
      obtain ⟨out, hbind, hout, hrows⟩ := bind_frames_chunk h h'
      obtain ⟨out', k, hrest, hout', hrows'⟩ :=
        ih hout fun df hdf => hdfs df (List.mem_cons_of_mem _ hdf)
      refine ⟨out', k, ?_, hout', ?_⟩
      · rw [List.foldlM_cons, hbind]
        exact hrest
      · rw [hrows', hrows, List.append_assoc, delivered, delivered, List.flatMap_cons]

-- Chunks with the rows of a chunk make up that chunk.
theorem row_bind_chunks {dfs : List DataFrame} (hdfs : ∀ df' ∈ dfs, ∃ m, Chunk r m df')
    (hsome : dfs ≠ []) (h : Chunk r n df) (hrows : delivered dfs = df.rows) :
    row_bind dfs = some df := by
  cases dfs with
  | nil => exact absurd rfl hsome
  | cons df' dfs =>
      obtain ⟨m, h'⟩ := hdfs df' List.mem_cons_self
      obtain ⟨out, k, hbind, hout, hrest⟩ :=
        foldlM_chunks h' fun df hdf => hdfs df (List.mem_cons_of_mem _ hdf)
      rw [delivered, List.flatMap_cons] at hrows
      rw [row_bind, hbind, chunk_ext hout h (hrest.trans hrows)]

end Binding

section Fetches

variable (srv) in
-- Fetches of these sizes, one after the other
def fetches (fuel : Nat) : List ℤ → EStateM Exc (Obj MariaResultPrep) (List DataFrame)
  | [] => pure []
  | n :: ns => do
      let df ← fetch srv fuel n
      let dfs ← fetches fuel ns
      pure (df :: dfs)

-- A frame that was fetched with the size n
structure Fetched (r : MariaResultPrep) (n : ℤ) (df : DataFrame) : Prop where
  kinds : kinds df = r.types_.map (if n = 0 then bare_kind else column_kind)
  framed : ∃ k, Framed r.names_ r.types_.length k df

theorem fetches_fetched {fuel : Nat} {ns : List ℤ} : ∀ {s : Obj MariaResultPrep}
    {frames : List DataFrame}, s.self.has_result = true →
    (fetches srv fuel ns).run s = .ok frames t → List.Forall₂ (Fetched s.self) ns frames := by
  induction ns with
  | nil =>
      intro s frames _ hrun
      cases hrun
      exact .nil
  | cons n ns ih =>
      intro s frames hresult hrun
      obtain ⟨df, u, hfetch, hrun⟩ := of_run_bind_ok hrun
      obtain ⟨dfs, v, hrest, hrun⟩ := of_run_bind_ok hrun
      cases hrun
      obtain ⟨k, -, hframed⟩ := fetch_framed hfetch
      have hsame : SameColumns false s.self u.self :=
        (fetch_persists fuel n).run_ok hfetch (SameColumns.refl _)
      refine .cons ⟨fetch_kinds hresult hfetch, k, hframed⟩ ?_
      have hu : u.self.has_result = true := by
        rw [has_result, hsame.spec hresult]
        exact hresult
      refine (ih hu hrest).imp fun n df h => ⟨?_, ?_⟩
      · rw [h.kinds, hsame.types]
      · rw [← hsame.names, ← hsame.types]
        exact h.framed

theorem Run.fetches {q : Query} {last : Option (List SEXP)} {fuel : Nat} {ns : List ℤ} :
    ∀ {s : Obj MariaResultPrep} {before frames : List DataFrame}, Run srv q s last before →
      (fetches srv fuel ns).run s = .ok frames t → Run srv q t last (before ++ frames) := by
  induction ns with
  | nil =>
      intro s before frames h hrun
      cases hrun
      rwa [List.append_nil]
  | cons n ns ih =>
      intro s before frames h hrun
      obtain ⟨df, u, hfetch, hrun⟩ := of_run_bind_ok hrun
      obtain ⟨dfs, v, hrest, hrun⟩ := of_run_bind_ok hrun
      cases hrun
      rw [← List.singleton_append, ← List.append_assoc]
      exact ih (h.fetch hfetch) hrest

-- vlapply(df, inherits, klass)
def inherits (df : DataFrame) (klass : String) : List Bool :=
  df.columns.map fun x => x.klass.contains klass

-- The columns that convert_bigint() converts.
def is_int64 (df : DataFrame) : List Bool := inherits df "integer64"

-- The columns that fix_timezone() converts.
def is_datetime (df : DataFrame) : List Bool := inherits df "POSIXt"

-- The frames have the same columns, the same of them are converted, and the chunks of
-- a split can be bound to the frame of a single fetch.
structure TypeStable (srv : Server) (s : Obj MariaResultPrep) (frames : List DataFrame) :
    Prop where
  columns : ∀ df ∈ frames, Stable s.self df
  converted : ∀ df ∈ frames, is_int64 df = s.self.types_.map (decide <| · = .MY_INT64) ∧
    is_datetime df = s.self.types_.map (decide <| · = .MY_DATE_TIME)
  rows : ∀ {q : Query} {last : Option (List SEXP)} {before : List DataFrame} {fuel : Nat}
    {whole : DataFrame} {u : Obj MariaResultPrep}, Answers srv q → Run srv q s last before →
    (fetch srv fuel (-1)).run s = .ok whole u → frames ≠ [] →
    (delivered frames).length = whole.rows.length → row_bind frames = some whole

theorem inherits_kinds {df : DataFrame} {r : MariaResultPrep} (h : Stable r df) (klass : String) :
    inherits df klass = r.types_.map fun type => (column_kind type).klass.contains klass := by
  have hkinds : inherits df klass = (kinds df).map fun k => k.klass.contains klass := by
    rw [kinds, List.map_map]
    rfl
  rw [hkinds, h.kinds, List.map_map]
  rfl

theorem stable_converted {r : MariaResultPrep} (h : Stable r df) :
    is_int64 df = r.types_.map (decide <| · = .MY_INT64) ∧
      is_datetime df = r.types_.map (decide <| · = .MY_DATE_TIME) := by
  rw [is_int64, is_datetime, inherits_kinds h, inherits_kinds h]
  constructor
  · apply List.map_congr_left
    intro type _
    cases type <;> decide
  · apply List.map_congr_left
    intro type _
    cases type <;> decide

theorem stable_iff_of_fetched {r : MariaResultPrep} {n : ℤ} (h : Fetched r n df) :
    Stable r df ↔ (n = 0 → ∀ type ∈ r.types_, ¬Classed type) := by
  obtain ⟨k, hframed⟩ := h.framed
  have hkinds : Stable r df ↔ kinds df = r.types_.map column_kind :=
    ⟨Stable.kinds, fun hk => ⟨hframed.names, hk⟩⟩
  rw [hkinds, h.kinds]
  by_cases hn : n = 0
  · rw [if_pos hn, List.map_inj_left]
    simp only [bare_kind_iff, hn, true_implies]
  · rw [if_neg hn]
    exact ⟨fun _ h => absurd h hn, fun _ => rfl⟩

theorem all_stable_iff {r : MariaResultPrep} {ns : List ℤ} {frames : List DataFrame}
    (h : List.Forall₂ (Fetched r) ns frames) : (∀ df ∈ frames, Stable r df) ↔
      (0 ∈ ns → ∀ type ∈ r.types_, ¬Classed type) := by
  induction h with
  | nil => simp
  | cons hdf _ ih =>
      rw [List.forall_mem_cons, ih, stable_iff_of_fetched hdf, List.mem_cons, or_imp, eq_comm]

theorem chunks_of_fetched {r : MariaResultPrep} {ns : List ℤ} {frames : List DataFrame}
    (h : List.Forall₂ (Fetched r) ns frames) (hstable : ∀ df ∈ frames, Stable r df) :
    ∀ df ∈ frames, ∃ k, Chunk r k df := by
  induction h with
  | nil => exact fun df hdf => by cases hdf
  | cons hdf _ ih =>
      obtain ⟨hhead, htail⟩ := List.forall_mem_cons.mp hstable
      obtain ⟨k, hframed⟩ := hdf.framed
      exact List.forall_mem_cons.mpr ⟨⟨k, hhead, hframed⟩, ih htail⟩

-- What two sequences of fetches return of a result starts alike.
theorem delivered_eq {q : Query} {last : Option (List SEXP)} {u : Obj MariaResultPrep}
    {before frames frames' : List DataFrame} (hsrv : Answers srv q)
    (h : Run srv q t last (before ++ frames)) (h' : Run srv q u last (before ++ frames'))
    (hlength : (delivered frames).length = (delivered frames').length) :
    delivered frames = delivered frames' := by
  obtain ⟨rows, hprefix, hrows⟩ := rows_of_run hsrv h
  obtain ⟨rows', hprefix', hrows'⟩ := rows_of_run hsrv h'
  rw [delivered, List.flatMap_append, ← delivered, ← delivered] at hrows hrows'
  have heq : rows = rows' := by
    have hlen := length_of_mapM hrows
    have hlen' := length_of_mapM hrows'
    rw [List.length_append] at hlen hlen'
    exact (List.prefix_of_prefix_length_le hprefix hprefix' (by omega)).eq_of_length (by omega)
  rw [heq, hrows'] at hrows
  exact (List.append_cancel_left (Except.ok.inj hrows)).symm

-- The frames are alike unless one of them was fetched with n = 0 and has columns with classes.
theorem type_stable_iff {fuel : Nat} {ns : List ℤ} {frames : List DataFrame}
    (hresult : s.self.has_result = true) (hrun : (fetches srv fuel ns).run s = .ok frames t) :
    TypeStable srv s frames ↔ (0 ∈ ns → ∀ type ∈ s.self.types_, ¬Classed type) := by
  have hfetched := fetches_fetched hresult hrun
  rw [← all_stable_iff hfetched]
  refine ⟨TypeStable.columns, fun hcolumns => ⟨hcolumns, ?_, ?_⟩⟩
  · exact fun df hdf => stable_converted (hcolumns df hdf)
  · intro q last before fuel' whole u hsrv hreached hwhole hsome hlength
    have hone : (fetches srv fuel' [-1]).run s = .ok [whole] u := by
      rw [fetches, run_bind_ok hwhole]
      rfl
    have hwhole := fetches_fetched hresult hone
    have hstable := (all_stable_iff hwhole).mpr fun hzero => absurd hzero (by decide)
    obtain ⟨k, hchunk⟩ := chunks_of_fetched hwhole hstable whole List.mem_cons_self
    have hrows : delivered frames = delivered [whole] := by
      apply delivered_eq hsrv (hreached.fetches hrun) (hreached.fetches hone)
      rw [hlength, delivered, List.flatMap_singleton]
    rw [delivered, delivered, List.flatMap_singleton] at hrows
    exact row_bind_chunks (chunks_of_fetched hfetched hcolumns) hsome hchunk hrows

theorem type_stable_numbers : ∃ s frames, frames.length = 2 ∧ (delivered frames).length = 3 ∧
    TypeStable numbers_server s frames := by
  obtain ⟨s, hrun, hbound⟩ := numbers_run
  obtain ⟨df, t, hfetch⟩ := (end_of_run numbers_answers hrun (by decide) (-1)
    (Nat.lt_succ_self _)).2 hbound three_keys_convertible
  have hrows := length_of_run numbers_answers hrun hfetch
  obtain ⟨st, hserves⟩ := (hrun.accounts numbers_answers).serves
  have hnone : (fetch numbers_server (left_over numbers (some three_keys) []).succ 0).run s =
      .ok (df_create s.self.types_ s.self.names_ 0) s := fetch_zero hbound hserves.has_result _
  have hfetches : (fetches numbers_server (left_over numbers (some three_keys) []).succ
      [0, -1]).run s = .ok [df_create s.self.types_ s.self.names_ 0, df] t := by
    rw [fetches, run_bind_ok hnone, fetches, bind_assoc, run_bind_ok hfetch]
    rfl
  have hdelivered : delivered [df_create s.self.types_ s.self.names_ 0, df] = df.rows := by
    rw [delivered, List.flatMap_cons, List.flatMap_singleton]
    rfl
  refine ⟨s, _, rfl, (congrArg List.length hdelivered).trans (hrows.trans three_keys_left),
    (type_stable_iff hserves.has_result hfetches).mpr fun _ type htype => ?_⟩
  rw [show s.self.types_ = [.MY_INT32] from hserves.types, List.mem_singleton] at htype
  rw [htype]
  decide

-- A query for the dates of a table without rows
def dates : Query where
  handle := 0
  sql := "SELECT d FROM t"
  param_count := 0
  fields := [⟨"d", .MYSQL_TYPE_DATE, 63, 10⟩]
  rows := fun _ => []

def dates_server : Server := { Server.agreeable with
  prepare := fun _ _ => .ok ⟨dates.param_count, some dates.fields⟩
  execute := fun _ _ _ => .ok { rows := some [] } }

theorem dates_answers : Answers dates_server dates := by
  refine ⟨fun _ => rfl, fun _ => rfl, fun _ params => ⟨_, rfl, rfl⟩, fun _ => rfl, fun _ => rfl,
    fun _ => rfl, ?_⟩
  intro params row hrow
  cases hrow

-- Without rows being asked for, a date is a number.
theorem dates_fetched_unclassed : ∃ s t frames,
    (opened dates_server false dates.sql).run ⟨{}, {}⟩ = .ok () s ∧
    (fetches dates_server 0 [0]).run s = .ok frames t ∧ ¬TypeStable dates_server s frames := by
  obtain ⟨s, st, hopened, hserves, -, -, hbound, -⟩ := opened_run (s := ⟨{}, {}⟩) dates_answers
    ⟨rfl, rfl, rfl, rfl⟩ rfl rfl false
  have hfetch : (fetch dates_server 0 0).run s = .ok (df_create s.self.types_ s.self.names_ 0) s :=
    fetch_zero (hbound.mpr rfl) hserves.has_result 0
  refine ⟨s, s, _, hopened, by rw [fetches, run_bind_ok hfetch]; rfl, fun h => ?_⟩
  have hkinds := (h.columns _ List.mem_cons_self).kinds
  rw [kinds_create, show s.self.types_ = [.MY_DATE] from hserves.types] at hkinds
  exact absurd hkinds (by decide)

end Fetches

end RMariaDB.MariaResultPrep
