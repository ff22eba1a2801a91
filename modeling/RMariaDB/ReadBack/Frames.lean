import RMariaDB.MariaResultPrep.Stable
import RMariaDB.ReadBack

-- A data frame that was bound to an INSERT comes back from the table.

namespace RMariaDB.ReadBack

open Program RVector Table Coerce MariaBinding MariaResultPrep

variable {lib : RLibrary} {timezone : String} {value : RFrame} {kinds : List Kind}

section Sent

def Storable (lib : RLibrary) (timezone : String) (value : RFrame) (kinds : List Kind) : Prop :=
  List.Forall₂ (IsKind lib timezone) kinds value.columns

-- Row i, as it is fetched
def returned_row (lib : RLibrary) (timezone : String) (kinds : List Kind) (xs : List RVector) (i : Nat) :
    List Cell := kinds.zipWith (fun k x => returned lib timezone k x i) xs

def echo_row (row : List Param) : Row := row.map fun p => p.value.map echo

theorem kind_of_sends {k : Kind} {x : RVector} (h : Sends lib timezone k x) :
    ∃ kind, kind_of (sql_data lib timezone x) = .ok kind ∧
      ∀ i p, plain_value lib timezone x i = .ok p →
        param_of i kind (sql_data lib timezone x) = .ok ⟨kind.2, p⟩ := by
  obtain ⟨t, ht⟩ := h.type
  refine ⟨(t, (binding_of t).1), by rw [kind_of, ht]; rfl, fun i p hp => ?_⟩
  have hvalue : param_value t (sql_data lib timezone x) i = .ok p := by
    rwa [plain_value, ht] at hp
  rw [param_of, hvalue]
  rfl

theorem kinds_of_sends {xs : List RVector} (h : List.Forall₂ (Sends lib timezone) kinds xs) :
    ∃ slots, (Coerce.sent lib timezone xs).mapM kind_of = .ok slots ∧
      ∀ i, (∀ x ∈ xs, i < x.length) → ∃ row, row_of i slots (Coerce.sent lib timezone xs) = .ok row ∧
        RowFits (kinds.map Kind.type) (echo_row row) ∧
        row_cells (kinds.map Kind.type) (echo_row row) = .ok (returned_row lib timezone kinds xs i) := by
  induction h with
  | nil => exact ⟨[], rfl, fun i _ => ⟨[], rfl, .nil, rfl⟩⟩
  | @cons k x ks xs hx _ ih =>
      obtain ⟨slots, hslots, hrows⟩ := ih
      obtain ⟨kind, hkind, hparam⟩ := kind_of_sends hx
      refine ⟨kind :: slots, ?_, fun i hi => ?_⟩
      · rw [Coerce.sent, List.map_cons, List.mapM_cons, hkind, ok_bind]
        rw [Coerce.sent] at hslots
        rw [hslots]
        rfl
      · obtain ⟨row, hrow, hfits, hcells⟩ := hrows i fun x hx => hi x (List.mem_cons_of_mem _ hx)
        obtain ⟨p, hp, hpfits, hpcell⟩ := hx.values i (hi x List.mem_cons_self)
        refine ⟨⟨kind.2, p⟩ :: row, ?_, .cons hpfits hfits, ?_⟩
        · rw [row_of, Coerce.sent, List.map_cons, List.zip_cons_cons, List.mapM_cons, hparam i p hp]
          rw [row_of, Coerce.sent] at hrow
          rw [ok_bind, hrow]
          rfl
        · rw [row_cells, echo_row, List.map_cons, List.map_cons, List.zip_cons_cons, List.mapM_cons,
            hpcell]
          rw [row_cells, echo_row] at hcells
          rw [ok_bind, hcells]
          rfl

end Sent

section Reading

variable {srv : Server} {q : Query} {s t : Obj MariaResultPrep} {frames : List DataFrame}

-- The query for all rows of the table that was created for the frame, after the rows were inserted
structure ReadsBack (value : RFrame) (rows : List (List Param)) (q : Query) : Prop where
  param_count : q.param_count = 0
  names : q.fields.map MYSQL_FIELD.name = value.names.map String.ofList
  fields : List.Forall₂ (fun x f => ∃ t, dbDataType x = .ok t ∧ Declared t f)
    value.columns q.fields
  rows : q.rows [] = rows.map echo_row

theorem read_types (h : Storable lib timezone value kinds)
    {fields : List MYSQL_FIELD} (hfields : List.Forall₂ (fun x f =>
      ∃ t, dbDataType x = .ok t ∧ Declared t f) value.columns fields) :
    fields.map field_type = kinds.map Kind.type := by
  unfold Storable at h
  generalize value.columns = xs at *
  induction h generalizing fields with
  | nil =>
      cases hfields
      rfl
  | cons hk _ ih =>
      cases hfields with
      | cons hf hrest =>
          obtain ⟨t, ht, hdeclared⟩ := hf
          obtain ⟨t', ht', htype⟩ := kind_declared hk
          cases ht.symm.trans ht'
          rw [List.map_cons, List.map_cons, hdeclared.type, htype, ih hrest]

theorem opened_names (hsrv : Answers srv q) (hidle : Idle s.mysql)
    (hhandle : s.mysql.next_stmt = q.handle) {is_statement : Bool}
    (h : (opened srv is_statement q.sql).run s = .ok () t) (hcount : q.param_count = 0) :
    t.self.names_ = q.fields.map MYSQL_FIELD.name := by
  obtain ⟨hconnected, hreading, hmore, hunstored⟩ := id hidle
  obtain ⟨r, hr, hrows⟩ := hsrv.execute (s.mysql.tick + 1 + 1) []
  have hinit : srv.stmt_init s.mysql.tick = true := by
    by_contra hinit
    simp [opened, construct, mysql_stmt_init, hinit] at h
  simp [opened, construct, mysql_stmt_init, hinit, send_query, mysql_stmt_prepare, deref,
    MYSQL.refuses, hconnected, hreading, hmore, hunstored, hsrv.prepare, mysql_stmt_param_count,
    mysql_stmt_result_metadata, hcount, execute, has_result, mysql_stmt_execute, hr, hrows,
    cache_metadata, mysql_fetch_fields, output, MariaRow.setup, mysql_stmt_bind_result,
    hsrv.bind_result, hhandle] at h
  rw [← h]

-- A query without parameters is bound when it is sent.
theorem run_bound (hsrv : Answers srv q) (hcount : q.param_count = 0)
    {last : Option (List SEXP)} (h : Run srv q s last frames) (hlast : last = none) :
    s.self.bound_ = true ∧ s.self.names_ = q.fields.map MYSQL_FIELD.name := by
  induction h with
  | @send s t is_statement hidle hhandle hrun =>
      have hnames := opened_names hsrv hidle hhandle hrun hcount
      have hinit : srv.stmt_init s.mysql.tick = true := by
        by_contra hinit
        simp [opened, construct, mysql_stmt_init, hinit] at hrun
      obtain ⟨u, st, hopened, -, -, -, hbound, -⟩ := opened_run hsrv hidle hhandle hinit is_statement
      rw [hopened] at hrun
      cases hrun
      exact ⟨hbound.mpr hcount, hnames⟩
  | bind => cases hlast
  | @fetch s t last frames fuel n df hrun hfetch ih =>
      obtain ⟨hbound, hnames⟩ := ih hlast
      obtain ⟨⟨st, hreads⟩, -⟩ := (hrun.accounts hsrv).bound hbound
      obtain ⟨st', -, -, ht, -⟩ := fetch_ok hsrv hreads hfetch
      have hsame : SameColumns false s.self t.self :=
        (fetch_persists fuel n).run_ok hfetch (SameColumns.refl _)
      exact ⟨ht.bound, hsame.names.trans hnames⟩

-- The frame, as it is fetched
def returned_rows (lib : RLibrary) (timezone : String) (kinds : List Kind) (value : RFrame) :
    List (List Cell) := (List.range value.nrow).map (returned_row lib timezone kinds value.columns)

-- What is sent of a frame: a row for each of its rows, none of which raises
structure SentRows (lib : RLibrary) (timezone : String) (kinds : List Kind) (value : RFrame)
    (rows : List (List Param)) : Prop where
  accepted : Accepted value.columns.length (Coerce.sent lib timezone value.columns)
  sent : MariaResultPrep.sent (Coerce.sent lib timezone value.columns) = rows.map .ok
  fits : ∀ row ∈ rows, RowFits (kinds.map Kind.type) (echo_row row)
  cells : (rows.map echo_row).mapM (row_cells (kinds.map Kind.type)) =
    .ok (returned_rows lib timezone kinds value)

theorem mapM_rows {α β : Type} {f : Nat → Except Exc α} {g : α → Except Exc β} {h : Nat → β}
    {P : α → Prop} : ∀ (is : List Nat), (∀ i ∈ is, ∃ a, f i = .ok a ∧ P a ∧ g a = .ok (h i)) →
      ∃ as : List α, is.map f = as.map .ok ∧ (∀ a ∈ as, P a) ∧ as.mapM g = .ok (is.map h) := by
  intro is
  induction is with
  | nil => exact fun _ => ⟨[], rfl, by simp, rfl⟩
  | cons i is ih =>
      intro hall
      obtain ⟨a, ha, hP, hg⟩ := hall i List.mem_cons_self
      obtain ⟨as, has, hPs, hgs⟩ := ih fun j hj => hall j (List.mem_cons_of_mem _ hj)
      refine ⟨a :: as, by rw [List.map_cons, List.map_cons, ha, has], ?_, ?_⟩
      · exact List.forall_mem_cons.mpr ⟨hP, hPs⟩
      · rw [List.mapM_cons, hg, ok_bind, hgs]
        rfl

theorem frame_sent (h : Storable lib timezone value kinds) (hne : value.columns ≠ []) :
    ∃ rows, SentRows lib timezone kinds value rows := by
  have hsends : List.Forall₂ (Sends lib timezone) kinds value.columns := h.imp fun _ _ => kind_sends
  obtain ⟨slots, hslots, hrow⟩ := kinds_of_sends hsends
  have haccepted : Accepted value.columns.length (Coerce.sent lib timezone value.columns) :=
    ⟨by rw [Coerce.sent, List.length_map], by simpa using hne, slots, hslots⟩
  have hlength : (Coerce.sent lib timezone value.columns).head?.elim 0 SEXP.xlength = value.nrow := by
    obtain ⟨x, xs, hx⟩ := List.exists_cons_of_ne_nil hne
    rw [hx] at hsends
    cases hsends with
    | cons hk _ =>
        rw [Coerce.sent, hx, List.map_cons, List.head?_cons, Option.elim_some, hk.length]
        exact value.rows x (by rw [hx]; exact List.mem_cons_self)
  obtain ⟨rows, hrows, hfits, hcells⟩ := mapM_rows (List.range value.nrow)
    (f := fun i => row_of i slots (Coerce.sent lib timezone value.columns))
    (g := fun row => row_cells (kinds.map Kind.type) (echo_row row))
    (h := returned_row lib timezone kinds value.columns)
    (P := fun row => RowFits (kinds.map Kind.type) (echo_row row))
    (fun i hi => hrow i fun x hx => by rw [value.rows x hx]; exact List.mem_range.mp hi)
  refine ⟨rows, haccepted, ?_, hfits, ?_⟩
  · rw [sent_eq hslots, hlength, hrows]
  · rw [List.mapM_map]
    exact hcells

theorem mapM_initial {α β : Type} {f : α → Except Exc β} {xs ys : List α} {zs ws : List β}
    (hfirst : xs <+: ys) (hxs : xs.mapM f = .ok zs) (hys : ys.mapM f = .ok ws) : zs <+: ws := by
  obtain ⟨rest, rfl⟩ := hfirst
  rw [List.mapM_append, hxs, ok_bind] at hys
  obtain ⟨more, -, hmore⟩ := of_bind_eq_ok hys
  cases hmore
  exact List.prefix_append zs more

theorem exists_of_mapM {α β : Type} {f : α → Except Exc β} {xs : List α} {ys : List β}
    (h : xs.mapM f = .ok ys) : ∀ x ∈ xs, ∃ y, f x = .ok y := by
  intro x hx
  obtain ⟨i, hi, rfl⟩ := List.getElem_of_mem hx
  have hlength := length_of_mapM h
  have hmem : (ys[i], xs[i]) ∈ ys.zip xs := by
    rw [List.mem_iff_getElem?]
    exact ⟨i, by simp [hi, hlength]⟩
  exact ⟨_, of_mapM_eq_ok h _ hmem⟩

theorem total_none (hcount : q.param_count = 0) : q.total none = q.rows [] := by
  simp [Query.total, Query.executions, hcount, Cursor.available, Except.map]

-- Once the rows of a frame are inserted, the table is read as the frame, however it is fetched:
-- every column under its name and in the storage type of its SQL type.
theorem frame_read_back (h : Storable lib timezone value kinds) (hne : value.columns ≠ []) :
    ∃ rows, SentRows lib timezone kinds value rows ∧
      ∀ {srv : Server} {q : Query} {s : Obj MariaResultPrep} {frames : List DataFrame},
        Answers srv q → ReadsBack value rows q → Run srv q s none frames → value.nrow < 2 ^ 30 →
        delivered frames <+: returned_rows lib timezone kinds value ∧
        ∀ fuel, value.nrow < fuel → ∃ df t, (fetch srv fuel (-1)).run s = .ok df t ∧
          delivered (frames ++ [df]) = returned_rows lib timezone kinds value ∧
          df.names = value.names.map String.ofList ∧
          MariaResultPrep.kinds df = kinds.map fun k => column_kind k.type := by
  obtain ⟨rows, hrows⟩ := frame_sent h hne
  refine ⟨rows, hrows, fun {srv q s frames} hsrv hread hrun hsize => ?_⟩
  have htypes : q.types = kinds.map Kind.type := read_types h hread.fields
  have htotal : q.total none = rows.map echo_row := by rw [total_none hread.param_count, hread.rows]
  have hall : (q.total none).mapM (row_cells q.types) = .ok (returned_rows lib timezone kinds value) := by
    rw [htotal, htypes, hrows.cells]
  have hlength : (q.total none).length = value.nrow := by
    rw [← length_of_mapM hall, returned_rows, List.length_map, List.length_range]
  obtain ⟨hbound, hnames⟩ := run_bound hsrv hread.param_count hrun rfl
  obtain ⟨⟨before, hbefore, hdelivered⟩, -, hends⟩ := rows_in_order hsrv hrun (by rwa [hlength])
  have hfirst := mapM_initial hbefore hdelivered hall
  refine ⟨hfirst, fun fuel hfuel => ?_⟩
  have hconvertible : Convertible q none := by
    refine ⟨fun params hparams => ?_, exists_of_mapM hall⟩
    rw [Query.executions, if_pos hread.param_count, List.mem_singleton] at hparams
    exact ⟨[], hparams⟩
  obtain ⟨df, t, hfetch⟩ := (hends (-1) fuel (by unfold left_over; omega)).2 hbound hconvertible
  have hnext : Run srv q t none (frames ++ [df]) := .fetch hrun hfetch
  obtain ⟨⟨after, hafter, hdelivered'⟩, -, -⟩ := rows_in_order hsrv hnext (by rwa [hlength])
  have hnow := mapM_initial hafter hdelivered' hall
  refine ⟨df, t, hfetch, hnow.eq_of_length ?_, ?_, ?_⟩
  · have hrest : df.rows.length = left_over q none frames := length_of_run hsrv hrun hfetch
    have hle := hfirst.length_le
    rw [← length_of_mapM hall] at hlength
    rw [delivered, List.flatMap_append, List.flatMap_singleton, List.length_append, hrest, left_over,
      ← length_of_mapM hall]
    rw [delivered] at hle ⊢
    omega
  · obtain ⟨k, -, hframed⟩ := fetch_framed hfetch
    rw [hframed.names, hnames, hread.names]
  · obtain ⟨st, hserves⟩ := (hrun.accounts hsrv).serves
    rw [fetch_kinds hserves.has_result hfetch, if_neg (by decide), hserves.types, htypes, List.map_map]
    rfl

end Reading

section Example

-- A number and none, and a day with a part of it
def visits : RFrame where
  names := ["n".toList, "day".toList]
  columns := [{ sexp := .INTSXP [] [7, NA_INTEGER] },
    { sexp := .REALSXP ["Date"] [⟨.finite (-3 / 2), 0⟩, ⟨.NA, 0⟩] }]
  nrow := 2
  named := rfl
  rows := by decide

theorem visits_storable : Storable utc "UTC" visits [.integer, .temporal .date] := by
  refine .cons ⟨by simp [IntegerLike], by decide, by decide, ?_⟩ (.cons ⟨⟨trivial, rfl, by decide⟩, id,
    rfl, by decide, ?_⟩ .nil)
  · intro i n hn
    simp only [integer_at, List.getElem?_cons] at hn
    rcases i with _ | _ | i
    · cases hn
      decide
    · simp [known] at hn
    · simp at hn
  · intro d hd
    simp only [Coerce.numbers, List.map_cons, List.map_nil, List.mem_cons, List.not_mem_nil, or_false] at hd
    rcases hd with rfl | rfl
    · change SqlDate ⌊(-3 / 2 : ℚ)⌋
      decide +kernel
    · trivial

-- The table from which the rows are read
def visits_query (rows : List (List Param)) : Query where
  handle := 0
  sql := "SELECT * FROM visits"
  param_count := 0
  fields := [⟨"n", .MYSQL_TYPE_LONG, 63, 11⟩, ⟨"day", .MYSQL_TYPE_DATE, 63, 10⟩]
  rows := fun _ => rows.map echo_row

def visits_server (rows : List (List Param)) : Server := { Server.agreeable with
  prepare := fun _ _ => .ok ⟨0, some (visits_query rows).fields⟩
  execute := fun _ _ params => .ok { rows := some ((visits_query rows).rows params) } }

theorem frame_read_back_visits : ∃ rows s df t, SentRows utc "UTC" [.integer, .temporal .date] visits rows ∧
    (fetch (visits_server rows) 3 (-1)).run s = .ok df t ∧ df.names = ["n", "day"] ∧
    df.rows = [[.int 7, .real (.finite (-2))], [.int NA_INTEGER, .real .NA]] := by
  obtain ⟨rows, hrows, hread⟩ := frame_read_back visits_storable (by simp [visits])
  have hanswers : Answers (visits_server rows) (visits_query rows) := by
    refine ⟨fun _ => rfl, fun _ => rfl, fun _ params => ⟨_, rfl, rfl⟩, fun _ => rfl, fun _ => rfl,
      fun _ => rfl, fun params row hrow => ?_⟩
    obtain ⟨params, hparams, rfl⟩ := List.mem_map.mp hrow
    exact hrows.fits params hparams
  have hback : ReadsBack visits rows (visits_query rows) :=
    ⟨rfl, rfl, .cons ⟨_, rfl, .integer rfl⟩ (.cons ⟨_, rfl, .date rfl⟩ .nil), rfl⟩
  obtain ⟨s, st, hopened, -⟩ := opened_run (s := ⟨{}, {}⟩) hanswers ⟨rfl, rfl, rfl, rfl⟩ rfl rfl false
  obtain ⟨-, hfetches⟩ := hread hanswers hback (.send ⟨rfl, rfl, rfl, rfl⟩ rfl hopened) (by decide)
  obtain ⟨df, t, hfetch, hdelivered, hnames, -⟩ := hfetches 3 (by decide)
  refine ⟨rows, s, df, t, hrows, hfetch, hnames, ?_⟩
  rw [List.nil_append, delivered, List.flatMap_singleton] at hdelivered
  rw [hdelivered]
  decide +kernel

end Example

end RMariaDB.ReadBack
