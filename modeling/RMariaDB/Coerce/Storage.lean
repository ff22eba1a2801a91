import RMariaDB.Coerce.Numbers

-- Which columns of the same values are bound alike, whether stored as integers or as doubles.

namespace RMariaDB

open Program

namespace MariaBinding

section Handed

-- The parameters that the statement has been given.
def given (s : Obj MariaBinding) : List Param :=
  ((s.self.statement.bind s.mysql.stmts).map MYSQL_STMT.params).getD []

-- The rows that mysql_stmt_bind_param() gets, up to one that raises an error.
def rows_handed : Nat → Obj MariaBinding → List (Except Exc (List Param))
  | 0, _ => []
  | n + 1, s => match bind_next_row.run s with
    | .ok true t => .ok (given t) :: rows_handed n t
    | .ok false _ => []
    | .error e _ => [.error e]

-- What dbBind() hands to the server.
structure Handed where
  types : List enum_field_types
  rows : List (Except Exc (List Param))
deriving DecidableEq, Repr

def bind_setup (statement : Option Nat) (params : List SEXP) :
    EStateM Exc (Obj MariaBinding) Unit := do
  setup statement
  init_binding params

def handed (statement : Option Nat) (params : List SEXP) (s : Obj MariaBinding) :
    Except Exc Handed :=
  match (bind_setup statement params).run s with
  | .ok _ t => .ok ⟨t.self.slots.map Slot.buffer_type, rows_handed t.self.n_rows t⟩
  | .error e _ => .error e

-- The same by the columns alone.
def rows_from (kinds : List (MariaFieldType × enum_field_types)) (cols : List SEXP) :
    Nat → Nat → List (Except Exc (List Param))
  | 0, _ => []
  | n + 1, i => match row_of i kinds cols with
    | .ok row => .ok row :: rows_from kinds cols n (i + 1)
    | .error e => [.error e]

variable {k : Nat} {st : MYSQL_STMT}

theorem rows_handed_eq {n : Nat} : ∀ {s : Obj MariaBinding} {st : MYSQL_STMT}, Matched s.self →
    s.self.statement = some k → s.mysql.stmts k = some st → s.self.n_rows = s.self.i + n →
    rows_handed n s = rows_from s.self.kinds s.self.params n s.self.i := by
  induction n with
  | zero => exact fun _ _ _ _ => rfl
  | succ n ih =>
      intro s st hmatched hstatement hst hrows
      obtain ⟨slots, hkinds, hrun⟩ := bind_next_row_run hmatched hstatement hst (by omega)
      have hrow : param_row s.self s.self.i = row_of s.self.i s.self.kinds s.self.params := rfl
      rw [rows_handed, rows_from, ← hrow]
      cases hparams : param_row s.self s.self.i with
      | error e =>
          rw [hparams] at hrun
          rw [hrun]
      | ok row =>
          rw [hparams] at hrun
          rw [hrun]
          have hrest := ih (s := { s with
              mysql.stmts := Function.update s.mysql.stmts k (some { st with params := row })
              self.slots := slots
              self.i := s.self.i + 1 })
            (hmatched.next hkinds _) hstatement (Function.update_self _ _ _)
            (by
              show s.self.n_rows = s.self.i + 1 + n
              omega)
          have hgiven : given { s with
              mysql.stmts := Function.update s.mysql.stmts k (some { st with params := row })
              self.slots := slots
              self.i := s.self.i + 1 } = row := by
            simp [given, hstatement]
          simp only [hgiven, hrest, MariaBinding.kinds, hkinds]

theorem handed_accepted {s : Obj MariaBinding} {params : List SEXP}
    (hst : s.mysql.stmts k = some st) (haccepted : Accepted st.param_count params) :
    ∃ kinds col, params.mapM kind_of = .ok kinds ∧ params.head? = some col ∧
      handed (some k) params s =
        .ok ⟨kinds.map Prod.snd, rows_from kinds params col.xlength 0⟩ := by
  obtain ⟨hlen, hpos, -⟩ := id haccepted
  obtain ⟨col, cols, rfl⟩ : ∃ col cols, params = col :: cols :=
    List.exists_cons_of_length_pos (by omega)
  have hsetup := setup_run hst
  obtain ⟨slots, hinit, hslots, hkinds⟩ := init_binding_accepted (s := { s with
      self.statement := some k
      self.p := st.param_count
      self.slots := resize s.self.slots st.param_count {} })
    (length_resize _ _ _) haccepted
  refine ⟨slots.map Slot.kind, col, hkinds, rfl, ?_⟩
  have hrun : (bind_setup (some k) (col :: cols)).run s = .ok () { s with
      self.statement := some k
      self.p := st.param_count
      self.params := col :: cols
      self.i := 0
      self.n_rows := col.xlength
      self.slots := slots } := by
    rw [bind_setup, run_bind_ok hsetup, hinit]
    rfl
  have hrows := rows_handed_eq (n := col.xlength) (s := { s with
      self.statement := some k
      self.p := st.param_count
      self.params := col :: cols
      self.i := 0
      self.n_rows := col.xlength
      self.slots := slots })
    ⟨hlen, hslots, hkinds⟩ rfl hst (Nat.zero_add _).symm
  rw [handed, hrun]
  simp only [hrows, MariaBinding.kinds, List.map_map]
  rfl

-- Columns are bound alike when they are of one kind and have the same parameters.
structure BoundAlike (col col' : SEXP) : Prop where
  kind : kind_of col = kind_of col'
  value : ∀ kind, kind_of col = .ok kind → ∀ i, param_of i kind col = param_of i kind col'
  length : col.xlength = col'.xlength

theorem BoundAlike.refl (col : SEXP) : BoundAlike col col := ⟨rfl, fun _ _ _ => rfl, rfl⟩

variable {cols cols' : List SEXP}

theorem kinds_alike (h : List.Forall₂ BoundAlike cols cols') :
    cols.mapM kind_of = cols'.mapM kind_of := by
  induction h with
  | nil => rfl
  | cons h _ ih => rw [List.mapM_cons, List.mapM_cons, h.kind, ih]

theorem row_alike (h : List.Forall₂ BoundAlike cols cols') (i : Nat) :
    ∀ {kinds}, cols.mapM kind_of = .ok kinds → row_of i kinds cols = row_of i kinds cols' := by
  induction h with
  | nil => exact fun _ => rfl
  | @cons col col' cols cols' h _ ih =>
      intro kinds hkinds
      rw [List.mapM_cons] at hkinds
      obtain ⟨kind, hkind, hkinds⟩ := of_bind_eq_ok hkinds
      obtain ⟨rest, hrest, hkinds⟩ := of_bind_eq_ok hkinds
      cases hkinds
      have hrow := ih hrest
      simp only [row_of] at hrow ⊢
      rw [List.zip_cons_cons, List.zip_cons_cons, List.mapM_cons, List.mapM_cons, hrow,
        h.value kind hkind]

theorem rows_alike {kinds : List (MariaFieldType × enum_field_types)}
    (h : ∀ i, row_of i kinds cols = row_of i kinds cols') (n : Nat) :
    ∀ i, rows_from kinds cols n i = rows_from kinds cols' n i := by
  induction n with
  | zero => exact fun _ => rfl
  | succ n ih =>
      intro i
      rw [rows_from, rows_from, h i, ih]

theorem handed_alike {s : Obj MariaBinding} (hst : s.mysql.stmts k = some st)
    (haccepted : Accepted st.param_count cols) (h : List.Forall₂ BoundAlike cols cols') :
    handed (some k) cols s = handed (some k) cols' s := by
  have hkinds := kinds_alike h
  obtain ⟨kinds, col, hcols, hcol, hhanded⟩ := handed_accepted hst haccepted
  have haccepted' : Accepted st.param_count cols' := by
    obtain ⟨hlen, hpos, haccepted⟩ := haccepted
    exact ⟨h.length_eq ▸ hlen, hpos, hkinds ▸ haccepted⟩
  obtain ⟨kinds', col', hcols', hcol', hhanded'⟩ := handed_accepted hst haccepted'
  rw [hkinds, hcols'] at hcols
  cases hcols
  have hlength : col.xlength = col'.xlength := by
    cases h with
    | nil => cases hcol
    | cons h _ =>
        cases hcol
        cases hcol'
        exact h.length
  have hrows := rows_alike (fun i => row_alike h i (hkinds.trans hcols')) col.xlength 0
  rw [hhanded, hhanded', hrows, hlength]

end Handed

end MariaBinding

namespace Coerce

open RVector Table MariaBinding

section Columns

variable {klass : List String} {v w : List RealCell}

theorem variable_type_doubles (klass : List String) (v : List RealCell) :
    ∃ type, variable_type_from_object (.REALSXP klass v) = .ok type ∧
      (binding_of type).1 ≠ .MYSQL_TYPE_LONG ∧ ("integer64" ∉ klass → type ≠ .MY_INT64) := by
  have hlast : r_class (.REALSXP klass v) = "integer64" → "integer64" ∈ klass := by
    intro h
    rw [r_class, SEXP.klass] at h
    cases hklass : klass.getLast? with
    | none => simp [hklass] at h
    | some c =>
        rw [hklass, Option.getD_some] at h
        exact h ▸ List.mem_of_getLast? hklass
  simp only [variable_type_from_object]
  split_ifs with hdate hposix hdifftime hint64
  · exact ⟨_, rfl, by decide, fun _ => by decide⟩
  · exact ⟨_, rfl, by decide, fun _ => by decide⟩
  · exact ⟨_, rfl, by decide, fun _ => by decide⟩
  · exact ⟨_, rfl, by decide, fun h => absurd (hlast hint64) h⟩
  · exact ⟨_, rfl, by decide, fun _ => by decide⟩

theorem REAL_alike (h : v.map RealCell.real = w.map RealCell.real) (i : Nat) :
    REAL (.REALSXP klass v) i = REAL (.REALSXP klass w) i := by
  have hmap : ∀ v : List RealCell, REAL (.REALSXP klass v) i = index (v.map RealCell.real) i := by
    intro v
    rw [REAL, index, index, List.getElem?_map]
    cases v[i]? <;> rfl
  rw [hmap, hmap, h]

-- Of a double that is not an integer64, only the number is sent.
theorem doubles_alike (hclass : "integer64" ∉ klass)
    (h : v.map RealCell.real = w.map RealCell.real) :
    BoundAlike (.REALSXP klass v) (.REALSXP klass w) := by
  have hlength : v.length = w.length := by
    have hlength := congrArg List.length h
    rwa [List.length_map, List.length_map] at hlength
  refine ⟨rfl, fun kind hkind i => ?_, hlength⟩
  obtain ⟨type, htype, -, hint64⟩ := variable_type_doubles klass v
  rw [kind_of, htype] at hkind
  cases hkind
  have hreal : REAL (.REALSXP klass v) i = REAL (.REALSXP klass w) i := REAL_alike h i
  have hvalue : param_value type (.REALSXP klass v) i = param_value type (.REALSXP klass w) i := by
    unfold param_value
    cases type with
    | MY_INT64 => exact absurd rfl (hint64 hclass)
    | MY_DBL => simp only [hreal]
    | MY_DATE => simp only [hreal]
    | MY_DATE_TIME => simp only [hreal]
    | MY_TIME => simp only [hreal]
    | _ => rfl
  rw [param_of, param_of, hvalue]

end Columns

section Storage

variable {lib : RLibrary} {timezone : String} {type : TemporalType} {x y : RVector}

def stored_as_integer (x : RVector) : Bool :=
  match x.sexp with
  | .INTSXP _ _ => true
  | _ => false

-- What a column is, but for its storage.
structure SameNumbers (x y : RVector) : Prop where
  klass : x.sexp.klass = y.sexp.klass
  units : x.units = y.units
  numbers : numbers x.sexp = numbers y.sexp

-- Temporal columns may differ in their storage, other columns not at all.
def SameColumn (x y : RVector) : Prop :=
  x = y ∨ ∃ type, Temporal type x ∧ Temporal type y ∧ SameNumbers x y

def StorageShows (timezone : String) (x y : RVector) : Prop :=
  timezone = "UTC" ∧ x.inherits "POSIXt" = true ∧ stored_as_integer x ≠ stored_as_integer y

theorem double_of_int_injective : Function.Injective double_of_int := by
  intro m n h
  unfold double_of_int at h
  split_ifs at h with hm hn
  · rw [hm, hn]
  · simpa using h

theorem class_sent_same (h : SameNumbers x y) (type : TemporalType) :
    class_sent x type = class_sent y type := by
  cases type <;> simp [class_sent, h.klass]

theorem keeps_integers_iff : KeepsIntegers timezone x type ↔
    timezone = "UTC" ∧ type = .datetime ∧ stored_as_integer x = true := by
  have hstored : (∃ klass v, x.sexp = .INTSXP klass v) ↔ stored_as_integer x = true := by
    unfold stored_as_integer
    split <;> simp_all
  cases type with
  | datetime => simp [KeepsIntegers, hstored]
  | _ => simp [KeepsIntegers]

theorem posix_iff (h : Temporal type x) : x.inherits "POSIXt" = true ↔ type = .datetime := by
  cases type with
  | datetime => exact ⟨fun _ => rfl, fun _ => h.klass⟩
  | _ => simp [h.others "POSIXt" (by decide) (by decide) (by decide)]

-- The storage shows when one of the two columns keeps its integers.
theorem storage_shows_iff (hx : Temporal type x) : StorageShows timezone x y ↔
    ¬(KeepsIntegers timezone x type ↔ KeepsIntegers timezone y type) := by
  rw [StorageShows, keeps_integers_iff, keeps_integers_iff, posix_iff hx]
  cases stored_as_integer x <;> cases stored_as_integer y <;> simp

theorem integers_alike (h : SameNumbers x y) (hx : stored_as_integer x = true)
    (hy : stored_as_integer y = true) : x.sexp = y.sexp := by
  obtain ⟨hklass, -, hnumbers⟩ := h
  unfold stored_as_integer at hx hy
  cases hv : x.sexp with
  | INTSXP klass v =>
      cases hw : y.sexp with
      | INTSXP klass' w =>
          rw [hv, hw] at hklass hnumbers
          obtain rfl : klass = klass' := hklass
          rw [List.map_injective_iff.mpr double_of_int_injective hnumbers]
      | _ => simp [hw] at hy
  | _ => simp [hv] at hx

theorem columns_alike (h : SameColumn x y) (hshows : ¬StorageShows timezone x y) :
    BoundAlike (sql_data lib timezone x) (sql_data lib timezone y) := by
  rcases h with rfl | ⟨type, hx, hy, hsame⟩
  · exact .refl _
  have hkeeps : KeepsIntegers timezone x type ↔ KeepsIntegers timezone y type := by
    rwa [storage_shows_iff hx, not_not] at hshows
  by_cases hkeepsx : KeepsIntegers timezone x type
  · have hkeepsy := hkeeps.mp hkeepsx
    rw [sql_data_integers lib hx hkeepsx, sql_data_integers lib hy hkeepsy,
      integers_alike hsame (keeps_integers_iff.mp hkeepsx).2.2 (keeps_integers_iff.mp hkeepsy).2.2]
    exact .refl _
  · obtain ⟨v, hv, hnumbers⟩ := sql_data_temporal lib hx hkeepsx
    obtain ⟨w, hw, hnumbers'⟩ := sql_data_temporal lib hy fun h => hkeepsx (hkeeps.mpr h)
    rw [hv, hw, class_sent_same hsame]
    apply doubles_alike (class_sent_not_integer64 hy)
    rw [hnumbers, hnumbers', hsame.numbers, hsame.units]

-- A column that keeps its integers is bound as LONG, one of doubles never is.
theorem kept_long (h : Temporal type x) {kind : MariaFieldType × enum_field_types}
    (hkind : kind_of (sql_data lib timezone x) = .ok kind) :
    kind.2 = .MYSQL_TYPE_LONG ↔ KeepsIntegers timezone x type := by
  by_cases hkeeps : KeepsIntegers timezone x type
  · obtain ⟨-, -, hstored⟩ := keeps_integers_iff.mp hkeeps
    unfold stored_as_integer at hstored
    rw [sql_data_integers lib h hkeeps] at hkind
    split at hstored
    · rename_i klass v hx
      rw [hx] at hkind
      cases hkind
      exact ⟨fun _ => hkeeps, fun _ => rfl⟩
    · cases hstored
  · obtain ⟨v, hv, -⟩ := sql_data_temporal lib h hkeeps
    obtain ⟨t, ht, hlong, -⟩ := variable_type_doubles (class_sent x type) v
    rw [hv, kind_of, ht] at hkind
    cases hkind
    exact ⟨fun h => absurd h hlong, fun h => absurd h hkeeps⟩

theorem kind_of_temporal (lib : RLibrary) (timezone : String) (h : Temporal type x) :
    ∃ kind, kind_of (sql_data lib timezone x) = .ok kind := by
  by_cases hkeeps : KeepsIntegers timezone x type
  · obtain ⟨-, -, hstored⟩ := keeps_integers_iff.mp hkeeps
    unfold stored_as_integer at hstored
    rw [sql_data_integers lib h hkeeps]
    split at hstored
    · rename_i klass v hx
      rw [hx]
      exact ⟨_, rfl⟩
    · cases hstored
  · obtain ⟨v, hv, -⟩ := sql_data_temporal lib h hkeeps
    obtain ⟨t, ht, -⟩ := variable_type_doubles (class_sent x type) v
    rw [hv, kind_of, ht]
    exact ⟨_, rfl⟩

theorem types_differ (h : SameColumn x y) {kind kind' : MariaFieldType × enum_field_types}
    (hkind : kind_of (sql_data lib timezone x) = .ok kind)
    (hkind' : kind_of (sql_data lib timezone y) = .ok kind') (hsame : kind.2 = kind'.2) :
    ¬StorageShows timezone x y := by
  rcases h with rfl | ⟨type, hx, hy, -⟩
  · exact fun hshows => hshows.2.2 rfl
  · rw [storage_shows_iff hx, not_not, ← kept_long hx hkind, ← kept_long hy hkind', hsame]

end Storage

section Frames

variable {lib : RLibrary} {timezone : String} {xs ys : List RVector}

def sent (lib : RLibrary) (timezone : String) (xs : List RVector) : List SEXP :=
  xs.map (sql_data lib timezone)

theorem kinds_of_same (h : List.Forall₂ SameColumn xs ys) :
    ∀ {kinds}, (sent lib timezone xs).mapM kind_of = .ok kinds →
      ∃ kinds', (sent lib timezone ys).mapM kind_of = .ok kinds' ∧
        (kinds.map Prod.snd = kinds'.map Prod.snd →
          ∀ p ∈ xs.zip ys, ¬StorageShows timezone p.1 p.2) := by
  induction h with
  | nil =>
      intro kinds hkinds
      exact ⟨[], rfl, fun _ p hp => absurd hp List.not_mem_nil⟩
  | @cons x y xs ys h _ ih =>
      intro kinds hkinds
      rw [sent, List.map_cons, List.mapM_cons] at hkinds
      obtain ⟨kind, hkind, hkinds⟩ := of_bind_eq_ok hkinds
      obtain ⟨rest, hrest, hkinds⟩ := of_bind_eq_ok hkinds
      cases hkinds
      obtain ⟨rest', hrest', hshows⟩ := ih hrest
      obtain ⟨kind', hkind'⟩ : ∃ kind', kind_of (sql_data lib timezone y) = .ok kind' := by
        rcases h with rfl | ⟨type, -, hy, -⟩
        · exact ⟨kind, hkind⟩
        · exact kind_of_temporal lib timezone hy
      refine ⟨kind' :: rest', ?_, fun hsame p hp => ?_⟩
      · rw [sent, List.map_cons, List.mapM_cons, hkind', ok_bind]
        rw [sent] at hrest'
        rw [hrest']
        rfl
      · rw [List.map_cons, List.map_cons, List.cons_eq_cons] at hsame
        rw [List.zip_cons_cons] at hp
        rcases List.mem_cons.mp hp with rfl | hp
        · exact types_differ h hkind hkind' hsame.1
        · exact hshows hsame.2 p hp

-- The storage of a temporal column shows in what is sent for a POSIXct in UTC, and
-- nowhere else.
theorem handed_alike_iff {s : Obj MariaBinding} {k : Nat} {st : MYSQL_STMT}
    (hst : s.mysql.stmts k = some st) (haccepted : Accepted st.param_count (sent lib timezone xs))
    (hsame : List.Forall₂ SameColumn xs ys) :
    handed (some k) (sent lib timezone xs) s = handed (some k) (sent lib timezone ys) s ↔
      ∀ p ∈ xs.zip ys, ¬StorageShows timezone p.1 p.2 := by
  constructor
  · intro h
    obtain ⟨kinds, col, hkinds, -, hhanded⟩ := handed_accepted hst haccepted
    obtain ⟨kinds', hkinds', hshows⟩ := kinds_of_same hsame hkinds
    have haccepted' : Accepted st.param_count (sent lib timezone ys) := by
      obtain ⟨hlen, hpos, -⟩ := haccepted
      refine ⟨?_, hpos, kinds', hkinds'⟩
      rwa [sent, List.length_map, ← hsame.length_eq, ← List.length_map]
    obtain ⟨kinds'', col', hkinds'', -, hhanded'⟩ := handed_accepted hst haccepted'
    rw [hkinds'] at hkinds''
    cases hkinds''
    rw [hhanded, hhanded'] at h
    injection h with h
    exact hshows (congrArg Handed.types h)
  · intro hshows
    obtain ⟨hlen, hzip⟩ := List.forall₂_iff_zip.mp hsame
    apply handed_alike hst haccepted
    rw [sent, sent, List.forall₂_map_left_iff, List.forall₂_map_right_iff]
    exact List.forall₂_iff_zip.mpr ⟨hlen, fun h => columns_alike (hzip h) (hshows _ h)⟩

end Frames

section Second

def second (sexp : SEXP) : RVector := { sexp := sexp, tzone := "UTC" }

-- One second after the epoch
def integer_second : RVector := second (.INTSXP ["POSIXct", "POSIXt"] [1])

def double_second : RVector := second (.REALSXP ["POSIXct", "POSIXt"] [⟨.finite 1, 0⟩])

def one_param : Obj MariaBinding where
  mysql := { stmts := fun _ => some { param_count := 1 } }
  self := {}

theorem integer_second_temporal : Temporal .datetime integer_second := ⟨trivial, rfl, by decide⟩

theorem double_second_temporal : Temporal .datetime double_second := ⟨trivial, rfl, by decide⟩

theorem same_second : SameNumbers integer_second double_second := ⟨rfl, rfl, rfl⟩

theorem second_accepted (timezone : String) : Accepted 1 (sent utc timezone [integer_second]) := by
  obtain ⟨kind, hkind⟩ := kind_of_temporal utc timezone integer_second_temporal
  refine ⟨rfl, by decide, [kind], ?_⟩
  rw [sent, List.map_cons, List.map_nil, List.mapM_cons, hkind]
  rfl

theorem handed_alike_iff_second :
    handed (some 0) (sent utc "Etc/GMT" [integer_second]) one_param =
      handed (some 0) (sent utc "Etc/GMT" [double_second]) one_param ↔
    ∀ p ∈ [integer_second].zip [double_second], ¬StorageShows "Etc/GMT" p.1 p.2 := by
  have hst : one_param.mysql.stmts 0 = some { param_count := 1 } := rfl
  have hsame : SameColumn integer_second double_second :=
    .inr ⟨_, integer_second_temporal, double_second_temporal, same_second⟩
  exact handed_alike_iff hst (second_accepted _) (.cons hsame .nil)

theorem integer_second_differs : Temporal .datetime integer_second ∧
    Temporal .datetime double_second ∧ SameNumbers integer_second double_second ∧
    handed (some 0) (sent utc "UTC" [integer_second]) one_param =
      .ok ⟨[.MYSQL_TYPE_LONG], [.ok [⟨.MYSQL_TYPE_LONG, some (.int 1)⟩]]⟩ ∧
    handed (some 0) (sent utc "UTC" [double_second]) one_param =
      .ok ⟨[.MYSQL_TYPE_DATETIME], [.ok [⟨.MYSQL_TYPE_DATETIME, some (.time
        { year := 1970, month := 1, day := 1, second := 1 })⟩]]⟩ := by
  refine ⟨integer_second_temporal, double_second_temporal, same_second, ?_, ?_⟩
  · rfl
  · decide +kernel

end Second

end Coerce

end RMariaDB
