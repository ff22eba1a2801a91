import RMariaDB.Coerce.Storage

-- Which missing and infinite numbers are bound as NULL.

namespace RMariaDB.Coerce

open Program RVector Table MariaBinding Floating

section Slots

variable {slot : Slot} {col : SEXP} {i : Nat}

theorem next_slot_missing (h : param_value slot.type col i = .ok none) :
    next_slot slot col i = .ok { slot with is_null := true } := by
  have hfollows := bind_value_follows slot col i
  rw [h] at hfollows
  rw [next_slot, show bind_value slot col i = .ok none from hfollows]
  rfl

theorem next_slot_present {v : ParamValue} (h : param_value slot.type col i = .ok (some v)) :
    ∃ slot', next_slot slot col i = .ok slot' ∧ slot'.is_null = false := by
  have hfollows := bind_value_follows slot col i
  rw [h] at hfollows
  obtain ⟨slot', hbound, -, -⟩ := hfollows
  rw [next_slot, hbound]
  exact ⟨_, rfl, rfl⟩

theorem next_slot_error {e : Exc} (h : param_value slot.type col i = .error e) :
    next_slot slot col i = .error e := by
  have hfollows := bind_value_follows slot col i
  rw [h] at hfollows
  rw [next_slot, show bind_value slot col i = .error e from hfollows]
  rfl

-- The slot of parameter j in a binding that was set up for the columns.
theorem slot_of_column {b : MariaBinding} (hb : Matched b) {j : Nat}
    (hcol : b.params[j]? = some col) : ∃ slot, b.slots[j]? = some slot ∧
      variable_type_from_object col = .ok slot.type := by
  obtain ⟨hlt, hget⟩ := List.getElem?_eq_some_iff.mp hcol
  have hslots : j < b.slots.length := by
    rw [hb.slots, ← hb.params]
    exact hlt
  refine ⟨b.slots[j], List.getElem?_eq_getElem hslots, ?_⟩
  have hmem : ((b.slots[j]).kind, col) ∈ b.kinds.zip b.params := by
    rw [List.mem_iff_getElem?]
    exact ⟨j, by simp [MariaBinding.kinds, List.getElem?_zip_eq_some, hslots, hcol]⟩
  have hkind := of_mapM_eq_ok hb.kinds _ hmem
  obtain ⟨type, htype, hkind⟩ := of_bind_eq_ok hkind
  have hsame := congrArg (fun r => r.map Prod.fst) hkind
  cases hsame
  exact htype

end Slots

section Columns

variable {lib : RLibrary} {timezone : String} {x : RVector}

structure PlainNumeric (x : RVector) : Prop where
  stored : ∃ klass v, x.sexp = .REALSXP klass v
  others : ∀ c ∈ special, x.inherits c = false

structure TemporalDouble (type : TemporalType) (x : RVector) : Prop where
  stored : ∃ klass v, x.sexp = .REALSXP klass v
  klass : Temporal type x
  last : x.sexp.klass.getLast? = some (class_of type)

def DoubleColumn (x : RVector) : Prop := PlainNumeric x ∨ ∃ type, TemporalDouble type x

theorem sql_data_numeric {klass : List String} {v : List RealCell}
    (hx : x.sexp = .REALSXP klass v) (h : ∀ c ∈ special, x.inherits c = false) :
    sql_data lib timezone x =
      .REALSXP klass (v.map fun cell => { cell with real := finite_or_NA cell.real }) := by
  have hfactor := h "factor" (by decide)
  have hdate := h "Date" (by decide)
  have hdifftime := h "difftime" (by decide)
  have hposix := h "POSIXt" (by decide)
  have hint64 := h "integer64" (by decide)
  have hfinite : numeric_to_finite x = { x with
      sexp := .REALSXP klass (v.map fun cell => { cell with real := finite_or_NA cell.real }) } := by
    rw [numeric_to_finite, if_pos (by simp [is_numeric, is_integer, is_integer64, is_factor, *]), hx]
    rfl
  simp only [sql_data, not_factor_string hfactor, difftime_to_hms, hdifftime, posixlt_to_posixct,
    hposix, Bool.false_eq_true, if_false, hfinite, date_to_double]
  split <;> rfl

theorem variable_type_numeric {klass : List String} {v w : List RealCell}
    (hx : x.sexp = .REALSXP klass v) (h : ∀ c ∈ special, x.inherits c = false) :
    variable_type_from_object (.REALSXP klass w) = .ok .MY_DBL := by
  have hlast : ∀ c ∈ special, c ≠ "" → r_class (.REALSXP klass w) ≠ c := by
    intro c hc hne heq
    have hnot := h c hc
    rw [inherits_eq (by simp [hx]), hx] at hnot
    rw [r_class, SEXP.klass] at heq
    cases hklass : klass.getLast? with
    | none =>
        rw [hklass] at heq
        exact hne heq.symm
    | some c' =>
        rw [hklass, Option.getD_some] at heq
        have hmem := List.mem_of_getLast? hklass
        rw [heq] at hmem
        simp [SEXP.klass, hmem] at hnot
  simp only [variable_type_from_object, if_neg (hlast "Date" (by decide) (by decide)),
    if_neg (hlast "POSIXt" (by decide) (by decide)),
    if_neg (hlast "difftime" (by decide) (by decide)),
    if_neg (hlast "integer64" (by decide) (by decide))]

-- What is bound for a number of each kind of column
theorem numeric_value {klass : List String} {v : List RealCell} {type : MariaFieldType} {i : Nat}
    {d : Double} (hx : x.sexp = .REALSXP klass v) (h : ∀ c ∈ special, x.inherits c = false)
    (htype : variable_type_from_object (sql_data lib timezone x) = .ok type)
    (hd : (numbers x.sexp)[i]? = some d) : type = .MY_DBL ∧
      param_value type (sql_data lib timezone x) i =
        .ok (if ISNA (finite_or_NA d) then none else some (.double (finite_or_NA d))) := by
  rw [sql_data_numeric hx h] at htype ⊢
  rw [variable_type_numeric hx h] at htype
  cases htype
  rw [hx, numbers, List.getElem?_map, Option.map_eq_some_iff] at hd
  obtain ⟨cell, hcell, rfl⟩ := hd
  refine ⟨rfl, ?_⟩
  simp only [param_value, REAL]
  rw [index_eq_ok (by rw [List.getElem?_map, hcell, Option.map_some])]
  rfl

-- A number stays a number, and anything else is missing.
def KeepsMissing (d d' : Double) : Prop :=
  ((∃ q, d = .finite q) → ∃ q, d' = .finite q) ∧ ((∀ q, d ≠ .finite q) → ISNAN d')

theorem keepsMissing_self (d : Double) : KeepsMissing d d ↔ d ≠ .Inf ∧ d ≠ .NegInf := by
  cases d <;> simp [KeepsMissing, ISNAN]

-- The numbers that are sent as numbers or NULL: as they are but for infinite ones, in seconds
-- if these do not overflow, and as clock times if lubridate makes no others.
def Marks (lib : RLibrary) (timezone : String) (units : Units) : TemporalType → Double → Prop
  | .date, d => d ≠ .Inf ∧ d ≠ .NegInf
  | .time, d => d ≠ .Inf ∧ d ≠ .NegInf ∧ ∀ q, d = .finite q → |q * units.seconds| < limit double
  | .datetime, d =>
      if timezone = "UTC" then d ≠ .Inf ∧ d ≠ .NegInf else KeepsMissing d (lib.local_time timezone d)

theorem rounded_finite_iff (x : ℚ) : (∃ q, Double.rounded x = .finite q) ↔ |x| < limit double := by
  rw [abs_lt, Double.rounded]
  split_ifs with hhigh hlow
  · simp [not_lt.mpr hhigh]
  · simp [not_lt.mpr hlow]
  · simp [not_le.mp hhigh, not_le.mp hlow]

theorem marks_iff (lib : RLibrary) (timezone : String) (units : Units) (type : TemporalType) (d : Double) :
    Marks lib timezone units type d ↔ KeepsMissing d (converted lib timezone units type d) := by
  cases type with
  | date => exact (keepsMissing_self d).symm
  | time =>
      rw [converted]
      by_cases hd : ∃ q, d = .finite q
      · obtain ⟨q, rfl⟩ := hd
        rw [lib.seconds_finite, KeepsMissing, rounded_finite_iff]
        simp [Marks]
      · have hother : ∀ q, d ≠ .finite q := fun q hq => hd ⟨q, hq⟩
        rw [lib.seconds_other units d hother, keepsMissing_self]
        simp [Marks, hother]
  | datetime =>
      rw [converted, clock_time, Marks]
      split
      · exact (keepsMissing_self d).symm
      · rfl

theorem TemporalDouble.class_last {type : TemporalType} (h : TemporalDouble type x) :
    (class_sent x type).getLast? = some (class_of type) := by
  cases type with
  | time => rfl
  | _ => exact h.last

theorem temporal_value {type : TemporalType} {t : MariaFieldType} {i : Nat} {d : Double}
    (h : TemporalDouble type x)
    (htype : variable_type_from_object (sql_data lib timezone x) = .ok t)
    (hd : (numbers x.sexp)[i]? = some d) :
    param_value t (sql_data lib timezone x) i = bound type (converted lib timezone x.units type d) ∧
      REAL (sql_data lib timezone x) i = .ok (converted lib timezone x.units type d) := by
  obtain ⟨klass, v, hx⟩ := h.stored
  have hkeeps : ¬KeepsIntegers timezone x type := by
    rw [keeps_integers_iff, stored_as_integer, hx]
    simp
  obtain ⟨w, hw, hnumbers⟩ := sql_data_temporal lib h.klass hkeeps
  obtain ⟨cell, hcell, hreal⟩ : ∃ cell, w[i]? = some cell ∧
      cell.real = converted lib timezone x.units type d := by
    have hat := congrArg (fun l : List Double => l[i]?) hnumbers
    simp only [List.getElem?_map, hd, Option.map_some, Option.map_eq_some_iff] at hat
    exact hat
  have hvalue := plain_value_bound lib timezone type hw h.class_last hcell
  rw [plain_value, htype, ok_bind, hreal] at hvalue
  refine ⟨hvalue, ?_⟩
  rw [hw, REAL, index_eq_ok hcell, map_ok, hreal]

end Columns

section Rows

variable {lib : RLibrary} {timezone : String} {x : RVector} {xs : List RVector} {j : Nat}
  {d : Double} {s : Obj MariaBinding}

-- A double on which set_date_buffer() or set_time_buffer() works.
def IsConverted (slot : Slot) (col : SEXP) (i : Nat) (d : Double) : Prop :=
  (slot.type = .MY_DATE ∨ slot.type = .MY_DATE_TIME ∨ slot.type = .MY_TIME) ∧
    REAL col i = .ok d ∧ ISNAN d = false

def MarkedNull (null : Bool) (j : Nat) (t : Obj MariaBinding) : Prop :=
  t.self.slots[j]?.map Slot.is_null = some null

-- What the loop in bind_next_row() does for parameter j of the row, where the column
-- has the value d.
structure NullsMarked (s : Obj MariaBinding) (j : Nat) (d : Double) : Prop where
  missing : (∀ q, d ≠ .finite q) → ∃ t, (bind_column j).run s = .ok () t ∧ MarkedNull true j t
  present : ∀ q, d = .finite q → ∀ t, (bind_column j).run s = .ok () t → MarkedNull false j t
  converted : ∀ slot col d', s.self.slots[j]? = some slot → s.self.params[j]? = some col →
    IsConverted slot col s.self.i d' → ∃ q, d' = .finite q

section Turn

variable {slot : Slot} {col : SEXP}

theorem marked_set {slot' : Slot} {slots : List Slot} (hslot : slots[j]? = some slot) (null : Bool) :
    MarkedNull null j { s with self.slots := slots.set j slot' } ↔ slot'.is_null = null := by
  obtain ⟨hlt, -⟩ := List.getElem?_eq_some_iff.mp hslot
  rw [MarkedNull, List.getElem?_set_self hlt, Option.map_some, Option.some.injEq]

-- A turn that returns has bound a value, and NULL is marked if and only if it is missing.
theorem bind_column_marks {t : Obj MariaBinding} (hcol : s.self.params[j]? = some col)
    (hslot : s.self.slots[j]? = some slot) (ht : (bind_column j).run s = .ok () t) :
    ∃ v, param_value slot.type col s.self.i = .ok v ∧
      ∀ null, MarkedNull null j t ↔ v.isNone = null := by
  have hrun := MariaBinding.bind_column_run hcol hslot
  rw [ht] at hrun
  cases hvalue : param_value slot.type col s.self.i with
  | error e =>
      rw [next_slot_error hvalue] at hrun
      cases hrun
  | ok v =>
      refine ⟨v, rfl, fun null => ?_⟩
      cases v with
      | none =>
          rw [next_slot_missing hvalue] at hrun
          cases hrun
          exact marked_set hslot null
      | some v =>
          obtain ⟨slot', hnext, hnull⟩ := next_slot_present hvalue
          rw [hnext] at hrun
          cases hrun
          rw [marked_set hslot, hnull]
          rfl

theorem bind_column_missing (hcol : s.self.params[j]? = some col)
    (hslot : s.self.slots[j]? = some slot)
    (hvalue : param_value slot.type col s.self.i = .ok none) :
    ∃ t, (bind_column j).run s = .ok () t := by
  have hrun := MariaBinding.bind_column_run hcol hslot
  rw [next_slot_missing hvalue] at hrun
  exact ⟨_, hrun⟩

theorem marked_null_iff (hcol : s.self.params[j]? = some col)
    (hslot : s.self.slots[j]? = some slot) :
    (∃ t, (bind_column j).run s = .ok () t ∧ MarkedNull true j t) ↔
      param_value slot.type col s.self.i = .ok none := by
  constructor
  · rintro ⟨t, ht, hmarked⟩
    obtain ⟨v, hvalue, hmarks⟩ := bind_column_marks hcol hslot ht
    rw [hvalue, Option.isNone_iff_eq_none.mp ((hmarks true).mp hmarked)]
  · intro hvalue
    obtain ⟨t, ht⟩ := bind_column_missing hcol hslot hvalue
    obtain ⟨v, hv, hmarks⟩ := bind_column_marks hcol hslot ht
    rw [hvalue] at hv
    cases hv
    exact ⟨t, ht, (hmarks true).mpr rfl⟩

theorem marked_present_iff (hcol : s.self.params[j]? = some col)
    (hslot : s.self.slots[j]? = some slot) :
    (∀ t, (bind_column j).run s = .ok () t → MarkedNull false j t) ↔
      param_value slot.type col s.self.i ≠ .ok none := by
  constructor
  · intro h hvalue
    obtain ⟨t, ht⟩ := bind_column_missing hcol hslot hvalue
    obtain ⟨v, hv, hmarks⟩ := bind_column_marks hcol hslot ht
    rw [hvalue] at hv
    cases hv
    cases (hmarks false).mp (h t ht)
  · intro hvalue t ht
    obtain ⟨v, hv, hmarks⟩ := bind_column_marks hcol hslot ht
    refine (hmarks false).mpr ?_
    cases v with
    | none => exact absurd hv hvalue
    | some v => rfl

-- By the value that is bound
theorem nulls_marked_iff (hcol : s.self.params[j]? = some col)
    (hslot : s.self.slots[j]? = some slot) : NullsMarked s j d ↔
      ((∀ q, d ≠ .finite q) → param_value slot.type col s.self.i = .ok none) ∧
      (∀ q, d = .finite q → param_value slot.type col s.self.i ≠ .ok none) ∧
      ∀ d', IsConverted slot col s.self.i d' → ∃ q, d' = .finite q := by
  rw [← marked_null_iff hcol hslot, ← marked_present_iff hcol hslot]
  constructor
  · intro h
    exact ⟨h.missing, h.present, fun d' => h.converted slot col d' hslot hcol⟩
  · rintro ⟨hmissing, hpresent, hconverted⟩
    refine ⟨hmissing, hpresent, fun slot' col' d' hslot' hcol' hd' => ?_⟩
    rw [hslot] at hslot'
    rw [hcol] at hcol'
    cases hslot'
    cases hcol'
    exact hconverted d' hd'

end Turn

theorem numeric_marked (hmatched : Matched s.self) (hparams : s.self.params = sent lib timezone xs)
    (hx : xs[j]? = some x) (hplain : PlainNumeric x) (hd : (numbers x.sexp)[s.self.i]? = some d) :
    NullsMarked s j d := by
  obtain ⟨klass, v, hsexp⟩ := hplain.stored
  have hcol : s.self.params[j]? = some (sql_data lib timezone x) := by
    rw [hparams, sent, List.getElem?_map, hx, Option.map_some]
  obtain ⟨slot, hslot, htype⟩ := slot_of_column hmatched hcol
  obtain ⟨hdbl, hvalue⟩ := numeric_value hsexp hplain.others htype hd
  rw [nulls_marked_iff hcol hslot, hvalue]
  refine ⟨fun hother => ?_, fun q hq => ?_, fun d' hd' => ?_⟩
  · cases d with
    | finite q => exact absurd rfl (hother q)
    | _ => rfl
  · rw [hq]
    simp [finite_or_NA, ISNA]
  · rw [IsConverted, hdbl] at hd'
    simp at hd'

theorem bound_none_iff (type : TemporalType) (d : Double) : bound type d = .ok none ↔ ISNAN d := by
  unfold bound
  split
  · rename_i hnan
    simp [hnan]
  · rename_i hnan
    refine iff_of_false (fun hnone => ?_) hnan
    unfold time_value at hnone
    cases hbuffer : buffer type d with
    | none =>
        rw [hbuffer] at hnone
        cases hnone
    | some t =>
        rw [hbuffer] at hnone
        cases hnone

theorem variable_type_temporal {type : TemporalType} {t : MariaFieldType} (htemporal : TemporalDouble type x)
    (htype : variable_type_from_object (sql_data lib timezone x) = .ok t) :
    t = .MY_DATE ∨ t = .MY_DATE_TIME ∨ t = .MY_TIME := by
  obtain ⟨klass, v, hx⟩ := htemporal.stored
  have hkeeps : ¬KeepsIntegers timezone x type := by
    rw [keeps_integers_iff, stored_as_integer, hx]
    simp
  obtain ⟨w, hw, -⟩ := sql_data_temporal lib htemporal.klass hkeeps
  have hclass : r_class (.REALSXP (class_sent x type) w) = class_of type := by
    rw [r_class, SEXP.klass, htemporal.class_last]
    rfl
  rw [hw] at htype
  simp only [variable_type_from_object, hclass] at htype
  cases type <;> simp [class_of] at htype <;> simp [← htype]

theorem temporal_marked_iff {type : TemporalType} (hmatched : Matched s.self)
    (hparams : s.self.params = sent lib timezone xs) (hx : xs[j]? = some x)
    (htemporal : TemporalDouble type x) (hd : (numbers x.sexp)[s.self.i]? = some d) :
    NullsMarked s j d ↔ Marks lib timezone x.units type d := by
  have hcol : s.self.params[j]? = some (sql_data lib timezone x) := by
    rw [hparams, sent, List.getElem?_map, hx, Option.map_some]
  obtain ⟨slot, hslot, htype⟩ := slot_of_column hmatched hcol
  obtain ⟨hvalue, hreal⟩ := temporal_value htemporal htype hd
  have hslottype := variable_type_temporal htemporal htype
  rw [nulls_marked_iff hcol hslot, hvalue, marks_iff]
  generalize converted lib timezone x.units type d = d' at *
  rw [Ne, bound_none_iff]
  constructor
  · rintro ⟨hmissing, hpresent, hconverted⟩
    refine ⟨?_, hmissing⟩
    rintro ⟨q, hq⟩
    have hnan : ISNAN d' = false := by simpa using hpresent q hq
    exact hconverted d' ⟨by tauto, hreal, hnan⟩
  · rintro ⟨hnumber, hmissing⟩
    refine ⟨hmissing, fun q hq => ?_, fun d'' hd'' => ?_⟩
    · obtain ⟨q', rfl⟩ := hnumber ⟨q, hq⟩
      simp [ISNAN]
    · obtain ⟨-, hd'', hnan⟩ := hd''
      rw [hreal] at hd''
      cases hd''
      by_cases hd : ∃ q, d = .finite q
      · exact hnumber hd
      · rw [hmissing fun q hq => hd ⟨q, hq⟩] at hnan
        cases hnan

theorem TemporalDouble.unique {type type' : TemporalType} (h : TemporalDouble type x)
    (h' : TemporalDouble type' x) : type = type' := by
  have hsame := h.last.symm.trans h'.last
  cases type <;> cases type' <;> first | rfl | simp [class_of] at hsame

-- Infinite dates, times and durations are neither marked nor bound.
theorem nulls_marked_double_iff (hmatched : Matched s.self)
    (hparams : s.self.params = sent lib timezone xs) (hx : xs[j]? = some x)
    (hdouble : DoubleColumn x) (hd : (numbers x.sexp)[s.self.i]? = some d) :
    NullsMarked s j d ↔ PlainNumeric x ∨
      ∃ type, TemporalDouble type x ∧ Marks lib timezone x.units type d := by
  rcases hdouble with hplain | ⟨type, htemporal⟩
  · exact ⟨fun _ => .inl hplain, fun _ => numeric_marked hmatched hparams hx hplain hd⟩
  · rw [temporal_marked_iff hmatched hparams hx htemporal hd]
    have hnot : ¬PlainNumeric x := by
      intro hplain
      have hklass := htemporal.klass.klass
      rw [hplain.others (class_of type) (by cases type <;> decide)] at hklass
      cases hklass
    constructor
    · exact fun h => .inr ⟨type, htemporal, h⟩
    · rintro (hplain | ⟨type', htemporal', h⟩)
      · exact absurd hplain hnot
      · rwa [htemporal.unique htemporal']

end Rows

section Dates

def date (d : Double) : RVector := { sexp := .REALSXP ["Date"] [⟨d, 0⟩] }

-- A statement whose parameter is set up for the date
def date_bound (d : Double) : Obj MariaBinding where
  mysql := one_param.mysql
  self := {
    statement := some 0
    params := sent utc "UTC" [date d]
    p := 1
    n_rows := 1
    slots := [{
      type := .MY_DATE
      buffer_type := .MYSQL_TYPE_DATE
      buffer_length := sizeof_MYSQL_TIME }] }

theorem date_double (d : Double) : TemporalDouble .date (date d) :=
  ⟨⟨_, _, rfl⟩, ⟨trivial, rfl, by simp [special, class_of, inherits, date, SEXP.klass]⟩, rfl⟩

theorem nulls_marked_double_iff_date :
    NullsMarked (date_bound .NaN) 0 .NaN ↔ PlainNumeric (date .NaN) ∨
      ∃ type, TemporalDouble type (date .NaN) ∧ Marks utc "UTC" .secs type .NaN := by
  have hmatched : Matched (date_bound .NaN).self := ⟨rfl, rfl, rfl⟩
  have hparams : (date_bound .NaN).self.params = sent utc "UTC" [date .NaN] := rfl
  exact nulls_marked_double_iff hmatched hparams rfl (.inr ⟨_, date_double _⟩) rfl

theorem infinite_date_converted : TemporalDouble .date (date .Inf) ∧
    (bind_setup (some 0) (sent utc "UTC" [date .Inf])).run one_param = .ok () (date_bound .Inf) ∧
    (bind_column 0).run (date_bound .Inf) = .error (.fault .arithmetic) (date_bound .Inf) :=
  ⟨date_double _, rfl, rfl⟩

end Dates

end RMariaDB.Coerce
