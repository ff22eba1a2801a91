import RMariaDB.Coerce.Missing
import RMariaDB.MariaBinding.Durations
import RMariaDB.MariaBinding.Instants
import RMariaDB.MariaResultPrep
import RMariaDB.MariaRow.Decode
import RMariaDB.Table.Integers
import RMariaDB.WriteTable.Types

-- What a column of a data frame comes back as, once it has been bound, stored in a column of the
-- type that dbDataType() chose for it, and fetched.

namespace RMariaDB.ReadBack

open Program RVector Table Coerce WriteTable CArith

section Server

-- The fields that the server reports of a column that was declared with a type
inductive Declared : Text → MYSQL_FIELD → Prop
  | tinyint {f : MYSQL_FIELD} (h : f.type = .MYSQL_TYPE_TINY) : Declared "TINYINT".toList f
  | integer {f : MYSQL_FIELD} (h : f.type = .MYSQL_TYPE_LONG) : Declared "INTEGER".toList f
  | bigint {f : MYSQL_FIELD} (h : f.type = .MYSQL_TYPE_LONGLONG) : Declared "BIGINT".toList f
  | double {f : MYSQL_FIELD} (h : f.type = .MYSQL_TYPE_DOUBLE) : Declared "DOUBLE".toList f
  | date {f : MYSQL_FIELD} (h : f.type = .MYSQL_TYPE_DATE) : Declared "DATE".toList f
  | time {f : MYSQL_FIELD} (h : f.type = .MYSQL_TYPE_TIME) : Declared "TIME(6)".toList f
  | datetime {f : MYSQL_FIELD} (h : f.type = .MYSQL_TYPE_DATETIME) :
      Declared "DATETIME(6)".toList f
  | varchar {f : MYSQL_FIELD} {w : Nat} (h : f.type = .MYSQL_TYPE_VAR_STRING)
      (hcharset : f.charsetnr ≠ 63) : Declared (varchar w) f
  | text {f : MYSQL_FIELD} (h : f.type = .MYSQL_TYPE_BLOB) (hcharset : f.charsetnr ≠ 63) :
      Declared "TEXT".toList f
  | blob {f : MYSQL_FIELD} (h : f.type = .MYSQL_TYPE_BLOB) (hcharset : f.charsetnr = 63) :
      Declared "BLOB".toList f

-- A value that was stored, as it is sent back
def echo : ParamValue → SqlValue
  | .int v | .int64 v => .int v
  | .double x => .double x
  | .bytes b => .bytes b
  | .time t => .time t

end Server

section Kinds

inductive Kind where
  -- logical or integer
  | integer
  | integer64
  | double
  -- character or factor
  | text
  -- a list of raw vectors
  | blob
  | temporal (type : TemporalType)

def Kind.type : Kind → MariaFieldType
  | .integer => .MY_INT32
  | .integer64 => .MY_INT64
  | .double => .MY_DBL
  | .text => .MY_STR
  | .blob => .MY_RAW
  | .temporal .date => .MY_DATE
  | .temporal .time => .MY_TIME
  | .temporal .datetime => .MY_DATE_TIME

variable (lib : RLibrary) (timezone : String)

-- A double that is sent as a value of the SQL type, or as NULL. Right before midnight, and where
-- the day was rounded up, the time that is sent is not one of the day.
def Reached : TemporalType → ℚ → Prop
  | .date, q => SqlDate ⌊q⌋
  | .time, q => InType .time q
  | .datetime, q => SqlDate (sent_day machine q) ∧ 0 ≤ sent_time machine q ∧
      sent_time machine q < 86400

def InReach (type : TemporalType) : Double → Prop
  | .finite q => Reached type q
  | .NA | .NaN => True
  | .Inf | .NegInf => False

-- Integers of 32 or 64 bits, texts without a zero byte, and temporal values of the SQL types. The
-- integers of a POSIXct are made doubles.
def IsKind : Kind → RVector → Prop
  | .integer, x => IntegerLike x ∧ x.is_integer64 = false ∧ x.inherits "POSIXct" = false ∧
      ∀ i n, integer_at x i = some n → -2147483648 < n ∧ n < 2147483648
  | .integer64, x => IntegerLike x ∧ x.is_integer64 = true ∧ x.inherits "POSIXct" = false ∧
      ∀ i n, integer_at x i = some n → -9223372036854775808 < n ∧ n < 9223372036854775808
  | .double, x => PlainNumeric x ∧ x.inherits "POSIXct" = false
  | .text, x => Textual x ∧ x.is_list = false ∧
      (∀ c ∈ "POSIXct" :: special, c ≠ "factor" → x.inherits c = false) ∧
      ∀ i s, value_at x i = some s → 0 ∉ s
  | .blob, x => Textual x ∧ x.is_list = true ∧ x.inherits "POSIXct" = false
  | .temporal type, x => Temporal type x ∧ ¬KeepsIntegers timezone x type ∧
      (class_sent x type).getLast? = some (class_of type) ∧
      (x.inherits "POSIXct" = true ↔ type = .datetime) ∧
      ∀ d ∈ numbers x.sexp, InReach type (converted lib timezone x.units type d)

def number_at (x : RVector) (i : Nat) : Double := (numbers x.sexp)[i]?.getD .NA

-- Whole seconds and microseconds, as they are added up in doubles
def seconds_read (seconds part : ℤ) : ℚ :=
  machine.double (seconds + machine.double (part / 1000000))

-- Whole days, or the seconds and microseconds that were sent; those of a duration are counted
-- from zero.
def time_returned : TemporalType → Double → Double
  | .date, .finite q => .finite (⌊q⌋ : ℚ)
  | .time, .finite q =>
      .finite ((if q < 0 then -1 else 1) * seconds_read (whole q) (micros machine q))
  | .datetime, .finite q =>
      .finite (seconds_read (sent_day machine q * 86400 + whole (sent_time machine q))
        (micros machine (sent_time machine q)))
  | _, _ => .NA

-- The element of row i, as it is fetched. Logical values come back as integers, factors as text,
-- durations in seconds, and a time as the clock of the zone shows it.
def returned : Kind → RVector → Nat → Cell
  | .integer, x, i => .int ((integer_at x i).getD NA_INTEGER)
  | .integer64, x, i => .int64 ((integer_at x i).getD NA_INTEGER64)
  | .double, x, i => .real (finite_or_NA (number_at x i))
  | .text, x, i => .str (value_at x i)
  | .blob, x, i => .raw (value_at x i)
  | .temporal type, x, i =>
      .real (time_returned type (converted lib timezone x.units type (number_at x i)))

-- What is sent for a column, and how it is read
structure Sends (k : Kind) (x : RVector) : Prop where
  length : (sql_data lib timezone x).xlength = x.length
  type : ∃ t, variable_type_from_object (sql_data lib timezone x) = .ok t
  values : ∀ i < x.length, ∃ p, plain_value lib timezone x i = .ok p ∧
    MariaRow.Fits k.type (p.map echo) ∧
    MariaRow.cell_of k.type (p.map echo) = .ok (returned lib timezone k x i)

end Kinds

section Types

-- The type by which a column of a declared type is read
def declared_type (t : Text) : MariaFieldType :=
  if t = "TINYINT".toList ∨ t = "INTEGER".toList then .MY_INT32
  else if t = "BIGINT".toList then .MY_INT64
  else if t = "DOUBLE".toList then .MY_DBL
  else if t = "DATE".toList then .MY_DATE
  else if t = "TIME(6)".toList then .MY_TIME
  else if t = "DATETIME(6)".toList then .MY_DATE_TIME
  else if t = "BLOB".toList then .MY_RAW
  else .MY_STR

theorem varchar_ne_of_head {t : Text} (w : Nat) (h : t.head? ≠ some 'V') : varchar w ≠ t := by
  rintro rfl
  exact h (varchar_head w)

theorem declared_varchar (w : Nat) : declared_type (varchar w) = .MY_STR := by
  have hne (t : Text) (h : t.head? ≠ some 'V') := varchar_ne_of_head w h
  simp only [declared_type, hne "TINYINT".toList (by decide), hne "INTEGER".toList (by decide),
    hne "BIGINT".toList (by decide), hne "DOUBLE".toList (by decide), hne "DATE".toList (by decide),
    hne "TIME(6)".toList (by decide), hne "DATETIME(6)".toList (by decide),
    hne "BLOB".toList (by decide), or_self, if_false]

theorem Declared.type {t : Text} {f : MYSQL_FIELD} (h : Declared t f) :
    MariaResultPrep.field_type f = declared_type t := by
  cases h with
  | varchar h hcharset =>
      rw [declared_varchar, MariaResultPrep.field_type, h]
      simp [variable_type_from_field_type, hcharset]
  | text h hcharset =>
      rw [MariaResultPrep.field_type, h]
      simp [variable_type_from_field_type, hcharset, declared_type]
  | blob h hcharset =>
      rw [MariaResultPrep.field_type, h]
      simp [variable_type_from_field_type, hcharset, declared_type]
  | _ h =>
      rw [MariaResultPrep.field_type, h]
      rfl

theorem declared_char_type (x : List (Option Bytes)) : declared_type (get_char_type x) = .MY_STR := by
  have htype : get_char_type x = if width (x.filterMap id) > 255 then "TEXT".toList
      else varchar (width (x.filterMap id)) := rfl
  rw [htype]
  split
  · rfl
  · exact declared_varchar _

variable {lib : RLibrary} {timezone : String} {x : RVector}

theorem dbDataType_untyped (h : ∀ c ∈ typed, x.inherits c = false) :
    dbDataType x = match x.sexp with
      | .LGLSXP _ _ => .ok "TINYINT".toList
      | .INTSXP _ _ => .ok "INTEGER".toList
      | .REALSXP _ _ => .ok "DOUBLE".toList
      | .STRSXP _ x => .ok (get_char_type x)
      | .VECSXP _ _ | .other "list" _ _ => .ok "BLOB".toList
      | .other _ _ _ => .error (.stop "Unsupported type") := by
  simp only [dbDataType, is_factor, h "factor" (by decide), h "POSIXct" (by decide),
    h "Date" (by decide), h "difftime" (by decide), h "integer64" (by decide)]
  rfl

theorem typed_cases {P : String → Prop} (hfactor : P "factor") (hposixct : P "POSIXct")
    (hdate : P "Date") (hdifftime : P "difftime") (hinteger64 : P "integer64") : ∀ c ∈ typed, P c := by
  intro c hc
  simp only [typed, List.mem_cons, List.not_mem_nil, or_false] at hc
  rcases hc with rfl | rfl | rfl | rfl | rfl
  · exact hfactor
  · exact hposixct
  · exact hdate
  · exact hdifftime
  · exact hinteger64

theorem textual_declared (h : Textual x) (hlist : x.is_list = false)
    (hothers : ∀ c ∈ "POSIXct" :: special, c ≠ "factor" → x.inherits c = false) :
    ∃ t, dbDataType x = .ok t ∧ declared_type t = .MY_STR := by
  unfold Textual at h
  split at h
  · rename_i klass v hx
    have hfactor : x.inherits "factor" = false := by
      rw [inherits_eq (by simp [hx]), hx]
      simpa [SEXP.klass] using h
    refine ⟨get_char_type v, ?_, declared_char_type v⟩
    rw [dbDataType_untyped (typed_cases hfactor (hothers _ (by decide) (by decide))
      (hothers _ (by decide) (by decide)) (hothers _ (by decide) (by decide))
      (hothers _ (by decide) (by decide))), hx]
  · rename_i klass v hx
    have hfactor : x.is_factor = true := by
      rw [is_factor, inherits_eq (by simp [hx]), hx]
      simpa [SEXP.klass] using h
    exact ⟨get_char_type x.levels, by rw [dbDataType, if_pos hfactor], declared_char_type _⟩
  · rename_i klass v hx
    rw [is_list, hx] at hlist
    cases hlist
  · exact h.elim

theorem blob_inherits {klass : List String} {v : List VecElt} (h : BlobClass klass)
    (hx : x.sexp = .VECSXP klass v) :
    ∀ c ∈ ["factor", "integer64", "Date", "difftime", "POSIXt"], x.inherits c = false := by
  intro c hc
  by_cases hnil : klass = []
  · subst hnil
    rw [inherits_VECSXP_nil hx]
    revert c
    decide
  · have hnot : c ∉ klass := by
      rcases h with hAsIs | ⟨-, hothers⟩
      · intro hmem
        rw [hAsIs c hmem] at hc
        revert hc
        decide
      · exact hothers c hc
    simpa [inherits_VECSXP hx hnil] using hnot

theorem blob_declared (h : Textual x) (hlist : x.is_list = true) (hposixct : x.inherits "POSIXct" = false) :
    dbDataType x = .ok "BLOB".toList := by
  unfold Textual at h
  split at h
  · rename_i klass v hx
    rw [is_list, hx] at hlist
    cases hlist
  · rename_i klass v hx
    rw [is_list, hx] at hlist
    cases hlist
  · rename_i klass v hx
    have hothers := blob_inherits h.1 hx
    rw [dbDataType_untyped (typed_cases (hothers _ (by decide)) hposixct (hothers _ (by decide))
      (hothers _ (by decide)) (hothers _ (by decide))), hx]
  · exact h.elim

theorem temporal_declared {type : TemporalType} (h : Temporal type x)
    (hposixct : x.inherits "POSIXct" = true ↔ type = .datetime) :
    ∃ t, dbDataType x = .ok t ∧ declared_type t = (Kind.temporal type).type := by
  have hfactor : x.is_factor = false := h.others "factor" (by decide) (by cases type <;> decide) (by decide)
  cases type with
  | date =>
      have hnot : x.inherits "POSIXct" = false := by simpa using hposixct
      have hdate : x.inherits "Date" = true := h.klass
      exact ⟨_, by simp only [dbDataType, hfactor, hnot, hdate]; rfl, rfl⟩
  | time =>
      have hnot : x.inherits "POSIXct" = false := by simpa using hposixct
      have hdate := h.others "Date" (by decide) (by decide) (by decide)
      have hdifftime : x.inherits "difftime" = true := h.klass
      exact ⟨_, by simp only [dbDataType, hfactor, hnot, hdate, hdifftime]; rfl, rfl⟩
  | datetime =>
      have his : x.inherits "POSIXct" = true := hposixct.mpr rfl
      exact ⟨_, by simp only [dbDataType, hfactor, his]; rfl, rfl⟩

-- A column of the chosen type is read as the kind asks for.
theorem kind_declared {k : Kind} (h : IsKind lib timezone k x) :
    ∃ t, dbDataType x = .ok t ∧ declared_type t = k.type := by
  cases k with
  | integer =>
      obtain ⟨hlike, hnot, hposixct, -⟩ := h
      obtain ⟨hfactor, hdate, hdifftime, -, -⟩ := hlike.inherits
      have htype := dbDataType_untyped (typed_cases (P := fun c => x.inherits c = false) hfactor
        hposixct hdate hdifftime hnot)
      cases hx : x.sexp with
      | LGLSXP klass v =>
          rw [hx] at htype
          exact ⟨_, htype, rfl⟩
      | INTSXP klass v =>
          rw [hx] at htype
          exact ⟨_, htype, rfl⟩
      | REALSXP klass v =>
          have hinteger64 := (hlike.integer64 hx).2
          rw [hnot] at hinteger64
          cases hinteger64
      | _ =>
          unfold IntegerLike at hlike
          rw [hx] at hlike
          exact hlike.elim
  | integer64 =>
      obtain ⟨hlike, his, hposixct, -⟩ := h
      obtain ⟨hfactor, hdate, hdifftime, -, -⟩ := hlike.inherits
      have hfactor : x.is_factor = false := hfactor
      have his : x.inherits "integer64" = true := his
      exact ⟨_, by simp only [dbDataType, hfactor, hposixct, hdate, hdifftime, his]; rfl, rfl⟩
  | double =>
      obtain ⟨⟨⟨klass, v, hx⟩, hothers⟩, hposixct⟩ := h
      refine ⟨"DOUBLE".toList, ?_, rfl⟩
      rw [dbDataType_untyped (typed_cases (hothers _ (by decide)) hposixct (hothers _ (by decide))
        (hothers _ (by decide)) (hothers _ (by decide))), hx]
  | text => exact textual_declared h.1 h.2.1 h.2.2.1
  | blob => exact ⟨_, blob_declared h.1 h.2.1 h.2.2, rfl⟩
  | temporal type => exact temporal_declared h.1 h.2.2.2.1

end Types

section Values

open MariaRow MariaBinding

variable {lib : RLibrary} {timezone : String} {x : RVector}

theorem int32_read {n : ℤ} (h : -2147483648 < n ∧ n < 2147483648) :
    cell_of .MY_INT32 (some (.int n)) = .ok (.int n) := by
  rw [cell_of, LittleEndian.signed_decode_encode (by omega) (by omega)]

theorem int64_read {n : ℤ} (h : -9223372036854775808 < n ∧ n < 9223372036854775808) :
    cell_of .MY_INT64 (some (.int n)) = .ok (.int64 n) := by
  rw [cell_of, LittleEndian.signed_decode_encode (by omega) (by omega)]

theorem integer_type (h : IntegerLike x) : ∃ t, variable_type_from_object x.sexp = .ok t := by
  cases hx : x.sexp with
  | LGLSXP klass v => exact ⟨_, rfl⟩
  | INTSXP klass v => exact ⟨_, rfl⟩
  | REALSXP klass v =>
      refine ⟨.MY_INT64, ?_⟩
      simp [variable_type_from_object, r_class, SEXP.klass, (h.integer64 hx).1]
  | _ =>
      unfold IntegerLike at h
      rw [hx] at h
      exact h.elim

theorem integer_sends {k : Kind} (h : IntegerLike x)
    (hread : ∀ i, Fits k.type (((integer_at x i).map (of_integer x)).map echo) ∧
      cell_of k.type (((integer_at x i).map (of_integer x)).map echo) =
        .ok (returned lib timezone k x i)) : Sends lib timezone k x where
  length := by rw [sql_data_integer lib timezone h, RVector.length]
  type := by
    rw [sql_data_integer lib timezone h]
    exact integer_type h
  values := fun i hi => ⟨_, plain_value_integer lib timezone h hi, hread i⟩

theorem integer32_read (hnot : x.is_integer64 = false)
    (hrange : ∀ i n, integer_at x i = some n → -2147483648 < n ∧ n < 2147483648) (i : Nat) :
    Fits .MY_INT32 (((integer_at x i).map (of_integer x)).map echo) ∧
      cell_of .MY_INT32 (((integer_at x i).map (of_integer x)).map echo) =
        .ok (returned lib timezone .integer x i) := by
  rw [returned]
  cases hn : integer_at x i with
  | none => exact ⟨trivial, rfl⟩
  | some n =>
      have hint : of_integer x n = .int n := by simp [of_integer, hnot]
      rw [Option.map_some, hint, Option.map_some, echo]
      exact ⟨trivial, int32_read (hrange i n hn)⟩

theorem integer64_read (his : x.is_integer64 = true)
    (hrange : ∀ i n, integer_at x i = some n → -9223372036854775808 < n ∧ n < 9223372036854775808)
    (i : Nat) : Fits .MY_INT64 (((integer_at x i).map (of_integer x)).map echo) ∧
      cell_of .MY_INT64 (((integer_at x i).map (of_integer x)).map echo) =
        .ok (returned lib timezone .integer64 x i) := by
  rw [returned]
  cases hn : integer_at x i with
  | none => exact ⟨trivial, rfl⟩
  | some n =>
      have hint : of_integer x n = .int64 n := by simp [of_integer, his]
      rw [Option.map_some, hint, Option.map_some, echo]
      exact ⟨trivial, int64_read (hrange i n hn)⟩

theorem double_sends (h : PlainNumeric x) : Sends lib timezone .double x := by
  obtain ⟨⟨klass, v, hx⟩, hothers⟩ := h
  have hsql := @sql_data_numeric lib timezone x _ _ hx hothers
  have htype := variable_type_numeric hx hothers (w := v.map fun cell =>
    { cell with real := finite_or_NA cell.real })
  refine ⟨?_, ⟨_, by rw [hsql]; exact htype⟩, fun i hi => ?_⟩
  · rw [hsql, RVector.length, hx, SEXP.xlength, SEXP.xlength, List.length_map]
  · have hlength : i < v.length := by rwa [RVector.length, hx] at hi
    have hd : (numbers x.sexp)[i]? = some v[i].real := by
      rw [hx, numbers, List.getElem?_map, List.getElem?_eq_getElem hlength, Option.map_some]
    have hvalue := (@numeric_value lib timezone x _ _ _ _ _ hx hothers
      (by rw [hsql]; exact htype) hd).2
    refine ⟨_, by rw [plain_value, hsql, htype, ok_bind, ← hsql]; exact hvalue, ?_⟩
    rw [returned, number_at, hd, Option.getD_some]
    cases v[i].real with
    | finite q => exact ⟨trivial, rfl⟩
    | _ => exact ⟨trivial, rfl⟩

-- Texts and blobs are sent as they are.
theorem sql_data_untouched {y : RVector} (hstring : factor_to_string x = y)
    (hnumeric : y.is_numeric = false) (hdate : y.inherits "Date" = false)
    (hdifftime : y.inherits "difftime" = false) (hposix : y.inherits "POSIXt" = false) :
    sql_data lib timezone x = y.sexp := by
  have hfinite : numeric_to_finite y = y := by
    rw [numeric_to_finite, if_neg (by simp [hnumeric])]
  simp [sql_data, hstring, difftime_to_hms, hdifftime, posixlt_to_posixct, hposix, hfinite,
    date_to_double, hdate]

theorem text_read {s : Option Bytes} (h : ∀ b, s = some b → 0 ∉ b) :
    Fits .MY_STR ((s.map ParamValue.bytes).map echo) ∧
      cell_of .MY_STR ((s.map ParamValue.bytes).map echo) = .ok (.str s) := by
  cases s with
  | none => exact ⟨trivial, rfl⟩
  | some b => exact ⟨trivial, if_neg (h b rfl)⟩

theorem strings_send {klass : List String} {v : List (Option Bytes)}
    (hsql : sql_data lib timezone x = .STRSXP klass v) (hlength : v.length = x.length)
    (hvalue : ∀ i, value_at x i = v[i]?.join) (hzero : ∀ i s, value_at x i = some s → 0 ∉ s) :
    Sends lib timezone .text x where
  length := by rw [hsql, SEXP.xlength, hlength]
  type := ⟨.MY_STR, by rw [hsql]; rfl⟩
  values := by
    intro i hi
    rw [← hlength] at hi
    refine ⟨v[i].map .bytes, ?_, ?_⟩
    · rw [plain_value, hsql]
      simp only [variable_type_from_object, ok_bind, param_value, STRING_ELT,
        index_eq_ok (List.getElem?_eq_getElem hi)]
      rfl
    · have hat : value_at x i = v[i] := by rw [hvalue, List.getElem?_eq_getElem hi, Option.join_some]
      rw [returned, hat]
      exact text_read fun b hb => hzero i b (hat.trans hb)

theorem text_sends (h : IsKind lib timezone .text x) : Sends lib timezone .text x := by
  obtain ⟨htext, hlist, hothers, hzero⟩ := h
  have hdate := hothers "Date" (by decide) (by decide)
  have hdifftime := hothers "difftime" (by decide) (by decide)
  have hposix := hothers "POSIXt" (by decide) (by decide)
  unfold Textual at htext
  split at htext
  · rename_i klass v hx
    have hsql : sql_data lib timezone x = .STRSXP klass v := by
      rw [← hx]
      exact sql_data_untouched (by rw [factor_to_string, hx]) (by rw [is_numeric, hx]) hdate hdifftime
        hposix
    refine strings_send hsql (by rw [RVector.length, hx, SEXP.xlength]) (fun i => ?_) hzero
    rw [value_at, hx]
  · rename_i klass codes hx
    have hfactor : x.is_factor = true := by
      rw [is_factor, inherits_eq (by simp [hx]), hx]
      simpa [SEXP.klass] using htext
    have hsql : sql_data lib timezone x = .STRSXP [] (labels x.levels codes) :=
      sql_data_untouched (factor_to_string_factor hx hfactor) rfl rfl rfl rfl
    refine strings_send hsql ?_ (fun i => ?_) hzero
    · rw [RVector.length, hx, SEXP.xlength, labels, List.length_map]
    · rw [value_at, hx]
  · rename_i klass v hx
    rw [is_list, hx] at hlist
    cases hlist
  · exact htext.elim

theorem element_read {e : VecElt} (h : all_raw [e] = true) : ∃ p,
    (match e with
      | .NILSXP => pure none
      | _ => do
          let b ← RAW e
          pure (some (.bytes b)) : Except Exc (Option ParamValue)) = .ok p ∧
      Fits .MY_RAW (p.map echo) ∧ cell_of .MY_RAW (p.map echo) = .ok (.raw (element_bytes e)) := by
  cases e with
  | RAWSXP b => exact ⟨_, rfl, trivial, rfl⟩
  | NILSXP => exact ⟨none, rfl, trivial, rfl⟩
  | other type => cases h

theorem blob_sends (h : IsKind lib timezone .blob x) : Sends lib timezone .blob x := by
  obtain ⟨htext, hlist, -⟩ := h
  unfold Textual at htext
  split at htext
  · rename_i klass v hx
    rw [is_list, hx] at hlist
    cases hlist
  · rename_i klass v hx
    rw [is_list, hx] at hlist
    cases hlist
  · rename_i klass v hx
    have hothers := blob_inherits htext.1 hx
    have hsql : sql_data lib timezone x = .VECSXP klass v := by
      rw [← hx]
      exact sql_data_untouched (by rw [factor_to_string, hx]) (by rw [is_numeric, hx])
        (hothers _ (by decide)) (hothers _ (by decide)) (hothers _ (by decide))
    have htype : variable_type_from_object (.VECSXP klass v) = .ok .MY_RAW := by
      simp [variable_type_from_object, htext.2]
    refine ⟨by rw [hsql, RVector.length, hx], ⟨_, by rw [hsql]; exact htype⟩, fun i hi => ?_⟩
    have hi : i < v.length := by rwa [RVector.length, hx] at hi
    have hget : v[i]? = some v[i] := List.getElem?_eq_getElem hi
    have hraw : all_raw [v[i]] = true := by
      have hall := List.all_eq_true.mp htext.2 v[i] (List.getElem_mem hi)
      simpa [all_raw] using hall
    obtain ⟨p, hp, hread⟩ := element_read hraw
    refine ⟨p, ?_, ?_⟩
    · rw [plain_value, hsql, htype, ok_bind]
      simp only [param_value, VECTOR_ELT, index_eq_ok hget, ok_bind]
      exact hp
    · rw [returned, value_at, hx]
      simp only [hget, Option.bind_some]
      exact hread
  · exact htext.elim

theorem duration_read {q : ℚ} {t : MYSQL_TIME} (hfixed : machine.double q = q)
    (h : time_buffer machine (.finite q) {} = some t) (hhours : whole q / 3600 ≤ 4294967295) :
    time_of machine t = (if q < 0 then -1 else 1) * seconds_read (whole q) (micros machine q) := by
  have hwhole := whole_nonneg q
  have hmicros := micros_bounds machine_rounds hfixed
  have ht : some (with_time machine (clear_date_buffer {}) q) = some t :=
    (set_time_buffer_eq machine_rounds hfixed _ hhours).symm.trans h
  rw [← Option.some.inj ht, time_of_rounded machine_rounds]
  · have hseconds : ((with_time machine (clear_date_buffer {}) q).seconds : ℤ) = whole q := by
      simp only [with_time, MYSQL_TIME.seconds]
      omega
    have hpart : ((with_time machine (clear_date_buffer {}) q).second_part : ℤ) = micros machine q :=
      Int.toNat_of_nonneg hmicros.1
    have hneg : (with_time machine (clear_date_buffer {}) q).neg = decide (q < 0) := rfl
    rw [seconds_read, ← hseconds, ← hpart, hneg]
    simp only [decide_eq_true_eq]
    rfl
  all_goals
    simp only [with_time]
    omega

theorem date_time_read {q : ℚ} {t : MYSQL_TIME} (hday : Representable (sent_day machine q))
    (hnonneg : 0 ≤ sent_time machine q) (hbelow : sent_time machine q < 86400)
    (h : date_time_buffer machine (.finite q) {} = some t) : date_time_of machine t =
      some (seconds_read (sent_day machine q * 86400 + whole (sent_time machine q))
        (micros machine (sent_time machine q))) := by
  have hfixed : machine.double (sent_time machine q) = sent_time machine q := machine_rounds.again _
  have hwhole := whole_nonneg (sent_time machine q)
  have hmicros := micros_bounds machine_rounds hfixed
  have hvalid := with_time_valid machine_rounds hfixed hnonneg hbelow hday {}
  have ht := Option.some.inj
    ((date_time_buffer_eq machine_agrees machine_rounds {} hday).symm.trans h)
  rw [ht] at hvalid
  have hdays : t.days = sent_day machine q := by
    have hcivil : t.civil = Calendar.dateOf (sent_day machine q + 719468) := by
      rw [← ht]
      exact civil_with_date {} (calendar ⟨_, hday⟩)
    rw [MYSQL_TIME.days, hcivil, Calendar.dayOf_dateOf]
    omega
  have hseconds : (t.seconds_of_day : ℤ) = whole (sent_time machine q) := by
    rw [← ht]
    simp only [with_time, MYSQL_TIME.seconds_of_day]
    omega
  have hpart : (t.second_part : ℤ) = micros machine (sent_time machine q) := by
    rw [← ht]
    exact Int.toNat_of_nonneg hmicros.1
  rw [MYSQL_TIME.date_time_of_eq machine_agrees machine_rounds hvalid (hdays ▸ hday), hdays, hseconds,
    seconds_read, ← hpart]
  rfl

-- A temporal value that the SQL type has is read as its days, or its seconds and microseconds.
theorem buffer_read {type : TemporalType} {q : ℚ} (hfixed : type = .time → machine.double q = q)
    (h : InReach type (.finite q)) : ∃ t,
    buffer type (.finite q) = some t ∧ Fits (Kind.temporal type).type (some (.time t)) ∧
      cell_of (Kind.temporal type).type (some (.time t)) = .ok (.real (time_returned type (.finite q))) := by
  cases type with
  | date =>
      have hday : SqlDate ⌊q⌋ := h
      obtain ⟨t, ht, -, hread⟩ := date_of_buffer machine_agrees q {} hday.representable
      refine ⟨t, ht, trivial, ?_⟩
      rw [Kind.type, cell_of, hread]
      rfl
  | time =>
      have htime : InType .time q := h
      obtain ⟨t, ht, -⟩ := bound_of_inType hfixed htime
      refine ⟨t, ht, trivial, ?_⟩
      rw [Kind.type, cell_of, duration_read (hfixed rfl) ht (hours_of_inType htime)]
      rfl
  | datetime =>
      obtain ⟨hday, hnonneg, hbelow⟩ := h
      obtain ⟨t, ht, -⟩ := date_time_buffer_moment hday
      refine ⟨t, ht, trivial, ?_⟩
      rw [Kind.type, cell_of, date_time_read hday.representable hnonneg hbelow ht]
      rfl

theorem bound_read {type : TemporalType} {d : Double}
    (hfixed : type = .time → ∀ q, d = .finite q → machine.double q = q) (h : InReach type d) : ∃ p,
    bound type d = .ok p ∧ Fits (Kind.temporal type).type (p.map echo) ∧
      cell_of (Kind.temporal type).type (p.map echo) = .ok (.real (time_returned type d)) := by
  cases d with
  | finite q =>
      obtain ⟨t, ht, hfits, hread⟩ := buffer_read (fun htype => hfixed htype q rfl) h
      refine ⟨some (.time t), ?_, hfits, hread⟩
      have hbound : bound type (.finite q) = time_value (buffer type (.finite q)) := rfl
      rw [hbound, ht]
      rfl
  | NA => exact ⟨none, rfl, by cases type <;> trivial, by cases type <;> rfl⟩
  | NaN => exact ⟨none, rfl, by cases type <;> trivial, by cases type <;> rfl⟩
  | Inf => exact h.elim
  | NegInf => exact h.elim

theorem number_vector_length (h : NumberVector x) : x.length = (numbers x.sexp).length := by
  unfold NumberVector at h
  split at h
  · rename_i klass v hx
    rw [RVector.length, hx, SEXP.xlength, numbers, List.length_map]
  · rename_i klass v hx
    rw [RVector.length, hx, SEXP.xlength, numbers, List.length_map]
  · exact h.elim

theorem temporal_sends {type : TemporalType} (h : IsKind lib timezone (.temporal type) x) :
    Sends lib timezone (.temporal type) x := by
  obtain ⟨htemporal, hkeeps, hlast, -, hreach⟩ := h
  obtain ⟨v, hsql, hnumbers⟩ := sql_data_temporal lib htemporal hkeeps
  have hlength : v.length = (numbers x.sexp).length := by
    rw [← List.length_map (f := RealCell.real), hnumbers, List.length_map]
  have hsame : x.length = (numbers x.sexp).length := number_vector_length htemporal.stored
  obtain ⟨t, htype, -⟩ := variable_type_doubles (class_sent x type) v
  refine ⟨by rw [hsql, SEXP.xlength, hlength, hsame], ⟨t, by rw [hsql]; exact htype⟩, fun i hi => ?_⟩
  rw [hsame] at hi
  have hd : (numbers x.sexp)[i]? = some (numbers x.sexp)[i] := List.getElem?_eq_getElem hi
  have hcell : v[i]? = some v[i] := List.getElem?_eq_getElem (hlength ▸ hi)
  have hreal : v[i].real = converted lib timezone x.units type (numbers x.sexp)[i] := by
    have hat := congrArg (fun l : List Double => l[i]?) hnumbers
    simpa [hd, hcell] using hat
  have hfixed : type = .time → ∀ q,
      converted lib timezone x.units type (numbers x.sexp)[i] = .finite q → machine.double q = q := by
    rintro rfl q hq
    exact seconds_fixed hq
  obtain ⟨p, hp, hread⟩ := bound_read hfixed (hreach _ (List.getElem_mem hi))
  refine ⟨p, ?_, ?_⟩
  · rw [plain_value_bound lib timezone type hsql hlast hcell, hreal, hp]
  · rw [returned, number_at, hd, Option.getD_some]
    exact hread

theorem kind_sends {k : Kind} (h : IsKind lib timezone k x) : Sends lib timezone k x := by
  cases k with
  | integer => exact integer_sends h.1 (integer32_read h.2.1 h.2.2.2)
  | integer64 => exact integer_sends h.1 (integer64_read h.2.1 h.2.2.2)
  | double => exact double_sends h.1
  | text => exact text_sends h
  | blob => exact blob_sends h
  | temporal type => exact temporal_sends h

end Values

end RMariaDB.ReadBack
