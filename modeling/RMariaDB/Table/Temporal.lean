import RMariaDB.Table.Lossless
import RMariaDB.Table.Moments

-- What the two ways of appending store of dates, durations and times.

namespace RMariaDB.Table

open RVector Decimal Program CArith MariaBinding

section Bound

-- What is bound for a double of each type.
def buffer : TemporalType → Double → Option MYSQL_TIME
  | .date, x => date_buffer machine x {}
  | .time, x => time_buffer machine x {}
  | .datetime, x => date_time_buffer machine x {}

def bound (type : TemporalType) (x : Double) : Except Exc (Option ParamValue) :=
  if ISNAN x then .ok none else time_value (buffer type x)

-- The doubles that are bound as a value of the SQL type, and the value.
def InType : TemporalType → ℚ → Prop
  | .date, q => Supported ⌊q⌋
  | .time, q => (Moment.time (bound_micros q)).InRange
  | .datetime, q => Supported (sent_day machine q)

def moment_at : TemporalType → ℚ → Moment
  | .date, q => .date (Calendar.dateOf (⌊q⌋ + 719468))
  | .time, q => .time (bound_micros q)
  | .datetime, q => .datetime (Calendar.dateOf (sent_day machine q + 719468))
      (double_micros |sent_time machine q|).toNat

theorem bound_finite {type : TemporalType} {q : ℚ} {p : Option ParamValue}
    (h : bound type (.finite q) = .ok p) : ∃ t, buffer type (.finite q) = some t ∧ p = some (.time t) := by
  have hbound : bound type (.finite q) = time_value (buffer type (.finite q)) := rfl
  rw [hbound] at h
  cases ht : buffer type (.finite q) with
  | none =>
      rw [ht] at h
      cases h
  | some t =>
      rw [ht] at h
      cases h
      exact ⟨t, rfl, rfl⟩

-- A value in the range of the type comes from such a double.
theorem inType_of_bound {type : TemporalType} {q : ℚ} {t : MYSQL_TIME}
    (hfixed : type = .time → machine.double q = q)
    (h : buffer type (.finite q) = some t) (hrange : (moment_of type (.time t)).InRange) :
    InType type q := by
  cases type with
  | date =>
      have hday := sqlDate_of_date_buffer h (Int.ofNat_le.mp hrange.2)
      obtain ⟨t', ht', hdate⟩ := date_buffer_moment hday
      cases ht'.symm.trans h
      rw [moment_of, hdate] at hrange
      exact (supported_iff _).mpr hrange
  | time =>
      rw [moment_of, time_buffer_moment (hfixed rfl) h] at hrange
      exact hrange
  | datetime =>
      have hday := sqlDate_of_date_time_buffer h (Int.ofNat_le.mp hrange.2)
      obtain ⟨t', ht', hdate, -⟩ := date_time_buffer_moment hday
      cases ht'.symm.trans h
      rw [moment_of, hdate] at hrange
      exact (supported_iff _).mpr hrange

theorem hours_of_inType {q : ℚ} (h : InType .time q) : whole q / 3600 ≤ 4294967295 := by
  have hwhole := whole_nonneg q
  have hmicros : 0 ≤ micros machine q :=
    Int.floor_nonneg.mpr (machine_rounds.nonneg (by linarith [whole_le q]))
  obtain ⟨hlo, hhi⟩ := h
  unfold bound_micros at hlo hhi
  rw [double_micros_abs] at hlo hhi
  split_ifs at hlo hhi <;> omega

theorem bound_of_inType {type : TemporalType} {q : ℚ}
    (hfixed : type = .time → machine.double q = q) (h : InType type q) :
    ∃ t, buffer type (.finite q) = some t ∧ moment_of type (.time t) = moment_at type q := by
  cases type with
  | date =>
      obtain ⟨t, ht, hdate⟩ := date_buffer_moment h.sqlDate
      exact ⟨t, ht, congrArg Moment.date hdate⟩
  | time =>
      have hhours := hours_of_inType h
      obtain ⟨t, ht⟩ := time_buffer_bound (hfixed rfl) hhours
      exact ⟨t, ht, congrArg Moment.time (time_buffer_moment (hfixed rfl) ht)⟩
  | datetime =>
      obtain ⟨t, ht, hdate, hmicros⟩ := date_time_buffer_moment h.sqlDate
      refine ⟨t, ht, ?_⟩
      rw [moment_of, hdate, moment_at, ← hmicros]
      rfl

theorem moment_at_inRange {type : TemporalType} {q : ℚ} (h : InType type q) :
    (moment_at type q).InRange := by
  cases type with
  | date => exact (supported_iff _).mp h
  | time => exact h
  | datetime => exact (supported_iff _).mp h

end Bound

section Seconds

variable {lib : RLibrary}

theorem rounded_finite {x s : ℚ} (h : Double.rounded x = .finite s) : s = machine.double x := by
  unfold Double.rounded at h
  split_ifs at h
  exact (Double.finite.inj h).symm

theorem rounded_fixed {x s : ℚ} (h : Double.rounded x = .finite s) : machine.double s = s := by
  rw [rounded_finite h]
  exact machine_rounds.again x

-- What hms::as_hms() returns is a double.
theorem seconds_fixed {units : Units} {d : Double} {s : ℚ} (h : lib.seconds units d = .finite s) :
    machine.double s = s := by
  cases d with
  | finite q =>
      rw [lib.seconds_finite] at h
      exact rounded_fixed h
  | _ =>
      rw [lib.seconds_other _ _ (by simp)] at h
      cases h

end Seconds

section Agreement

variable (lib : RLibrary) (timezone : String)

-- Where the parameter path binds NULL, a value that the SQL type has, or one of another
-- type, LOAD DATA stores the same.
def PathsAgree (type : TemporalType) (x : RVector) (i : Nat) : Prop :=
  ∀ p, plain_value lib timezone x i = .ok p →
    (∀ v, p = some v → (moment_of type v).InRange) →
    ∃ v, fast_value lib timezone x i = .ok v ∧
      v.map (loaded_moment type) = p.map (moment_of type)

variable {lib timezone}

-- The comparison for an element that is bound as a double.
theorem pathsAgree_iff {type : TemporalType} {x : RVector} {i : Nat} {v : Option Bytes} {d : Double}
    (hfixed : type = .time → ∀ q, d = .finite q → machine.double q = q)
    (hplain : plain_value lib timezone x i = bound type d)
    (hfast : fast_value lib timezone x i = .ok v) :
    PathsAgree lib timezone type x i ↔ (ISNAN d → v = none) ∧
      ∀ q, d = .finite q → InType type q → v.map (loaded_moment type) = some (moment_at type q) := by
  constructor
  · intro h
    refine ⟨fun hd => ?_, fun q hd hq => ?_⟩
    · obtain ⟨v', hv', hsame⟩ := h none (by rw [hplain, bound, if_pos hd]) (by simp)
      rw [hfast] at hv'
      cases hv'
      simpa using hsame
    · subst hd
      obtain ⟨t, ht, hmoment⟩ := bound_of_inType (fun htype => hfixed htype q rfl) hq
      have hbound : bound type (.finite q) = .ok (some (.time t)) := by
        have hvalue : bound type (.finite q) = time_value (buffer type (.finite q)) := rfl
        rw [hvalue, ht]
        rfl
      obtain ⟨v', hv', hsame⟩ := h _ (hplain.trans hbound) (by
        intro value hvalue
        cases hvalue
        rw [hmoment]
        exact moment_at_inRange hq)
      rw [hfast] at hv'
      cases hv'
      rw [hsame, Option.map_some, hmoment]
  · rintro ⟨hnull, hvalue⟩ p hp hrange
    refine ⟨v, hfast, ?_⟩
    rw [hplain] at hp
    cases d with
    | finite q =>
        obtain ⟨t, ht, rfl⟩ := bound_finite hp
        have hq := inType_of_bound (fun htype => hfixed htype q rfl) ht (hrange _ rfl)
        obtain ⟨t', ht', hmoment⟩ := bound_of_inType (fun htype => hfixed htype q rfl) hq
        rw [ht] at ht'
        cases ht'
        rw [hvalue q rfl hq, Option.map_some, hmoment]
    | NA =>
        cases hp
        rw [hnull rfl]
        rfl
    | NaN =>
        cases hp
        rw [hnull rfl]
        rfl
    | Inf => cases type <;> cases hp
    | NegInf => cases type <;> cases hp

end Agreement

section Columns

-- The class c comes last, and none of the other classes is there.
structure Classed (c : String) (also : List String) (x : RVector) : Prop where
  last : x.sexp.klass.getLast? = some c
  others : ∀ c' ∈ special, c' ∉ c :: also → c' ∉ x.sexp.klass

def NumberVector (x : RVector) : Prop :=
  match x.sexp with
  | .INTSXP _ _ | .REALSXP _ _ => True
  | _ => False

def IsPOSIXlt (x : RVector) : Prop :=
  x.inherits "POSIXlt" = true ∧ ∃ klass, x.sexp = .other "list" klass x.instants.length

-- Date, difftime or POSIXct in integer or double storage, or POSIXlt.
def TemporalColumn : TemporalType → RVector → Prop
  | .date, x => Classed "Date" [] x ∧ NumberVector x
  | .time, x => Classed "difftime" ["hms"] x ∧ NumberVector x ∧ (x.inherits "hms" = true → x.units = .secs)
  | .datetime, x => Classed "POSIXt" [] x ∧ NumberVector x ∨ Classed "POSIXt" ["POSIXlt"] x ∧ IsPOSIXlt x

theorem Classed.inherits {c : String} {also : List String} {x : RVector} (h : Classed c also x)
    (hlist : ∀ klass v, x.sexp ≠ .VECSXP klass v) : x.inherits c = true ∧
      ∀ c' ∈ special, c' ∉ c :: also → x.inherits c' = false := by
  refine ⟨?_, fun c' hc' hne => ?_⟩
  · rw [inherits_eq hlist, List.contains_iff_mem]
    exact List.mem_of_getLast? h.last
  · rw [inherits_eq hlist]
    simpa using h.others c' hc' hne

theorem NumberVector.not_list {x : RVector} (h : NumberVector x) : (∀ klass v, x.sexp ≠ .VECSXP klass v) ∧
    x.is_list = false := by
  unfold NumberVector at h
  unfold is_list
  split at h
  · rename_i hx
    simp [hx]
  · rename_i hx
    simp [hx]
  · exact h.elim

variable (lib : RLibrary) (timezone : String)

theorem fast_value_INTSXP_of {x : RVector} {klass : List String} {v : List ℤ}
    (hx : x.sexp = .INTSXP klass v) (h : x.inherits "factor" = false) (i : Nat) :
    fast_value lib timezone x i = .ok (v[i]?.bind (quote_integer lib (without_AsIs x))) :=
  fast_value_strings_of lib timezone (csv_quote_one_integer lib timezone hx h) (by rw [is_list, hx])
    (fun a _ s hs => quote_integer_verbatim lib _ a hs) i

-- The text that is written of a double, by the class.
def double_text (x : RVector) (d : Double) : Option Bytes :=
  if x.inherits "Date" then quote_double (fun q => date_text lib ⌊q⌋) d
  else if x.inherits "difftime" then
    quote_double (fun q => hms_text (lib.ticks (q * 1000000))) (lib.seconds x.units d)
  else quote_double (fun q => datetime_text lib (q + lib.offset timezone q)) d

theorem double_text_verbatim {x : RVector} {d : Double} {s : Bytes}
    (h : double_text lib timezone x d = some s) : Verbatim s := by
  unfold double_text at h
  split_ifs at h
  · exact quote_double_verbatim (fun _ => date_text_verbatim _ _) _ h
  · exact quote_double_verbatim (fun _ => hms_text_verbatim _) _ h
  · exact quote_double_verbatim (fun _ => datetime_text_verbatim _ _) _ h

theorem csv_quote_one_double {x : RVector} {klass : List String} {v : List RealCell}
    (hx : x.sexp = .REALSXP klass v) (hfactor : x.inherits "factor" = false)
    (hinteger64 : x.inherits "integer64" = false) (hposixlt : x.inherits "POSIXlt" = false)
    (h : x.inherits "Date" = true ∨ x.inherits "difftime" = true ∨ x.inherits "POSIXt" = true) :
    csv_quote_one lib timezone x =
      .ok (strings (v.map fun cell => double_text lib timezone x cell.real)) := by
  have hdrop : (without_AsIs x).sexp = .REALSXP (dropped klass) v := by rw [without_AsIs, hx]; rfl
  have hsame : ∀ c, c ≠ "AsIs" → (without_AsIs x).inherits c = x.inherits c := fun c hc =>
    inherits_without_AsIs (by simp [hx]) hc
  have hunits : (without_AsIs x).units = x.units := rfl
  have hzone : (if (without_AsIs x).inherits "POSIXlt" then (without_AsIs x).tzone else timezone) = timezone := by
    rw [hsame _ (by decide), hposixlt]
    rfl
  have hinstants : instants_of (without_AsIs x) = doubles (without_AsIs x).sexp := by
    rw [instants_of, hsame _ (by decide), hposixlt]
    rfl
  have hnumeric : (without_AsIs x).is_numeric = false := by
    rw [is_numeric, hdrop, is_factor, hsame _ (by decide), hsame _ (by decide), hsame _ (by decide),
      hsame _ (by decide)]
    rcases h with h | h | h <;> simp [h]
  simp only [csv_quote_one, is_factor, is_integer64, hnumeric, hzone, hinstants, hsame _ (by decide : "factor" ≠ "AsIs"),
    hsame _ (by decide : "integer64" ≠ "AsIs"), hsame _ (by decide : "Date" ≠ "AsIs"),
    hsame _ (by decide : "difftime" ≠ "AsIs"), hsame _ (by decide : "POSIXt" ≠ "AsIs"), hfactor, hinteger64]
  simp only [hdrop, doubles, List.map_map]
  cases hdate : x.inherits "Date" with
  | true =>
      have htext : double_text lib timezone x = quote_double fun q => date_text lib ⌊q⌋ := by
        funext d
        rw [double_text, if_pos hdate]
      rw [htext]
      rfl
  | false =>
      cases hdifftime : x.inherits "difftime" with
      | true =>
          have htext : double_text lib timezone x = fun d =>
              quote_double (fun q => hms_text (lib.ticks (q * 1000000))) (lib.seconds x.units d) := by
            funext d
            rw [double_text, if_neg (by simp [hdate]), if_pos hdifftime]
          rw [htext]
          rfl
      | false =>
          have hposix : x.inherits "POSIXt" = true := by simpa [hdate, hdifftime] using h
          have htext : double_text lib timezone x = quote_double fun q =>
              datetime_text lib (q + lib.offset timezone q) := by
            funext d
            rw [double_text, if_neg (by simp [hdate]), if_neg (by simp [hdifftime])]
          rw [hposix, htext]
          rfl

theorem fast_value_double {x : RVector} {klass : List String} {v : List RealCell}
    (hx : x.sexp = .REALSXP klass v) (hfactor : x.inherits "factor" = false)
    (hinteger64 : x.inherits "integer64" = false) (hposixlt : x.inherits "POSIXlt" = false)
    (h : x.inherits "Date" = true ∨ x.inherits "difftime" = true ∨ x.inherits "POSIXt" = true) (i : Nat) :
    fast_value lib timezone x i =
      .ok (v[i]?.bind fun cell => double_text lib timezone x cell.real) :=
  fast_value_strings_of lib timezone
    (csv_quote_one_double lib timezone hx hfactor hinteger64 hposixlt h) (by rw [is_list, hx])
    (fun _ _ _ hs => double_text_verbatim lib timezone hs) i

-- A text with a dash is not one of hexadecimal digits.
theorem hex_pairs_dash {s : Bytes} (h : 45 ∈ s) : hex_pairs s = none := by
  fun_induction hex_pairs s with
  | case1 => exact absurd h List.not_mem_nil
  | case2 => rfl
  | case3 a b s ih =>
      rcases List.mem_cons.mp h with rfl | h
      · rfl
      rcases List.mem_cons.mp h with rfl | h
      · cases hex_value a <;> rfl
      · rw [ih h]
        cases hex_value a with
        | none => rfl
        | some high => cases hex_value b <;> rfl

theorem UNHEX_datetime (v : ℚ) : UNHEX (datetime_text lib v) = none := by
  have hdash : 45 ∈ datetime_text lib v := by
    simp [datetime_text, date_text, ascii]
  unfold UNHEX
  split
  · exact hex_pairs_dash (List.mem_cons_of_mem _ hdash)
  · exact hex_pairs_dash hdash

theorem csv_quote_one_POSIXlt {x : RVector} {klass : List String} {n : Nat}
    (hx : x.sexp = .other "list" klass n) (hclass : Classed "POSIXt" ["POSIXlt"] x)
    (hposixlt : x.inherits "POSIXlt" = true) : csv_quote_one lib timezone x =
      .ok (strings (x.instants.map (quote_double fun q => datetime_text lib (q + lib.offset x.tzone q)))) := by
  obtain ⟨hposix, hothers⟩ := hclass.inherits (by simp [hx])
  have hdrop : (without_AsIs x).sexp = .other "list" (dropped klass) n := by rw [without_AsIs, hx]; rfl
  have hsame : ∀ c, c ≠ "AsIs" → (without_AsIs x).inherits c = x.inherits c := fun c hc =>
    inherits_without_AsIs (by simp [hx]) hc
  have hzone : (if (without_AsIs x).inherits "POSIXlt" then (without_AsIs x).tzone else timezone) = x.tzone := by
    rw [hsame _ (by decide), hposixlt]
    rfl
  have hinstants : instants_of (without_AsIs x) = x.instants := by
    rw [instants_of, hsame _ (by decide), hposixlt]
    rfl
  have hnumeric : (without_AsIs x).is_numeric = false := by rw [is_numeric, hdrop]
  simp only [csv_quote_one, is_factor, is_integer64, hnumeric, hzone, hinstants,
    hsame _ (by decide : "factor" ≠ "AsIs"), hsame _ (by decide : "integer64" ≠ "AsIs"),
    hsame _ (by decide : "Date" ≠ "AsIs"), hsame _ (by decide : "difftime" ≠ "AsIs"),
    hsame _ (by decide : "POSIXt" ≠ "AsIs"), hothers "factor" (by decide) (by decide),
    hothers "integer64" (by decide) (by decide), hothers "Date" (by decide) (by decide),
    hothers "difftime" (by decide) (by decide), hposix, hdrop]
  rfl

-- UNHEX() makes NULL of the text of a time.
theorem fast_value_POSIXlt {x : RVector} {klass : List String} {n : Nat}
    (hx : x.sexp = .other "list" klass n) (hclass : Classed "POSIXt" ["POSIXlt"] x)
    (hposixlt : x.inherits "POSIXlt" = true) (i : Nat) : fast_value lib timezone x i = .ok none := by
  have hlist : x.is_list = true := by
    rw [is_list, hx]
    rfl
  have hsame : ∀ v, Coerce.factor_to_string (strings v) = strings v := fun _ => rfl
  rw [fast_value, csv_quote_one_POSIXlt lib timezone hx hclass hposixlt, ok_bind, hsame, received, hlist, text_at,
    strings, cells, List.getElem?_map]
  cases x.instants[i]? with
  | none => rfl
  | some d =>
      cases d with
      | finite q =>
          have hread := (datetime_text_verbatim lib (q + lib.offset x.tzone q)).read
          simp [quote_double, hread, UNHEX_datetime]
      | _ => rfl

-- The class by which a parameter gets its type
def class_of : TemporalType → String
  | .date => "Date"
  | .time => "difftime"
  | .datetime => "POSIXt"

theorem plain_value_bound (type : TemporalType) {x : RVector} {klass : List String}
    {v : List RealCell} {i : Nat} {cell : RealCell} (hsql : Coerce.sql_data lib timezone x = .REALSXP klass v)
    (hlast : klass.getLast? = some (class_of type)) (hcell : v[i]? = some cell) :
    plain_value lib timezone x i = bound type cell.real := by
  have hclass : r_class (.REALSXP klass v) = class_of type := by
    rw [r_class, SEXP.klass, hlast]
    rfl
  rw [plain_value, hsql]
  simp only [variable_type_from_object, hclass]
  cases type with
  | date =>
      simp only [class_of, if_pos, ok_bind, param_value, REAL, index_eq_ok hcell, map_ok]
      rfl
  | time =>
      have htype : (if class_of .time = "Date" then .ok .MY_DATE
          else if class_of .time = "POSIXt" then .ok .MY_DATE_TIME
          else if class_of .time = "difftime" then .ok .MY_TIME
          else if class_of .time = "integer64" then .ok .MY_INT64
          else .ok .MY_DBL) = (.ok .MY_TIME : Except Exc MariaFieldType) := by decide
      simp only [htype, ok_bind, param_value, REAL, index_eq_ok hcell, map_ok]
      rfl
  | datetime =>
      simp only [class_of, param_value, REAL, index_eq_ok hcell, map_ok]
      rfl

theorem not_factor_string {x : RVector} (h : x.inherits "factor" = false) :
    Coerce.factor_to_string x = x := by
  unfold Coerce.factor_to_string
  split
  · exact if_neg (by rw [is_factor, h]; decide)
  · rfl

theorem not_numeric_finite {x : RVector} (h : x.is_numeric = false) : Coerce.numeric_to_finite x = x := by
  simp [Coerce.numeric_to_finite, h]

theorem sql_data_date {x : RVector} (hfactor : x.inherits "factor" = false)
    (hdate : x.inherits "Date" = true) (hdifftime : x.inherits "difftime" = false)
    (hposix : x.inherits "POSIXt" = false) :
    Coerce.sql_data lib timezone x = Coerce.as_double x.sexp := by
  have hnumeric : x.is_numeric = false := by
    unfold is_numeric
    split <;> simp [hdate]
  simp [Coerce.sql_data, not_factor_string hfactor, Coerce.difftime_to_hms, hdifftime,
    Coerce.posixlt_to_posixct, hposix, not_numeric_finite hnumeric, Coerce.date_to_double, hdate]

-- What comes after the conversion of durations and times leaves a column of doubles alone.
theorem sql_data_rest {y : RVector} {klass : List String} {v : List RealCell}
    (hy : y.sexp = .REALSXP klass v) (hnumeric : y.is_numeric = false) :
    (Coerce.date_to_double (Coerce.numeric_to_finite y)).sexp = y.sexp := by
  rw [not_numeric_finite hnumeric, Coerce.date_to_double]
  split
  · rw [hy]
    rfl
  · rfl

theorem sql_data_difftime {x : RVector} {klass : List String} {v : List RealCell}
    (hx : Coerce.as_double x.sexp = .REALSXP klass v) (hfactor : x.inherits "factor" = false)
    (hdifftime : x.inherits "difftime" = true) : Coerce.sql_data lib timezone x =
      .REALSXP ["hms", "difftime"] (v.map fun cell =>
        { cell with real := lib.seconds x.units cell.real }) := by
  have hhms : Coerce.difftime_to_hms lib x = { x with
      sexp := .REALSXP ["hms", "difftime"] (v.map fun cell =>
        { cell with real := lib.seconds x.units cell.real })
      units := .secs } := by
    rw [Coerce.difftime_to_hms, if_pos hdifftime, hx]
    rfl
  simp only [Coerce.sql_data, not_factor_string hfactor, hhms]
  exact sql_data_rest rfl rfl

theorem of_as_double {x : RVector} {klass : List String} {v : List RealCell}
    (hx : Coerce.as_double x.sexp = .REALSXP klass v) :
    x.sexp.klass = klass ∧ ∀ c, x.inherits c = klass.contains c := by
  unfold Coerce.as_double at hx
  unfold inherits
  split at hx
  · rename_i hsexp
    cases hx
    rw [hsexp]
    exact ⟨rfl, fun c => rfl⟩
  · rw [hx]
    exact ⟨rfl, fun c => rfl⟩

theorem sql_data_POSIXct {x : RVector} {klass : List String} {v : List RealCell}
    (hx : Coerce.as_double x.sexp = .REALSXP klass v) (hfactor : x.inherits "factor" = false)
    (hdifftime : x.inherits "difftime" = false) (hposix : x.inherits "POSIXt" = true)
    (hposixlt : x.inherits "POSIXlt" = false) (hzone : timezone ≠ "UTC") :
    Coerce.sql_data lib timezone x = .REALSXP klass (v.map fun cell =>
      { cell with real := lib.local_time timezone cell.real }) := by
  obtain ⟨hklass, hinherits⟩ := of_as_double hx
  have hlocal : Coerce.posixlt_to_posixct lib timezone x = { x with
      sexp := .REALSXP klass (v.map fun cell =>
        { cell with real := lib.local_time timezone cell.real })
      tzone := "UTC" } := by
    have hct : Coerce.as_POSIXct x = x := by
      rw [Coerce.as_POSIXct, if_neg (by simp [hposixlt])]
    simp only [Coerce.posixlt_to_posixct, if_pos hposix, hct, if_pos hzone, hx, hklass]
    rfl
  have hdouble : Coerce.difftime_to_hms lib x = x := by
    rw [Coerce.difftime_to_hms, if_neg (by simp [hdifftime])]
  simp only [Coerce.sql_data, not_factor_string hfactor, hdouble, hlocal]
  refine sql_data_rest rfl ?_
  have hcontains : klass.contains "POSIXt" = true := by rw [← hinherits, hposix]
  simp only [is_numeric, inherits, SEXP.klass, hcontains, Bool.not_true, Bool.and_false, Bool.false_and]

-- In UTC the times are bound as they are stored.
theorem sql_data_POSIXct_UTC {x : RVector} (hfactor : x.inherits "factor" = false)
    (hdate : x.inherits "Date" = false) (hdifftime : x.inherits "difftime" = false)
    (hposix : x.inherits "POSIXt" = true) (hposixlt : x.inherits "POSIXlt" = false) :
    Coerce.sql_data lib "UTC" x = x.sexp := by
  have hct : Coerce.as_POSIXct x = x := by
    rw [Coerce.as_POSIXct, if_neg (by simp [hposixlt])]
  have hnumeric : x.is_numeric = false := by
    unfold is_numeric
    split <;> simp [hposix]
  simp [Coerce.sql_data, not_factor_string hfactor, Coerce.difftime_to_hms, hdifftime,
    Coerce.posixlt_to_posixct, hct, not_numeric_finite hnumeric, Coerce.date_to_double, hdate]

-- In UTC there is no conversion.
def clock_time (d : Double) : Double := if timezone = "UTC" then d else lib.local_time timezone d

theorem clock_time_UTC (d : Double) : clock_time lib "UTC" d = d := if_pos rfl

theorem sql_data_POSIXct_double {x : RVector} {klass : List String} {v : List RealCell}
    (hx : x.sexp = .REALSXP klass v) (hfactor : x.inherits "factor" = false)
    (hdate : x.inherits "Date" = false) (hdifftime : x.inherits "difftime" = false)
    (hposix : x.inherits "POSIXt" = true) (hposixlt : x.inherits "POSIXlt" = false) :
    Coerce.sql_data lib timezone x = .REALSXP klass (v.map fun cell =>
      { cell with real := clock_time lib timezone cell.real }) := by
  by_cases hzone : timezone = "UTC"
  · rw [hzone, sql_data_POSIXct_UTC lib hfactor hdate hdifftime hposix hposixlt, hx]
    simp [clock_time_UTC]
  · rw [sql_data_POSIXct lib timezone (by rw [hx]; rfl) hfactor hdifftime hposix hposixlt hzone]
    simp [clock_time, hzone]

theorem sql_data_POSIXlt {x : RVector} {klass : List String} {n : Nat}
    (hx : x.sexp = .other "list" klass n) (hclass : Classed "POSIXt" ["POSIXlt"] x)
    (hposixlt : x.inherits "POSIXlt" = true) :
    Coerce.sql_data lib timezone x = .REALSXP ["POSIXct", "POSIXt"] (x.instants.map fun d =>
      ⟨clock_time lib timezone d, 0⟩) := by
  obtain ⟨hposix, hothers⟩ := hclass.inherits (by simp [hx])
  have hct : Coerce.as_POSIXct x =
      { sexp := .REALSXP ["POSIXct", "POSIXt"] (x.instants.map fun v => ⟨v, 0⟩), tzone := x.tzone } := by
    rw [Coerce.as_POSIXct, if_pos hposixlt]
  have hlocal : (Coerce.posixlt_to_posixct lib timezone x).sexp =
      .REALSXP ["POSIXct", "POSIXt"] (x.instants.map fun d => ⟨clock_time lib timezone d, 0⟩) := by
    simp only [Coerce.posixlt_to_posixct, if_pos hposix, hct]
    by_cases hzone : timezone = "UTC"
    · rw [hzone]
      simp [clock_time_UTC]
    · rw [if_pos hzone]
      simp [Coerce.onDoubles, Coerce.as_double, SEXP.klass, clock_time, hzone]
  have hdouble : Coerce.difftime_to_hms lib x = x := by
    rw [Coerce.difftime_to_hms, if_neg (by simp [hothers "difftime" (by decide) (by decide)])]
  simp only [Coerce.sql_data, not_factor_string (hothers "factor" (by decide) (by decide)), hdouble]
  rw [sql_data_rest hlocal (by simp [is_numeric, inherits, hlocal, SEXP.klass]), hlocal]

end Columns

end RMariaDB.Table
