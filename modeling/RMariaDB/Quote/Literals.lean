import RMariaDB.Quote.Strings
import RMariaDB.Table.Agreement
import RMariaDB.Timezone.Usable

-- Literals for times, and the parameters for the same times.

namespace RMariaDB.Quote

open CArith Decimal MariaBinding Program Table

section Quoting

-- An open connection
structure MySQLConnection where
  no_backslash_escapes : Bool := false
  timezone : String := "UTC"

variable (lib : RLibrary)

-- %Y%m%d%H%M%S
def clock_digits (w : ℤ) : Bytes :=
  let date := Calendar.dateOf (w / 86400 + 719468)
  let seconds := (w % 86400).toNat
  (if date.year < 0 then ascii "-" else []) ++ padded lib.year_width date.year.natAbs ++
    padded 2 date.month.toNat ++ padded 2 date.day.toNat ++
    padded 2 (seconds / 3600) ++ padded 2 (seconds / 60 % 60) ++ padded 2 (seconds % 60)

theorem length_clock_digits {w : ℤ}
    (h : InInt ((Calendar.dateOf (w / 86400 + 719468)).year - 1900)) :
    (clock_digits lib w).length ≤ 21 := by
  obtain ⟨hmonth, hday⟩ := dateOf_fields (w / 86400 + 719468)
  unfold clock_digits
  generalize Calendar.dateOf (w / 86400 + 719468) = date at *
  obtain ⟨hlo, hhi⟩ := h
  have hsign : (if date.year < 0 then ascii "-" else []).length ≤ 1 := by
    split_ifs
    · exact Nat.le_refl _
    · exact Nat.zero_le _
  have hyear := length_padded_le (w := lib.year_width) (k := 10) (n := date.year.natAbs)
    (lib.year_width_le.trans (by decide)) (by decide) (by omega)
  have htwo : ∀ {n : Nat}, n < 100 → (padded 2 n).length = 2 := fun h => length_padded (by decide) h
  simp only [List.length_append]
  rw [htwo (n := date.month.toNat) (by omega), htwo (n := date.day.toNat) (by omega),
    htwo (n := (w % 86400).toNat / 3600) (by omega),
    htwo (n := (w % 86400).toNat / 60 % 60) (by omega), htwo (n := (w % 86400).toNat % 60) (by omega)]
  omega

theorem clock_digits_chars (w : ℤ) : ∀ c ∈ clock_digits lib w, c = 45 ∨ IsDigit c := by
  intro c hc
  simp only [clock_digits, List.mem_append] at hc
  rcases hc with (((((hc | hc) | hc) | hc) | hc) | hc) | hc
  · split_ifs at hc
    · exact .inl (List.mem_singleton.mp hc)
    · exact absurd hc List.not_mem_nil
  all_goals exact .inr (isDigit_padded _ _ c hc)

-- The year of a broken-down time is an int that counts from 1900.
def strftime (w : ℤ) : Option CHARSXP :=
  if h : InInt ((Calendar.dateOf (w / 86400 + 719468)).year - 1900) then
    some ⟨clock_digits lib w, fun hzero => by
      rcases clock_digits_chars lib w 0 hzero with h | h
      · cases h
      · exact absurd h (by decide), (length_clock_digits lib h).trans (by decide)⟩
  else none

-- NA and the whole seconds of an instant
def whole_seconds : SEXP → List (Option ℤ)
  | .INTSXP _ v => v.map fun n => if n = NA_INTEGER then none else some n
  | .REALSXP _ v => v.map fun cell =>
      match cell.real with
      | .finite q => some ⌊q⌋
      | _ => none
  | _ => []

variable (client : Client) (callNextMethod : RVector → Except Exc (List Bytes))

def dbQuoteString (conn : MySQLConnection) (x : List (Option CHARSXP)) : Except Exc (List Bytes) :=
  connection_quote_string client { no_backslash_escapes := conn.no_backslash_escapes } x

def dbQuoteLiteral (conn : MySQLConnection) (x : RVector) : Except Exc (List Bytes) :=
  if x.inherits "POSIXt" then
    dbQuoteString client conn
      ((whole_seconds (Coerce.as_POSIXct x).sexp).map fun t => t.bind (strftime lib))
  else callNextMethod x

end Quoting

section Reading

-- YYYYMMDDhhmmss
def parse_clock (s : Bytes) : Option Moment :=
  if s.length = 14 ∧ AllDigits s then
    let part (k n : Nat) := number ((s.drop k).take n)
    some (.datetime ⟨part 0 4, part 4 2, part 6 2⟩
      ((part 8 2 * 3600 + part 10 2 * 60 + part 12 2) * 1000000))
  else none

-- NULL, or the DATETIME that a literal denotes
def literal_moment (mode : Bool) (y : Bytes) : Option (Option Moment) :=
  if y = get_null_string then some none
  else ((Quoted.literal (stringRules mode) y).bind parse_clock).map some

theorem take_drop_eq {s : Bytes} (pre part post : Bytes) (h : s = pre ++ (part ++ post)) :
    (s.drop pre.length).take part.length = part := by
  rw [h, List.drop_left, List.take_left]

theorem parse_clock_parts {a b c d e f : Bytes} (ha : a.length = 4) (hb : b.length = 2)
    (hc : c.length = 2) (hd : d.length = 2) (he : e.length = 2) (hf : f.length = 2)
    (hdigits : AllDigits (a ++ b ++ c ++ d ++ e ++ f)) :
    parse_clock (a ++ b ++ c ++ d ++ e ++ f) = some (.datetime ⟨number a, number b, number c⟩
      ((number d * 3600 + number e * 60 + number f) * 1000000)) := by
  have hlength : (a ++ b ++ c ++ d ++ e ++ f).length = 14 := by
    simp [ha, hb, hc, hd, he, hf]
  rw [parse_clock, if_pos ⟨hlength, hdigits⟩]
  generalize hs : a ++ b ++ c ++ d ++ e ++ f = s
  have hyear := take_drop_eq [] a (b ++ c ++ d ++ e ++ f) (hs.symm.trans (by simp))
  have hmonth := take_drop_eq a b (c ++ d ++ e ++ f) (hs.symm.trans (by simp))
  have hday := take_drop_eq (a ++ b) c (d ++ e ++ f) (hs.symm.trans (by simp))
  have hhour := take_drop_eq (a ++ b ++ c) d (e ++ f) (hs.symm.trans (by simp))
  have hminute := take_drop_eq (a ++ b ++ c ++ d) e f (hs.symm.trans (by simp))
  have hsecond := take_drop_eq (a ++ b ++ c ++ d ++ e) f [] (hs.symm.trans (by simp))
  simp only [List.length_append, List.length_nil, ha, hb, hc, hd, he, hf, Nat.reduceAdd]
    at hyear hmonth hday hhour hminute hsecond
  simp only [hyear, hmonth, hday, hhour, hminute, hsecond]

theorem parse_clock_digits (lib : RLibrary) (w : ℤ) : parse_clock (clock_digits lib w) =
    if FourDigits lib (w / 86400) then some (clock_moment lib (w : ℚ)) else none := by
  have hdate := fourDigits_iff lib (w / 86400)
  obtain ⟨hmonth, hday⟩ := dateOf_fields (w / 86400 + 719468)
  rw [clock_moment_int]
  unfold clock_digits
  generalize Calendar.dateOf (w / 86400 + 719468) = date at *
  obtain ⟨year, month, day⟩ := date
  dsimp only at *
  have htwo : ∀ {n : Nat}, n < 100 → (padded 2 n).length = 2 := fun h => length_padded (by decide) h
  have hm := htwo (n := month.toNat) (by omega)
  have hd := htwo (n := day.toNat) (by omega)
  have hh := htwo (n := (w % 86400).toNat / 3600) (by omega)
  have hi := htwo (n := (w % 86400).toNat / 60 % 60) (by omega)
  have hs := htwo (n := (w % 86400).toNat % 60) (by omega)
  by_cases hneg : year < 0
  · rw [if_neg (mt hdate.mp (by omega)), parse_clock, if_neg]
    rintro ⟨-, hdigits⟩
    refine absurd (hdigits 45 ?_) (by decide)
    simp [hneg, ascii]
  · rw [if_neg hneg, List.nil_append]
    by_cases hyear : (padded lib.year_width year.natAbs).length = 4
    · rw [if_pos (hdate.mpr ⟨by omega, hyear⟩), parse_clock_parts hyear hm hd hh hi hs
        (((((padded_digits _ _).append (padded_digits 2 _)).append (padded_digits 2 _)).append
          (padded_digits 2 _)).append (padded_digits 2 _) |>.append (padded_digits 2 _))]
      simp only [number_padded, Option.some.injEq, Moment.datetime.injEq, Calendar.Date.mk.injEq]
      omega
    · rw [if_neg (mt hdate.mp (fun h => hyear h.2)), parse_clock, if_neg]
      rintro ⟨hlength, -⟩
      simp only [List.length_append, hm, hd, hh, hi, hs] at hlength
      omega

end Reading

section Elements

variable {lib : RLibrary} {client : Client} {mode : Bool} {i : Nat} {w : ℤ} {y : Bytes}

theorem strftime_short {s : CHARSXP} (h : strftime lib w = some s) : s.1 = clock_digits lib w ∧ s.1.length ≤ 21 := by
  unfold strftime at h
  split at h
  · next hyear =>
      cases h
      exact ⟨rfl, length_clock_digits lib hyear⟩
  · cases h

variable (lib) in
theorem strftime_of_sqlDate (h : SqlDate (w / 86400)) : ∃ s, strftime lib w = some s := by
  have hyear := (sqlDate_iff _).mp h
  rw [strftime, dif_pos ⟨by omega, by omega⟩]
  exact ⟨_, rfl⟩

theorem time_not_too_long (t : Option ℤ) : ¬TooLong client mode (t.bind (strftime lib), i) := by
  rintro ⟨s, hs, hresult, hlong⟩
  cases t with
  | none => cases hs
  | some w =>
      obtain ⟨-, hshort⟩ := strftime_short hs
      have hroom := client.room i mode s.1
      rcases client.correct i mode s.1 s.2.1 with hfails | ⟨text, hwritten, -⟩
      · exact hresult hfails
      · rw [hwritten] at hroom hlong
        simp only [List.length_append, List.length_singleton, INT_MAX] at hroom hlong
        omega

theorem literal_moment_null : literal_moment mode get_null_string = some none := if_pos rfl

theorem literal_null : Quoted.literal (stringRules mode) get_null_string = none := by
  cases mode <;> decide

theorem time_literal (h : quote_string client mode i (strftime lib w) = .ok y)
    (hday : FourDigits lib (w / 86400)) (hfails : ¬Fails client mode (strftime lib w, i)) :
    literal_moment mode y = some (some (clock_moment lib (w : ℚ))) := by
  obtain ⟨s, hs⟩ := strftime_of_sqlDate lib hday.sqlDate
  obtain ⟨y', hy', hcomplete⟩ := quote_string_ok (time_not_too_long (some w))
  cases hy'.symm.trans h
  have hliteral := hcomplete.mpr hfails
  have hbind : (some w).bind (strftime lib) = some s := hs
  rw [hbind, Complete, (strftime_short hs).1] at hliteral
  have hnull : y ≠ get_null_string := by
    rintro rfl
    cases literal_null.symm.trans hliteral
  rw [literal_moment, if_neg hnull, hliteral, Option.bind_some, parse_clock_digits, if_pos hday]
  rfl

-- Other years, and a literal that is not closed, denote no DATETIME.
theorem time_literal_only {m : Moment} (h : quote_string client mode i (strftime lib w) = .ok y)
    (hm : literal_moment mode y = some (some m)) :
    FourDigits lib (w / 86400) ∧ ¬Fails client mode (strftime lib w, i) := by
  cases hs : strftime lib w with
  | none =>
      rw [hs] at h
      cases h
      cases literal_moment_null.symm.trans hm
  | some s =>
      rw [hs] at h
      by_cases hfails : (client.mysql_real_escape_string i mode s.1).result = failure
      · cases (quote_string_failure hfails).symm.trans h
        have hopen : Quoted.literal (stringRules mode) [39] = none := Quoted.literal_mark
        rw [literal_moment, if_neg (by decide), hopen] at hm
        cases hm
      · have hok : ¬Fails client mode (some s, i) := by
          rintro ⟨s', hs', hfailure⟩
          cases hs'
          exact hfails hfailure
        refine ⟨?_, hok⟩
        by_contra hday
        have hlong : ¬TooLong client mode (some s, i) := by
          rw [← hs]
          exact time_not_too_long (some w)
        obtain ⟨y', hy', hcomplete⟩ := quote_string_ok hlong
        cases hy'.symm.trans h
        have hliteral := hcomplete.mpr hok
        rw [Complete, (strftime_short hs).1] at hliteral
        have hnull : y ≠ get_null_string := by
          rintro rfl
          cases literal_null.symm.trans hliteral
        rw [literal_moment, if_neg hnull, hliteral, Option.bind_some, parse_clock_digits, if_neg hday] at hm
        cases hm

end Elements

section Agreement

-- POSIXct, in integer or double storage, of whole seconds and missing values
def Whole : SEXP → Prop
  | .INTSXP _ _ => True
  | .REALSXP _ v => ∀ cell ∈ v, ISNAN cell.real ∨ ∃ n : ℤ, cell.real = .finite n
  | _ => False

structure Times where
  vector : RVector
  classed : Classed "POSIXt" [] vector
  whole : Whole vector.sexp

variable (lib : RLibrary) (client : Client) (callNextMethod : RVector → Except Exc (List Bytes))
  (conn : MySQLConnection)

-- Each literal denotes the DATETIME that is bound on the same connection, or NULL where the
-- time is missing.
def Agree (x : RVector) : Prop :=
  ∃ ys, dbQuoteLiteral lib client callNextMethod conn x = .ok ys ∧ ys.length = x.length ∧
    ∀ (i : Nat) t, (whole_seconds x.sexp)[i]? = some t → ∃ y p, ys[i]? = some y ∧
      plain_value lib conn.timezone x i = .ok p ∧
      literal_moment conn.no_backslash_escapes y = some (p.map (moment_of .datetime)) ∧
      (literal_moment conn.no_backslash_escapes y = some none ↔ t = none)

variable {lib client callNextMethod conn} {x : Times} {i : Nat}

theorem Times.length_whole_seconds (x : Times) :
    (whole_seconds x.vector.sexp).length = x.vector.length := by
  obtain ⟨x, -, hwhole⟩ := x
  unfold Whole at hwhole
  rw [RVector.length]
  split at hwhole
  · next h => simp [h, whole_seconds, SEXP.xlength]
  · next h => simp [h, whole_seconds, SEXP.xlength]
  · exact hwhole.elim

-- What is bound for an element, as a double
def Bound (lib : RLibrary) (timezone : String) (t : Option ℤ) (d : Double) : Prop :=
  match t with
  | none => ISNAN d = true
  | some n => d = clock_time lib timezone (.finite n)

theorem clock_time_missing (lib : RLibrary) (timezone : String) {d : Double} (h : ISNAN d = true) :
    ISNAN (clock_time lib timezone d) = true := by
  unfold clock_time
  split
  · exact h
  · exact lib.local_time_missing timezone d h

-- The clock time of a whole second, as far as it is a number
theorem clock_time_number {timezone : String} {n : ℤ} {v : ℚ} (hn : |n| < 2 ^ 53)
    (h : clock_time lib timezone (.finite n) = .finite v) :
    v = machine.double ((n + lib.offset timezone n : ℤ) : ℚ) := by
  unfold clock_time at h
  split at h
  · rename_i hUTC
    rw [hUTC, lib.offset_UTC, add_zero, double_int hn]
    exact (Double.finite.inj h).symm
  · obtain ⟨q, hq, hv⟩ := lib.local_time_finite timezone (.finite n) v h
    cases hq
    push_cast
    exact hv

theorem plain_value_double {klass : List String} {v : List RealCell} {t : Option ℤ}
    (hx : x.vector.sexp = .REALSXP klass v) (ht : (whole_seconds x.vector.sexp)[i]? = some t) :
    ∃ d, plain_value lib conn.timezone x.vector i = bound .datetime d ∧ Bound lib conn.timezone t d := by
  obtain ⟨x, hclass, hwhole⟩ := x
  dsimp only at hx ht ⊢
  obtain ⟨hposix, hothers⟩ := hclass.inherits (by simp [hx])
  have hlast := hclass.last
  rw [hx] at hlast hwhole ht
  have hsql := sql_data_POSIXct_double lib conn.timezone hx (hothers "factor" (by decide) (by decide))
    (hothers "Date" (by decide) (by decide)) (hothers "difftime" (by decide) (by decide)) hposix
    (hothers "POSIXlt" (by decide) (by decide))
  rw [whole_seconds, List.getElem?_map] at ht
  obtain ⟨cell, hcell, rfl⟩ := Option.map_eq_some_iff.mp ht
  refine ⟨_, plain_value_bound lib conn.timezone .datetime (i := i) hsql hlast
    (by rw [List.getElem?_map, hcell, Option.map_some]), ?_⟩
  rcases hwhole cell (List.mem_of_getElem? hcell) with hnan | ⟨n, hn⟩
  · have hmissing := clock_time_missing lib conn.timezone hnan
    cases hreal : cell.real with
    | finite q =>
        rw [hreal] at hnan
        cases hnan
    | _ =>
        rw [hreal] at hmissing
        exact hmissing
  · simp [hn, Bound]

theorem plain_value_integer_time {klass : List String} {v : List ℤ} {t : Option ℤ}
    (hx : x.vector.sexp = .INTSXP klass v) (ht : (whole_seconds x.vector.sexp)[i]? = some t)
    (hzone : conn.timezone ≠ "UTC") : ∃ d,
      plain_value lib conn.timezone x.vector i = bound .datetime d ∧ Bound lib conn.timezone t d := by
  obtain ⟨x, hclass, hwhole⟩ := x
  dsimp only at hx ht ⊢
  obtain ⟨hposix, hothers⟩ := hclass.inherits (by simp [hx])
  have hlast := hclass.last
  rw [hx] at hlast ht
  have hsql := sql_data_POSIXct lib conn.timezone (x := x) (by rw [hx]; rfl)
    (hothers "factor" (by decide) (by decide)) (hothers "difftime" (by decide) (by decide)) hposix
    (hothers "POSIXlt" (by decide) (by decide)) hzone
  rw [whole_seconds, List.getElem?_map] at ht
  obtain ⟨n, hn, rfl⟩ := Option.map_eq_some_iff.mp ht
  refine ⟨_, plain_value_bound lib conn.timezone .datetime (i := i) hsql hlast
    (by rw [List.getElem?_map, List.getElem?_map, hn, Option.map_some, Option.map_some]), ?_⟩
  by_cases hNA : n = NA_INTEGER
  · have hmissing := lib.local_time_missing conn.timezone .NA rfl
    simpa [hNA, Coerce.double_of_int, Bound] using hmissing
  · simp [hNA, Coerce.double_of_int, clock_time, hzone, Bound]

-- In UTC a time of integer storage is bound as an integer.
theorem plain_value_integer_UTC {klass : List String} {v : List ℤ} {t : Option ℤ}
    (hx : x.vector.sexp = .INTSXP klass v) (ht : (whole_seconds x.vector.sexp)[i]? = some t)
    (hzone : conn.timezone = "UTC") :
    plain_value lib conn.timezone x.vector i = .ok (t.map ParamValue.int) := by
  obtain ⟨x, hclass, hwhole⟩ := x
  dsimp only at hx ht ⊢
  obtain ⟨hposix, hothers⟩ := hclass.inherits (by simp [hx])
  rw [hx, whole_seconds, List.getElem?_map] at ht
  obtain ⟨n, hn, rfl⟩ := Option.map_eq_some_iff.mp ht
  have hsql := sql_data_POSIXct_UTC lib (hothers "factor" (by decide) (by decide))
    (hothers "Date" (by decide) (by decide)) (hothers "difftime" (by decide) (by decide)) hposix
    (hothers "POSIXlt" (by decide) (by decide))
  rw [hzone, plain_value, hsql, hx]
  simp only [variable_type_from_object, ok_bind, MariaBinding.param_value, INTEGER, index_eq_ok hn]
  by_cases hNA : n = NA_INTEGER
  · rw [if_pos hNA, hNA]
    rfl
  · simp only [if_neg hNA]
    rfl

-- A value is bound for numbers only.
theorem finite_of_bound {d : Double} {p : Option ParamValue} {m : Moment}
    (h : bound .datetime d = .ok p) (hm : p.map (moment_of .datetime) = some m) : ∃ v, d = .finite v := by
  cases d with
  | finite v => exact ⟨v, rfl⟩
  | NA | NaN =>
      cases h
      cases hm
  | Inf | NegInf => cases h

variable (lib) in
theorem bound_whole {w : ℤ} (hday : SqlDate (w / 86400)) : ∃ sent,
    buffer .datetime (.finite (w : ℚ)) = some sent ∧
      moment_of .datetime (.time sent) = clock_moment lib (w : ℚ) := by
  obtain ⟨sent, hsent, hdate, hmicros⟩ :=
    date_time_buffer_moment (q := (w : ℚ)) (by rwa [sent_day_int hday])
  refine ⟨sent, hsent, ?_⟩
  rw [← moment_at_int lib hday, moment_of, hdate, moment_at, ← hmicros]
  rfl

-- A clock time with a year from 0 to 9999 is bound for this clock time alone.
theorem bound_moment_iff {n m : ℤ} (hday : SqlDate (n / 86400)) :
    (∃ p, bound .datetime (.finite (machine.double m)) = .ok p ∧
      p.map (moment_of .datetime) = some (clock_moment lib (n : ℚ))) ↔ m = n := by
  constructor
  · rintro ⟨p, hp, hmoment⟩
    obtain ⟨sent, hsent, rfl⟩ := bound_finite hp
    have hsame : moment_of .datetime (.time sent) = clock_moment lib (n : ℚ) := Option.some.inj hmoment
    have hyear : sent.year ≤ 9999 := by
      rw [clock_moment_int] at hsame
      have hdate := congrArg Calendar.Date.year (Moment.datetime.inj hsame).1
      have hrange := ((sqlDate_iff _).mp hday).2
      rw [← hdate] at hrange
      exact Int.ofNat_le.mp hrange
    have hsentday := sqlDate_of_date_time_buffer hsent hyear
    have hsmall : |m| < 2 ^ 53 := by exact_mod_cast lt_of_sent_day_double hsentday
    rw [double_int hsmall] at hsent hsentday
    have hm : SqlDate (m / 86400) := day_of_sent_day hsmall hsentday ▸ hsentday
    obtain ⟨sent', hsent', hbound⟩ := bound_whole lib hm
    cases hsent.symm.trans hsent'
    rw [hsame, clock_moment_int, clock_moment_int, Moment.datetime.injEq] at hbound
    have hdays := dateOf_inj hbound.1
    omega
  · rintro rfl
    rw [double_int hday.lt]
    obtain ⟨sent, hsent, hmoment⟩ := bound_whole lib hday
    refine ⟨some (.time sent), ?_, congrArg some hmoment⟩
    have hvalue : bound .datetime (.finite (m : ℚ)) = time_value (buffer .datetime (.finite (m : ℚ))) := rfl
    rw [hvalue, hsent]
    rfl

variable (lib) in
-- Times of integer storage are converted to double where the zone is not UTC.
theorem plain_value_times {t : Option ℤ} (ht : (whole_seconds x.vector.sexp)[i]? = some t)
    (h : ¬(x.vector.is_integer = true ∧ conn.timezone = "UTC")) : ∃ d,
      plain_value lib conn.timezone x.vector i = bound .datetime d ∧ Bound lib conn.timezone t d := by
  have hwhole := x.whole
  unfold Whole at hwhole
  split at hwhole
  · next klass v hx =>
      have hfactor := (x.classed.inherits (by simp [hx])).2 "factor" (by decide) (by decide)
      have hinteger : x.vector.is_integer = true := by
        simp [RVector.is_integer, RVector.is_factor, hx, hfactor]
      exact plain_value_integer_time hx ht fun hzone => h ⟨hinteger, hzone⟩
  · next klass v hx => exact plain_value_double hx ht
  · exact hwhole.elim

theorem plain_value_UTC {t : Option ℤ} (ht : (whole_seconds x.vector.sexp)[i]? = some t)
    (h : x.vector.is_integer = true ∧ conn.timezone = "UTC") :
    plain_value lib conn.timezone x.vector i = .ok (t.map ParamValue.int) := by
  obtain ⟨hinteger, hzone⟩ := h
  unfold RVector.is_integer at hinteger
  split at hinteger
  · next klass v hx => exact plain_value_integer_UTC hx ht hzone
  · cases hinteger

variable (lib client conn) (x : Times) in
-- The zone shows UTC at the instant, in a year that is written with four digits, a DATETIME is
-- bound, and the library escapes the literal.
def Denoted (i : Nat) (n : ℤ) : Prop :=
  FourDigits lib (n / 86400) ∧ lib.offset conn.timezone n = 0 ∧
    ¬(x.vector.is_integer = true ∧ conn.timezone = "UTC") ∧
      ¬Fails client conn.no_backslash_escapes (strftime lib n, i)

variable (lib) in
theorem missing_agrees {y : Bytes} (ht : (whole_seconds x.vector.sexp)[i]? = some none)
    (hy : quote_string client conn.no_backslash_escapes i none = .ok y) : ∃ p,
      plain_value lib conn.timezone x.vector i = .ok p ∧
      literal_moment conn.no_backslash_escapes y = some (p.map (moment_of .datetime)) ∧
      literal_moment conn.no_backslash_escapes y = some none := by
  cases hy
  refine ⟨none, ?_, literal_moment_null, literal_moment_null⟩
  by_cases hUTC : x.vector.is_integer = true ∧ conn.timezone = "UTC"
  · exact plain_value_UTC ht hUTC
  · obtain ⟨d, hd, hnan⟩ := plain_value_times lib ht hUTC
    have hnan : ISNAN d = true := hnan
    rw [hd, bound, if_pos hnan]

theorem time_agrees_iff {n : ℤ} {y : Bytes} (ht : (whole_seconds x.vector.sexp)[i]? = some (some n))
    (hy : quote_string client conn.no_backslash_escapes i (strftime lib n) = .ok y) :
    (∃ p, plain_value lib conn.timezone x.vector i = .ok p ∧
      literal_moment conn.no_backslash_escapes y = some (p.map (moment_of .datetime)) ∧
      literal_moment conn.no_backslash_escapes y ≠ some none) ↔ Denoted lib client conn x i n := by
  constructor
  · rintro ⟨p, hp, hmoment, hvalue⟩
    cases hm : p.map (moment_of .datetime) with
    | none => exact absurd (hmoment.trans (congrArg some hm)) hvalue
    | some m =>
        rw [hm] at hmoment
        obtain ⟨hday, hfails⟩ := time_literal_only hy hmoment
        cases hmoment.symm.trans (time_literal hy hday hfails)
        have hUTC : ¬(x.vector.is_integer = true ∧ conn.timezone = "UTC") := by
          intro hUTC
          cases (plain_value_UTC ht hUTC).symm.trans hp
          cases hm
        obtain ⟨d, hd, hclock⟩ := plain_value_times lib ht hUTC
        have hbound := hd.symm.trans hp
        obtain ⟨v, rfl⟩ := finite_of_bound hbound hm
        rw [clock_time_number hday.sqlDate.lt hclock.symm] at hbound
        have hsame := (bound_moment_iff hday.sqlDate).mp ⟨p, hbound, hm⟩
        exact ⟨hday, by omega, hUTC, hfails⟩
  · rintro ⟨hday, hoffset, hUTC, hfails⟩
    have hliteral := time_literal hy hday hfails
    obtain ⟨d, hd, hclock⟩ := plain_value_times lib ht hUTC
    have hclock : d = .finite (((n + lib.offset conn.timezone n : ℤ)) : ℚ) := by
      refine Eq.trans hclock (clock_time_int ?_)
      rw [hoffset, add_zero]
      exact hday.sqlDate.lt
    obtain ⟨p, hp, hm⟩ := (bound_moment_iff (m := n + lib.offset conn.timezone n) hday.sqlDate).mpr (by omega)
    have hfixed : machine.double ((n + lib.offset conn.timezone n : ℤ) : ℚ) =
        ((n + lib.offset conn.timezone n : ℤ) : ℚ) := by
      rw [hoffset, add_zero, double_int hday.sqlDate.lt]
    rw [hfixed] at hp
    refine ⟨p, by rw [hd, hclock, hp], by rw [hliteral, hm], ?_⟩
    rw [hliteral]
    simp

variable (lib client callNextMethod conn) in
theorem dbQuoteLiteral_times (x : Times) : ∃ ys,
    dbQuoteLiteral lib client callNextMethod conn x.vector = .ok ys ∧ ys.length = x.vector.length ∧
      ∀ (i : Nat) t, (whole_seconds x.vector.sexp)[i]? = some t → ∃ y, ys[i]? = some y ∧
        quote_string client conn.no_backslash_escapes i (t.bind (strftime lib)) = .ok y := by
  have hlist : ∀ klass v, x.vector.sexp ≠ .VECSXP klass v := by
    intro klass v hx
    have hwhole := x.whole
    rw [hx] at hwhole
    exact hwhole
  obtain ⟨hposix, hothers⟩ := x.classed.inherits hlist
  have hct : Coerce.as_POSIXct x.vector = x.vector := by
    rw [Coerce.as_POSIXct, if_neg (by simp [hothers "POSIXlt" (by decide) (by decide)])]
  have hshort : ∀ call ∈ ((whole_seconds x.vector.sexp).map fun t => t.bind (strftime lib)).zipIdx,
      ¬TooLong client conn.no_backslash_escapes call := by
    rintro ⟨s, i⟩ hcall
    obtain ⟨t, -, rfl⟩ := List.mem_map.mp (List.fst_mem_of_mem_zipIdx hcall)
    exact time_not_too_long t
  obtain ⟨ys, hys, -⟩ := quote_strings_ok hshort
  obtain ⟨hlength, helements⟩ := quote_strings_getElem hys
  refine ⟨ys, ?_, ?_, fun i t ht => ?_⟩
  · rw [dbQuoteLiteral, if_pos hposix, hct]
    exact hys
  · rw [hlength, List.length_map, x.length_whole_seconds]
  · obtain ⟨y, hy, hquote⟩ := helements i _ (by rw [List.getElem?_map, ht]; rfl)
    rw [Nat.zero_add] at hquote
    exact ⟨y, hy, hquote⟩

theorem Agree.denoted (h : Agree lib client callNextMethod conn x.vector) {n : ℤ}
    (hn : (whole_seconds x.vector.sexp)[i]? = some (some n)) : Denoted lib client conn x i n := by
  obtain ⟨ys, hys, -, helements⟩ := dbQuoteLiteral_times lib client callNextMethod conn x
  obtain ⟨ys', hys', -, hagree⟩ := h
  cases hys.symm.trans hys'
  obtain ⟨y, hy, hquote⟩ := helements i (some n) hn
  obtain ⟨y', p, hy', hp, hmoment, hnull⟩ := hagree i (some n) hn
  cases hy.symm.trans hy'
  exact (time_agrees_iff hn hquote).mp ⟨p, hp, hmoment, fun h => by cases hnull.mp h⟩

theorem agree_of_denoted (h : ∀ (i : Nat) n, (whole_seconds x.vector.sexp)[i]? = some (some n) →
    Denoted lib client conn x i n) : Agree lib client callNextMethod conn x.vector := by
  obtain ⟨ys, hys, hlength, helements⟩ := dbQuoteLiteral_times lib client callNextMethod conn x
  refine ⟨ys, hys, hlength, fun i t ht => ?_⟩
  obtain ⟨y, hy, hquote⟩ := helements i t ht
  cases t with
  | none =>
      obtain ⟨p, hp, hmoment, hnull⟩ := missing_agrees lib ht hquote
      exact ⟨y, p, hy, hp, hmoment, iff_of_true hnull rfl⟩
  | some n =>
      obtain ⟨p, hp, hmoment, hvalue⟩ := (time_agrees_iff ht hquote).mpr (h i n ht)
      exact ⟨y, p, hy, hp, hmoment, iff_of_false hvalue (by simp)⟩

variable (lib client callNextMethod conn) (x : Times) in
-- Literals and parameters for the same times agree where the clock of the connection's zone
-- is that of UTC.
theorem time_literals_agree_iff : Agree lib client callNextMethod conn x.vector ↔
    ∀ (i : Nat) n, (whole_seconds x.vector.sexp)[i]? = some (some n) →
      Denoted lib client conn x i n := by
  constructor
  · intro h i n hn
    exact h.denoted hn
  · exact agree_of_denoted

-- as.POSIXct(0), which is bound as one o'clock where the zone is an hour ahead
def midnight : Times where
  vector := Timezone.one_time
  classed := ⟨rfl, by decide⟩
  whole := by
    intro cell hcell
    rw [List.mem_singleton.mp hcell]
    exact .inr ⟨0, rfl⟩

theorem midnight_literal_differs : ¬Agree Timezone.berlin .mariadb (fun _ => .ok [])
    { timezone := "Europe/Berlin" } midnight.vector := by
  intro h
  have hfirst : (whole_seconds midnight.vector.sexp)[0]? = some (some 0) := by
    simp [midnight, Timezone.one_time, whole_seconds]
  have hoffset : Timezone.berlin.offset "Europe/Berlin" (0 : ℤ) = 0 := (h.denoted hfirst).2.1
  have hwinter : Timezone.berlin.offset "Europe/Berlin" (0 : ℤ) = 3600 := by decide +kernel
  omega

end Agreement

end RMariaDB.Quote
