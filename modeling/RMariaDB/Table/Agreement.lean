import RMariaDB.Table.Temporal

-- For which dates, durations and times both ways of appending store the same.

namespace RMariaDB.Table

open RVector Decimal Program CArith Floating

section Conditions

variable (lib : RLibrary) (timezone : String)

-- In doubles a clock time keeps its day, and the microseconds that format() shows of it.
def Kept (v : ℚ) : Prop := day_of (machine.double v) = day_of v ∧
  double_micros (machine.double (time_of_day (machine.double v))) = micros_of_day lib v

-- What is needed of an element. Doubles are fine but for their rounding; a zero of integer
-- storage, a plain duration of integer storage and a POSIXlt are not.
def Loads : TemporalType → RVector → Nat → Prop
  | .date, x, i =>
      match x.sexp with
      | .INTSXP _ v => v[i]? ≠ some 0
      | _ => True
  | .time, x, i =>
      match x.sexp with
      | .INTSXP _ v => x.inherits "hms" = true ∨ ∀ n, v[i]? = some n → n ≠ NA_INTEGER → n ≠ 0 →
          InType .time (n * x.units.seconds) → x.units = .secs ∧ n.natAbs < 60
      | .REALSXP _ v => ∀ d s, v[i]?.map RealCell.real = some d → lib.seconds x.units d = .finite s →
          InType .time s → lib.ticks (s * 1000000) = bound_micros s
      | _ => True
  | .datetime, x, i =>
      match x.sexp with
      | .INTSXP _ v => ∀ n, v[i]? = some n → n ≠ NA_INTEGER → timezone ≠ "UTC" ∧
          ¬ISNAN (lib.local_time timezone (.finite n)) ∧
          (InType .datetime (n + lib.offset timezone n) →
            n ≠ 0 ∧ lib.offset x.tzone n = lib.offset timezone n)
      | .REALSXP _ v => ∀ q, v[i]?.map RealCell.real = some (.finite q) →
          ¬ISNAN (clock_time lib timezone (.finite q)) ∧
          (InType .datetime (machine.double (q + lib.offset timezone q)) →
            Kept lib (q + lib.offset timezone q))
      | _ => ∀ d q, x.instants[i]? = some d → clock_time lib timezone d = .finite q →
          ¬InType .datetime q

end Conditions

section Dates

variable {lib : RLibrary} {timezone : String}

theorem loaded_date {day : ℤ} (h : FourDigits lib day) :
    loaded_moment .date (date_text lib day) = .date (Calendar.dateOf (day + 719468)) := by
  rw [loaded_moment, parse_date_text h]
  rfl

-- What the text of a clock time denotes
def clock_moment (lib : RLibrary) (v : ℚ) : Moment :=
  .datetime (Calendar.dateOf (day_of v + 719468)) (micros_of_day lib v)

theorem loaded_datetime {v : ℚ} (h : FourDigits lib (day_of v)) :
    loaded_moment .datetime (datetime_text lib v) = clock_moment lib v := by
  rw [loaded_moment, parse_datetime_text h]
  rfl

theorem loaded_time (t : ℤ) : loaded_moment .time (hms_text t) = .time t := by
  rw [loaded_moment, parse_time_text]
  rfl

theorem as_character_date {x : RVector} (h : x.inherits "Date" = true)
    (hlist : ∀ klass v, x.sexp ≠ .VECSXP klass v) (n : ℤ) :
    as_character_integer lib (without_AsIs x) n = date_text lib n := by
  rw [as_character_integer, inherits_without_AsIs hlist (by decide), if_pos h]

-- The comparison for one element of integer storage: what is written of it, by its text,
-- and the double it is bound as.
theorem integer_agrees_iff {type : TemporalType} {y : RVector} {n : ℤ} {q : ℚ} {d : Double}
    (hNA : n = NA_INTEGER → d = .NA) (hd : n ≠ NA_INTEGER → d = .finite q) :
    ((ISNAN d → quote_integer lib y n = none) ∧
      ∀ q, d = .finite q → InType type q →
        (quote_integer lib y n).map (loaded_moment type) = some (moment_at type q)) ↔
    (n ≠ NA_INTEGER → InType type q →
      loaded_moment type (if n = 0 then [] else as_character_integer lib y n) = moment_at type q) := by
  unfold quote_integer
  by_cases hn : n = NA_INTEGER
  · rw [hNA hn, if_pos hn]
    simp [hn]
  · rw [hd hn, if_neg hn]
    by_cases hzero : n = 0
    · simp [ISNAN, hzero, NA_INTEGER]
    · simp [ISNAN, hzero, hn]

-- The same for an element of double storage, whose text is that of the double it is bound as.
theorem double_agrees_iff {type : TemporalType} {text : ℚ → Bytes} {d : Double} :
    ((ISNAN d → quote_double text d = none) ∧
      ∀ q, d = .finite q → InType type q →
        (quote_double text d).map (loaded_moment type) = some (moment_at type q)) ↔
    ∀ q, d = .finite q → InType type q → loaded_moment type (text q) = moment_at type q := by
  cases d with
  | finite q => simp [ISNAN, quote_double]
  | _ => simp [quote_double]

theorem dates_agree_iff {x : RVector} (hclass : Classed "Date" [] x) (hstored : NumberVector x) {i : Nat}
    (hi : i < x.length) : PathsAgree lib timezone .date x i ↔ Loads lib timezone .date x i := by
  have hlist := hstored.not_list.1
  obtain ⟨hdate, hothers⟩ := hclass.inherits hlist
  have hfactor := hothers "factor" (by decide) (by decide)
  have hlast := hclass.last
  have hsql := sql_data_date lib timezone hfactor hdate
    (hothers "difftime" (by decide) (by decide)) (hothers "POSIXt" (by decide) (by decide))
  rw [Loads]
  rw [RVector.length] at hi
  cases hx : x.sexp with
  | INTSXP klass v =>
      rw [hx] at hi hsql hlast
      obtain ⟨n, hn⟩ : ∃ n, v[i]? = some n := ⟨_, List.getElem?_eq_getElem hi⟩
      have hplain := plain_value_bound lib timezone .date (i := i) hsql hlast
        (by rw [List.getElem?_map, hn, Option.map_some])
      have hfast := fast_value_INTSXP_of lib timezone hx hfactor i
      rw [hn, Option.bind_some] at hfast
      refine (pathsAgree_iff (by simp) hplain hfast).trans ((integer_agrees_iff (n := n) (q := n)
        (fun hNA => if_pos hNA) (fun hNA => if_neg hNA)).trans ?_)
      rw [as_character_date hdate hlist]
      simp only [hn, ne_eq, Option.some.injEq]
      constructor
      · rintro h rfl
        have hday : Supported ⌊((0 : ℤ) : ℚ)⌋ := by
          rw [Int.floor_intCast]
          decide
        have hzero := h (by decide) hday
        rw [moment_at, Int.floor_intCast, if_pos rfl] at hzero
        revert hzero
        decide
      · intro hzero hNA hq
        rw [if_neg hzero]
        have hday : Supported n := by simpa [InType] using hq
        rw [loaded_date (.inl hday), moment_at, Int.floor_intCast]
  | REALSXP klass v =>
      rw [hx] at hi hsql hlast
      obtain ⟨cell, hcell⟩ : ∃ cell, v[i]? = some cell := ⟨_, List.getElem?_eq_getElem hi⟩
      have hplain := plain_value_bound lib timezone .date (i := i) hsql hlast hcell
      have hfast := fast_value_double lib timezone hx hfactor (hothers "integer64" (by decide) (by decide))
        (hothers "POSIXlt" (by decide) (by decide)) (.inl hdate) i
      rw [hcell, Option.bind_some] at hfast
      rw [double_text, if_pos hdate] at hfast
      refine (pathsAgree_iff (by simp) hplain hfast).trans (double_agrees_iff.trans
        (iff_of_true (fun q _ hday => ?_) trivial))
      exact loaded_date (.inl hday)
  | _ =>
      unfold NumberVector at hstored
      rw [hx] at hstored
      exact hstored.elim

end Dates

section Durations

variable {lib : RLibrary} {timezone : String}

theorem double_micros_int (n : ℤ) : double_micros (n : ℚ) = n * 1000000 := by
  have hzero : machine.double 0 = 0 := by
    have hint := machine_rounds.int (n := 0) (by decide)
    exact_mod_cast hint
  rw [double_micros, Int.floor_intCast, sub_self, zero_mul, hzero, Int.floor_zero, add_zero]

theorem bound_micros_int (n : ℤ) : bound_micros (n : ℚ) = n * 1000000 := by
  have habs : |(n : ℚ)| = ((n.natAbs : ℤ) : ℚ) := by
    rw [Int.natCast_natAbs]
    push_cast
    rfl
  have hsign : ((n : ℚ) < 0) ↔ n < 0 := Int.cast_lt_zero
  rw [bound_micros, habs, double_micros_int]
  simp only [hsign]
  split <;> omega

-- Only numbers of seconds that doubles tell apart are in the range of TIME.
theorem lt_of_inType_time {w : ℤ} (h : InType .time (machine.double w)) : |w| < 2 ^ 53 := by
  have hlarge (n : ℤ) (hn : 3020400 ≤ n) : 3020400 ≤ machine.double n := by
    have hround := machine_rounds.int_le (n : ℚ) 3020400 (by decide) (by exact_mod_cast hn)
    exact_mod_cast hround
  have hmicros (s : ℚ) (hs : 3020400 ≤ |s|) : 3020400000000 ≤ double_micros |s| := by
    have hwhole : 3020400 ≤ whole s := Int.le_floor.mpr (by exact_mod_cast hs)
    have hpart : 0 ≤ micros machine s :=
      Int.floor_nonneg.mpr (machine_rounds.nonneg (by linarith [whole_le s]))
    rw [double_micros_abs]
    omega
  obtain ⟨hlo, hhi⟩ := h
  unfold bound_micros at hlo hhi
  rw [abs_lt]
  constructor
  · by_contra hless
    have hround := machine_rounds.le_int (w : ℚ) (-3020400) (by decide) (by exact_mod_cast by omega)
    have hneg : machine.double w < 0 := by
      push_cast at hround
      linarith
    have habs := hmicros (machine.double w) (by
      rw [abs_of_neg hneg]
      push_cast at hround
      linarith)
    rw [if_pos hneg] at hlo
    omega
  · by_contra hmore
    have hround := hlarge w (by omega)
    have habs := hmicros (machine.double w) (hround.trans (le_abs_self _))
    rw [if_neg (by linarith)] at hhi
    omega

theorem rounded_int {w : ℤ} (h : |w| < 2 ^ 53) : Double.rounded (w : ℚ) = .finite w := by
  have hlimit : (2 : ℚ) ^ 53 ≤ limit double := by
    decide +kernel
  have habs : |(w : ℚ)| < 2 ^ 53 := by exact_mod_cast h
  obtain ⟨hlow, hhigh⟩ := abs_lt.mp habs
  rw [Double.rounded, if_neg (by linarith), if_neg (by linarith), machine_rounds.int h]

theorem rounded_not_nan (x : ℚ) : ISNAN (Double.rounded x) = false := by
  unfold Double.rounded
  split_ifs <;> rfl

-- What TIME makes of digits without colons.
def undelimited (n : Nat) : Nat :=
  if n / 100 % 100 < 60 ∧ n % 100 < 60 then n / 10000 * 3600 + n / 100 % 100 * 60 + n % 100 else 0

theorem parse_micros_decimal (n : Nat) : (parse_micros (decimal n)).getD 0 = undelimited n * 1000000 := by
  have hdigits : AllDigits (decimal n) := isDigit_decimal n
  have hpoint : (46 : UInt8) ∉ decimal n := hdigits.not_mem (by decide)
  have hcolon : (58 : UInt8) ∉ decimal n := hdigits.not_mem (by decide)
  rw [parse_micros, List.splitOn_eq_singleton hpoint]
  simp only [parse_seconds, List.splitOn_eq_singleton hcolon, number_decimal, hdigits, true_and, undelimited]
  split <;> simp

theorem loaded_digits (n : ℤ) : loaded_moment .time (signed n) =
    .time (if n < 0 then -(undelimited n.natAbs * 1000000 : ℤ) else undelimited n.natAbs * 1000000) := by
  have hvalue : ∀ f : Nat → ℤ, f 0 = 0 →
      ((parse_micros (decimal n.natAbs)).map f).getD 0 = f (undelimited n.natAbs * 1000000) := by
    intro f hf
    rw [← parse_micros_decimal]
    cases parse_micros (decimal n.natAbs) with
    | none => exact hf.symm
    | some micros => rfl
  rw [loaded_moment, signed, Moment.time.injEq]
  split
  · rw [parse_time, hvalue _ (by simp)]
    push_cast
    rfl
  · rw [parse_time, hvalue _ (by simp)]
    · push_cast
      rfl
    · intro s hs
      exact head_ne_sign (isDigit_decimal n.natAbs) (by rw [hs]; rfl)

theorem loaded_nothing : loaded_moment .time [] = .time 0 := rfl

-- Only below a minute are the digits of a number of seconds those of the time.
theorem undelimited_iff (n : Nat) (units : Units) :
    (undelimited n : ℤ) = n * units.seconds ↔ n = 0 ∨ units = .secs ∧ n < 60 := by
  have hhours : n / 10000 = n / 100 / 100 := (Nat.div_div_eq_div_mul n 100 100).symm
  unfold undelimited
  rw [hhours]
  generalize hm : n / 100 = m
  have hn : n = 100 * m + n % 100 := by omega
  generalize n % 100 = c at *
  have hm' : m = 100 * (m / 100) + m % 100 := by omega
  cases units with
  | secs =>
      simp only [Units.seconds, mul_one, Nat.cast_inj, true_and]
      split <;> omega
  | _ =>
      simp only [Units.seconds, reduceCtorEq, false_and, or_false]
      split <;> push_cast <;> omega

-- The digits of a duration stand for it only below a minute.
theorem loaded_digits_iff (n : ℤ) (units : Units) :
    loaded_moment .time (signed n) = .time (n * units.seconds * 1000000) ↔
      n = 0 ∨ units = .secs ∧ n.natAbs < 60 := by
  have hdigits := undelimited_iff n.natAbs units
  have hiff : loaded_moment .time (signed n) = .time (n * units.seconds * 1000000) ↔
      (undelimited n.natAbs : ℤ) = n.natAbs * units.seconds := by
    rw [loaded_digits, Moment.time.injEq]
    split
    · have habs : (n.natAbs : ℤ) = -n := by omega
      rw [habs, Int.neg_mul]
      omega
    · have habs : (n.natAbs : ℤ) = n := by omega
      rw [habs]
      omega
  rw [hiff, hdigits, Int.natAbs_eq_zero]

theorem integer_duration_iff {x : RVector} (hclass : Classed "difftime" ["hms"] x)
    (hlist : ∀ klass v, x.sexp ≠ .VECSXP klass v) (hunits : x.inherits "hms" = true → x.units = .secs)
    (n : ℤ) :
    (n ≠ NA_INTEGER → InType .time (n * x.units.seconds) →
      loaded_moment .time (if n = 0 then [] else as_character_integer lib (without_AsIs x) n) =
        moment_at .time (n * x.units.seconds)) ↔
    (x.inherits "hms" = true ∨ (n ≠ NA_INTEGER → n ≠ 0 → InType .time (n * x.units.seconds) →
      x.units = .secs ∧ n.natAbs < 60)) := by
  obtain ⟨-, hothers⟩ := hclass.inherits hlist
  have hmoment : moment_at .time (n * x.units.seconds) = .time (n * x.units.seconds * 1000000) := by
    rw [moment_at, ← Int.cast_mul, bound_micros_int]
  have hdate := hothers "Date" (by decide) (by decide)
  have hposix := hothers "POSIXt" (by decide) (by decide)
  rw [hmoment]
  by_cases hzero : n = 0
  · subst hzero
    refine iff_of_true (fun _ _ => ?_) (.inr fun _ hne => absurd rfl hne)
    rw [if_pos rfl, loaded_nothing, zero_mul, zero_mul]
  rw [if_neg hzero, as_character_integer, inherits_without_AsIs hlist (by decide),
    inherits_without_AsIs hlist (by decide), inherits_without_AsIs hlist (by decide), if_neg (by simp [hdate]),
    if_neg (by simp [hposix])]
  by_cases hhms : x.inherits "hms" = true
  · refine iff_of_true (fun _ htype => ?_) (.inl hhms)
    have hsmall : |n * 1000000| < 2 ^ 53 := by
      obtain ⟨hlow, hhigh⟩ := htype
      rw [← Int.cast_mul, bound_micros_int, hunits hhms, Units.seconds, mul_one] at hlow hhigh
      rw [abs_lt]
      omega
    have hticks : lib.ticks ((n : ℚ) * 1000000) = n * 1000000 := by
      have hwhole := lib.ticks_whole (n * 1000000) hsmall
      push_cast at hwhole
      exact hwhole
    rw [if_pos hhms, hunits hhms, hticks, loaded_time]
    simp [Units.seconds]
  · rw [if_neg hhms, loaded_digits_iff]
    simp [hhms, hzero]

-- From 2^53 seconds on a duration is in no range, rounded or not.
theorem large_duration {n : ℤ} {units : Units} (hlarge : ¬|n * units.seconds| < 2 ^ 53) :
    n ≠ NA_INTEGER ∧ ¬InType .time (n * units.seconds) ∧
      ∀ s, Double.rounded (n * units.seconds) = .finite s → ¬InType .time s := by
  refine ⟨?_, ?_, ?_⟩
  · rintro rfl
    revert hlarge
    cases units <;> decide
  · rintro ⟨hlo, hhi⟩
    rw [← Int.cast_mul, bound_micros_int] at hlo hhi
    rw [abs_lt] at hlarge
    omega
  · intro s hs htype
    rw [rounded_finite hs, ← Int.cast_mul] at htype
    exact hlarge (lt_of_inType_time htype)

theorem durations_agree_iff {x : RVector} (hclass : Classed "difftime" ["hms"] x) (hstored : NumberVector x)
    (hunits : x.inherits "hms" = true → x.units = .secs) {i : Nat} (hi : i < x.length) :
    PathsAgree lib timezone .time x i ↔ Loads lib timezone .time x i := by
  have hlist := hstored.not_list.1
  obtain ⟨hdifftime, hothers⟩ := hclass.inherits hlist
  have hfactor := hothers "factor" (by decide) (by decide)
  rw [Loads]
  rw [RVector.length] at hi
  cases hx : x.sexp with
  | INTSXP klass v =>
      rw [hx] at hi
      obtain ⟨n, hn⟩ : ∃ n, v[i]? = some n := ⟨_, List.getElem?_eq_getElem hi⟩
      have hsql := sql_data_difftime lib timezone (x := x) (by rw [hx]; rfl) hfactor hdifftime
      have hplain := plain_value_bound lib timezone .time (i := i) hsql rfl
        (by rw [List.getElem?_map, List.getElem?_map, hn, Option.map_some, Option.map_some])
      have hfast := fast_value_INTSXP_of lib timezone hx hfactor i
      rw [hn, Option.bind_some] at hfast
      refine (pathsAgree_iff (fun _ _ => seconds_fixed) hplain hfast).trans ?_
      simp only [hn, Option.some.injEq, forall_eq']
      by_cases hsmall : |n * x.units.seconds| < 2 ^ 53
      · refine (integer_agrees_iff (n := n) (q := n * x.units.seconds)
          (fun hNA => ?_) (fun hNA => ?_)).trans (integer_duration_iff hclass hlist hunits n)
        · rw [Coerce.double_of_int, if_pos hNA]
          exact lib.seconds_other _ _ (by simp)
        · have hrounded := rounded_int hsmall
          push_cast at hrounded
          rw [Coerce.double_of_int, if_neg hNA, lib.seconds_finite, hrounded]
      · obtain ⟨hNA, hout, hlarge⟩ := large_duration hsmall
        rw [Coerce.double_of_int, if_neg hNA, lib.seconds_finite]
        refine iff_of_true ⟨fun hnan => ?_, fun s hs htype => absurd htype (hlarge s hs)⟩
          (.inr fun _ _ htype => absurd htype hout)
        rw [rounded_not_nan] at hnan
        cases hnan
  | REALSXP klass v =>
      rw [hx] at hi
      obtain ⟨cell, hcell⟩ : ∃ cell, v[i]? = some cell := ⟨_, List.getElem?_eq_getElem hi⟩
      have hsql := sql_data_difftime lib timezone (x := x) (by rw [hx]; rfl) hfactor hdifftime
      have hplain := plain_value_bound lib timezone .time (i := i) hsql rfl
        (by rw [List.getElem?_map, hcell, Option.map_some])
      have hfast := fast_value_double lib timezone hx hfactor (hothers "integer64" (by decide) (by decide))
        (hothers "POSIXlt" (by decide) (by decide)) (.inr (.inl hdifftime)) i
      rw [hcell, Option.bind_some] at hfast
      rw [double_text, if_neg (by simp [hothers "Date" (by decide) (by decide)]), if_pos hdifftime] at hfast
      refine (pathsAgree_iff (fun _ _ => seconds_fixed) hplain hfast).trans (double_agrees_iff.trans ?_)
      simp only [hcell, loaded_time, moment_at, Option.map_some, Option.some.injEq, Moment.time.injEq]
      constructor
      · rintro h d s rfl hs htype
        exact h s hs htype
      · intro h s hs htype
        exact h _ s rfl hs htype
  | _ =>
      unfold NumberVector at hstored
      rw [hx] at hstored
      exact hstored.elim

end Durations

section Times

variable {lib : RLibrary} {timezone : String}

theorem day_of_int (w : ℤ) : day_of (w : ℚ) = w / 86400 := by
  have h := Int.floor_div_natCast (w : ℚ) 86400
  rw [Int.floor_intCast, Nat.cast_ofNat] at h
  exact h

theorem micros_of_day_int (lib : RLibrary) (w : ℤ) :
    micros_of_day lib (w : ℚ) = (w % 86400).toNat * 1000000 := by
  have htime : time_of_day (w : ℚ) = ((w % 86400 : ℤ) : ℚ) := by
    have hrest : w % 86400 = w - w / 86400 * 86400 := by omega
    rw [time_of_day, day_of_int, hrest]
    push_cast
    rfl
  rw [micros_of_day, htime, Int.floor_intCast, lib.subseconds_whole, Nat.add_zero]

theorem clock_moment_int (lib : RLibrary) (w : ℤ) : clock_moment lib (w : ℚ) =
    .datetime (Calendar.dateOf (w / 86400 + 719468)) ((w % 86400).toNat * 1000000) := by
  rw [clock_moment, day_of_int, micros_of_day_int]

theorem SqlDate.lt {w : ℤ} (h : SqlDate (w / 86400)) : |w| < 2 ^ 53 := by
  obtain ⟨hlow, hhigh⟩ := h
  rw [abs_lt]
  omega

theorem double_int {w : ℤ} (h : |w| < 2 ^ 53) : machine.double (w : ℚ) = w := machine_rounds.int h

theorem vanishing_small : (43200 : ℚ) * 2 ^ (-1074 : ℤ) < 1 / 9007199254740992 := by
  decide +kernel

theorem sent_day_whole {w : ℤ} (hw : |w| < 2 ^ 53) (h : Representable (w / 86400)) :
    sent_day machine (w : ℚ) = w / 86400 := by
  have hkept : ¬(-(43200 * 2 ^ (-1074 : ℤ)) ≤ (w : ℚ) ∧ (w : ℚ) < 0) := by
    rintro ⟨hlow, hneg⟩
    have hw : w ≤ -1 := by
      have : w < 0 := by exact_mod_cast hneg
      omega
    have hq : (w : ℚ) ≤ -1 := by exact_mod_cast hw
    linarith [vanishing_small]
  have hfloor : ⌊(w : ℚ) / 86400⌋ = w / 86400 := day_of_int w
  rw [← hfloor] at h ⊢
  exact sent_day_eq (double_int hw) h hkept

theorem sent_day_int {w : ℤ} (h : SqlDate (w / 86400)) : sent_day machine (w : ℚ) = w / 86400 :=
  sent_day_whole h.lt h.representable

theorem sent_time_int {w : ℤ} (h : SqlDate (w / 86400)) :
    sent_time machine (w : ℚ) = ((w % 86400 : ℤ) : ℚ) := by
  have hrest : w % 86400 = w - w / 86400 * 86400 := by omega
  have hint := double_int (w := w % 86400) (by
    rw [abs_lt]
    omega)
  rw [sent_time, sent_day_int h, ← hint, hrest]
  push_cast
  rfl

-- Whole seconds are sent as they are.
theorem moment_at_int (lib : RLibrary) {w : ℤ} (h : SqlDate (w / 86400)) :
    moment_at .datetime (w : ℚ) = clock_moment lib (w : ℚ) := by
  have hmicros : double_micros |((w % 86400 : ℤ) : ℚ)| = w % 86400 * 1000000 := by
    have hnonneg : (0 : ℚ) ≤ ((w % 86400 : ℤ) : ℚ) := by exact_mod_cast Int.emod_nonneg w (by decide)
    rw [abs_of_nonneg hnonneg, double_micros_int]
  rw [moment_at, sent_time_int h, hmicros, sent_day_int h, clock_moment_int, Moment.datetime.injEq]
  exact ⟨rfl, by omega⟩

theorem day_of_sent_day {w : ℤ} (hw : |w| < 2 ^ 53) (h : SqlDate (sent_day machine (w : ℚ))) :
    sent_day machine (w : ℚ) = w / 86400 := by
  have hday : Representable (w / 86400) := by
    rw [← day_of_int]
    exact representable_of_sent_day (double_int hw) h.representable
  exact sent_day_whole hw hday

theorem inType_int {w : ℤ} (hw : |w| < 2 ^ 53) :
    InType .datetime (w : ℚ) ↔ Supported (w / 86400) := by
  constructor
  · intro h
    have hday : Supported (sent_day machine (w : ℚ)) := h
    rwa [day_of_sent_day hw hday.sqlDate] at hday
  · intro h
    show Supported (sent_day machine (w : ℚ))
    rw [sent_day_int h.sqlDate]
    exact h

-- Only clock times that doubles tell apart have a year of four digits.
theorem lt_of_sent_day {v : ℚ} (h : SqlDate (sent_day machine v)) : |v| < 2 ^ 52 := by
  obtain ⟨hlow, hhigh⟩ := h
  have hfloor : (-719528 : ℚ) ≤ machine.double (v / 86400) := by
    have hle := Int.le_floor.mp hlow
    exact_mod_cast hle
  have hnext : machine.double (v / 86400) < 2932897 := by
    have hlt := Int.floor_lt.mp (Int.lt_add_one_of_le hhigh)
    push_cast at hlt
    linarith
  rw [abs_lt]
  constructor
  · by_contra hless
    have hround := machine_rounds.le_int (v / 86400) (-719529) (by decide) (by
      push_cast
      norm_num at hless ⊢
      linarith)
    push_cast at hround
    linarith
  · by_contra hmore
    have hround := machine_rounds.int_le (v / 86400) 2932897 (by decide) (by
      push_cast
      norm_num at hmore ⊢
      linarith)
    push_cast at hround
    linarith

theorem lt_of_inType {v : ℚ} (h : InType .datetime v) : |v| < 2 ^ 52 :=
  lt_of_sent_day (Supported.sqlDate h)

theorem lt_of_sent_day_double {v : ℚ} (h : SqlDate (sent_day machine (machine.double v))) :
    |v| < 2 ^ 53 := by
  obtain ⟨hlow, hhigh⟩ := abs_lt.mp (lt_of_sent_day h)
  rw [abs_lt]
  constructor
  · by_contra hless
    have hround := machine_rounds.le_int v (-4503599627370496) (by decide) (by
      push_cast
      norm_num at hless ⊢
      linarith)
    push_cast at hround
    norm_num at hlow
    linarith
  · by_contra hmore
    have hround := machine_rounds.int_le v 4503599627370496 (by decide) (by
      push_cast
      norm_num at hmore ⊢
      linarith)
    push_cast at hround
    norm_num at hhigh
    linarith

theorem lt_of_inType_double {v : ℚ} (h : InType .datetime (machine.double v)) : |v| < 2 ^ 53 :=
  lt_of_sent_day_double (Supported.sqlDate h)

-- Whole seconds are shown without rounding.
theorem clock_time_int {t : ℤ} (hsmall : |t + lib.offset timezone t| < 2 ^ 53) :
    clock_time lib timezone (.finite t) = .finite ((t + lib.offset timezone t : ℤ) : ℚ) := by
  unfold clock_time
  split
  · rename_i hUTC
    rw [hUTC, lib.offset_UTC, add_zero]
  · have hsmallq : |(t : ℚ) + lib.offset timezone t| < 2 ^ 53 := by exact_mod_cast hsmall
    have hround := double_int hsmall
    push_cast at hround ⊢
    rw [lib.local_time_number timezone t hsmallq, hround]

theorem loaded_POSIXct_none {w : ℤ} (h : ¬FourDigits lib (w / 86400)) :
    loaded_moment .datetime (POSIXct_text lib w) = .datetime zero_date 0 := by
  have hnone : parse_datetime (POSIXct_text lib w) = none := by
    refine parse_datetime_none h fun c hc => ?_
    split at hc
    · cases hc
    · cases hc
      exact .inr rfl
  rw [loaded_moment, hnone]
  rfl

theorem zero_date_ne (z : ℤ) : zero_date ≠ Calendar.dateOf z := by
  intro h
  have hmonth := (Calendar.dateOf_valid z).month.1
  rw [← h] at hmonth
  revert hmonth
  decide

theorem dateOf_inj {z z' : ℤ} (h : Calendar.dateOf z = Calendar.dateOf z') : z = z' := by
  rw [← Calendar.dayOf_dateOf z, h, Calendar.dayOf_dateOf]

theorem loaded_POSIXct_iff (w w' : ℤ) (h : Supported (w' / 86400)) :
    loaded_moment .datetime (POSIXct_text lib w) = moment_at .datetime (w' : ℚ) ↔ w = w' := by
  rw [moment_at_int lib h.sqlDate, clock_moment_int]
  constructor
  · intro hsame
    by_cases hday : FourDigits lib (w / 86400)
    · rw [loaded_moment, parse_POSIXct_text hday, Option.getD_some, Moment.datetime.injEq] at hsame
      have hz := dateOf_inj hsame.1
      omega
    · rw [loaded_POSIXct_none hday, Moment.datetime.injEq] at hsame
      exact absurd hsame.1 (zero_date_ne _)
  · rintro rfl
    rw [loaded_moment, parse_POSIXct_text (.inl h)]
    rfl

-- The time of day behind a vanishing quotient is rounded to 24 hours.
theorem vanished_day {q : ℚ} (hlow : -(43200 * 2 ^ (-1074 : ℤ)) ≤ q) (hneg : q < 0) :
    machine.double (q + 86400) = 86400 := by
  have hday : IsRounded double (86400 : ℚ) := by
    have hint := isRounded_intCast (F := double) (n := 86400) (by decide)
    exact_mod_cast hint
  have hround : machine.double (q + 86400) ≤ 86400 := round_le hday (by linarith)
  by_contra hne
  have hless := lt_of_le_of_ne hround hne
  have hgap := gap hday (isRounded_round double (q + 86400)) (Ne.symm hne)
  have hnear := round_nearest hday (q + 86400)
  rw [abs_of_pos (by linarith [show machine.double (q + 86400) = round double (q + 86400) from rfl]),
    abs_of_pos (by linarith [show machine.double (q + 86400) = round double (q + 86400) from rfl])] at hgap
  have hclose : 86400 - machine.double (q + 86400) ≤ -(2 * q) := by
    have hdistance := abs_sub_abs_le_abs_sub (86400 - machine.double (q + 86400)) (-q)
    rw [abs_of_pos (by linarith), abs_of_pos (by linarith),
      show 86400 - machine.double (q + 86400) - -q = q + 86400 - machine.double (q + 86400) by ring]
      at hdistance
    rw [show q + 86400 - 86400 = q by ring, abs_of_neg hneg] at hnear
    linarith [show |q + 86400 - machine.double (q + 86400)| ≤ -q from hnear]
  have hprecision : double.precision = 53 := rfl
  rw [hprecision] at hgap
  have hsame : round double (q + 86400) = machine.double (q + 86400) := rfl
  rw [hsame] at hgap
  have hsmall := vanishing_small
  norm_num at hgap
  linarith

theorem double_micros_nonneg {x : ℚ} (h : 0 ≤ x) : 0 ≤ double_micros x := by
  have hfloor := Int.floor_nonneg.mpr h
  have hpart : 0 ≤ ⌊machine.double ((x - ⌊x⌋) * 1000000)⌋ := by
    refine Int.floor_nonneg.mpr (machine_rounds.nonneg ?_)
    linarith [Int.floor_le x]
  unfold double_micros
  omega

theorem sent_time_of_day {v : ℚ} (h : sent_day machine v = day_of v) :
    |sent_time machine v| = machine.double (time_of_day v) := by
  rw [sent_time, h]
  exact abs_of_nonneg (machine_rounds.nonneg (time_of_day_bounds _).1)

theorem vanished_not_kept {v : ℚ} (hlow : -(43200 * 2 ^ (-1074 : ℤ)) ≤ machine.double v)
    (hneg : machine.double v < 0) : ¬Kept lib v := by
  rintro ⟨-, hmicros⟩
  have hlast : day_of (machine.double v) = -1 := (sent_day_vanished hlow hneg).2
  have htwentyfour : machine.double (time_of_day (machine.double v)) = ((86400 : ℤ) : ℚ) := by
    have hround := vanished_day hlow hneg
    rw [time_of_day, hlast]
    push_cast
    rw [show machine.double v - -1 * 86400 = machine.double v + 86400 by ring]
    exact hround
  rw [htwentyfour, double_micros_int] at hmicros
  have hless := micros_of_day_lt lib v
  omega

theorem loaded_datetime_parts {v : ℚ} (h : InType .datetime (machine.double v)) :
    loaded_moment .datetime (datetime_text lib v) = moment_at .datetime (machine.double v) ↔
      sent_day machine (machine.double v) = day_of v ∧
        (double_micros |sent_time machine (machine.double v)|).toNat = micros_of_day lib v := by
  by_cases hday : FourDigits lib (day_of v)
  · rw [loaded_datetime hday, clock_moment, moment_at, Moment.datetime.injEq]
    constructor
    · rintro ⟨hdate, hmicros⟩
      have hz := dateOf_inj hdate
      exact ⟨by omega, hmicros.symm⟩
    · rintro ⟨hdate, hmicros⟩
      exact ⟨by rw [hdate], hmicros.symm⟩
  · refine iff_of_false (fun hsame => ?_) fun hsame => hday (.inl (hsame.1 ▸ h))
    have hnone : parse_datetime (datetime_text lib v) = none := by
      rw [datetime_text_eq]
      refine parse_datetime_none hday fun c hc => ?_
      cases hc
      exact .inl rfl
    rw [loaded_moment, hnone, moment_at] at hsame
    exact zero_date_ne _ (Moment.datetime.inj hsame).1

-- The text of a clock time and the double next to it
theorem loaded_datetime_iff {v : ℚ} (hneg : machine.double v < 0 → v < 0)
    (h : InType .datetime (machine.double v)) :
    loaded_moment .datetime (datetime_text lib v) = moment_at .datetime (machine.double v) ↔ Kept lib v := by
  rw [loaded_datetime_parts h]
  by_cases hvanish : -(43200 * 2 ^ (-1074 : ℤ)) ≤ machine.double v ∧ machine.double v < 0
  · -- a time of 1969 is sent as one of 1970
    have hsent := (sent_day_vanished hvanish.1 hvanish.2).1
    have hearlier : day_of v < 0 := by
      apply Int.floor_lt.mpr
      push_cast
      linarith [hneg hvanish.2]
    exact iff_of_false (fun hsame => by omega) (vanished_not_kept hvanish.1 hvanish.2)
  · have hfixed : machine.double (machine.double v) = machine.double v := machine_rounds.again v
    have hrange : Representable (day_of (machine.double v)) :=
      representable_of_sent_day hfixed (Supported.sqlDate h).representable
    have hday : sent_day machine (machine.double v) = day_of (machine.double v) :=
      sent_day_eq hfixed hrange hvanish
    have hnonneg := double_micros_nonneg
      (machine_rounds.nonneg (time_of_day_bounds (machine.double v)).1)
    rw [sent_time_of_day hday, hday, Kept]
    refine and_congr_right fun _ => ?_
    omega

theorem loaded_ne_number (n : ℤ) (v : Option Bytes) :
    v.map (loaded_moment .datetime) ≠ some (moment_of .datetime (.int n)) := by
  cases v with
  | none => exact fun h => by cases h
  | some s =>
      rw [Option.map_some, Ne, Option.some.injEq]
      exact fun h => by cases h

-- In UTC a time of integer storage is bound as an integer.
theorem integer_times_UTC {x : RVector} {klass : List String} {v : List ℤ}
    (hx : x.sexp = .INTSXP klass v) (hclass : Classed "POSIXt" [] x) {i : Nat} {n : ℤ}
    (hn : v[i]? = some n) : PathsAgree lib "UTC" .datetime x i ↔ n = NA_INTEGER := by
  obtain ⟨hposix, hothers⟩ := hclass.inherits (by simp [hx])
  have hfactor := hothers "factor" (by decide) (by decide)
  have hsql := sql_data_POSIXct_UTC lib hfactor (hothers "Date" (by decide) (by decide))
    (hothers "difftime" (by decide) (by decide)) hposix (hothers "POSIXlt" (by decide) (by decide))
  have hplain : plain_value lib "UTC" x i = .ok (if n = NA_INTEGER then none else some (.int n)) := by
    rw [plain_value, hsql, hx]
    simp only [variable_type_from_object, ok_bind, MariaBinding.param_value, INTEGER, index_eq_ok hn]
    rfl
  have hfast := fast_value_INTSXP_of lib "UTC" hx hfactor i
  rw [hn, Option.bind_some] at hfast
  by_cases hNA : n = NA_INTEGER
  · refine iff_of_true (fun p hp _ => ⟨_, hfast, ?_⟩) hNA
    rw [hplain, if_pos hNA] at hp
    cases hp
    rw [quote_integer, if_pos hNA]
    rfl
  · refine iff_of_false (fun h => ?_) hNA
    rw [if_neg hNA] at hplain
    obtain ⟨v', -, hsame⟩ := h _ hplain (fun value hvalue => by
      cases hvalue
      trivial)
    exact loaded_ne_number n v' hsame

theorem as_character_POSIXct {x : RVector} (hdate : x.inherits "Date" = false)
    (hposix : x.inherits "POSIXt" = true) (hlist : ∀ klass v, x.sexp ≠ .VECSXP klass v) (n : ℤ) :
    as_character_integer lib (without_AsIs x) n = POSIXct_text lib (n + lib.offset x.tzone n) := by
  rw [as_character_integer, inherits_without_AsIs hlist (by decide),
    inherits_without_AsIs hlist (by decide), if_neg (by simp [hdate]), if_pos hposix]
  rfl

-- From 2^53 seconds on a clock time is in no range, rounded or not.
theorem large_clock_time {n : ℤ} (hlarge : ¬|n + lib.offset timezone n| < 2 ^ 53) :
    ¬InType .datetime ((n : ℚ) + lib.offset timezone n) ∧
      ∀ v : ℚ, lib.local_time timezone (.finite n) = .finite v → ¬InType .datetime v := by
  constructor
  · intro htype
    have hlt := lt_of_inType htype
    refine hlarge ?_
    have hless : |(n : ℚ) + lib.offset timezone n| < 2 ^ 53 := hlt.trans (by norm_num)
    exact_mod_cast hless
  · intro v hv htype
    obtain ⟨q, hq, rfl⟩ := lib.local_time_finite timezone _ _ hv
    cases hq
    have hlt := lt_of_inType_double htype
    exact hlarge (by exact_mod_cast hlt)

-- The text of a clock time is that of the zone of the vector, and a zero has none.
theorem loaded_integer_iff {x : RVector} (hdate : x.inherits "Date" = false)
    (hposix : x.inherits "POSIXt" = true) (hlist : ∀ klass v, x.sexp ≠ .VECSXP klass v) {n w : ℤ}
    (hw : w = n + lib.offset timezone n) (hday : Supported (w / 86400)) :
    loaded_moment .datetime (if n = 0 then [] else as_character_integer lib (without_AsIs x) n) =
        moment_at .datetime (w : ℚ) ↔
      n ≠ 0 ∧ lib.offset x.tzone n = lib.offset timezone n := by
  by_cases hzero : n = 0
  · rw [if_pos hzero, moment_at_int lib hday.sqlDate, clock_moment_int]
    refine iff_of_false (fun h => ?_) (fun h => h.1 hzero)
    exact absurd (Moment.datetime.inj h).1 (zero_date_ne _)
  · rw [if_neg hzero, as_character_POSIXct hdate hposix hlist, loaded_POSIXct_iff _ _ hday]
    constructor
    · intro h
      exact ⟨hzero, by omega⟩
    · intro h
      rw [h.2, hw]

theorem integer_times_iff {x : RVector} {klass : List String} {v : List ℤ}
    (hx : x.sexp = .INTSXP klass v) (hclass : Classed "POSIXt" [] x) (hzone : timezone ≠ "UTC")
    {i : Nat} {n : ℤ} (hn : v[i]? = some n) : PathsAgree lib timezone .datetime x i ↔
      (n ≠ NA_INTEGER → ¬ISNAN (lib.local_time timezone (.finite n)) ∧
        (InType .datetime (n + lib.offset timezone n) →
          n ≠ 0 ∧ lib.offset x.tzone n = lib.offset timezone n)) := by
  have hlist : ∀ klass v, x.sexp ≠ .VECSXP klass v := by simp [hx]
  obtain ⟨hposix, hothers⟩ := hclass.inherits hlist
  have hfactor := hothers "factor" (by decide) (by decide)
  have hlast : klass.getLast? = some "POSIXt" := by
    have hlast := hclass.last
    rwa [hx] at hlast
  have hsql := sql_data_POSIXct lib timezone (x := x) (by rw [hx]; rfl) hfactor
    (hothers "difftime" (by decide) (by decide)) hposix (hothers "POSIXlt" (by decide) (by decide)) hzone
  have hplain := plain_value_bound lib timezone .datetime (i := i) hsql hlast
    (by rw [List.getElem?_map, List.getElem?_map, hn, Option.map_some, Option.map_some])
  have hfast := fast_value_INTSXP_of lib timezone hx hfactor i
  rw [hn, Option.bind_some] at hfast
  refine (pathsAgree_iff (by simp) hplain hfast).trans ?_
  by_cases hNA : n = NA_INTEGER
  · have hmissing := lib.local_time_missing timezone .NA rfl
    refine iff_of_true ⟨fun _ => ?_, fun q hq _ => ?_⟩ fun h => absurd hNA h
    · rw [quote_integer, if_pos hNA]
    · have hlocal : lib.local_time timezone .NA = .finite q := by
        rw [← hq, Coerce.double_of_int, if_pos hNA]
      rw [hlocal] at hmissing
      cases hmissing
  rw [Coerce.double_of_int, if_neg hNA]
  simp only [ne_eq, hNA, not_false_eq_true, forall_true_left]
  by_cases hsmall : |n + lib.offset timezone n| < 2 ^ 53
  · have hsmallq : |(n : ℚ) + lib.offset timezone n| < 2 ^ 53 := by exact_mod_cast hsmall
    have hround := double_int hsmall
    push_cast at hround
    have hlocal := lib.local_time_number timezone n hsmallq
    rw [hround] at hlocal
    rw [hlocal]
    refine (integer_agrees_iff (n := n) (q := n + lib.offset timezone n) (fun h => absurd h hNA)
      (fun _ => rfl)).trans ?_
    simp only [ne_eq, hNA, not_false_eq_true, forall_true_left, ISNAN, reduceCtorEq, or_self, decide_false,
      Bool.false_eq_true, true_and]
    refine forall_congr' fun hq => ?_
    rw [← Int.cast_add] at hq ⊢
    have hday : Supported ((n + lib.offset timezone n) / 86400) := (inType_int hsmall).mp hq
    exact loaded_integer_iff (hothers "Date" (by decide) (by decide)) hposix hlist rfl hday
  · obtain ⟨hout, hlarge⟩ := large_clock_time hsmall
    constructor
    · rintro ⟨hnull, -⟩
      refine ⟨fun hnan => ?_, fun htype => absurd htype hout⟩
      have hnone := hnull hnan
      rw [quote_integer, if_neg hNA] at hnone
      split at hnone <;> cases hnone
    · rintro ⟨hnan, -⟩
      exact ⟨fun h => absurd h hnan, fun v hv htype => absurd htype (hlarge v hv)⟩

-- A time of double storage
theorem double_times_iff {q : ℚ} (hfixed : machine.double q = q) :
    ((ISNAN (clock_time lib timezone (.finite q)) →
        some (datetime_text lib (q + lib.offset timezone q)) = none) ∧
      ∀ v, clock_time lib timezone (.finite q) = .finite v → InType .datetime v →
        (some (datetime_text lib (q + lib.offset timezone q))).map (loaded_moment .datetime) =
          some (moment_at .datetime v)) ↔
    ¬ISNAN (clock_time lib timezone (.finite q)) ∧
      (InType .datetime (machine.double (q + lib.offset timezone q)) →
        Kept lib (q + lib.offset timezone q)) := by
  have hnumber : ∀ v, clock_time lib timezone (.finite q) = .finite v →
      v = machine.double (q + lib.offset timezone q) := by
    intro v hv
    unfold clock_time at hv
    split at hv
    · rename_i hUTC
      cases hv
      rw [hUTC, lib.offset_UTC, Int.cast_zero, add_zero, hfixed]
    · obtain ⟨q', hq, rfl⟩ := lib.local_time_finite timezone _ _ hv
      cases hq
      rfl
  have hbound : InType .datetime (machine.double (q + lib.offset timezone q)) →
      clock_time lib timezone (.finite q) =
        .finite (machine.double (q + lib.offset timezone q)) := by
    intro htype
    unfold clock_time
    split
    · rename_i hUTC
      rw [hUTC, lib.offset_UTC, Int.cast_zero, add_zero, hfixed]
    · exact lib.local_time_number timezone q (lt_of_inType_double htype)
  have hneg : machine.double (q + lib.offset timezone q) < 0 → q + lib.offset timezone q < 0 := by
    intro h
    by_contra hge
    exact absurd (machine_rounds.nonneg (not_lt.mp hge)) (not_le.mpr h)
  constructor
  · rintro ⟨hnull, hvalue⟩
    refine ⟨fun hnan => absurd (hnull hnan) (by simp), fun htype => ?_⟩
    have hsame := hvalue _ (hbound htype) htype
    rw [Option.map_some, Option.some.injEq] at hsame
    exact (loaded_datetime_iff hneg htype).mp hsame
  · rintro ⟨hnan, hkept⟩
    refine ⟨fun h => absurd h hnan, fun v hv htype => ?_⟩
    rw [hnumber v hv] at htype ⊢
    rw [Option.map_some, (loaded_datetime_iff hneg htype).mpr (hkept htype)]

theorem clock_time_finite {d : Double} {v : ℚ} (h : clock_time lib timezone d = .finite v) :
    ∃ q, d = .finite q := by
  unfold clock_time at h
  split at h
  · exact ⟨v, h⟩
  · obtain ⟨q, hq, -⟩ := lib.local_time_finite timezone d v h
    exact ⟨q, hq⟩

theorem times_agree_iff {x : RVector} (hclass : Classed "POSIXt" [] x) (hstored : NumberVector x)
    (hdoubles : ∀ q, .finite q ∈ doubles x.sexp → IsFloat double q) {i : Nat} (hi : i < x.length) : PathsAgree lib timezone .datetime x i ↔ Loads lib timezone .datetime x i := by
  have hlist := hstored.not_list.1
  obtain ⟨hposix, hothers⟩ := hclass.inherits hlist
  rw [Loads]
  rw [RVector.length] at hi
  cases hx : x.sexp with
  | INTSXP klass v =>
      rw [hx] at hi
      obtain ⟨n, hn⟩ : ∃ n, v[i]? = some n := ⟨_, List.getElem?_eq_getElem hi⟩
      simp only [hn, Option.some.injEq, forall_eq']
      by_cases hzone : timezone = "UTC"
      · subst hzone
        rw [integer_times_UTC hx hclass hn]
        simp
      · rw [integer_times_iff hx hclass hzone hn]
        simp [hzone]
  | REALSXP klass v =>
      rw [hx] at hi
      obtain ⟨cell, hcell⟩ : ∃ cell, v[i]? = some cell := ⟨_, List.getElem?_eq_getElem hi⟩
      have hfactor := hothers "factor" (by decide) (by decide)
      have hdate := hothers "Date" (by decide) (by decide)
      have hdifftime := hothers "difftime" (by decide) (by decide)
      have hposixlt := hothers "POSIXlt" (by decide) (by decide)
      have hlast : klass.getLast? = some "POSIXt" := by
        have hlast := hclass.last
        rwa [hx] at hlast
      have hsql := sql_data_POSIXct_double lib timezone hx hfactor hdate hdifftime
        hposix hposixlt
      have hplain := plain_value_bound lib timezone .datetime (i := i) hsql hlast
        (by rw [List.getElem?_map, hcell, Option.map_some])
      have hfast := fast_value_double lib timezone hx hfactor (hothers "integer64" (by decide) (by decide))
        hposixlt (.inr (.inr hposix)) i
      rw [hcell, Option.bind_some] at hfast
      rw [double_text, if_neg (by simp [hdate]), if_neg (by simp [hdifftime])] at hfast
      refine (pathsAgree_iff (by simp) hplain hfast).trans ?_
      simp only [hcell, Option.map_some, Option.some.injEq]
      cases hreal : cell.real with
      | finite q =>
          have hfixed : machine.double q = q := by
            refine double_fixed (hdoubles q ?_)
            rw [hx, doubles, ← hreal]
            exact List.mem_map_of_mem (List.mem_of_getElem? hcell)
          simp only [Double.finite.injEq, forall_eq']
          exact double_times_iff hfixed
      | _ =>
          refine iff_of_true ⟨fun _ => rfl, fun v hv _ => ?_⟩ fun q hq => by cases hq
          obtain ⟨q, hq⟩ := clock_time_finite hv
          cases hq
  | _ =>
      unfold NumberVector at hstored
      rw [hx] at hstored
      exact hstored.elim

theorem broken_down_times_agree_iff {x : RVector} (hclass : Classed "POSIXt" ["POSIXlt"] x)
    (hposixlt : IsPOSIXlt x) {i : Nat} (hi : i < x.length) :
    PathsAgree lib timezone .datetime x i ↔ Loads lib timezone .datetime x i := by
  obtain ⟨hinherits, klass, hx⟩ := hposixlt
  rw [RVector.length, hx] at hi
  obtain ⟨d, hd⟩ : ∃ d, x.instants[i]? = some d := ⟨_, List.getElem?_eq_getElem hi⟩
  have hplain := plain_value_bound lib timezone .datetime (i := i)
    (sql_data_POSIXlt lib timezone hx hclass hinherits) rfl (by rw [List.getElem?_map, hd, Option.map_some])
  refine (pathsAgree_iff (by simp) hplain (fast_value_POSIXlt lib timezone hx hclass hinherits i)).trans ?_
  rw [Loads, hx]
  simp only [hd, Option.some.injEq]
  constructor
  · rintro ⟨-, h⟩ d' q rfl hq htype
    cases h q hq htype
  · intro h
    exact ⟨fun _ => trivial, fun q hq htype => absurd htype (h _ q rfl hq)⟩

end Times

section Columns

variable (lib : RLibrary) (timezone : String)

-- The columns and elements for which LOAD DATA stores what the parameter path binds.
theorem temporal_paths_agree_iff (type : TemporalType) {x : RVector} (h : TemporalColumn type x)
    (hdoubles : ∀ q, .finite q ∈ doubles x.sexp → IsFloat double q) {i : Nat} (hi : i < x.length) :
    PathsAgree lib timezone type x i ↔ Loads lib timezone type x i := by
  cases type with
  | date => exact dates_agree_iff h.1 h.2 hi
  | time => exact durations_agree_iff h.1 h.2.1 h.2.2 hi
  | datetime =>
      rcases h with ⟨hclass, hstored⟩ | ⟨hclass, hposixlt⟩
      · exact times_agree_iff hclass hstored hdoubles hi
      · exact broken_down_times_agree_iff hclass hposixlt hi

end Columns

section Example

def meeting : RVector where
  sexp := .REALSXP ["POSIXct", "POSIXt"] [⟨.finite (-3 / 2), 0⟩]

theorem temporal_paths_agree_iff_meeting :
    PathsAgree utc "UTC" .datetime meeting 0 ↔ Loads utc "UTC" .datetime meeting 0 :=
  temporal_paths_agree_iff utc "UTC" .datetime (x := meeting) (.inl ⟨⟨rfl, by decide⟩, trivial⟩)
    (by
      intro q hq
      cases List.mem_singleton.mp hq
      exact ⟨-3, -1, by decide, by decide, by decide, by norm_num⟩) (by decide)

-- The first of January 1970 in integer storage, a minute in integer storage, and a time
-- as its parts.
def epoch : RVector where
  sexp := .INTSXP ["Date"] [0]

def minute : RVector where
  sexp := .INTSXP ["difftime"] [1]
  units := .mins

def parts : RVector where
  sexp := .other "list" ["POSIXlt", "POSIXt"] 1
  instants := [.finite 0]

theorem epoch_minute_and_parts_differ :
    (TemporalColumn .date epoch ∧ ¬PathsAgree utc "UTC" .date epoch 0) ∧
    (TemporalColumn .time minute ∧ ¬PathsAgree utc "UTC" .time minute 0) ∧
    (TemporalColumn .datetime parts ∧ ¬PathsAgree utc "UTC" .datetime parts 0) := by
  have hepoch : Classed "Date" [] epoch := ⟨rfl, by decide⟩
  have hminute : Classed "difftime" ["hms"] minute := ⟨rfl, by decide⟩
  have hparts : Classed "POSIXt" ["POSIXlt"] parts := ⟨rfl, by decide⟩
  have hposixlt : IsPOSIXlt parts := ⟨by decide, _, rfl⟩
  refine ⟨⟨⟨hepoch, trivial⟩, ?_⟩, ⟨⟨hminute, trivial, by decide⟩, ?_⟩, ⟨.inr ⟨hparts, hposixlt⟩, ?_⟩⟩
  · rw [dates_agree_iff hepoch trivial (by decide)]
    exact fun h => h rfl
  · rw [durations_agree_iff hminute trivial (by decide) (by decide)]
    rintro (h | h)
    · revert h
      decide
    · have htime : InType .time (((1 : ℤ) : ℚ) * (Units.mins.seconds : ℤ)) := by
        rw [← Int.cast_mul, InType, bound_micros_int]
        exact ⟨by decide, by decide⟩
      have hsecs := (h 1 rfl (by decide) (by decide) htime).1
      revert hsecs
      decide
  · rw [broken_down_times_agree_iff hparts hposixlt (by decide)]
    intro h
    have hday : InType .datetime ((0 : ℤ) : ℚ) := (inType_int (by decide)).mpr (by decide)
    exact h _ _ rfl rfl hday

end Example

end RMariaDB.Table
