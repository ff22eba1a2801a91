import RMariaDB.MariaBinding.Instants

-- The dates for which the year field holds the year, and all arithmetic stays in range.

namespace RMariaDB

open Program CArith MariaBinding Floating

-- Where the signed arithmetic stays in range
theorem civil_range {c : Arith} (hc : Agrees c) {date : ℤ} {r : ℤ × ℤ × ℤ}
    (h : civil_from_days c date = some r) :
    -2147337552 ≤ date + 719468 ∧ date + 719468 ≤ 2147483647 := by
  by_cases hz : InInt (date + 719468)
  · rw [civil_from_days, bind_step (hc.int hz)] at h
    refine ⟨?_, hz.2⟩
    by_contra hlow
    have hshift : (if date + 719468 ≥ 0 then some (date + 719468)
        else c.int (date + 719468 - 146096)) = none := by
      rw [if_neg (by omega), hc.1]
      refine if_neg ?_
      unfold InInt
      omega
    rw [hshift] at h
    cases h
  · have hnone : c.int (date + 719468) = none := by
      rw [hc.1]
      exact if_neg hz
    rw [civil_from_days, hnone] at h
    cases h

theorem representable_of_exact {date : ℤ} {t t' : MYSQL_TIME}
    (h : set_date_buffer exact date t = some t') : Representable date := by
  cases hcivil : civil_from_days exact date with
  | none =>
      rw [set_date_buffer, hcivil] at h
      cases h
  | some r =>
      obtain ⟨hlow, hhigh⟩ := civil_range exact_agrees hcivil
      rw [civil_from_days_wide exact_agrees hlow hhigh] at hcivil
      obtain ⟨year, hyear, _⟩ := Option.map_eq_some_iff.mp hcivil
      have hnonneg : 0 ≤ (Calendar.dateOf (date + 719468)).year := by
        by_contra hneg
        have hnone : exact.unsigned (Calendar.dateOf (date + 719468)).year = none :=
          if_neg fun hrange => hneg hrange.1
        rw [hnone] at hyear
        cases hyear
      rw [Calendar.year_dateOf_iff] at hnonneg
      have hfirst : Calendar.dayOf ⟨0, 1, 1⟩ = -60 := by decide
      unfold Representable
      omega

-- The day of a finite value
def day_of_value (type : MariaFieldType) (val : ℚ) : ℤ :=
  if type = .MY_DATE then ⌊val⌋ else ⌊val / 86400⌋

-- The quotient of a time that is so near to 1970 is rounded to zero.
def Vanishes (type : MariaFieldType) (val : ℚ) : Prop :=
  type ≠ .MY_DATE ∧ -(43200 * 2 ^ (-1074 : ℤ)) ≤ val ∧ val < 0

section Quotients

variable {val : ℚ}

theorem double_fixed (h : IsFloat double val) : machine.double val = val := round_of_isRounded h.rounded

-- No other quotient is rounded up to the next day.
theorem sent_day_eq (hfixed : machine.double val = val) (h : Representable ⌊val / 86400⌋)
    (hkept : ¬(-(43200 * 2 ^ (-1074 : ℤ)) ≤ val ∧ val < 0)) :
    sent_day machine val = ⌊val / 86400⌋ := by
  obtain ⟨hlow, hhigh⟩ := h
  by_cases hlast : ⌊val / 86400⌋ = -1
  · obtain ⟨hbelow, habove⟩ := Int.floor_eq_iff.mp hlast
    have hneg : val / 86400 < 0 := by
      push_cast at habove
      linarith
    have hsmall : val / 86400 < -2 ^ (double.least - 1) := by
      have hhalf : (2 : ℚ) ^ (-1074 : ℤ) = 2 * 2 ^ (double.least - 1) := by
        rw [← zpow_one_add₀ (by norm_num)]
        rfl
      by_contra hge
      refine hkept ⟨?_, by linarith⟩
      rw [hhalf]
      linarith
    have hround := round_neg_iff.mpr hsmall
    have hint := machine_rounds.int_le (val / 86400) (-1) (by decide) hbelow
    rw [hlast, sent_day, Int.floor_eq_iff]
    exact ⟨hint, by push_cast; linarith [show machine.double (val / 86400) < 0 from hround]⟩
  · exact machine_rounds.floor_div hfixed (k := 86400) (by decide) (by push_cast; omega)
      (by push_cast; omega) hlast

theorem representable_of_sent_day (hfixed : machine.double val = val)
    (h : Representable (sent_day machine val)) : Representable ⌊val / 86400⌋ := by
  obtain ⟨hlow, hhigh⟩ := h
  have hfirst := Int.le_floor.mp hlow
  have hlast : machine.double (val / 86400) < 2146764180 := by
    have hnext := Int.floor_lt.mp (Int.lt_add_one_of_le hhigh)
    push_cast at hnext
    linarith
  constructor
  · apply Int.le_floor.mpr
    by_contra hless
    have hround := machine_rounds.div_lt val hfixed 86400 (-719528) (by decide) (by decide)
      (by decide) (by exact_mod_cast not_le.mp hless)
    push_cast at hfirst hround
    linarith
  · have hless : ⌊val / 86400⌋ < 2146764180 := by
      apply Int.floor_lt.mpr
      by_contra hge
      have hround := machine_rounds.int_le (val / 86400) 2146764180 (by decide) (not_lt.mp hge)
      push_cast at hround
      linarith
    omega

-- Such a time belongs to 1969 and is sent with the year 1970.
theorem sent_day_vanished (hlow : -(43200 * 2 ^ (-1074 : ℤ)) ≤ val) (hneg : val < 0) :
    sent_day machine val = 0 ∧ ⌊val / 86400⌋ = -1 := by
  have htiny : (43200 : ℚ) * 2 ^ (-1074 : ℤ) ≤ 86400 := by
    have hone : (2 : ℚ) ^ (-1074 : ℤ) ≤ 1 := zpow_le_one_of_nonpos₀ (by norm_num) (by norm_num)
    linarith
  constructor
  · have hround : ¬round double (val / 86400) < 0 := by
      rw [round_neg_iff]
      have hhalf : (2 : ℚ) ^ (-1074 : ℤ) = 2 * 2 ^ (double.least - 1) := by
        rw [← zpow_one_add₀ (by norm_num)]
        rfl
      rw [hhalf] at hlow
      linarith
    have hzero := machine_rounds.le_int (val / 86400) 0 (by decide) (by
      push_cast
      linarith)
    have hsame : machine.double (val / 86400) = 0 := by
      refine le_antisymm (by exact_mod_cast hzero) ?_
      exact not_lt.mp hround
    rw [sent_day, hsame, Int.floor_zero]
  · rw [Int.floor_eq_iff]
    push_cast
    constructor <;> linarith

end Quotients

-- What set_date_buffer() and the cast before it do, in the given arithmetic
def encode (c : Arith) (type : MariaFieldType) (val : ℚ) (t : MYSQL_TIME) : Option MYSQL_TIME :=
  if type = .MY_DATE then date_buffer c (.finite val) t else date_time_buffer c (.finite val) t

-- Either nothing is sent for the element, or no operation leaves its range and the year is right.
def SendsTrueDate (slot : Slot) (col : SEXP) (i : Nat) (val : ℚ) : Prop :=
  (∃ e, bind_value slot col i = .error e ∧ e.Ends = false) ∨
  bind_value slot col i = .ok none ∨
  ∃ t slot', bind_value slot col i = .ok (some slot') ∧ slot'.buffer = some (.time t) ∧
    encode exact slot.type val slot.time_buffer = some t ∧
    (t.year : ℤ) = (Calendar.dateOf (day_of_value slot.type val + 719468)).year

theorem of_cast_floor {x : ℚ} {date : ℤ} (h : MariaBinding.cast InInt ((CArith.floor x : ℤ) : ℚ) = some date) :
    ⌊x⌋ = date := by
  unfold MariaBinding.cast fits at h
  rw [trunc_intCast] at h
  split at h
  · exact Option.some.inj h
  · cases h

-- The day that is sent
theorem day_of_encode {type : MariaFieldType} {val : ℚ} {t t' : MYSQL_TIME}
    (h : encode exact type val t = some t') :
    if type = .MY_DATE then Representable ⌊val⌋
    else Representable (sent_day machine val) ∧
      (t'.year : ℤ) = (Calendar.dateOf (sent_day machine val + 719468)).year := by
  unfold encode at h
  split at h
  · rename_i htype
    rw [if_pos htype]
    obtain ⟨date, hcast, h⟩ := Option.bind_eq_some_iff.mp h
    obtain ⟨written, hwritten, _⟩ := Option.bind_eq_some_iff.mp h
    rw [of_cast_floor hcast]
    exact representable_of_exact hwritten
  · rename_i htype
    rw [if_neg htype]
    have hday : Representable (sent_day exact val) := by
      obtain ⟨date, hcast, h⟩ := Option.bind_eq_some_iff.mp h
      obtain ⟨written, hwritten, _⟩ := Option.bind_eq_some_iff.mp h
      rw [sent_day, of_cast_floor hcast]
      exact representable_of_exact hwritten
    rw [date_time_buffer_eq exact_agrees exact_rounds t hday] at h
    cases h
    exact ⟨hday, Int.toNat_of_nonneg ((representable_iff _).mp hday).1⟩

theorem encode_representable {type : MariaFieldType} {val : ℚ} (hval : IsFloat double val)
    (t : MYSQL_TIME) (h : Representable (day_of_value type val)) (hkept : ¬Vanishes type val) :
    ∃ t', encode exact type val t = some t' ∧ encode machine type val t = some t' ∧
      (t'.year : ℤ) = (Calendar.dateOf (day_of_value type val + 719468)).year := by
  have hyear := ((representable_iff _).mp h).1
  unfold encode
  unfold day_of_value at h hyear ⊢
  split
  · rename_i htype
    rw [if_pos htype] at h hyear
    refine ⟨_, date_buffer_eq exact_agrees t h, date_buffer_eq machine_agrees t h, ?_⟩
    exact Int.toNat_of_nonneg hyear
  · rename_i htype
    rw [if_neg htype] at h hyear
    have hday := sent_day_eq (double_fixed hval) h fun hsmall => hkept ⟨htype, hsmall⟩
    rw [← hday] at h hyear ⊢
    refine ⟨_, date_time_buffer_eq exact_agrees exact_rounds t h,
      date_time_buffer_eq machine_agrees machine_rounds t h, ?_⟩
    exact Int.toNat_of_nonneg hyear

variable {slot : Slot} {klass : List String} {cells : List RealCell} {i : Nat} {val : ℚ} {int64 : ℤ}

theorem bind_finite (htype : slot.type = .MY_DATE ∨ slot.type = .MY_DATE_TIME)
    (hcell : cells[i]? = some ⟨.finite val, int64⟩) :
    bind_value slot (.REALSXP klass cells) i =
      bind_value.bind_time slot (encode machine slot.type val slot.time_buffer) := by
  have hreal : REAL (.REALSXP klass cells) i = .ok (.finite val) := by
    simp only [REAL, index_eq_ok hcell, map_ok]
  rcases htype with htype | htype
  · simp [bind_value, htype, hreal, ISNAN, encode]
  · simp [bind_value, htype, hreal, ISNAN, encode]

-- A date is sent rightly exactly on the days from 0000-01-01 to the last that an int can count,
-- but for the last moments before 1970.
theorem true_date_iff (hval : IsFloat double val)
    (htype : slot.type = .MY_DATE ∨ slot.type = .MY_DATE_TIME)
    (hcell : cells[i]? = some ⟨.finite val, int64⟩) :
    SendsTrueDate slot (.REALSXP klass cells) i val ↔
      Representable (day_of_value slot.type val) ∧ ¬Vanishes slot.type val := by
  unfold SendsTrueDate
  rw [bind_finite htype hcell]
  constructor
  · rintro (⟨e, herror, hends⟩ | hnull | ⟨t, slot', _, _, hexact, hyear⟩)
    · cases hmachine : encode machine slot.type val slot.time_buffer with
      | none =>
          rw [hmachine] at herror
          cases herror
          cases hends
      | some t =>
          rw [hmachine] at herror
          cases herror
    · cases hmachine : encode machine slot.type val slot.time_buffer with
      | none =>
          rw [hmachine] at hnull
          cases hnull
      | some t =>
          rw [hmachine] at hnull
          cases hnull
    · have hday := day_of_encode hexact
      unfold day_of_value at hyear ⊢
      split at hday
      · rename_i hdate
        rw [if_pos hdate]
        exact ⟨hday, fun hvanishes => hvanishes.1 hdate⟩
      · rename_i hdate
        rw [if_neg hdate] at hyear ⊢
        refine ⟨representable_of_sent_day (double_fixed hval) hday.1, fun ⟨_, hlow, hneg⟩ => ?_⟩
        obtain ⟨hsent, htrue⟩ := sent_day_vanished hlow hneg
        rw [hday.2, hsent, htrue] at hyear
        revert hyear
        decide
  · rintro ⟨h, hkept⟩
    obtain ⟨t, hexact, hmachine, hyear⟩ := encode_representable hval slot.time_buffer h hkept
    rw [hmachine]
    exact .inr (.inr ⟨t, _, rfl, rfl, hexact, hyear⟩)

-- The last day of the year -1 is sent with the year 4294967295.
def date_slot : Slot := { buffer_type := .MYSQL_TYPE_DATE, type := .MY_DATE }

theorem year_before_zero_wraps :
    ¬SendsTrueDate date_slot (.REALSXP ["Date"] [⟨.finite (-719529), 0⟩]) 0 (-719529) ∧
    ∃ t slot', bind_value date_slot (.REALSXP ["Date"] [⟨.finite (-719529), 0⟩]) 0 = .ok (some slot') ∧
      slot'.buffer = some (.time t) ∧ t.year = 4294967295 := by
  have hmachine : encode machine .MY_DATE (-719529) {} =
      some { year := 4294967295, month := 12, day := 31 } := by decide +kernel
  have hexact : encode exact .MY_DATE (-719529) {} = none := by decide +kernel
  have hbound : bind_value date_slot (.REALSXP ["Date"] [⟨.finite (-719529), 0⟩]) 0 =
      bind_value.bind_time date_slot (some { year := 4294967295, month := 12, day := 31 }) := by
    rw [← hmachine]
    exact bind_finite (.inl rfl) rfl
  constructor
  · rintro (⟨e, herror, _⟩ | hnull | ⟨t, slot', _, _, hwritten, _⟩)
    · rw [hbound] at herror
      cases herror
    · rw [hbound] at hnull
      cases hnull
    · cases hexact.symm.trans hwritten
  · exact ⟨_, _, hbound, rfl, rfl⟩

theorem true_date_iff_before_zero :
    SendsTrueDate date_slot (.REALSXP ["Date"] [⟨.finite (-719529), 0⟩]) 0 (-719529) ↔
      Representable (day_of_value .MY_DATE (-719529)) ∧ ¬Vanishes .MY_DATE (-719529) :=
  true_date_iff ⟨-719529, 0, by decide, by decide, by decide, by norm_num⟩ (.inl rfl) rfl

end RMariaDB
