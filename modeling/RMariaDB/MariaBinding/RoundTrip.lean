import RMariaDB.MariaBinding.Clock
import RMariaDB.MariaBinding.Columns

namespace RMariaDB

open Program CArith Floating

-- A date and time of day within the ranges of its fields.
structure MYSQL_TIME.Valid (t : MYSQL_TIME) : Prop where
  date : (Calendar.Date.mk t.year t.month t.day).Valid
  hour : t.hour < 24
  minute : t.minute < 60
  second : t.second < 60
  second_part : t.second_part < 1000000
  neg : t.neg = false

theorem with_date_valid {date : ℤ} (t : MYSQL_TIME) (h : Representable date) :
    (Calendar.Date.mk (with_date t (Calendar.dateOf (date + 719468))).year
      (with_date t (Calendar.dateOf (date + 719468))).month
      (with_date t (Calendar.dateOf (date + 719468))).day).Valid := by
  obtain ⟨hlo, hhi⟩ := h
  have hvalid := Calendar.dateOf_valid (date + 719468)
  have hyear := dateOf_year_bounds (z := date + 719468) (by omega) (by omega)
  obtain ⟨hm, hd⟩ := hvalid
  simp only [with_date]
  rw [Int.toNat_of_nonneg hyear.1, Int.toNat_of_nonneg (by omega), Int.toNat_of_nonneg (by omega)]
  exact ⟨hm, hd⟩

theorem cast_floor {x : ℚ} (h : Representable ⌊x⌋) :
    MariaBinding.cast InInt ((CArith.floor x : ℤ) : ℚ) = some ⌊x⌋ := by
  obtain ⟨h0, h1⟩ := h
  unfold CArith.floor
  exact cast_int ⟨by omega, by omega⟩

section Days

-- The day that is sent of a date and time, and the time of this day.
def sent_day (c : Arith) (val : ℚ) : ℤ := ⌊c.double (val / 86400)⌋

def sent_time (c : Arith) (val : ℚ) : ℚ := c.double (val - sent_day c val * 86400)

variable {c : Arith} {val : ℚ}

-- A day more or less
theorem sent_time_near (hr : Rounds 53 c.double) (h : Representable (sent_day c val)) :
    -43200 ≤ sent_time c val ∧ sent_time c val ≤ 129600 := by
  obtain ⟨hlow, hhigh⟩ := h
  have hfloor := Int.floor_le (c.double (val / 86400))
  have hnext := Int.lt_floor_add_one (c.double (val / 86400))
  rw [show ⌊c.double (val / 86400)⌋ = sent_day c val from rfl] at hfloor hnext
  have hlowq : (-719528 : ℚ) ≤ sent_day c val := by exact_mod_cast hlow
  have hhighq : (sent_day c val : ℚ) ≤ 2147483647 - 719468 := by exact_mod_cast hhigh
  have hbound : |val / 86400| ≤ 2 ^ (53 - 1) := by
    rw [abs_le]
    constructor
    · by_contra hless
      have hround := hr.le_int (val / 86400) (-4503599627370496) (by norm_num) (by
        push_cast
        norm_num at hless ⊢
        linarith)
      push_cast at hround
      linarith
    · by_contra hmore
      have hround := hr.int_le (val / 86400) 4503599627370496 (by norm_num) (by
        push_cast
        norm_num at hmore ⊢
        linarith)
      push_cast at hround
      linarith
  obtain ⟨hbelow, habove⟩ := abs_le.mp (hr.close _ hbound)
  constructor
  · have hround := hr.int_le (val - sent_day c val * 86400) (-43200) (by norm_num) (by
      push_cast
      linarith)
    push_cast at hround
    exact hround
  · have hround := hr.le_int (val - sent_day c val * 86400) 129600 (by norm_num) (by
      push_cast
      linarith)
    push_cast at hround
    exact hround

theorem date_time_buffer_eq (hc : Agrees c) (hr : Rounds 53 c.double) (t : MYSQL_TIME)
    (h : Representable (sent_day c val)) : MariaBinding.date_time_buffer c (.finite val) t =
      some (with_time c (with_date t (Calendar.dateOf (sent_day c val + 719468)))
        (sent_time c val)) := by
  have hwhole : whole (sent_time c val) < 129601 := by
    obtain ⟨hlow, hhigh⟩ := sent_time_near hr h
    apply Int.floor_lt.mpr
    push_cast
    rw [abs_lt]
    constructor <;> linarith
  have hproduct : c.double ((sent_day c val : ℚ) * 86400) = (sent_day c val : ℚ) * 86400 := by
    obtain ⟨hlow, hhigh⟩ := h
    have hint := hr.int (n := sent_day c val * 86400) (abs_lt.mpr ⟨by omega, by omega⟩)
    push_cast at hint
    exact hint
  have hfixed : c.double (sent_time c val) = sent_time c val := hr.again _
  have htime := set_time_buffer_eq hr hfixed
    (with_date t (Calendar.dateOf (sent_day c val + 719468))) (by omega)
  have hfloor : ((CArith.floor (c.double (val / 86400)) : ℤ) : ℚ) = sent_day c val := rfl
  have hcast := cast_floor (x := c.double (val / 86400)) h
  have hdate : MariaBinding.set_date_buffer c ⌊c.double (val / 86400)⌋ t =
      some (with_date t (Calendar.dateOf (sent_day c val + 719468))) := set_date_buffer_eq hc t h
  simp only [MariaBinding.date_time_buffer, ↓bind_step hcast, ↓bind_step hdate]
  rw [hfloor, hproduct]
  exact htime

end Days

theorem with_time_valid {c : Arith} (hr : Rounds 53 c.double) {time : ℚ} (hfixed : c.double time = time)
    (h0 : 0 ≤ time) (h1 : time < 86400) {date : ℤ} (h : Representable date) (t : MYSQL_TIME) :
    (with_time c (with_date t (Calendar.dateOf (date + 719468))) time).Valid := by
  have hwhole : whole time < 86400 := by
    apply Int.floor_lt.mpr
    rw [abs_of_nonneg h0]
    exact_mod_cast h1
  have hnonneg := whole_nonneg time
  have hm := micros_bounds hr hfixed
  refine ⟨with_date_valid t h, ?_, ?_, ?_, ?_, ?_⟩
  · simp only [with_time]
    omega
  · simp only [with_time]
    omega
  · simp only [with_time]
    omega
  · simp only [with_time]
    omega
  · exact decide_eq_false (not_lt.mpr h0)

-- The seconds of a day that are left over by a whole number of days.
theorem rest_of_day (val : ℚ) :
    0 ≤ val - (⌊val / 86400⌋ : ℚ) * 86400 ∧ val - (⌊val / 86400⌋ : ℚ) * 86400 < 86400 := by
  have h0 := Int.floor_le (val / 86400)
  have h1 := Int.lt_floor_add_one (val / 86400)
  constructor
  · linarith
  · linarith

theorem date_buffer_eq {c : Arith} (hc : Agrees c) {val : ℚ} (t : MYSQL_TIME)
    (h : Representable ⌊val⌋) : MariaBinding.date_buffer c (.finite val) t =
      some (MariaBinding.clear_time_buffer
        (with_date t (Calendar.dateOf (⌊val⌋ + 719468)))) := by
  simp only [MariaBinding.date_buffer, ↓bind_step (cast_floor h),
    ↓bind_step (set_date_buffer_eq hc t h)]
  rfl

-- With exact numbers, what the encoder writes for a date and time is valid and decodes to
-- the value it was given, less the fraction of a microsecond.
theorem date_time_of_buffer (val : ℚ) (t : MYSQL_TIME) (h : Representable ⌊val / 86400⌋) :
    ∃ t', MariaBinding.date_time_buffer ideal (.finite val) t = some t' ∧ t'.Valid ∧
      MariaRow.date_time_of ideal t' = some ((⌊val * 1000000⌋ : ℚ) / 1000000) := by
  have hday : sent_day ideal val = ⌊val / 86400⌋ := rfl
  have htime : sent_time ideal val = val - (⌊val / 86400⌋ : ℚ) * 86400 := rfl
  refine ⟨_, date_time_buffer_eq ideal_agrees ideal_rounds t h, ?_, ?_⟩
  · have hrest := rest_of_day val
    exact with_time_valid ideal_rounds rfl hrest.1 hrest.2 h t
  · rw [hday, htime]
    have hdays : MariaRow.days_of ideal (with_time ideal (with_date t
        (Calendar.dateOf (⌊val / 86400⌋ + 719468))) (val - (⌊val / 86400⌋ : ℚ) * 86400)) =
        some ⌊val / 86400⌋ := days_of_with_date ideal_agrees t h
    have hsum := sum_with_time (rest_of_day val).1
      (with_date t (Calendar.dateOf (⌊val / 86400⌋ + 719468)))
    have hfloor : (val - (⌊val / 86400⌋ : ℚ) * 86400) * 1000000 =
        val * 1000000 - ((⌊val / 86400⌋ * 86400000000 : ℤ) : ℚ) := by
      push_cast
      ring
    rw [hfloor, Int.floor_sub_intCast] at hsum
    rw [MariaRow.date_time_of, bind_step hdays]
    simp only [ideal_double, Option.pure_def, Option.some.injEq]
    rw [add_assoc, add_assoc, add_assoc, ← add_assoc (_ * (60 * 60)), ← add_assoc (_ * (60 * 60) + _),
      hsum]
    push_cast
    ring

theorem date_of_buffer {c : Arith} (hc : Agrees c) (val : ℚ) (t : MYSQL_TIME)
    (h : Representable ⌊val⌋) :
    ∃ t', MariaBinding.date_buffer c (.finite val) t = some t' ∧ t'.Valid ∧
      MariaRow.date_of c t' = some (⌊val⌋ : ℚ) := by
  refine ⟨_, date_buffer_eq hc t h, ?_, ?_⟩
  · exact ⟨with_date_valid t h, Nat.zero_lt_succ _, Nat.zero_lt_succ _, Nat.zero_lt_succ _,
      Nat.zero_lt_succ _, rfl⟩
  · have hdays : MariaRow.days_of c (MariaBinding.clear_time_buffer
        (with_date t (Calendar.dateOf (⌊val⌋ + 719468)))) = some ⌊val⌋ := days_of_with_date hc t h
    rw [MariaRow.date_of, bind_step hdays]
    rfl

-- A column that the server sends back as it got it.
def echoed (type : MariaFieldType) (t : MYSQL_TIME) : MariaRow.Slot :=
  (MariaRow.new_slot type).receive (MariaRow.new_slot type).binding (some (.time t))

theorem mytime_echoed {type : MariaFieldType} (h : type = .MY_DATE ∨ type = .MY_DATE_TIME)
    (t : MYSQL_TIME) : MariaRow.mytime (echoed type t) = .ok t := by
  rcases h with rfl | rfl
  · rfl
  · rfl

theorem echoed_null (type : MariaFieldType) (t : MYSQL_TIME) : (echoed type t).null = false := rfl

-- The parameter that bind_next_row() makes of a value, and what is read back. The numbers of a
-- date and time are taken exact; those of a date are not rounded.
theorem temporal_round_trip (s : Obj MariaBinding) (j : Nat) (slot : MariaBinding.Slot)
    (klass : List String) (cells : List RealCell) (int64 : ℤ) (val : ℚ)
    (hcol : s.self.params[j]? = some (.REALSXP klass cells))
    (hslot : s.self.slots[j]? = some slot)
    (hcell : cells[s.self.i]? = some ⟨.finite val, int64⟩) :
    (slot.type = .MY_DATE_TIME → Representable ⌊val / 86400⌋ → ∃ t slot',
      (MariaBinding.bind_column j ideal).run s =
        .ok () { s with self.slots := s.self.slots.set j slot' } ∧
      slot'.param = ⟨slot.buffer_type, some (.time t)⟩ ∧ t.Valid ∧
      MariaRow.value_date_time (echoed .MY_DATE_TIME t) ideal =
        .ok (.finite ((⌊val * 1000000⌋ : ℚ) / 1000000))) ∧
    (slot.type = .MY_DATE → Representable ⌊val⌋ → ∃ t slot',
      (MariaBinding.bind_column j).run s =
        .ok () { s with self.slots := s.self.slots.set j slot' } ∧
      slot'.param = ⟨slot.buffer_type, some (.time t)⟩ ∧ t.Valid ∧
      MariaRow.value_date (echoed .MY_DATE t) = .ok (.finite ⌊val⌋)) := by
  have hreal : REAL (.REALSXP klass cells) s.self.i = .ok (.finite val) := by
    simp only [REAL, index_eq_ok hcell, map_ok]
  constructor
  · intro htype hday
    obtain ⟨t, hbuffer, hvalid, hdecode⟩ := date_time_of_buffer val slot.time_buffer hday
    have hnext : MariaBinding.next_slot slot (.REALSXP klass cells) s.self.i ideal = .ok { slot with
        time_buffer := t, buffer := some (.time t), buffer_length := sizeof_MYSQL_TIME,
        is_null := false } := by
      simp [MariaBinding.next_slot, MariaBinding.bind_value, htype, hreal, ISNAN,
        MariaBinding.bind_value.bind_time, hbuffer, ofOption]
    have hrun := MariaBinding.bind_column_run hcol hslot ideal
    rw [hnext] at hrun
    refine ⟨t, _, hrun, rfl, hvalid, ?_⟩
    simp [MariaRow.value_date_time, echoed_null, mytime_echoed, hdecode, ofOption]
  · intro htype hday
    obtain ⟨t, hbuffer, hvalid, hdecode⟩ := date_of_buffer machine_agrees val slot.time_buffer hday
    have hnext : MariaBinding.next_slot slot (.REALSXP klass cells) s.self.i = .ok { slot with
        time_buffer := t, buffer := some (.time t), buffer_length := sizeof_MYSQL_TIME,
        is_null := false } := by
      simp [MariaBinding.next_slot, MariaBinding.bind_value, htype, hreal, ISNAN,
        MariaBinding.bind_value.bind_time, hbuffer, ofOption]
    have hrun := MariaBinding.bind_column_run hcol hslot
    rw [hnext] at hrun
    refine ⟨t, _, hrun, rfl, hvalid, ?_⟩
    simp [MariaRow.value_date, echoed_null, mytime_echoed, hdecode, ofOption]

-- A second and a half before 1970.
def before_epoch : Obj MariaBinding where
  self := {
    params := [.REALSXP ["POSIXct", "POSIXt"] [⟨.finite (-3 / 2), 0⟩]]
    p := 1
    n_rows := 1
    slots := [{ buffer_type := .MYSQL_TYPE_DATETIME, type := .MY_DATE_TIME }] }

theorem temporal_round_trip_before_epoch : ∃ t slot',
    (MariaBinding.bind_column 0 ideal).run before_epoch =
      .ok () { before_epoch with self.slots := before_epoch.self.slots.set 0 slot' } ∧
    slot'.param = ⟨.MYSQL_TYPE_DATETIME, some (.time t)⟩ ∧ t.Valid ∧
    MariaRow.value_date_time (echoed .MY_DATE_TIME t) ideal =
      .ok (.finite ((⌊(-3 / 2 : ℚ) * 1000000⌋ : ℚ) / 1000000)) :=
  (temporal_round_trip before_epoch 0 { buffer_type := .MYSQL_TYPE_DATETIME, type := .MY_DATE_TIME }
    ["POSIXct", "POSIXt"] [⟨.finite (-3 / 2), 0⟩] 0 (-3 / 2) rfl rfl rfl).1 rfl (by decide +kernel)

end RMariaDB
