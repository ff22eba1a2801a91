import RMariaDB.DbConnection
import RMariaDB.MariaUtils

namespace RMariaDB

open Program CArith

-- The j-th elements of bindings, is_null, types and time_buffers, which are always
-- resized together. `buffer` is what the pointer of the binding leads to.
structure MariaBinding.Slot where
  buffer_type : enum_field_types := .MYSQL_TYPE_DECIMAL
  buffer_length : Nat := 0
  buffer : Option ParamValue := none
  is_null : Bool := false
  type : MariaFieldType := .MY_INT32
  time_buffer : MYSQL_TIME := {}
deriving DecidableEq, Repr

structure MariaBinding where
  statement : Option Nat := none
  params : List SEXP := []
  p : Nat := 0
  i : Nat := 0
  n_rows : Nat := 0
  slots : List MariaBinding.Slot := []
deriving DecidableEq, Repr

namespace MariaBinding

-- The parameter as mysql_stmt_bind_param sees it.
def Slot.param (slot : Slot) : Param :=
  { type := slot.buffer_type, value := if slot.is_null then none else slot.buffer }

section TimeBuffers

def clear_date_buffer (t : MYSQL_TIME) : MYSQL_TIME := { t with year := 0, month := 0, day := 0 }

-- The year, month and day that set_date_buffer() computes.
def civil_from_days (c : Arith) (date : ℤ) : Option (ℤ × ℤ × ℤ) := do
  let date_0 ← c.int (date + 719468)
  let shifted ← (if date_0 ≥ 0 then some date_0 else c.int (date_0 - 146096) : Option ℤ)
  let era ← c.int (shifted.tdiv 146097)
  let back ← c.int (era * 146097)
  let rest ← c.int (date_0 - back)
  let doe ← c.unsigned rest
  let yoe ← c.unsigned (doe - doe / 1460)
  let yoe ← c.unsigned (yoe + doe / 36524)
  let yoe ← c.unsigned (yoe - doe / 146096)
  let yoe ← c.unsigned (yoe / 365)
  let signed_yoe ← c.int yoe
  let years ← c.int (era * 400)
  let y ← c.int (signed_yoe + years)
  let start ← c.unsigned (365 * yoe)
  let start ← c.unsigned (start + yoe / 4)
  let start ← c.unsigned (start - yoe / 100)
  let doy ← c.unsigned (doe - start)
  let mp ← c.unsigned (5 * doy)
  let mp ← c.unsigned (mp + 2)
  let mp ← c.unsigned (mp / 153)
  let month_start ← c.unsigned (153 * mp)
  let month_start ← c.unsigned (month_start + 2)
  let d ← c.unsigned (doy - month_start / 5)
  let d ← c.unsigned (d + 1)
  let m ← (if mp < 10 then c.unsigned (mp + 3) else c.unsigned (mp - 9) : Option ℤ)
  let yr ← c.int (y + if m ≤ 2 then 1 else 0)
  let yr ← c.unsigned yr
  pure (yr, m, d)

def set_date_buffer (c : Arith) (date : ℤ) (t : MYSQL_TIME) : Option MYSQL_TIME := do
  let (yr, m, d) ← civil_from_days c date
  pure { t with year := yr.toNat, month := m.toNat, day := d.toNat }

def clear_time_buffer (t : MYSQL_TIME) : MYSQL_TIME :=
  { t with hour := 0, minute := 0, second := 0, second_part := 0, neg := false }

-- static_cast from a double, which cuts off the fraction. A value outside of the
-- type is undefined behaviour.
def cast (inType : ℤ → Prop) [DecidablePred inType] (x : ℚ) : Option ℤ := fits inType (trunc x)

def InUnsignedLong (x : ℤ) : Prop := 0 ≤ x ∧ x ≤ 18446744073709551615

instance : DecidablePred InUnsignedLong := fun _ => inferInstanceAs (Decidable (_ ∧ _))

-- The hours, minutes, seconds and microseconds that set_time_buffer() computes of a
-- time that is not negative.
def time_parts (c : Arith) (time : ℚ) : Option (ℤ × ℤ × ℤ × ℤ) := do
  let whole_seconds : ℚ := trunc time
  let frac_seconds := c.double (time - whole_seconds)
  let whole_minutes : ℚ := trunc (c.double (time / 60))
  let seconds := c.double (whole_seconds - c.double (whole_minutes * 60))
  let hours : ℚ := trunc (c.double (time / 3600))
  let minutes := c.double (whole_minutes - c.double (hours * 60))
  let hour ← cast InUnsigned hours
  let minute ← cast InUnsigned minutes
  let second ← cast InUnsigned seconds
  let second_part ← cast InUnsignedLong (c.double (frac_seconds * 1000000))
  pure (hour, minute, second, second_part)

def set_time_buffer (c : Arith) (time : ℚ) (t : MYSQL_TIME) : Option MYSQL_TIME := do
  let neg := time < 0
  let (hour, minute, second, second_part) ← time_parts c (if time < 0 then -time else time)
  pure { t with
    hour := hour.toNat
    minute := minute.toNat
    second := second.toNat
    second_part := second_part.toNat
    neg := neg }

-- What bind_next_row() writes into a time buffer for a MY_DATE, MY_DATE_TIME or
-- MY_TIME value. No infinite value has a conversion to an integer.
def date_buffer (c : Arith) (val : Double) (t : MYSQL_TIME) : Option MYSQL_TIME :=
  match val with
  | .finite val => do
      let date ← cast InInt (CArith.floor val)
      let t ← set_date_buffer c date t
      pure (clear_time_buffer t)
  | _ => none

def date_time_buffer (c : Arith) (val : Double) (t : MYSQL_TIME) : Option MYSQL_TIME :=
  match val with
  | .finite val => do
      let days : ℚ := CArith.floor (c.double (val / 86400))
      let date ← cast InInt days
      let t ← set_date_buffer c date t
      set_time_buffer c (c.double (val - c.double (days * 86400))) t
  | _ => none

def time_buffer (c : Arith) (val : Double) (t : MYSQL_TIME) : Option MYSQL_TIME :=
  match val with
  | .finite val => set_time_buffer c val (clear_date_buffer t)
  | _ => none

end TimeBuffers

section Rows

-- The cases of the switch in bind_next_row() for row i of one column. `none` is a
-- missing value, which leaves the slot as it is. All of it runs in the arithmetic of the
-- machine, where none is named.
def bind_value (slot : Slot) (col : SEXP) (i : Nat) (c : Arith := machine) :
    Except Exc (Option Slot) :=
  match slot.type with
  | .MY_LGL => do
      let v ← LOGICAL col i
      pure (if v = NA_LOGICAL then none else some { slot with buffer := some (.int v) })
  | .MY_INT32 => do
      let v ← INTEGER col i
      pure (if v = NA_INTEGER then none else some { slot with buffer := some (.int v) })
  | .MY_DBL => do
      let x ← REAL col i
      pure (if ISNA x then none else some { slot with buffer := some (.double x) })
  | .MY_STR => do
      let s ← STRING_ELT col i
      pure (s.map fun b => { slot with buffer := some (.bytes b), buffer_length := b.length })
  | .MY_RAW => do
      let raw ← VECTOR_ELT col i
      match raw with
      | .NILSXP => pure none
      | _ => do
          let b ← RAW raw
          pure (some { slot with buffer := some (.bytes b), buffer_length := b.length })
  | .MY_DATE => do
      let x ← REAL col i
      if ISNAN x then pure none else bind_time (date_buffer c x slot.time_buffer)
  | .MY_DATE_TIME => do
      let x ← REAL col i
      if ISNAN x then pure none else bind_time (date_time_buffer c x slot.time_buffer)
  | .MY_TIME => do
      let x ← REAL col i
      if ISNAN x then pure none else bind_time (time_buffer c x slot.time_buffer)
  | .MY_INT64 => do
      let v ← INTEGER64 col i
      pure (if v = NA_INTEGER64 then none else some { slot with buffer := some (.int64 v) })
where
  bind_time (buffer : Option MYSQL_TIME) : Except Exc (Option Slot) := do
    let t ← ofOption .arithmetic buffer
    pure (some { slot with
      time_buffer := t, buffer := some (.time t), buffer_length := sizeof_MYSQL_TIME })

-- is_null[j] = missing
def next_slot (slot : Slot) (col : SEXP) (i : Nat) (c : Arith := machine) : Except Exc Slot := do
  let bound ← bind_value slot col i c
  match bound with
  | none => pure { slot with is_null := true }
  | some slot => pure { slot with is_null := false }

-- One turn of the loop in bind_next_row().
def bind_column (j : Nat) (c : Arith := machine) : EStateM Exc (Obj MariaBinding) Unit := do
  let s ← get
  let col ← index s.self.params j
  let slot ← index s.self.slots j
  let slot ← next_slot slot col s.self.i c
  modifySelf fun b => { b with slots := b.slots.set j slot }

def bind_columns : List Nat → EStateM Exc (Obj MariaBinding) Unit
  | [] => pure ()
  | j :: js => do
      bind_column j
      bind_columns js

def bind_next_row : EStateM Exc (Obj MariaBinding) Bool := do
  let s ← get
  if s.self.i ≥ s.self.n_rows then
    pure false
  else do
    bind_columns (List.range s.self.p)
    let s ← get
    lib (mysql_stmt_bind_param s.self.statement (s.self.slots.map Slot.param))
    modifySelf fun b => { b with i := b.i + 1 }
    pure true

end Rows

section Columns

def setup (statement_ : Option Nat) : EStateM Exc (Obj MariaBinding) Unit := do
  modifySelf fun b => { b with statement := statement_ }
  let p ← lib (mysql_stmt_param_count statement_)
  modifySelf fun b => { b with p := p, slots := resize b.slots p {} }

-- The buffer type and length of a column of each type.
def binding_of : MariaFieldType → enum_field_types × Nat
  | .MY_LGL => (.MYSQL_TYPE_TINY, 1)
  | .MY_INT32 => (.MYSQL_TYPE_LONG, 4)
  | .MY_DBL => (.MYSQL_TYPE_DOUBLE, 8)
  | .MY_DATE => (.MYSQL_TYPE_DATE, sizeof_MYSQL_TIME)
  | .MY_DATE_TIME => (.MYSQL_TYPE_DATETIME, sizeof_MYSQL_TIME)
  | .MY_TIME => (.MYSQL_TYPE_TIME, sizeof_MYSQL_TIME)
  | .MY_STR => (.MYSQL_TYPE_STRING, 0)
  | .MY_RAW => (.MYSQL_TYPE_BLOB, 0)
  | .MY_INT64 => (.MYSQL_TYPE_LONGLONG, 0)

def Slot.binding_update (slot : Slot) (type : enum_field_types) (size : Nat) : Slot :=
  { slot with buffer_length := size, buffer_type := type }

-- One turn of the loop in init_binding().
def init_column (j : Nat) : EStateM Exc (Obj MariaBinding) Unit := do
  let s ← get
  let param ← index s.self.params j
  match variable_type_from_object param with
  | .error e => throw e
  | .ok type => do
      let slot ← index s.self.slots j
      let slot := { slot with type := type }
      modifySelf fun b => { b with
        n_rows := if j = 0 then param.xlength else b.n_rows
        slots := b.slots.set j
          (Slot.binding_update slot (binding_of type).1 (binding_of type).2) }

def init_columns : List Nat → EStateM Exc (Obj MariaBinding) Unit
  | [] => pure ()
  | j :: js => do
      init_column j
      init_columns js

def init_binding (params_ : List SEXP) : EStateM Exc (Obj MariaBinding) Unit := do
  modifySelf fun b => { b with params := params_ }
  let s ← get
  if params_.length = 0 then
    throw (.stop "Query has no parameters")
  else if s.self.p ≠ params_.length then
    throw (.stop ("Number of params don't match (" ++ toString s.self.p ++ " vs " ++
      toString params_.length ++ ")"))
  else do
    modifySelf fun b => { b with i := 0 }
    init_columns (List.range s.self.p)

end Columns

end MariaBinding

end RMariaDB
