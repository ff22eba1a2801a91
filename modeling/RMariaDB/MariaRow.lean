import RMariaDB.DbConnection
import RMariaDB.MariaUtils

namespace RMariaDB

open Program CArith

-- The j-th elements of types_, bindings_, buffers_, lengths_, nulls_ and errors_,
-- which are always resized together.
structure MariaRow.Slot where
  type : MariaFieldType
  binding : RESULT_BIND
  buffer : Buffer
  length : Nat
  null : Bool := false
  error : Bool := false
deriving DecidableEq, Repr

structure MariaRow where
  pStatement_ : Option Nat := none
  n_ : Nat := 0
  slots : List MariaRow.Slot := []
deriving DecidableEq, Repr

namespace MariaRow

variable (srv : Server)

section Setup

def buffer_type_of : MariaFieldType → enum_field_types
  | .MY_INT32 => .MYSQL_TYPE_LONG
  | .MY_INT64 => .MYSQL_TYPE_LONGLONG
  | .MY_DBL => .MYSQL_TYPE_DOUBLE
  | .MY_DATE => .MYSQL_TYPE_DATE
  | .MY_DATE_TIME => .MYSQL_TYPE_DATETIME
  | .MY_TIME => .MYSQL_TYPE_TIME
  | .MY_STR => .MYSQL_TYPE_STRING
  | .MY_RAW => .MYSQL_TYPE_BLOB
  -- BIT(1) is bound to logical, in absence of dedicated type
  | .MY_LGL => .MYSQL_TYPE_BLOB

-- The zeroed buffers that setup() allocates. Those of strings and blobs stay empty
-- until fetch_buffer() knows the length.
def new_buffer : MariaFieldType → Buffer
  | .MY_INT32 | .MY_LGL => .raw (List.replicate 4 0)
  | .MY_INT64 => .raw (List.replicate 8 0)
  | .MY_DBL => .dbl (.finite 0)
  | .MY_DATE | .MY_DATE_TIME | .MY_TIME => .time {}
  | .MY_STR | .MY_RAW => .raw []

def new_slot (type : MariaFieldType) : Slot :=
  { type := type
    binding := ⟨buffer_type_of type, (new_buffer type).size⟩
    buffer := new_buffer type
    length := (new_buffer type).size }

def setup (pStatement : Option Nat) (types : List MariaFieldType) :
    EStateM Exc (Obj MariaRow) Unit := do
  modifySelf fun r => { r with
    pStatement_ := pStatement, n_ := types.length, slots := types.map new_slot }
  let status ← lib (mysql_stmt_bind_result srv pStatement
    (types.map fun type => (new_slot type).binding))
  if status ≠ 0 then do
    let error ← lib (mysql_stmt_error pStatement)
    throw (.stop ("Error binding result: " ++ error))
  else
    pure ()

end Setup

section Receive

-- mysql_stmt_fetch writes through the pointers of the bind array it was given.
def Slot.receive (slot : Slot) (bind : RESULT_BIND) : Option SqlValue → Slot
  | none => { slot with null := true }
  | some v =>
      let (buffer, length, error) := bind.store v slot.buffer
      { slot with null := false, buffer := buffer, length := length, error := error }

def receive : List Slot → List RESULT_BIND → Row → List Slot
  | slot :: slots, bind :: binds, v :: row => slot.receive bind v :: receive slots binds row
  | slots, _, _ => slots

def stmt_fetch (h : Option Nat) : EStateM Exc (Obj MariaRow) FetchResult := do
  let result ← lib (mysql_stmt_fetch srv h)
  match result with
  | .ok | .MYSQL_DATA_TRUNCATED => do
      let (_, st) ← lib (deref h)
      modifySelf fun r => { r with slots := receive r.slots st.bind st.row }
      pure result
  | _ => pure result

end Receive

section Values

-- The n bytes at the front of a buffer, re-read as a signed integer.
def signed_value (n : Nat) (buffer : Buffer) : Option ℤ :=
  match buffer with
  | .raw bytes =>
      if n ≤ bytes.length then some (LittleEndian.signed n (LittleEndian.decode (bytes.take n)))
      else none
  | _ => none

def value_int (slot : Slot) : Except Exc ℤ :=
  if slot.null then pure NA_INTEGER else ofOption .memory (signed_value 4 slot.buffer)

def value_int64 (slot : Slot) : Except Exc ℤ :=
  if slot.null then pure NA_INTEGER64 else ofOption .memory (signed_value 8 slot.buffer)

def value_bool (slot : Slot) : Except Exc ℤ :=
  if slot.null then pure NA_LOGICAL
  else do
    let v ← value_int slot
    pure (if v = 1 then 1 else 0)

def value_double (slot : Slot) : Except Exc Double :=
  if slot.null then pure .NA
  else match slot.buffer with
    | .dbl x => pure x
    | _ => throw (.fault .memory)

def mytime (slot : Slot) : Except Exc MYSQL_TIME :=
  match slot.buffer with
  | .time t => pure t
  | _ => throw (.fault .memory)

-- The fields of a MYSQL_TIME are converted to int.
def days_of (c : Arith) (t : MYSQL_TIME) : Option ℤ := do
  let y ← c.int t.year
  let m ← c.int t.month
  let d ← c.int t.day
  days_from_civil c y m d

def date_time_of (c : Arith) (t : MYSQL_TIME) : Option ℚ := do
  let days ← days_of c t
  let date_time := c.double (days * 86400)
  let date_time := c.double (date_time + c.double (t.hour * (60 * 60)))
  let date_time := c.double (date_time + c.double (t.minute * 60))
  let date_time := c.double (date_time + t.second)
  pure (c.double (date_time + c.double (c.double t.second_part / 1000000)))

def date_of (c : Arith) (t : MYSQL_TIME) : Option ℚ := do
  let days ← days_of c t
  pure (days : ℚ)

def time_of (c : Arith) (t : MYSQL_TIME) : ℚ :=
  let time := c.double (t.hour * 3600)
  let time := c.double (time + c.double (t.minute * 60))
  let time := c.double (time + t.second)
  let time := c.double (time + c.double (c.double t.second_part / 1000000))
  (if t.neg then -1 else 1) * time

def value_date_time (slot : Slot) (c : Arith := machine) : Except Exc Double :=
  if slot.null then pure .NA
  else do
    let t ← mytime slot
    let x ← ofOption .arithmetic (date_time_of c t)
    pure (.finite x)

def value_date (slot : Slot) : Except Exc Double :=
  if slot.null then pure .NA
  else do
    let t ← mytime slot
    let x ← ofOption .arithmetic (date_of machine t)
    pure (.finite x)

def value_time (slot : Slot) (c : Arith := machine) : Except Exc Double :=
  if slot.null then pure .NA
  else do
    let t ← mytime slot
    pure (.finite (time_of c t))

end Values

section Buffers

def setSlot (j : Nat) (slot : Slot) : EStateM Exc (Obj MariaRow) Unit :=
  modifySelf fun r => { r with slots := r.slots.set j slot }

def raw_bytes : Buffer → Bytes
  | .raw bytes => bytes
  | _ => []

-- Returns the slot with the bytes of the current row.
def fetch_buffer (j : Nat) : EStateM Exc (Obj MariaRow) Slot := do
  let s ← get
  let slot ← index s.self.slots j
  let length := slot.length
  let slot := { slot with buffer := .raw (resize (raw_bytes slot.buffer) length 0) }
  setSlot j slot
  if length = 0 then
    pure slot
  else do
    let slot := { slot with binding.buffer_length := length }
    setSlot j slot
    let result ← lib (mysql_stmt_fetch_column srv s.self.pStatement_ j length)
    match result with
    | .error _ => do
        let error ← lib (mysql_stmt_error s.self.pStatement_)
        throw (.stop ("Error fetching buffer: " ++ error))
    | .ok bytes => do
        -- reset buffer length to zero for next row
        let slot := { slot with
          buffer := .raw (bytes ++ (raw_bytes slot.buffer).drop bytes.length)
          binding.buffer_length := 0 }
        setSlot j slot
        pure slot

-- Rf_mkCharLenCE() refuses a string with a NUL.
def value_string (j : Nat) : EStateM Exc (Obj MariaRow) (Option Bytes) := do
  let s ← get
  let slot ← index s.self.slots j
  if slot.null then
    pure none
  else do
    let slot ← fetch_buffer srv j
    if (raw_bytes slot.buffer).contains 0 then
      throw (.stop "embedded nul in string")
    else
      pure (some (raw_bytes slot.buffer))

def value_raw (j : Nat) : EStateM Exc (Obj MariaRow) (Option Bytes) := do
  let s ← get
  let slot ← index s.self.slots j
  if slot.null then
    pure none
  else do
    let slot ← fetch_buffer srv j
    if slot.length ≤ (raw_bytes slot.buffer).length then
      pure (some ((raw_bytes slot.buffer).take slot.length))
    else
      throw (.fault .memory)

end Buffers

section Cells

-- The accessor through which a vector of each type is written, and the name that
-- it gives to the type.
def accessor : SEXPTYPE → String × String
  | .LGLSXP => ("LOGICAL", "logical")
  | .INTSXP => ("INTEGER", "integer")
  | .REALSXP => ("REAL", "numeric")
  | .STRSXP => ("SET_STRING_ELT", "character vector")
  | .VECSXP => ("SET_VECTOR_ELT", "list")

def SEXPTYPE_name : SEXPTYPE → String
  | .LGLSXP => "logical"
  | .INTSXP => "integer"
  | .REALSXP => "double"
  | .STRSXP => "character"
  | .VECSXP => "list"

-- The accessors that set an element check the index, the others return a pointer.
def assign (type : SEXPTYPE) (x : Column) (i : Nat) (cell : Cell) : Except Exc Column :=
  if x.type ≠ type then
    notApplicable (accessor type).1 (accessor type).2 (SEXPTYPE_name x.type)
  else if i < x.cells.length then
    pure { x with cells := x.cells.set i cell }
  else
    match type with
    | .STRSXP | .VECSXP =>
        throw (.stop ("attempt to set index " ++ toString i ++ "/" ++ toString x.cells.length ++
          " in " ++ (accessor type).1))
    | _ => throw (.fault .memory)

def value_cell (j : Nat) (slot : Slot) : EStateM Exc (Obj MariaRow) Cell :=
  match slot.type with
  | .MY_INT32 => Cell.int <$> value_int slot
  | .MY_INT64 => Cell.int64 <$> value_int64 slot
  | .MY_DBL => Cell.real <$> value_double slot
  | .MY_DATE => Cell.real <$> value_date slot
  | .MY_DATE_TIME => Cell.real <$> value_date_time slot
  | .MY_TIME => Cell.real <$> value_time slot
  | .MY_STR => Cell.str <$> value_string srv j
  | .MY_RAW => Cell.raw <$> value_raw srv j
  | .MY_LGL => Cell.lgl <$> value_bool slot

def set_list_value (x : Column) (i j : Nat) : EStateM Exc (Obj MariaRow) Column := do
  let s ← get
  let slot ← index s.self.slots j
  let cell ← value_cell srv j slot
  assign (type_sexp slot.type) x i cell

end Cells

end MariaRow

end RMariaDB
