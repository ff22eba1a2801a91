import RMariaDB.MariaResultPrep.Rows

namespace RMariaDB.MariaResultPrep

open Program MariaRow

-- The integer types of the server and the values that a column can store.
inductive IntegerType where
  | TINYINT
  | SMALLINT
  | MEDIUMINT
  | INT
  | BIGINT
  | YEAR
deriving DecidableEq, Repr

namespace IntegerType

def field_type : IntegerType → enum_field_types
  | TINYINT => .MYSQL_TYPE_TINY
  | SMALLINT => .MYSQL_TYPE_SHORT
  | MEDIUMINT => .MYSQL_TYPE_INT24
  | INT => .MYSQL_TYPE_LONG
  | BIGINT => .MYSQL_TYPE_LONGLONG
  | YEAR => .MYSQL_TYPE_YEAR

def Stores (t : IntegerType) (unsigned : Bool) (v : ℤ) : Prop :=
  match t, unsigned with
  | TINYINT, false => -128 ≤ v ∧ v < 128
  | TINYINT, true => 0 ≤ v ∧ v < 256
  | SMALLINT, false => -32768 ≤ v ∧ v < 32768
  | SMALLINT, true => 0 ≤ v ∧ v < 65536
  | MEDIUMINT, false => -8388608 ≤ v ∧ v < 8388608
  | MEDIUMINT, true => 0 ≤ v ∧ v < 16777216
  | INT, false => -2147483648 ≤ v ∧ v < 2147483648
  | INT, true => 0 ≤ v ∧ v < 4294967296
  | BIGINT, false => -9223372036854775808 ≤ v ∧ v < 9223372036854775808
  | BIGINT, true => 0 ≤ v ∧ v < 18446744073709551616
  | YEAR, _ => v = 0 ∨ (1901 ≤ v ∧ v ≤ 2155)

-- The values that come back as another number.
def TooLarge (t : IntegerType) (unsigned : Bool) (v : ℤ) : Prop :=
  unsigned = true ∧ (t = INT ∧ 2147483648 < v ∨ t = BIGINT ∧ 9223372036854775808 < v)

-- The C++ type of the elements of the R column.
def cellType : IntegerType → MariaFieldType
  | BIGINT => .MY_INT64
  | _ => .MY_INT32

end IntegerType

-- The value itself, or NA for a value that the R type has no number for.
def ExactOrNA (type : MariaFieldType) (v : ℤ) (cell : Cell) : Prop :=
  match type with
  | .MY_INT32 => cell = .int v ∨ (cell = .int NA_INTEGER ∧ ¬(NA_INTEGER < v ∧ v ≤ 2147483647))
  | .MY_INT64 => cell = .int64 v ∨
      (cell = .int64 NA_INTEGER64 ∧ ¬(NA_INTEGER64 < v ∧ v ≤ 9223372036854775807))
  | _ => False

theorem field_type_integer {field : MYSQL_FIELD} {t : IntegerType}
    (h : field.type = t.field_type) : MariaResultPrep.field_type field = t.cellType := by
  cases t <;> simp only [MariaResultPrep.field_type, h] <;> rfl

-- Thirty-two bits re-read as signed are the value, or the value less 2^32.
theorem int32_exact_iff {v : ℤ} (h0 : -2147483648 ≤ v) (h1 : v < 4294967296) :
    ExactOrNA .MY_INT32 v (.int (LittleEndian.signed 4
      (LittleEndian.decode (LittleEndian.encode 4 v)))) ↔ ¬2147483648 < v := by
  by_cases hsmall : v < 2147483648
  · rw [LittleEndian.signed_decode_encode (by omega) (by omega)]
    exact iff_of_true (.inl rfl) (by omega)
  · rw [LittleEndian.signed_decode_encode_wrap (by omega) (by omega)]
    simp only [ExactOrNA, Cell.int.injEq, NA_INTEGER]
    constructor <;> omega

theorem int64_exact_iff {v : ℤ} (h0 : -9223372036854775808 ≤ v) (h1 : v < 18446744073709551616) :
    ExactOrNA .MY_INT64 v (.int64 (LittleEndian.signed 8
      (LittleEndian.decode (LittleEndian.encode 8 v)))) ↔ ¬9223372036854775808 < v := by
  by_cases hsmall : v < 9223372036854775808
  · rw [LittleEndian.signed_decode_encode (by omega) (by omega)]
    exact iff_of_true (.inl rfl) (by omega)
  · rw [LittleEndian.signed_decode_encode_wrap (by omega) (by omega)]
    simp only [ExactOrNA, Cell.int64.injEq, NA_INTEGER64]
    constructor <;> omega

theorem IntegerType.int32_bounds {t : IntegerType} {unsigned : Bool} {v : ℤ}
    (ht : t.cellType = .MY_INT32) (hv : t.Stores unsigned v) :
    -2147483648 ≤ v ∧ v < 4294967296 ∧ (t.TooLarge unsigned v ↔ 2147483648 < v) := by
  cases t <;> cases unsigned <;> simp [IntegerType.cellType] at ht <;>
    simp [IntegerType.Stores] at hv <;> simp [IntegerType.TooLarge] <;> omega

theorem IntegerType.int64_bounds {t : IntegerType} {unsigned : Bool} {v : ℤ}
    (ht : t.cellType = .MY_INT64) (hv : t.Stores unsigned v) :
    -9223372036854775808 ≤ v ∧ v < 18446744073709551616 ∧
      (t.TooLarge unsigned v ↔ 9223372036854775808 < v) := by
  cases t <;> cases unsigned <;> simp [IntegerType.cellType] at ht <;>
    simp [IntegerType.Stores] at hv <;> simp [IntegerType.TooLarge] <;> omega

theorem IntegerType.cellType_cases (t : IntegerType) :
    t.cellType = .MY_INT32 ∨ t.cellType = .MY_INT64 := by
  cases t <;> simp [IntegerType.cellType]

-- The cell that a value of an integer column becomes.
theorem cell_of_integer {t : IntegerType} {unsigned : Bool} {v : ℤ} (hv : t.Stores unsigned v) :
    ∃ cell, cell_of t.cellType (some (.int v)) = .ok cell ∧
      (ExactOrNA t.cellType v cell ↔ ¬t.TooLarge unsigned v) := by
  rcases t.cellType_cases with ht | ht
  · obtain ⟨h0, h1, hlarge⟩ := IntegerType.int32_bounds ht hv
    rw [ht, hlarge]
    exact ⟨_, rfl, int32_exact_iff h0 h1⟩
  · obtain ⟨h0, h1, hlarge⟩ := IntegerType.int64_bounds ht hv
    rw [ht, hlarge]
    exact ⟨_, rfl, int64_exact_iff h0 h1⟩

-- One turn of the loops in fetch(), for one column.
def read_column (srv : Server) (i j : Nat) (x : Column) :
    EStateM Exc (Obj MariaResultPrep) (Bool × Column) := do
  let more ← fetch_row srv
  let x ← output (set_list_value srv x i j)
  pure (more, x)

theorem set_list_value_inline (srv : Server) {s : Obj MariaRow} {j i : Nat} {slot : Slot}
    {v : Option SqlValue} {x : Column} {cell : Cell} (hslot : s.self.slots[j]? = some slot)
    (htype : Inline slot.type) (hholds : Holds slot v) (hcell : cell_of slot.type v = .ok cell)
    (hx : x.type = type_sexp slot.type) (hi : i < x.cells.length) :
    (set_list_value srv x i j).run s = .ok { x with cells := x.cells.set i cell } s := by
  have hvalue := value_cell_inline srv j htype hholds s
  rw [hcell] at hvalue
  simp [set_list_value, index_eq_ok hslot, hvalue, assign, hx, hi]

-- A statement on which a row is waiting, with the fields of its columns.
structure Waiting (s : Obj MariaResultPrep) (k : Nat) (st : MYSQL_STMT) (fields : List MYSQL_FIELD)
    (row : Row) (rows : List Row) : Prop where
  bound : OutputBound s k st
  complete : s.self.complete_ = false
  reading : s.mysql.reading = some (k, row :: rows)
  fields : s.self.types_ = fields.map field_type
  fits : RowFits s.self.types_ row

-- The value of an integer column that reaches R is exact or NA unless an UNSIGNED
-- INT or BIGINT is above the largest magnitude of its signed type.
theorem integer_column_exact_iff {srv : Server} {s : Obj MariaResultPrep} {k : Nat}
    {st : MYSQL_STMT} {fields : List MYSQL_FIELD} {row : Row} {rows : List Row}
    (hs : Waiting s k st fields row rows) (hsrv : srv.fetch s.mysql.tick = .ok ())
    {j : Nat} {field : MYSQL_FIELD} (hfield : fields[j]? = some field) {t : IntegerType}
    (ht : field.type = t.field_type) {unsigned : Bool} {v : ℤ} (hv : t.Stores unsigned v)
    (hrow : row[j]? = some (some (.int v))) {x : Column} (hx : x.type = type_sexp (field_type field))
    {i : Nat} (hi : i < x.cells.length) :
    (∃ cell u, (read_column srv i j x).run s =
        .ok (true, { x with cells := x.cells.set i cell }) u ∧
      ExactOrNA (field_type field) v cell) ↔ ¬t.TooLarge unsigned v := by
  obtain ⟨hbound, hcomplete, hreading, htypes, hfits⟩ := hs
  obtain ⟨hbound', hholds⟩ := received_bound rows hbound hfits
  have hfetch := fetch_row_run hbound hcomplete hreading hsrv
  obtain ⟨slot, hslot, -, hvalue⟩ := hholds.get hrow
  have htype : slot.type = field_type field := by
    have hmap := congrArg (·[j]?) (hbound'.types.trans htypes)
    simp only [List.getElem?_map, hslot, hfield, Option.map_some, Option.some.injEq] at hmap
    exact hmap
  rw [field_type_integer ht] at htype hx ⊢
  obtain ⟨cell, hcell, hexact⟩ := cell_of_integer hv
  have hinline : Inline slot.type := by
    rw [htype]
    rcases t.cellType_cases with ht | ht
    · rw [ht]
      exact ⟨by decide, by decide⟩
    · rw [ht]
      exact ⟨by decide, by decide⟩
  rw [← htype] at hcell hx
  have hset := set_list_value_inline srv
    (s := ⟨(received s k st row rows).toShared, (received s k st row rows).self.bindingOutput_⟩)
    hslot hinline hvalue hcell hx hi
  have hrun : (read_column srv i j x).run s =
      .ok (true, { x with cells := x.cells.set i cell }) (received s k st row rows) := by
    simp only [read_column, EStateM.run_bind, hfetch, output, onMember_run, hset, EStateM.run_pure]
  rw [← hexact]
  constructor
  · rintro ⟨cell', u, hrun', hexact'⟩
    rw [hrun] at hrun'
    injection hrun' with hpair _
    injection hpair with _ hcolumn
    injection hcolumn with _ _ _ hcells
    have hget := congrArg (·[i]?) hcells
    simp only [List.getElem?_set_self hi, Option.some.injEq] at hget
    rw [hget]
    exact hexact'
  · intro h
    exact ⟨cell, _, hrun, h⟩

-- A table t with a column `u INT UNSIGNED`, and one row in it.
def unsigned_field : MYSQL_FIELD := ⟨"u", .MYSQL_TYPE_LONG, 63, 10⟩

def unsigned_table (v : ℤ) : Server := { Server.agreeable with
  prepare := fun _ _ => .ok { param_count := 0, fields := some [unsigned_field] }
  execute := fun _ _ _ => .ok { rows := some [[some (.int v)]] } }

def unsigned_query (v : ℤ) : Obj MariaResultPrep :=
  finalState (EStateM.run (do
    construct (unsigned_table v) false
    send_query (unsigned_table v) "SELECT u FROM t") ⟨{}, {}⟩)

def int_column : Column := allocVector .INTSXP 1

theorem unsigned_query_waiting (v : ℤ) : ∃ st,
    Waiting (unsigned_query v) 0 st [unsigned_field] [some (.int v)] [] := by
  have hshaped : ∀ slot ∈ [new_slot .MY_INT32], Shaped slot := by
    intro slot hslot
    rw [List.mem_singleton.mp hslot]
    exact new_slot_shaped .MY_INT32
  exact ⟨_, ⟨rfl, rfl, rfl, rfl, rfl, hshaped⟩, rfl, rfl, rfl, .cons trivial .nil⟩

def value? {ε σ α : Type} : EStateM.Result ε σ α → Option α
  | .ok a _ => some a
  | .error _ _ => none

theorem unsigned_int_wraps :
    IntegerType.Stores .INT true 3000000000 ∧
    ¬∃ cell u, (read_column (unsigned_table 3000000000) 0 0 int_column).run
        (unsigned_query 3000000000) =
        .ok (true, { int_column with cells := int_column.cells.set 0 cell }) u ∧
      ExactOrNA (field_type unsigned_field) 3000000000 cell := by
  refine ⟨⟨by decide, by decide⟩, ?_⟩
  rintro ⟨cell, u, hrun, hexact⟩
  have hvalue : value? ((read_column (unsigned_table 3000000000) 0 0 int_column).run
      (unsigned_query 3000000000)) =
      some (true, { int_column with cells := [.int (-1294967296)] }) := by
    decide +kernel
  rw [hrun] at hvalue
  have hcell : cell = .int (-1294967296) := by
    simpa [value?, int_column, allocVector] using hvalue
  rw [hcell] at hexact
  rcases hexact with h | ⟨h, -⟩
  · exact absurd h (by decide)
  · exact absurd h (by decide)

theorem integer_column_exact_iff_max :
    (∃ cell u, (read_column (unsigned_table 2147483647) 0 0 int_column).run
        (unsigned_query 2147483647) =
        .ok (true, { int_column with cells := int_column.cells.set 0 cell }) u ∧
      ExactOrNA (field_type unsigned_field) 2147483647 cell) ↔
    ¬IntegerType.TooLarge .INT true 2147483647 := by
  have hstores : IntegerType.Stores .INT true 2147483647 := ⟨by decide, by decide⟩
  obtain ⟨st, hwaiting⟩ := unsigned_query_waiting 2147483647
  exact integer_column_exact_iff hwaiting rfl rfl rfl hstores rfl rfl (by decide)

end RMariaDB.MariaResultPrep
