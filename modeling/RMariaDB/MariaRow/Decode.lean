import Mathlib.Data.List.Forall2
import RMariaDB.Libmysql.Calls
import RMariaDB.MariaRow

-- What a column delivers is determined by the value that the server sent for it.

namespace RMariaDB.MariaRow

open Program CArith

section Spec

def missing : MariaFieldType → Cell
  | .MY_INT32 => .int NA_INTEGER
  | .MY_INT64 => .int64 NA_INTEGER64
  | .MY_DBL | .MY_DATE | .MY_DATE_TIME | .MY_TIME => .real .NA
  | .MY_STR => .str none
  | .MY_RAW => .raw none
  | .MY_LGL => .lgl NA_LOGICAL

def exact_cell (x : Option ℚ) : Except Exc Cell :=
  match x with
  | some x => .ok (.real (.finite x))
  | none => .error (.fault .arithmetic)

-- A value of the server in R, by the type of its column.
def cell_of (type : MariaFieldType) (v : Option SqlValue) : Except Exc Cell :=
  match type, v with
  | type, none => .ok (missing type)
  | .MY_INT32, some (.int v) => .ok (.int (LittleEndian.signed 4
      (LittleEndian.decode (LittleEndian.encode 4 v))))
  | .MY_INT64, some (.int v) => .ok (.int64 (LittleEndian.signed 8
      (LittleEndian.decode (LittleEndian.encode 8 v))))
  | .MY_DBL, some (.double x) => .ok (.real x)
  | .MY_DATE, some (.time t) => exact_cell (date_of machine t)
  | .MY_DATE_TIME, some (.time t) => exact_cell (date_time_of machine t)
  | .MY_TIME, some (.time t) => .ok (.real (.finite (time_of machine t)))
  | .MY_STR, some (.bytes b) =>
      if 0 ∈ b then .error (.stop "embedded nul in string") else .ok (.str (some b))
  | .MY_RAW, some (.bytes b) => .ok (.raw (some b))
  | .MY_LGL, some (.bytes b) => .ok (.lgl (if b = [1] then 1 else 0))
  | _, _ => .error (.fault .memory)

theorem cell_of_plain (type : MariaFieldType) (v : Option SqlValue) : Plain (cell_of type v) := by
  have hexact : ∀ x : Option ℚ, Plain (exact_cell x) := fun x => by
    cases x with
    | none => exact Plain.arithmetic
    | some x => exact Plain.ok _
  unfold cell_of
  split <;> first | exact Plain.ok _ | exact hexact _ | exact .ite (.stop _) (.ok _) |
    exact Plain.memory

-- The server sends values in the form that the type of the column asks for, and
-- one byte for a BIT(1).
def Fits : MariaFieldType → Option SqlValue → Prop
  | _, none => True
  | .MY_INT32, some (.int _) | .MY_INT64, some (.int _) | .MY_DBL, some (.double _)
  | .MY_DATE, some (.time _) | .MY_DATE_TIME, some (.time _) | .MY_TIME, some (.time _)
  | .MY_STR, some (.bytes _) | .MY_RAW, some (.bytes _) => True
  | .MY_LGL, some (.bytes b) => b.length = 1
  | _, _ => False

end Spec

section Setup

theorem setup_ok {srv : Server} {h : Option Nat} {types : List MariaFieldType} {u v : Obj MariaRow}
    (hrun : (setup srv h types).run u = .ok () v) :
    v.self.pStatement_ = h ∧ v.self.slots = types.map new_slot ∧
      ∃ k st, h = some k ∧ v.mysql.stmts k = some st ∧
        st.bind = types.map fun type => (new_slot type).binding := by
  obtain ⟨_, u', hset, hrun⟩ := of_run_bind_ok hrun
  cases hset
  obtain ⟨status, w, hbind, hrun⟩ := of_run_bind_ok hrun
  rw [lib_run] at hbind
  split at hbind
  · rename_i hcall
    cases hbind
    by_cases hstatus : status = 0
    · subst hstatus
      cases hrun
      exact ⟨rfl, rfl, mysql_stmt_bind_result_ok hcall⟩
    · rw [if_pos hstatus] at hrun
      obtain ⟨_, _, _, hthrow⟩ := of_run_bind_ok hrun
      cases hthrow
  · cases hbind

end Setup

section Slots

-- What every buffer looks like, whatever rows it has held.
def Shaped (slot : Slot) : Prop :=
  match slot.type with
  | .MY_STR | .MY_RAW => ∃ bytes, slot.buffer = .raw bytes
  | .MY_LGL => ∃ b, slot.buffer = .raw [b, 0, 0, 0]
  | _ => True

-- The slot holds a value of the current row. Strings and blobs are still with the
-- client library, only their length is known.
def Holds (slot : Slot) (v : Option SqlValue) : Prop :=
  match v with
  | none => slot.null = true
  | some v => slot.null = false ∧
      match slot.type, v with
      | .MY_INT32, .int v => slot.buffer = .raw (LittleEndian.encode 4 v)
      | .MY_INT64, .int v => slot.buffer = .raw (LittleEndian.encode 8 v)
      | .MY_DBL, .double x => slot.buffer = .dbl x
      | .MY_DATE, .time t | .MY_DATE_TIME, .time t | .MY_TIME, .time t => slot.buffer = .time t
      | .MY_STR, .bytes b | .MY_RAW, .bytes b => slot.length = b.length
      | .MY_LGL, .bytes b => ∃ x, b = [x] ∧ slot.buffer = .raw [x, 0, 0, 0]
      | _, _ => False

theorem new_slot_shaped (type : MariaFieldType) : Shaped (new_slot type) := by
  cases type <;> first | trivial | exact ⟨_, rfl⟩

theorem receive_type (slot : Slot) (bind : RESULT_BIND) (v : Option SqlValue) :
    (slot.receive bind v).type = slot.type := by
  cases v <;> rfl

theorem receive_types (slots : List Slot) :
    ∀ binds row, (receive slots binds row).map Slot.type = slots.map Slot.type := by
  induction slots with
  | nil => exact fun _ _ => rfl
  | cons slot slots ih =>
      intro binds row
      cases binds with
      | nil => rfl
      | cons bind binds =>
          cases row with
          | nil => rfl
          | cons v row => rw [receive, List.map_cons, List.map_cons, receive_type, ih]

theorem receive_null {slot : Slot} (bind : RESULT_BIND) (h : Shaped slot) :
    Shaped (slot.receive bind none) ∧ Holds (slot.receive bind none) none := ⟨h, rfl⟩

-- A fetched value overwrites what an earlier row has left.
theorem receive_holds {slot : Slot} {v : Option SqlValue} (hslot : Shaped slot)
    (hv : Fits slot.type v) :
    Shaped (slot.receive (new_slot slot.type).binding v) ∧
      Holds (slot.receive (new_slot slot.type).binding v) v := by
  obtain ⟨type, binding, buffer, length, null, error⟩ := slot
  cases v with
  | none => exact receive_null _ hslot
  | some v =>
      cases type <;> cases v <;> try exact hv.elim
      case MY_STR.bytes b =>
        obtain ⟨bytes, rfl⟩ := hslot
        exact ⟨⟨_, rfl⟩, rfl, rfl⟩
      case MY_RAW.bytes b =>
        obtain ⟨bytes, rfl⟩ := hslot
        exact ⟨⟨_, rfl⟩, rfl, rfl⟩
      case MY_LGL.bytes b =>
        obtain ⟨x, rfl⟩ := hslot
        obtain ⟨y, rfl⟩ := List.length_eq_one_iff.mp hv
        exact ⟨⟨y, rfl⟩, rfl, y, rfl, rfl⟩
      all_goals exact ⟨trivial, rfl, rfl⟩

end Slots

section Values

theorem signed_value_raw {n : Nat} {bytes : Bytes} (h : n ≤ bytes.length) :
    signed_value n (.raw bytes) =
      some (LittleEndian.signed n (LittleEndian.decode (bytes.take n))) := if_pos h

theorem value_int_encoded {slot : Slot} {v : ℤ} (hnull : slot.null = false)
    (h : slot.buffer = .raw (LittleEndian.encode 4 v)) :
    value_int slot = .ok (LittleEndian.signed 4 (LittleEndian.decode (LittleEndian.encode 4 v))) := by
  have hlen := LittleEndian.length_encode 4 v
  rw [value_int, hnull, h, signed_value_raw hlen.ge, List.take_of_length_le hlen.le]
  rfl

theorem value_int64_encoded {slot : Slot} {v : ℤ} (hnull : slot.null = false)
    (h : slot.buffer = .raw (LittleEndian.encode 8 v)) :
    value_int64 slot =
      .ok (LittleEndian.signed 8 (LittleEndian.decode (LittleEndian.encode 8 v))) := by
  have hlen := LittleEndian.length_encode 8 v
  rw [value_int64, hnull, h, signed_value_raw hlen.ge, List.take_of_length_le hlen.le]
  rfl

-- Only one of the four bytes of a BIT(1) buffer is ever written.
theorem value_bool_bit {slot : Slot} {b : UInt8} (hnull : slot.null = false)
    (h : slot.buffer = .raw [b, 0, 0, 0]) :
    value_bool slot = .ok (if [b] = [1] then 1 else 0) := by
  have hvalue : value_int slot = .ok (b.toNat : ℤ) := by
    have hlt := b.toNat_lt
    rw [value_int, hnull, h, signed_value_raw (Nat.le_refl 4)]
    rw [LittleEndian.signed_of_lt]
    · simp [LittleEndian.decode, ofOption]
    · simp [LittleEndian.decode]
      omega
  have hone : ((b.toNat : ℤ) = 1) ↔ [b] = [1] := by
    rw [List.cons.injEq, and_iff_left rfl, ← UInt8.toNat_inj]
    exact Int.ofNat_inj
  rw [value_bool, hnull, hvalue]
  simp only [Bool.false_eq_true, if_false, ok_bind, hone, pure_eq_ok]

theorem value_date_eq {slot : Slot} {t : MYSQL_TIME} (hnull : slot.null = false)
    (h : slot.buffer = .time t) :
    value_date slot = Double.finite <$> ofOption .arithmetic (date_of machine t) := by
  simp only [value_date, mytime, hnull, h, Bool.false_eq_true, if_false, pure_eq_ok, ok_bind]
  cases date_of machine t <;> rfl

theorem value_date_time_eq {slot : Slot} {t : MYSQL_TIME} (hnull : slot.null = false)
    (h : slot.buffer = .time t) :
    value_date_time slot = Double.finite <$> ofOption .arithmetic (date_time_of machine t) := by
  simp only [value_date_time, mytime, hnull, h, Bool.false_eq_true, if_false, pure_eq_ok, ok_bind]
  cases date_time_of machine t <;> rfl

-- The columns that need nothing more from the client library.
def Inline (type : MariaFieldType) : Prop := type ≠ .MY_STR ∧ type ≠ .MY_RAW

theorem value_cell_inline (srv : Server) (j : Nat) {slot : Slot} {v : Option SqlValue}
    (htype : Inline slot.type) (hslot : Holds slot v) (s : Obj MariaRow) :
    (value_cell srv j slot).run s = match cell_of slot.type v with
      | .ok cell => .ok cell s
      | .error e => .error e s := by
  cases v with
  | none =>
      have hnull : slot.null = true := hslot
      cases ht : slot.type <;> simp only [value_cell, ht, cell_of, missing, value_int, value_int64,
        value_double, value_date, value_date_time, value_time, value_bool, hnull, if_true, run_map,
        run_liftM, pure_eq_ok]
      case MY_STR => exact absurd ht htype.1
      case MY_RAW => exact absurd ht htype.2
  | some v =>
      obtain ⟨hnull, hslot⟩ := hslot
      cases ht : slot.type <;> cases v <;> simp only [ht] at hslot
      case MY_INT32.int v =>
        simp only [value_cell, ht, cell_of, value_int_encoded hnull hslot, run_map, run_liftM]
      case MY_INT64.int v =>
        simp only [value_cell, ht, cell_of, value_int64_encoded hnull hslot, run_map, run_liftM]
      case MY_DBL.double x =>
        simp [value_cell, ht, cell_of, value_double, hnull, hslot]
      case MY_STR.bytes b => exact absurd ht htype.1
      case MY_RAW.bytes b => exact absurd ht htype.2
      case MY_DATE.time t =>
        simp only [value_cell, ht, cell_of, value_date_eq hnull hslot, run_map, run_liftM]
        cases date_of machine t <;> rfl
      case MY_DATE_TIME.time t =>
        simp only [value_cell, ht, cell_of, value_date_time_eq hnull hslot, run_map, run_liftM]
        cases date_time_of machine t <;> rfl
      case MY_TIME.time t =>
        simp [value_cell, ht, cell_of, value_time, mytime, hnull, hslot]
      case MY_LGL.bytes b =>
        obtain ⟨x, rfl, hbuffer⟩ := hslot
        simp only [value_cell, ht, cell_of, value_bool_bit hnull hbuffer, run_map, run_liftM]

end Values

section Buffers

-- The row that the statement of a row object is at.
def Current (s : Obj MariaRow) (row : Row) : Prop :=
  ∃ k st, s.self.pStatement_ = some k ∧ s.mysql.stmts k = some st ∧ st.row = row

-- The statement whose current row is being read.
structure At (srv : Server) (s : Obj MariaRow) (row : Row) : Prop where
  statement : ∃ k st, s.self.pStatement_ = some k ∧ s.mysql.stmts k = some st ∧ st.row = row
  answers : ∀ t, srv.fetch_column t = .ok ()

-- A slot that still holds what it held.
structure Keeps (a b : Slot) : Prop where
  type : b.type = a.type
  shaped : Shaped a → Shaped b
  holds : ∀ v, Holds a v → Holds b v

theorem Keeps.refl (a : Slot) : Keeps a a := ⟨rfl, id, fun _ => id⟩

theorem Keeps.trans {a b c : Slot} (h : Keeps a b) (h' : Keeps b c) : Keeps a c :=
  ⟨h'.type.trans h.type, h'.shaped ∘ h.shaped, fun v => h'.holds v ∘ h.holds v⟩

-- Reading a value moves nothing but the clock and the buffer it is read into.
structure Read (s t : Obj MariaRow) : Prop where
  conn : t.conn = s.conn
  warnings : t.warnings = s.warnings
  mysql : t.mysql = { s.mysql with tick := t.mysql.tick }
  self : t.self = { s.self with slots := t.self.slots }
  slots : List.Forall₂ Keeps s.self.slots t.self.slots

theorem forall₂_keeps_trans {xs ys : List Slot} (h : List.Forall₂ Keeps xs ys) :
    ∀ {zs : List Slot}, List.Forall₂ Keeps ys zs → List.Forall₂ Keeps xs zs := by
  induction h with
  | nil =>
      intro zs h
      exact h
  | cons hxy _ ih =>
      intro zs h
      obtain ⟨z, zs, hyz, hrest, rfl⟩ := List.forall₂_cons_left_iff.mp h
      exact .cons (hxy.trans hyz) (ih hrest)

theorem types_of_keeps {xs ys : List Slot} (h : List.Forall₂ Keeps xs ys) :
    ys.map Slot.type = xs.map Slot.type := by
  induction h with
  | nil => rfl
  | cons hxy _ ih => rw [List.map_cons, List.map_cons, hxy.type, ih]

theorem shaped_of_keeps {xs ys : List Slot} (h : List.Forall₂ Keeps xs ys)
    (hxs : ∀ x ∈ xs, Shaped x) : ∀ y ∈ ys, Shaped y := by
  induction h with
  | nil => simp
  | cons hxy _ ih =>
      intro y hy
      rcases List.mem_cons.mp hy with rfl | hy
      · exact hxy.shaped (hxs _ (List.mem_cons_self ..))
      · exact ih (fun x hx => hxs x (List.mem_cons_of_mem _ hx)) y hy

theorem forall₂_keeps_set {slots : List Slot} {a b : Slot} (hab : Keeps a b) :
    ∀ {j : Nat}, slots[j]? = some a → List.Forall₂ Keeps slots (slots.set j b) := by
  induction slots with
  | nil =>
      intro j h
      cases h
  | cons slot slots ih =>
      intro j h
      cases j with
      | zero =>
          cases h
          exact .cons hab (List.forall₂_same.mpr fun x _ => Keeps.refl x)
      | succ j => exact .cons (Keeps.refl slot) (ih h)

theorem Read.refl (s : Obj MariaRow) : Read s s :=
  ⟨rfl, rfl, rfl, rfl, List.forall₂_same.mpr fun x _ => Keeps.refl x⟩

theorem Read.trans {s t u : Obj MariaRow} (h : Read s t) (h' : Read t u) : Read s u := by
  refine ⟨h'.conn.trans h.conn, h'.warnings.trans h.warnings, ?_, ?_,
    forall₂_keeps_trans h.slots h'.slots⟩
  · rw [h'.mysql, h.mysql]
  · rw [h'.self, h.self]

variable {srv : Server}

theorem At.read {s t : Obj MariaRow} {row : Row} (h : At srv s row) (hread : Read s t) :
    At srv t row := by
  obtain ⟨⟨k, st, hk, hst, hrow⟩, hanswers⟩ := h
  refine ⟨⟨k, st, ?_, ?_, hrow⟩, hanswers⟩
  · rw [hread.self]
    exact hk
  · rw [hread.mysql]
    exact hst

theorem Read.set_slot {s : Obj MariaRow} {j : Nat} {a b : Slot} (tick : Nat)
    (ha : s.self.slots[j]? = some a) (hab : Keeps a b) :
    Read s { s with self.slots := s.self.slots.set j b, mysql.tick := tick } :=
  ⟨rfl, rfl, rfl, rfl, forall₂_keeps_set hab ha⟩

variable (srv) in
-- The buffer holds the bytes of the current row, unless the library cannot fetch them.
theorem fetch_buffer_outcome {s : Obj MariaRow} {row : Row} {j : Nat} {slot : Slot} {b old : Bytes}
    (hat : Current s row) (hslot : s.self.slots[j]? = some slot) (hlen : slot.length = b.length)
    (hold : slot.buffer = .raw old) (hrow : row[j]? = some (some (.bytes b))) :
    (∃ n tick, (fetch_buffer srv j).run s = .ok { slot with
        buffer := .raw b, binding.buffer_length := n }
      { s with
        self.slots := s.self.slots.set j { slot with buffer := .raw b, binding.buffer_length := n }
        mysql.tick := tick }) ∨
    ∃ f t, b ≠ [] ∧ srv.fetch_column s.mysql.tick = .error f ∧
      (fetch_buffer srv j).run s = .error (.stop ("Error fetching buffer: " ++ f.error)) t := by
  obtain ⟨k, st, hk, hst, rfl⟩ := hat
  by_cases hb : b.length = 0
  · have hnil : b = [] := List.length_eq_zero_iff.mp hb
    subst hnil
    have hzero : slot.length = 0 := hlen
    refine .inl ⟨slot.binding.buffer_length, s.mysql.tick, ?_⟩
    simp [fetch_buffer, index_eq_ok hslot, hzero, resize, setSlot]
  · cases hanswer : srv.fetch_column s.mysql.tick with
    | ok u =>
        have hfill : b ++ (resize old b.length (0 : UInt8)).drop b.length = b := by
          rw [List.drop_eq_nil_of_le (by simp [resize]; omega), List.append_nil]
        have hcolumn := mysql_stmt_fetch_column_run b.length hst hanswer hrow
        rw [List.take_length] at hcolumn
        refine .inl ⟨0, s.mysql.tick + 1, ?_⟩
        simp [fetch_buffer, index_eq_ok hslot, hb, setSlot, hold, raw_bytes, hlen, hk, hcolumn, hfill]
    | error f =>
        obtain ⟨m, hcolumn, herror⟩ := mysql_stmt_fetch_column_error j b.length hst hanswer
        have hne : b ≠ [] := fun hnil => hb (List.length_eq_zero_iff.mpr hnil)
        refine .inr ⟨f, ?_⟩
        simp [fetch_buffer, index_eq_ok hslot, hb, hne, setSlot, hlen, hk, hcolumn, herror]

-- A string or blob that is fetched into its buffer is still held.
theorem keeps_fetched {slot : Slot} (b : Bytes) (n : Nat)
    (htype : slot.type = .MY_STR ∨ slot.type = .MY_RAW) :
    Keeps slot { slot with buffer := .raw b, binding.buffer_length := n } := by
  obtain ⟨type, binding, buffer, length, null, error⟩ := slot
  rcases htype with rfl | rfl
  · refine ⟨rfl, fun _ => ⟨b, rfl⟩, ?_⟩
    intro v hv
    cases v with
    | none => exact hv
    | some v => cases v <;> exact hv
  · refine ⟨rfl, fun _ => ⟨b, rfl⟩, ?_⟩
    intro v hv
    cases v with
    | none => exact hv
    | some v => cases v <;> exact hv

-- What comes of reading a value: what its type makes of it, or the error of a library that
-- cannot fetch the bytes.
def Comes {α : Type} (srv : Server) (s : Obj MariaRow) (r : EStateM.Result Exc (Obj MariaRow) α)
    (x : Except Exc α) : Prop :=
  (∃ t, Read s t ∧ (∀ a, x = .ok a → r = .ok a t) ∧ ∀ e, x = .error e → r = .error e t) ∨
  ∃ f t, srv.fetch_column s.mysql.tick = .error f ∧
    r = .error (.stop ("Error fetching buffer: " ++ f.error)) t

variable (srv) in
theorem value_cell_outcome {s : Obj MariaRow} {row : Row} {j : Nat} {slot : Slot}
    {v : Option SqlValue}
    (hat : Current s row) (hslot : s.self.slots[j]? = some slot) (hshape : Shaped slot)
    (hholds : Holds slot v) (hrow : row[j]? = some v) :
    Comes srv s ((value_cell srv j slot).run s) (cell_of slot.type v) := by
  by_cases hinline : Inline slot.type
  · have hrun := value_cell_inline srv j hinline hholds s
    refine .inl ⟨s, Read.refl s, fun a ha => ?_, fun e he => ?_⟩
    · rw [hrun, ha]
    · rw [hrun, he]
  have htype : slot.type = .MY_STR ∨ slot.type = .MY_RAW := by
    unfold Inline at hinline
    tauto
  cases v with
  | none =>
      have hnull : slot.null = true := hholds
      refine .inl ⟨s, Read.refl s, ?_⟩
      rcases htype with ht | ht
      · simp [value_cell, ht, cell_of, missing, value_string, index_eq_ok hslot, hnull]
      · simp [value_cell, ht, cell_of, missing, value_raw, index_eq_ok hslot, hnull]
  | some v =>
      obtain ⟨hnull, hvalue⟩ := hholds
      have hraw : ∃ old, slot.buffer = .raw old := by
        rcases htype with ht | ht
        · simpa only [Shaped, ht] using hshape
        · simpa only [Shaped, ht] using hshape
      have hbytes : ∃ b, v = .bytes b ∧ slot.length = b.length := by
        rcases htype with ht | ht
        · cases v <;> simp only [ht] at hvalue
          exact ⟨_, rfl, hvalue⟩
        · cases v <;> simp only [ht] at hvalue
          exact ⟨_, rfl, hvalue⟩
      obtain ⟨old, hold⟩ := hraw
      obtain ⟨b, rfl, hlen⟩ := hbytes
      rcases fetch_buffer_outcome srv hat hslot hlen hold hrow with
        ⟨n, tick, hfetch⟩ | ⟨f, t, -, hfails, hfetch⟩
      · refine .inl ⟨_, Read.set_slot tick hslot (keeps_fetched b n htype), ?_⟩
        rcases htype with ht | ht
        · by_cases hnul : 0 ∈ b
          · simp [value_cell, ht, cell_of, value_string, index_eq_ok hslot, hnull, hfetch, raw_bytes,
              hnul]
          · simp [value_cell, ht, cell_of, value_string, index_eq_ok hslot, hnull, hfetch, raw_bytes,
              hnul]
        · simp [value_cell, ht, cell_of, value_raw, index_eq_ok hslot, hnull, hfetch, raw_bytes, hlen]
      · refine .inr ⟨f, t, hfails, ?_⟩
        rcases htype with ht | ht
        · simp [value_cell, ht, value_string, index_eq_ok hslot, hnull, hfetch]
        · simp [value_cell, ht, value_raw, index_eq_ok hslot, hnull, hfetch]

variable (srv) in
-- A column with a new element, when the value can be converted.
theorem set_list_value_outcome {s : Obj MariaRow} {row : Row} {j : Nat} {slot : Slot}
    {v : Option SqlValue} {x : Column} {i : Nat}
    (hat : Current s row) (hslot : s.self.slots[j]? = some slot) (hshape : Shaped slot)
    (hholds : Holds slot v) (hrow : row[j]? = some v) (hx : x.type = type_sexp slot.type)
    (hi : i < x.cells.length) :
    Comes srv s ((set_list_value srv x i j).run s)
      ((fun cell => { x with cells := x.cells.set i cell }) <$> cell_of slot.type v) := by
  rcases value_cell_outcome srv hat hslot hshape hholds hrow with
    ⟨t, hread, hok, herror⟩ | ⟨f, t, hfails, hrun⟩
  · refine .inl ⟨t, hread, fun y hy => ?_, fun e he => ?_⟩
    · cases hcell : cell_of slot.type v with
      | ok cell =>
          rw [hcell] at hy
          cases hy
          simp [set_list_value, index_eq_ok hslot, hok cell hcell, assign, hx, hi]
      | error e =>
          rw [hcell] at hy
          cases hy
    · cases hcell : cell_of slot.type v with
      | ok cell =>
          rw [hcell] at he
          cases he
      | error e' =>
          rw [hcell] at he
          cases he
          simp [set_list_value, index_eq_ok hslot, herror e hcell]
  · refine .inr ⟨f, t, hfails, ?_⟩
    simp [set_list_value, index_eq_ok hslot, hrun]

theorem set_list_value_run {s : Obj MariaRow} {row : Row} {j : Nat} {slot : Slot}
    {v : Option SqlValue} {x : Column} {i : Nat} (hat : At srv s row)
    (hslot : s.self.slots[j]? = some slot) (hshape : Shaped slot) (hholds : Holds slot v)
    (hrow : row[j]? = some v) (hx : x.type = type_sexp slot.type) (hi : i < x.cells.length) :
    ∃ t, Read s t ∧ (set_list_value srv x i j).run s = match cell_of slot.type v with
      | .ok cell => .ok { x with cells := x.cells.set i cell } t
      | .error e => .error e t := by
  rcases set_list_value_outcome srv hat.statement hslot hshape hholds hrow hx hi with
    ⟨t, hread, hok, herror⟩ | ⟨f, t, hfails, -⟩
  · refine ⟨t, hread, ?_⟩
    cases hcell : cell_of slot.type v with
    | ok cell => exact hok _ (by rw [hcell]; rfl)
    | error e => exact herror e (by rw [hcell]; rfl)
  · cases (hat.answers s.mysql.tick).symm.trans hfails

end Buffers

end RMariaDB.MariaRow
