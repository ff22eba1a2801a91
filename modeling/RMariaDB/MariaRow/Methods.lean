import RMariaDB.MariaRow.Decode
import RMariaDB.Methods

-- Reading a row works on the handle that the buffers were set up for.

namespace RMariaDB.MariaRow

open Program CArith

variable {srv : Server} {h : Option Nat}

section Plain

theorem value_int_plain (slot : Slot) : Plain (value_int slot) :=
  .ite (.ok _) (ofOption_memory_plain _)

theorem value_int64_plain (slot : Slot) : Plain (value_int64 slot) :=
  .ite (.ok _) (ofOption_memory_plain _)

theorem value_bool_plain (slot : Slot) : Plain (value_bool slot) :=
  .ite (.ok _) ((value_int_plain slot).bind fun _ => .ok _)

theorem value_double_plain (slot : Slot) : Plain (value_double slot) := by
  refine .ite (.ok _) ?_
  split
  · exact .ok _
  · exact .memory

theorem mytime_plain (slot : Slot) : Plain (mytime slot) := by
  unfold mytime
  split
  · exact .ok _
  · exact .memory

theorem value_date_time_plain (slot : Slot) : Plain (value_date_time slot) :=
  .ite (.ok _) ((mytime_plain slot).bind fun _ =>
    (ofOption_arithmetic_plain _).bind fun _ => .ok _)

theorem value_date_plain (slot : Slot) : Plain (value_date slot) :=
  .ite (.ok _) ((mytime_plain slot).bind fun _ =>
    (ofOption_arithmetic_plain _).bind fun _ => .ok _)

theorem value_time_plain (slot : Slot) : Plain (value_time slot) :=
  .ite (.ok _) ((mytime_plain slot).bind fun _ => .ok _)

theorem assign_plain (type : SEXPTYPE) (x : Column) (i : Nat) (cell : Cell) :
    Plain (assign type x i cell) := by
  refine .ite (.stop _) (.ite (.ok _) ?_)
  split
  · exact .stop _
  · exact .stop _
  · exact .memory

end Plain

-- Buffers, once there are any, belong to the statement.
def Belongs (h : Option Nat) (_ : MYSQL) (r : MariaRow) : Prop := r.slots ≠ [] → r.pStatement_ = h

theorem belongs_stable : Stable (Belongs h) := fun _ _ _ _ => id

theorem setSlot_method (j : Nat) (slot : Slot) : Method false h (Belongs h) (setSlot j slot) := by
  refine Method.modifySelf fun m r hr => ?_
  intro hne
  exact hr (by simpa using hne)

theorem fetch_buffer_method (j : Nat) : Method false h (Belongs h) (fetch_buffer srv j) := by
  apply Method.get_bind
  intro s hs
  refine Method.plain_bind (index_plain _ _) fun slot hslot => ?_
  have hstatement : s.self.pStatement_ = h := by
    refine hs fun hnil => ?_
    rw [hnil] at hslot
    cases hslot
  rw [hstatement]
  refine (setSlot_method _ _).bind fun _ => Method.ite (fun _ => Method.pure _) fun _ => ?_
  refine (setSlot_method _ _).bind fun _ => ?_
  refine (Method.lib belongs_stable (mysql_stmt_fetch_column_calls _ _)).bind fun result => ?_
  cases result with
  | error _ =>
      exact (Method.lib belongs_stable mysql_stmt_error_calls).bind fun _ => Method.throw (by simp)
  | ok bytes => exact (setSlot_method _ _).bind fun _ => Method.pure _

theorem value_string_method (j : Nat) : Method false h (Belongs h) (value_string srv j) := by
  refine Method.get_bind fun s _ => (Method.plain (index_plain _ _)).bind fun slot => ?_
  refine Method.ite (fun _ => Method.pure _) fun _ => (fetch_buffer_method j).bind fun slot => ?_
  exact Method.ite (fun _ => Method.throw (by simp)) fun _ => Method.pure _

theorem value_raw_method (j : Nat) : Method false h (Belongs h) (value_raw srv j) := by
  refine Method.get_bind fun s _ => (Method.plain (index_plain _ _)).bind fun slot => ?_
  refine Method.ite (fun _ => Method.pure _) fun _ => (fetch_buffer_method j).bind fun slot => ?_
  exact Method.ite (fun _ => Method.pure _) fun _ => Method.throw (by simp)

theorem value_cell_method (j : Nat) (slot : Slot) : Method false h (Belongs h) (value_cell srv j slot) := by
  unfold value_cell
  cases slot.type with
  | MY_INT32 => exact (Method.plain (value_int_plain slot)).map _
  | MY_INT64 => exact (Method.plain (value_int64_plain slot)).map _
  | MY_DBL => exact (Method.plain (value_double_plain slot)).map _
  | MY_DATE => exact (Method.plain (value_date_plain slot)).map _
  | MY_DATE_TIME => exact (Method.plain (value_date_time_plain slot)).map _
  | MY_TIME => exact (Method.plain (value_time_plain slot)).map _
  | MY_STR => exact (value_string_method j).map _
  | MY_RAW => exact (value_raw_method j).map _
  | MY_LGL => exact (Method.plain (value_bool_plain slot)).map _

theorem set_list_value_method (x : Column) (i j : Nat) :
    Method false h (Belongs h) (set_list_value srv x i j) := by
  refine Method.get_bind fun s _ => (Method.plain (index_plain _ _)).bind fun slot => ?_
  exact (value_cell_method j slot).bind fun cell => Method.plain (assign_plain _ _ _ _)

theorem stmt_fetch_method : Method false h (Belongs h) (stmt_fetch srv h) := by
  refine (Method.lib belongs_stable mysql_stmt_fetch_calls).bind fun result => ?_
  have hreceive : Method false h (Belongs h) (do
      let c ← lib (deref h)
      modifySelf fun r => { r with slots := receive r.slots c.2.bind c.2.row }
      pure result) := by
    refine (Method.lib belongs_stable deref_calls).bind fun c => ?_
    refine Method.bind (Method.modifySelf fun m r hr => ?_) fun _ => Method.pure _
    exact fun hne => hr fun hnil => hne (by rw [hnil]; rfl)
  cases result with
  | ok => exact hreceive
  | MYSQL_DATA_TRUNCATED => exact hreceive
  | error => exact Method.pure _
  | MYSQL_NO_DATA => exact Method.pure _

theorem setup_method (types : List MariaFieldType) : Method false h (Belongs h) (setup srv h types) := by
  refine Method.bind (Method.modifySelf fun m r hr => fun _ => rfl) fun _ => ?_
  refine (Method.lib belongs_stable (mysql_stmt_bind_result_calls _)).bind fun status => ?_
  refine Method.ite (fun _ => ?_) fun _ => Method.pure ()
  exact (Method.lib belongs_stable mysql_stmt_error_calls).bind fun _ => Method.throw (by simp)

section Persists

-- The buffers were set up for a statement and for columns of some types.
def SetUp (h : Option Nat) (types : List MariaFieldType) (r : MariaRow) : Prop :=
  r.pStatement_ = h ∧ r.slots.map Slot.type = types

variable {h : Option Nat} {types : List MariaFieldType}

theorem setSlot_persists {j : Nat} {slot : Slot} (hslot : types[j]? = some slot.type) :
    Persists (SetUp h types) (setSlot j slot) := by
  refine Persists.modifySelf fun r hr => ⟨hr.1, ?_⟩
  obtain ⟨hj, heq⟩ := List.getElem?_eq_some_iff.mp hslot
  rw [List.map_set, hr.2, ← heq, List.set_getElem_self]

theorem fetch_buffer_persists (j : Nat) : Persists (SetUp h types) (fetch_buffer srv j) := by
  refine Persists.get_bind fun s hs => Persists.plain_bind fun slot hslot => ?_
  have htype : types[j]? = some slot.type := by
    rw [← hs.2, List.getElem?_map, index_eq_ok_iff.mp hslot]
    rfl
  refine Persists.bind (setSlot_persists (by exact htype)) fun _ => ?_
  refine Persists.ite (fun _ => Persists.pure _) fun _ => ?_
  refine Persists.bind (setSlot_persists (by exact htype)) fun _ => ?_
  refine (Persists.lib (mysql_stmt_fetch_column_binds _ _)).bind fun result => ?_
  cases result with
  | error _ => exact (Persists.lib mysql_stmt_error_binds).bind fun _ => Persists.throw _
  | ok bytes => exact Persists.bind (setSlot_persists (by exact htype)) fun _ => Persists.pure _

theorem value_string_persists (j : Nat) : Persists (SetUp h types) (value_string srv j) := by
  refine Persists.get_bind fun s _ => (Persists.plain _).bind fun slot => ?_
  refine Persists.ite (fun _ => Persists.pure _) fun _ => (fetch_buffer_persists j).bind fun slot => ?_
  exact Persists.ite (fun _ => Persists.throw _) fun _ => Persists.pure _

theorem value_raw_persists (j : Nat) : Persists (SetUp h types) (value_raw srv j) := by
  refine Persists.get_bind fun s _ => (Persists.plain _).bind fun slot => ?_
  refine Persists.ite (fun _ => Persists.pure _) fun _ => (fetch_buffer_persists j).bind fun slot => ?_
  exact Persists.ite (fun _ => Persists.pure _) fun _ => Persists.throw _

theorem set_list_value_persists (x : Column) (i j : Nat) :
    Persists (SetUp h types) (set_list_value srv x i j) := by
  refine Persists.get_bind fun s _ => (Persists.plain _).bind fun slot => ?_
  refine Persists.bind ?_ fun cell => Persists.plain _
  unfold value_cell
  cases slot.type with
  | MY_STR => exact (value_string_persists j).map _
  | MY_RAW => exact (value_raw_persists j).map _
  | _ => exact (Persists.plain _).map _

theorem stmt_fetch_persists (k : Option Nat) : Persists (SetUp h types) (stmt_fetch srv k) := by
  have hreceive : ∀ result : FetchResult, Persists (SetUp h types) (do
      let c ← lib (deref k)
      modifySelf fun r => { r with slots := receive r.slots c.2.bind c.2.row }
      pure result) := by
    intro result
    refine (Persists.lib deref_binds).bind fun c => ?_
    refine Persists.bind (Persists.modifySelf fun r hr => ⟨hr.1, ?_⟩) fun _ => Persists.pure _
    exact (receive_types _ _ _).trans hr.2
  refine (Persists.lib mysql_stmt_fetch_binds).bind fun result => ?_
  cases result with
  | ok => exact hreceive _
  | MYSQL_DATA_TRUNCATED => exact hreceive _
  | error => exact Persists.pure _
  | MYSQL_NO_DATA => exact Persists.pure _

end Persists

end RMariaDB.MariaRow
