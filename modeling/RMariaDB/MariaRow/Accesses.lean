import RMariaDB.Lib.Trace
import RMariaDB.MariaRow.Runs

-- Where set_list_value() and what it calls touch the buffers of a row.

namespace RMariaDB.MariaRow

open Program CArith

-- The element k of a buffer, or a copy of a number of its bytes, with the size that the
-- buffer has then.
inductive Access
  | element (k size : Nat)
  | memcpy (length size : Nat)
deriving DecidableEq, Repr

def Access.Sound : Access → Prop
  | element k size => k < size
  | memcpy length size => length = size

namespace Traced

variable (srv : Server)

-- &buffers_[j][0]
def front (slot : Slot) : EStateM Exc (Obj MariaRow × List Access) Unit :=
  note (.element 0 slot.buffer.size)

def value_int (slot : Slot) : EStateM Exc (Obj MariaRow × List Access) ℤ :=
  if slot.null then pure NA_INTEGER
  else do
    front slot
    ofOption .memory (signed_value 4 slot.buffer)

def value_int64 (slot : Slot) : EStateM Exc (Obj MariaRow × List Access) ℤ :=
  if slot.null then pure NA_INTEGER64
  else do
    front slot
    ofOption .memory (signed_value 8 slot.buffer)

def value_bool (slot : Slot) : EStateM Exc (Obj MariaRow × List Access) ℤ :=
  if slot.null then pure NA_LOGICAL
  else do
    let v ← value_int slot
    pure (if v = 1 then 1 else 0)

def value_double (slot : Slot) : EStateM Exc (Obj MariaRow × List Access) Double :=
  if slot.null then pure .NA
  else do
    front slot
    match slot.buffer with
    | .dbl x => pure x
    | _ => throw (.fault .memory)

def value_date_time (slot : Slot) : EStateM Exc (Obj MariaRow × List Access) Double :=
  if slot.null then pure .NA
  else do
    front slot
    let t ← mytime slot
    let x ← ofOption .arithmetic (date_time_of machine t)
    pure (.finite x)

def value_date (slot : Slot) : EStateM Exc (Obj MariaRow × List Access) Double :=
  if slot.null then pure .NA
  else do
    front slot
    let t ← mytime slot
    let x ← ofOption .arithmetic (date_of machine t)
    pure (.finite x)

def value_time (slot : Slot) : EStateM Exc (Obj MariaRow × List Access) Double :=
  if slot.null then pure .NA
  else do
    front slot
    let t ← mytime slot
    pure (.finite (time_of machine t))

def fetch_buffer (j : Nat) : EStateM Exc (Obj MariaRow × List Access) Slot := do
  let s ← silent get
  let slot ← index s.self.slots j
  let length := slot.length
  let slot := { slot with buffer := .raw (resize (raw_bytes slot.buffer) length 0) }
  silent (setSlot j slot)
  if length = 0 then
    pure slot
  else do
    front slot
    let slot := { slot with binding.buffer_length := length }
    silent (setSlot j slot)
    let result ← silent (lib (mysql_stmt_fetch_column srv s.self.pStatement_ j length))
    match result with
    | .error _ => do
        let error ← silent (lib (mysql_stmt_error s.self.pStatement_))
        throw (.stop ("Error fetching buffer: " ++ error))
    | .ok bytes => do
        let slot := { slot with
          buffer := .raw (bytes ++ (raw_bytes slot.buffer).drop bytes.length)
          binding.buffer_length := 0 }
        silent (setSlot j slot)
        pure slot

def value_string (j : Nat) : EStateM Exc (Obj MariaRow × List Access) (Option Bytes) := do
  let s ← silent get
  let slot ← index s.self.slots j
  if slot.null then
    pure none
  else do
    let slot ← fetch_buffer srv j
    if (raw_bytes slot.buffer).length = 0 then
      pure (some [])
    else do
      front slot
      if (raw_bytes slot.buffer).contains 0 then
        throw (.stop "embedded nul in string")
      else
        pure (some (raw_bytes slot.buffer))

def value_raw (j : Nat) : EStateM Exc (Obj MariaRow × List Access) (Option Bytes) := do
  let s ← silent get
  let slot ← index s.self.slots j
  if slot.null then
    pure none
  else do
    let slot ← fetch_buffer srv j
    front slot
    note (.memcpy slot.length slot.buffer.size)
    if slot.length ≤ (raw_bytes slot.buffer).length then
      pure (some ((raw_bytes slot.buffer).take slot.length))
    else
      throw (.fault .memory)

def value_cell (j : Nat) (slot : Slot) : EStateM Exc (Obj MariaRow × List Access) Cell :=
  match slot.type with
  | .MY_INT32 => Cell.int <$> value_int slot
  | .MY_INT64 => Cell.int64 <$> value_int64 slot
  | .MY_DBL => Cell.real <$> value_double slot
  | .MY_DATE => Cell.real <$> value_date slot
  | .MY_DATE_TIME => Cell.real <$> value_date_time slot
  | .MY_TIME => Cell.real <$> value_time slot
  | .MY_STR => Cell.str <$> value_string srv j
  | .MY_RAW => Cell.raw <$> value_raw srv j
  | .MY_LGL => Cell.lgl <$> value_bool slot

def set_list_value (x : Column) (i j : Nat) : EStateM Exc (Obj MariaRow × List Access) Column := do
  let s ← silent get
  let slot ← index s.self.slots j
  let cell ← value_cell srv j slot
  assign (type_sexp slot.type) x i cell

end Traced

section Inline

-- What an accessor of a column touches that is kept in its buffer.
def touched (slot : Slot) : List Access :=
  if slot.null then [] else [.element 0 slot.buffer.size]

variable {slot : Slot} {s : Obj MariaRow}

theorem front_traces {α : Type} {a : α} {m : EStateM Exc (Obj MariaRow × List Access) α}
    {x : Except Exc α} (h : slot.null = false → Traces m (liftM x) s []) :
    Traces (if slot.null then pure a else do Traced.front slot; m)
      (liftM (if slot.null then pure a else x)) s (touched slot) := by
  unfold touched
  cases hnull : slot.null with
  | true => exact Traces.pure a
  | false => exact (h hnull).note_bind _

theorem value_int_traces : Traces (Traced.value_int slot) (liftM (value_int slot)) s (touched slot) :=
  front_traces fun _ => Traces.liftM _

theorem value_int64_traces :
    Traces (Traced.value_int64 slot) (liftM (value_int64 slot)) s (touched slot) :=
  front_traces fun _ => Traces.liftM _

theorem value_bool_traces :
    Traces (Traced.value_bool slot) (liftM (value_bool slot)) s (touched slot) := by
  unfold Traced.value_bool value_bool
  cases hnull : slot.null with
  | true =>
      rw [touched, hnull]
      exact Traces.pure NA_LOGICAL
  | false =>
      rw [if_neg Bool.false_ne_true, if_neg Bool.false_ne_true, liftExcept_bind]
      exact value_int_traces.bind_silent fun v _ => Traces.pure _

theorem value_double_traces :
    Traces (Traced.value_double slot) (liftM (value_double slot)) s (touched slot) := by
  refine front_traces fun _ => ?_
  cases slot.buffer with
  | dbl x => exact Traces.pure x
  | _ => exact Traces.throw _

theorem value_date_time_traces :
    Traces (Traced.value_date_time slot) (liftM (value_date_time slot)) s (touched slot) := by
  refine front_traces fun _ => ?_
  rw [liftExcept_bind]
  refine (Traces.liftM _).bind_silent fun t _ => ?_
  rw [liftExcept_bind]
  exact (Traces.liftM _).bind_silent fun x _ => Traces.pure _

theorem value_date_traces :
    Traces (Traced.value_date slot) (liftM (value_date slot)) s (touched slot) := by
  refine front_traces fun _ => ?_
  rw [liftExcept_bind]
  refine (Traces.liftM _).bind_silent fun t _ => ?_
  rw [liftExcept_bind]
  exact (Traces.liftM _).bind_silent fun x _ => Traces.pure _

theorem value_time_traces :
    Traces (Traced.value_time slot) (liftM (value_time slot)) s (touched slot) := by
  refine front_traces fun _ => ?_
  rw [liftExcept_bind]
  exact (Traces.liftM _).bind_silent fun t _ => Traces.pure _

theorem value_cell_traces_inline (srv : Server) (j : Nat) (htype : Inline slot.type) :
    Traces (Traced.value_cell srv j slot) (value_cell srv j slot) s (touched slot) := by
  unfold Traced.value_cell value_cell
  cases ht : slot.type with
  | MY_INT32 => exact value_int_traces.map _
  | MY_INT64 => exact value_int64_traces.map _
  | MY_DBL => exact value_double_traces.map _
  | MY_DATE => exact value_date_traces.map _
  | MY_DATE_TIME => exact value_date_time_traces.map _
  | MY_TIME => exact value_time_traces.map _
  | MY_LGL => exact value_bool_traces.map _
  | MY_STR => exact absurd ht htype.1
  | MY_RAW => exact absurd ht htype.2

end Inline

section Erases

variable (srv : Server)

theorem fetch_buffer_erases (j : Nat) : Erases (Traced.fetch_buffer srv j) (fetch_buffer srv j) := by
  refine (Erases.silent _).bind fun s => (Erases.liftM _).bind fun slot => ?_
  refine (Erases.silent _).bind fun _ => Erases.ite (fun _ => Erases.pure _) fun _ => ?_
  refine Erases.note_bind _ ((Erases.silent _).bind fun _ => (Erases.silent _).bind fun result => ?_)
  cases result with
  | error _ => exact (Erases.silent _).bind fun _ => Erases.throw _
  | ok bytes => exact (Erases.silent _).bind fun _ => Erases.pure _

theorem value_string_erases (j : Nat) : Erases (Traced.value_string srv j) (value_string srv j) := by
  refine (Erases.silent _).bind fun s => (Erases.liftM _).bind fun slot => ?_
  refine Erases.ite (fun _ => Erases.pure _) fun _ => (fetch_buffer_erases srv j).bind fun slot => ?_
  by_cases hlength : (raw_bytes slot.buffer).length = 0
  · rw [if_pos hlength, List.length_eq_zero_iff.mp hlength]
    exact Erases.pure _
  · rw [if_neg hlength]
    exact Erases.note_bind _ (Erases.ite (fun _ => Erases.throw _) fun _ => Erases.pure _)

theorem value_raw_erases (j : Nat) : Erases (Traced.value_raw srv j) (value_raw srv j) := by
  refine (Erases.silent _).bind fun s => (Erases.liftM _).bind fun slot => ?_
  refine Erases.ite (fun _ => Erases.pure _) fun _ => (fetch_buffer_erases srv j).bind fun slot => ?_
  exact Erases.note_bind _ (Erases.note_bind _
    (Erases.ite (fun _ => Erases.pure _) fun _ => Erases.throw _))

theorem value_cell_erases (j : Nat) (slot : Slot) :
    Erases (Traced.value_cell srv j slot) (value_cell srv j slot) := by
  by_cases hinline : Inline slot.type
  · exact fun s => ⟨_, value_cell_traces_inline srv j hinline⟩
  · unfold Inline at hinline
    have htype : slot.type = .MY_STR ∨ slot.type = .MY_RAW := by tauto
    unfold Traced.value_cell value_cell
    rcases htype with ht | ht
    · rw [ht]
      exact (value_string_erases srv j).map _
    · rw [ht]
      exact (value_raw_erases srv j).map _

-- Without its record the traced function is set_list_value().
theorem set_list_value_erases (x : Column) (i j : Nat) :
    Erases (Traced.set_list_value srv x i j) (set_list_value srv x i j) := by
  refine (Erases.silent _).bind fun s => (Erases.liftM _).bind fun slot => ?_
  exact (value_cell_erases srv j slot).bind fun cell => Erases.liftM _

end Erases

section Buffers

variable (srv : Server) {s : Obj MariaRow} {row : Row} {j : Nat} {slot : Slot} {b : Bytes}

-- The bytes of the current row are asked for unless there are none.
theorem fetch_buffer_traces (hslot : s.self.slots[j]? = some slot) :
    Traces (Traced.fetch_buffer srv j) (fetch_buffer srv j) s
      (if slot.length = 0 then [] else [.element 0 slot.length]) := by
  refine Traces.get_bind (Traces.liftM_bind (index_eq_ok hslot) (Traces.silent_bind rfl ?_))
  by_cases hlength : slot.length = 0
  · rw [if_pos hlength, if_pos hlength, if_pos hlength]
    exact Traces.pure _
  · rw [if_neg hlength, if_neg hlength, if_neg hlength]
    have hsize : (Buffer.raw (resize (raw_bytes slot.buffer) slot.length 0)).size = slot.length := by
      simp [Buffer.size, resize]
      omega
    rw [Traced.front, hsize]
    refine Traces.note_bind _ (Traces.silent_bind rfl ?_)
    refine (Traces.silent _).bind_silent fun result t => ?_
    cases result with
    | error _ => exact (Traces.silent _).bind_silent fun error _ => Traces.throw _
    | ok bytes => exact (Traces.silent _).bind_silent fun _ _ => Traces.pure _

-- What fetching these bytes touches, and taking the address of the first of them.
def fetched (bytes : Bytes) : List Access :=
  if bytes.length = 0 then [] else [.element 0 bytes.length]

theorem fetched_sound (bytes : Bytes) : ∀ a ∈ fetched bytes, a.Sound := by
  intro a ha
  unfold fetched at ha
  split at ha
  · cases ha
  · cases List.mem_singleton.mp ha
    exact Nat.pos_of_ne_zero ‹_›

theorem value_string_traces_null (hslot : s.self.slots[j]? = some slot) (hnull : slot.null = true) :
    Traces (Traced.value_string srv j) (value_string srv j) s [] := by
  refine Traces.get_bind (Traces.liftM_bind (index_eq_ok hslot) ?_)
  rw [hnull]
  exact Traces.pure none

theorem value_raw_traces_null (hslot : s.self.slots[j]? = some slot) (hnull : slot.null = true) :
    Traces (Traced.value_raw srv j) (value_raw srv j) s [] := by
  refine Traces.get_bind (Traces.liftM_bind (index_eq_ok hslot) ?_)
  rw [hnull]
  exact Traces.pure none

theorem value_string_traces (hat : Current s row) (hslot : s.self.slots[j]? = some slot)
    (hnull : slot.null = false) (hlen : slot.length = b.length) {old : Bytes}
    (hold : slot.buffer = .raw old) (hrow : row[j]? = some (some (.bytes b))) :
    ∃ ws, Traces (Traced.value_string srv j) (value_string srv j) s ws ∧ ∀ a ∈ ws, a.Sound := by
  have hfetch := fetch_buffer_traces srv hslot
  rw [hlen] at hfetch
  rcases fetch_buffer_outcome srv hat hslot hlen hold hrow with ⟨n, tick, hrun⟩ | ⟨f, t, -, -, hrun⟩
  · refine ⟨fetched b ++ fetched b, Traces.get_bind (Traces.liftM_bind (index_eq_ok hslot) ?_), ?_⟩
    · rw [hnull]
      refine hfetch.bind hrun ?_
      by_cases hlength : b.length = 0
      · rw [fetched, if_pos hlength]
        cases List.length_eq_zero_iff.mp hlength
        exact Traces.pure _
      · rw [fetched, if_neg hlength]
        refine Eq.subst (motive := fun m => Traces m _ _ _) (if_neg hlength).symm ?_
        exact Traces.note_bind _ (Traces.ite (fun _ => Traces.throw _) fun _ => Traces.pure _)
    · intro a ha
      rcases List.mem_append.mp ha with ha | ha
      · exact fetched_sound b a ha
      · exact fetched_sound b a ha
  · refine ⟨fetched b, Traces.get_bind (Traces.liftM_bind (index_eq_ok hslot) ?_), fetched_sound b⟩
    rw [hnull]
    exact hfetch.bind_error hrun

theorem value_raw_traces (hat : Current s row) (hslot : s.self.slots[j]? = some slot)
    (hnull : slot.null = false) (hlen : slot.length = b.length) {old : Bytes}
    (hold : slot.buffer = .raw old) (hrow : row[j]? = some (some (.bytes b))) :
    ∃ ws, Traces (Traced.value_raw srv j) (value_raw srv j) s ws ∧
      ((∀ a ∈ ws, a.Sound) ↔ b ≠ []) := by
  have hfetch := fetch_buffer_traces srv hslot
  rw [hlen] at hfetch
  rcases fetch_buffer_outcome srv hat hslot hlen hold hrow with
    ⟨n, tick, hrun⟩ | ⟨f, t, hne, -, hrun⟩
  · refine ⟨fetched b ++ [.element 0 b.length, .memcpy slot.length b.length],
      Traces.get_bind (Traces.liftM_bind (index_eq_ok hslot) ?_), ?_⟩
    · rw [hnull]
      refine hfetch.bind hrun (Traces.note_bind _ (Traces.note_bind _ ?_))
      exact Traces.ite (fun _ => Traces.pure _) fun _ => Traces.throw _
    · constructor
      · -- &buffers_[j][0] is taken also when there is no element
        intro h hnil
        have hfirst : 0 < b.length := h (.element 0 b.length) (by simp)
        rw [hnil] at hfirst
        exact Nat.lt_irrefl 0 hfirst
      · intro hne a ha
        rcases List.mem_append.mp ha with ha | ha
        · exact fetched_sound b a ha
        · rcases List.mem_pair.mp ha with rfl | rfl
          · exact List.length_pos_iff.mpr hne
          · exact hlen
  · refine ⟨fetched b, Traces.get_bind (Traces.liftM_bind (index_eq_ok hslot) ?_), ?_⟩
    · rw [hnull]
      exact hfetch.bind_error hrun
    · exact iff_of_true (fetched_sound b) hne

end Buffers

section Sized

-- The library does not resize buffers, so those of fixed size keep it.
def Sized (slot : Slot) : Prop :=
  match slot.type with
  | .MY_STR | .MY_RAW => ∃ bytes, slot.buffer = .raw bytes
  | type => slot.buffer.size = (new_buffer type).size

-- What the slot says of a value that was received: whether there is one, and how long it is.
def Tells (slot : Slot) (v : Option SqlValue) : Prop :=
  match v with
  | none => slot.null = true
  | some v => slot.null = false ∧
      match slot.type, v with
      | .MY_STR, .bytes b | .MY_RAW, .bytes b => slot.length = b.length
      | .MY_STR, _ | .MY_RAW, _ => False
      | _, _ => True

-- Strings and blobs are sent as bytes, any number of them.
def Formed : MariaFieldType → Option SqlValue → Prop
  | .MY_STR, some (.bytes _) | .MY_RAW, some (.bytes _) => True
  | .MY_STR, some _ | .MY_RAW, some _ => False
  | _, _ => True

theorem new_slot_sized (type : MariaFieldType) : Sized (new_slot type) := by
  cases type <;> first | rfl | exact ⟨_, rfl⟩

theorem receive_tells {slot : Slot} {v : Option SqlValue} (hslot : Sized slot)
    (hv : Formed slot.type v) :
    Sized (slot.receive (new_slot slot.type).binding v) ∧
      Tells (slot.receive (new_slot slot.type).binding v) v := by
  obtain ⟨type, binding, buffer, length, null, error⟩ := slot
  cases v with
  | none => exact ⟨hslot, rfl⟩
  | some v =>
      cases type
      case MY_STR =>
        obtain ⟨old, rfl⟩ := hslot
        cases v with
        | bytes b => exact ⟨⟨_, rfl⟩, rfl, rfl⟩
        | _ => exact hv.elim
      case MY_RAW =>
        obtain ⟨old, rfl⟩ := hslot
        cases v with
        | bytes b => exact ⟨⟨_, rfl⟩, rfl, rfl⟩
        | _ => exact hv.elim
      case MY_LGL =>
        refine ⟨?_, rfl, trivial⟩
        cases v with
        | bytes b =>
            cases buffer with
            | raw old =>
                -- no more than the four bytes are written
                have hold : old.length = 4 := hslot
                change (b.take 4 ++ old.drop (min 4 b.length)).length = 4
                rw [List.length_append, List.length_take, List.length_drop, hold]
                omega
            | _ => exact hslot
        | _ => exact hslot
      all_goals
        refine ⟨?_, rfl, trivial⟩
        cases v <;> first | exact hslot | rfl

theorem sized_tracks : Tracks Formed Sized Tells where
  fresh := new_slot_sized
  received := fun _ _ hslot hv => receive_tells hslot hv
  refilled := fun slot b n htype hslot => by
    obtain ⟨type, binding, buffer, length, null, error⟩ := slot
    rcases htype with rfl | rfl
    · exact ⟨⟨b, rfl⟩, fun v hv => by cases v <;> exact hv⟩
    · exact ⟨⟨b, rfl⟩, fun v hv => by cases v <;> exact hv⟩

theorem touched_sound {slot : Slot} (hslot : Sized slot) (htype : Inline slot.type) :
    ∀ a ∈ touched slot, a.Sound := by
  intro a ha
  unfold touched at ha
  split at ha
  · cases ha
  · cases List.mem_singleton.mp ha
    have hsize : slot.buffer.size = (new_buffer slot.type).size := by
      unfold Sized at hslot
      split at hslot
      · exact absurd ‹_› htype.1
      · exact absurd ‹_› htype.2
      · exact hslot
    change 0 < slot.buffer.size
    rw [hsize]
    cases ht : slot.type with
    | MY_STR => exact absurd ht htype.1
    | MY_RAW => exact absurd ht htype.2
    | _ => decide

end Sized

section Reached

variable {srv : Server} {s : Obj MariaRow} {row : Row} {j : Nat} {slot : Slot}
  {v : Option SqlValue}

variable (srv) in
theorem value_cell_traces (hat : Current s row) (hslot : s.self.slots[j]? = some slot)
    (hsized : Sized slot) (htells : Tells slot v) (hrow : row[j]? = some v) :
    ∃ ws, Traces (Traced.value_cell srv j slot) (value_cell srv j slot) s ws ∧
      ((∀ a ∈ ws, a.Sound) ↔ ¬(slot.type = .MY_RAW ∧ v = some (.bytes []))) := by
  by_cases hinline : Inline slot.type
  · refine ⟨touched slot, value_cell_traces_inline srv j hinline, ?_⟩
    exact iff_of_true (touched_sound hsized hinline) fun h => hinline.2 h.1
  have htype : slot.type = .MY_STR ∨ slot.type = .MY_RAW := by
    unfold Inline at hinline
    tauto
  have hraw : ∃ old, slot.buffer = .raw old := by
    rcases htype with ht | ht
    · simpa only [Sized, ht] using hsized
    · simpa only [Sized, ht] using hsized
  obtain ⟨old, hold⟩ := hraw
  cases v with
  | none =>
      have hnull : slot.null = true := htells
      refine ⟨[], ?_, iff_of_true (fun a ha => by cases ha) fun h => by cases h.2⟩
      unfold Traced.value_cell value_cell
      rcases htype with ht | ht
      · rw [ht]
        exact (value_string_traces_null srv hslot hnull).map _
      · rw [ht]
        exact (value_raw_traces_null srv hslot hnull).map _
  | some v =>
      obtain ⟨hnull, hvalue⟩ := htells
      have hbytes : ∃ b, v = .bytes b ∧ slot.length = b.length := by
        rcases htype with ht | ht
        · cases v <;> simp only [ht] at hvalue
          exact ⟨_, rfl, hvalue⟩
        · cases v <;> simp only [ht] at hvalue
          exact ⟨_, rfl, hvalue⟩
      obtain ⟨b, rfl, hlen⟩ := hbytes
      unfold Traced.value_cell value_cell
      rcases htype with ht | ht
      · obtain ⟨ws, hws, hsound⟩ := value_string_traces srv hat hslot hnull hlen hold hrow
        rw [ht]
        exact ⟨ws, hws.map _, iff_of_true hsound fun h => by cases h.1⟩
      · obtain ⟨ws, hws, hsound⟩ := value_raw_traces srv hat hslot hnull hlen hold hrow
        rw [ht]
        refine ⟨ws, hws.map _, hsound.trans ?_⟩
        simp

-- Everything that is touched is there, unless the address of the first byte of an empty blob
-- is taken.
theorem accesses_sound_iff {k : Nat} {types : List MariaFieldType}
    (hs : Reached srv k types Formed (some row) s) {type : MariaFieldType}
    (htype : types[j]? = some type) (hv : row[j]? = some v) (x : Column) (i : Nat) :
    (∀ a ∈ record (Traced.set_list_value srv x i j) s, a.Sound) ↔
      ¬(type = .MY_RAW ∧ v = some (.bytes [])) := by
  obtain ⟨slot, hslot, rfl, hsized, htells, hat⟩ := hs.slot sized_tracks htype hv
  obtain ⟨ws, hws, hsound⟩ := value_cell_traces srv hat hslot hsized htells hv
  have htraces : Traces (Traced.set_list_value srv x i j) (set_list_value srv x i j) s ws :=
    Traces.get_bind (Traces.liftM_bind (index_eq_ok hslot)
      (hws.bind_silent fun cell t => Traces.liftM _))
  rw [htraces.record]
  exact hsound

-- Nothing is touched of an empty string.
theorem accesses_sound_iff_empty_string : ∃ s : Obj MariaRow,
    Reached .agreeable 0 [.MY_STR] Formed (some [some (.bytes [])]) s ∧
      ((∀ a ∈ record (Traced.set_list_value .agreeable
          { type := .STRSXP, cells := [.str none] } 0 0) s, a.Sound) ↔
        ¬(MariaFieldType.MY_STR = .MY_RAW ∧ some (SqlValue.bytes []) = some (.bytes []))) := by
  have hs : Reached .agreeable 0 [.MY_STR] Formed (some [some (.bytes [])]) _ :=
    .fetch (.setup (s := executed [[some (.bytes [])]]) rfl) rfl (.cons trivial .nil) rfl (.inl rfl)
  have htype : [MariaFieldType.MY_STR][0]? = some .MY_STR := rfl
  have hv : [some (SqlValue.bytes [])][0]? = some (some (.bytes [])) := rfl
  exact ⟨_, hs, accesses_sound_iff hs htype hv _ 0⟩

theorem empty_blob_out_of_range : ∃ s : Obj MariaRow,
    Reached .agreeable 0 [.MY_RAW] Formed (some [some (.bytes [])]) s ∧
      ¬∀ a ∈ record (Traced.set_list_value .agreeable
        { type := .VECSXP, cells := [.raw none] } 0 0) s, a.Sound := by
  have hs : Reached .agreeable 0 [.MY_RAW] Formed (some [some (.bytes [])]) _ :=
    .fetch (.setup (s := executed [[some (.bytes [])]]) rfl) rfl (.cons trivial .nil) rfl (.inl rfl)
  refine ⟨_, hs, fun h => ?_⟩
  have hfirst : (0 : Nat) < 0 := h (.element 0 0) (by decide)
  exact Nat.lt_irrefl 0 hfirst

end Reached

end RMariaDB.MariaRow
