import RMariaDB.Libmysql.Binds
import RMariaDB.MariaRow.Decode

-- The buffers of a result over any sequence of fetched rows and delivered values.

namespace RMariaDB.MariaRow

open Program

section Receive

theorem length_receive (slots : List Slot) : ∀ (binds : List RESULT_BIND) (row : Row),
    (receive slots binds row).length = slots.length := by
  induction slots with
  | nil => exact fun _ _ => rfl
  | cons slot slots ih =>
      intro binds row
      cases binds with
      | nil => rfl
      | cons bind binds =>
          cases row with
          | nil => rfl
          | cons v row => exact congrArg Nat.succ (ih binds row)

theorem receive_getElem {slots : List Slot} {binds : List RESULT_BIND} {row : Row} {j : Nat}
    {slot : Slot} {bind : RESULT_BIND} {v : Option SqlValue} (hslot : slots[j]? = some slot)
    (hbind : binds[j]? = some bind) (hv : row[j]? = some v) :
    (receive slots binds row)[j]? = some (slot.receive bind v) := by
  induction slots generalizing binds row j with
  | nil => cases hslot
  | cons a slots ih =>
      cases binds with
      | nil => cases hbind
      | cons b binds =>
          cases row with
          | nil => cases hv
          | cons w row =>
              cases j with
              | zero =>
                  cases hslot
                  cases hbind
                  cases hv
                  rfl
              | succ j => exact ih hslot hbind hv

theorem forall₂_getElem {α β : Type} {R : α → β → Prop} {xs : List α} {ys : List β}
    (h : List.Forall₂ R xs ys) {j : Nat} {x : α} (hx : xs[j]? = some x) :
    ∃ y, ys[j]? = some y ∧ R x y := by
  obtain ⟨hj, rfl⟩ := List.getElem?_eq_some_iff.mp hx
  have hj' : j < ys.length := h.length_eq ▸ hj
  exact ⟨ys[j], List.getElem?_eq_getElem hj', h.get hj hj'⟩

end Receive

-- What is known of a slot whatever it has held, and of a slot and the value it holds: it is
-- true of a new slot and of one that has received a value of the right form, and a buffer
-- that is filled again does not change it.
structure Tracks (F : MariaFieldType → Option SqlValue → Prop) (I : Slot → Prop)
    (H : Slot → Option SqlValue → Prop) : Prop where
  fresh : ∀ type, I (new_slot type)
  received : ∀ slot v, I slot → F slot.type v →
    I (slot.receive (new_slot slot.type).binding v) ∧
      H (slot.receive (new_slot slot.type).binding v) v
  refilled : ∀ slot b n, slot.type = .MY_STR ∨ slot.type = .MY_RAW → I slot →
    I { slot with buffer := .raw b, binding.buffer_length := n } ∧
      ∀ v, H slot v → H { slot with buffer := .raw b, binding.buffer_length := n } v

section Reached

variable (srv : Server) (k : Nat) (types : List MariaFieldType)
  (F : MariaFieldType → Option SqlValue → Prop)

-- The states after setup(), with the row that was fetched last and not left behind.
inductive Reached : Option Row → Obj MariaRow → Prop
  | setup {s t : Obj MariaRow} (h : (setup srv (some k) types).run s = .ok () t) :
      Reached none t
  | fetch {current : Option Row} {s t : Obj MariaRow} {row : Row} {rows : List Row}
      {result : FetchResult} (hs : Reached current s)
      (hreading : s.mysql.reading = some (k, row :: rows)) (hrow : List.Forall₂ F types row)
      (h : (stmt_fetch srv (some k)).run s = .ok result t)
      (hresult : result = .ok ∨ result = .MYSQL_DATA_TRUNCATED) : Reached (some row) t
  | finished {current : Option Row} {s t : Obj MariaRow} {result : FetchResult}
      (hs : Reached current s) (h : (stmt_fetch srv (some k)).run s = .ok result t)
      (hresult : ¬(result = .ok ∨ result = .MYSQL_DATA_TRUNCATED)) : Reached none t
  -- the value may be refused
  | value {current : Option Row} {s t : Obj MariaRow} {x : Column} {i j : Nat}
      (hs : Reached current s) (h : after (set_list_value srv x i j) s = some t) :
      Reached current t
  -- what does not concern these buffers, such as the next execution of the statement
  | other {current : Option Row} {s t : Obj MariaRow} (hs : Reached current s)
      (hself : t.self = s.self) (hbinds : SameBinds s.mysql t.mysql) : Reached none t

end Reached

section Intact

variable {srv : Server} {k : Nat} {types : List MariaFieldType}
  {F : MariaFieldType → Option SqlValue → Prop} {I : Slot → Prop}
  {H : Slot → Option SqlValue → Prop} {current : Option Row} {j : Nat}

structure Good (I : Slot → Prop) (H : Slot → Option SqlValue → Prop) (current : Option Row)
    (j : Nat) (slot : Slot) : Prop where
  kept : I slot
  holds : ∀ row, current = some row → ∃ v, row[j]? = some v ∧ H slot v

-- The library still has the bind array of setup(), and the row.
def Bound (k : Nat) (types : List MariaFieldType) (current : Option Row) (m : MYSQL) : Prop :=
  ∃ st, m.stmts k = some st ∧ st.bind = types.map (fun type => (new_slot type).binding) ∧
    ∀ row, current = some row → st.row = row

structure Intact (k : Nat) (types : List MariaFieldType) (I : Slot → Prop)
    (H : Slot → Option SqlValue → Prop) (current : Option Row) (s : Obj MariaRow) : Prop where
  statement : s.self.pStatement_ = some k
  columns : s.self.slots.map Slot.type = types
  slots : ∀ j slot, s.self.slots[j]? = some slot → Good I H current j slot
  bound : Bound k types current s.mysql

theorem Intact.type {s : Obj MariaRow} (hs : Intact k types I H current s) {slot : Slot}
    (hslot : s.self.slots[j]? = some slot) : types[j]? = some slot.type := by
  rw [← hs.columns, List.getElem?_map, hslot]
  rfl

theorem fetch_column_bound (length : Nat) : Safe (Bound k types current) (fun _ => True)
    (mysql_stmt_fetch_column srv (some k) j length) := by
  rintro m ⟨st, hst, hbind, hrow⟩
  rw [mysql_stmt_fetch_column, run_bind_ok (deref_run hst)]
  cases hsrv : srv.fetch_column m.tick with
  | ok u =>
      have hbound : Bound k types current { m with tick := m.tick + 1 } := ⟨st, hst, hbind, hrow⟩
      simp only [EStateM.run_bind, count_call_run, hsrv]
      cases st.row[j]? with
      | none => exact hbound
      | some v =>
          cases v with
          | none => exact hbound
          | some v => cases v <;> exact hbound
  | error f =>
      simp only [EStateM.run_bind, count_call_run, hsrv, fail_stmt, put_stmt_run]
      exact ⟨_, Function.update_self .., hbind, hrow⟩

theorem stmt_error_bound : Safe (Bound k types current) (fun _ => True)
    (mysql_stmt_error (some k)) := by
  rintro m ⟨st, hst, hbind, hrow⟩
  rw [mysql_stmt_error, run_bind_ok (deref_run hst)]
  exact ⟨st, hst, hbind, hrow⟩

theorem Intact.lib {α : Type} {f : EStateM Exc MYSQL α}
    (hf : Safe (Bound k types current) (fun _ => True) f) :
    Safe (Intact k types I H current) (fun _ => True) (lib f) := by
  intro s hs
  have hcall := hf s.mysql hs.bound
  rw [lib_run]
  cases hrun : f.run s.mysql with
  | ok a m =>
      rw [hrun] at hcall
      exact ⟨hs.statement, hs.columns, hs.slots, hcall⟩
  | error e m =>
      rw [hrun] at hcall
      exact ⟨⟨hs.statement, hs.columns, hs.slots, hcall.1⟩, trivial⟩

-- A slot may be replaced by one that is as good.
theorem setSlot_intact {slot : Slot} (htype : types[j]? = some slot.type)
    (hgood : Good I H current j slot) :
    Safe (Intact k types I H current) (fun _ => True) (setSlot j slot) := by
  refine Safe.modify fun s hs => ⟨hs.statement, ?_, ?_, hs.bound⟩
  · obtain ⟨hj, heq⟩ := List.getElem?_eq_some_iff.mp htype
    rw [List.map_set, hs.columns, ← heq, List.set_getElem_self]
  · intro i slot' hslot'
    rw [List.getElem?_set] at hslot'
    split at hslot'
    · next hij =>
        subst hij
        split at hslot'
        · cases hslot'
          exact hgood
        · cases hslot'
    · exact hs.slots i slot' hslot'

theorem fetch_buffer_intact (hI : Tracks F I H)
    (htype : types[j]? = some .MY_STR ∨ types[j]? = some .MY_RAW) :
    Safe (Intact k types I H current) (fun _ => True) (fetch_buffer srv j) := by
  refine Safe.get_bind fun s hs => Safe.liftM_bind (fun slot hindex => ?_) fun _ _ => trivial
  have hslot := index_eq_ok_iff.mp hindex
  have hcolumn := hs.type hslot
  have hbytes : slot.type = .MY_STR ∨ slot.type = .MY_RAW := by
    rw [hcolumn, Option.some.injEq, Option.some.injEq] at htype
    exact htype
  obtain ⟨hkept, hholds⟩ := hs.slots j slot hslot
  have hgood (b : Bytes) (n : Nat) :
      Good I H current j { slot with buffer := .raw b, binding.buffer_length := n } := by
    obtain ⟨hrefilled, hsame⟩ := hI.refilled slot b n hbytes hkept
    refine ⟨hrefilled, fun row hrow => ?_⟩
    obtain ⟨v, hv, hslot⟩ := hholds row hrow
    exact ⟨v, hv, hsame v hslot⟩
  have hset (b : Bytes) (n : Nat) : Safe (Intact k types I H current) (fun _ => True)
      (setSlot j { slot with buffer := .raw b, binding.buffer_length := n }) :=
    setSlot_intact (by exact hcolumn) (hgood b n)
  rw [hs.statement]
  refine (hset _ slot.binding.buffer_length).bind fun _ => ?_
  refine Safe.ite (fun _ => Safe.pure _) fun _ => (hset _ slot.length).bind fun _ => ?_
  refine (Intact.lib (fetch_column_bound slot.length)).bind fun result => ?_
  cases result with
  | error _ => exact (Intact.lib stmt_error_bound).bind fun _ => Safe.throw trivial
  | ok bytes => exact (hset _ 0).bind fun _ => Safe.pure _

theorem value_string_intact (hI : Tracks F I H) (htype : types[j]? = some .MY_STR) :
    Safe (Intact k types I H current) (fun _ => True) (value_string srv j) := by
  refine Safe.get_bind fun s _ => Safe.liftM_bind (fun slot _ => ?_) fun _ _ => trivial
  refine Safe.ite (fun _ => Safe.pure _) fun _ => ?_
  refine (fetch_buffer_intact hI (.inl htype)).bind fun slot => ?_
  exact Safe.ite (fun _ => Safe.throw trivial) fun _ => Safe.pure _

theorem value_raw_intact (hI : Tracks F I H) (htype : types[j]? = some .MY_RAW) :
    Safe (Intact k types I H current) (fun _ => True) (value_raw srv j) := by
  refine Safe.get_bind fun s _ => Safe.liftM_bind (fun slot _ => ?_) fun _ _ => trivial
  refine Safe.ite (fun _ => Safe.pure _) fun _ => ?_
  refine (fetch_buffer_intact hI (.inr htype)).bind fun slot => ?_
  exact Safe.ite (fun _ => Safe.pure _) fun _ => Safe.throw trivial

theorem set_list_value_intact (hI : Tracks F I H) (x : Column) (i : Nat) :
    Safe (Intact k types I H current) (fun _ => True) (set_list_value srv x i j) := by
  refine Safe.get_bind fun s hs => Safe.liftM_bind (fun slot hindex => ?_) fun _ _ => trivial
  have htype := hs.type (index_eq_ok_iff.mp hindex)
  refine Safe.bind ?_ fun cell => Safe.liftM fun _ _ => trivial
  unfold value_cell
  cases hslot : slot.type with
  | MY_STR => exact (value_string_intact hI (hslot ▸ htype)).map _
  | MY_RAW => exact (value_raw_intact hI (hslot ▸ htype)).map _
  | _ => exact (Safe.liftM fun _ _ => trivial).map _

theorem stmt_fetch_row {s t : Obj MariaRow} {st : MYSQL_STMT} {row : Row} {rows : List Row}
    {result : FetchResult} (hst : s.mysql.stmts k = some st)
    (hreading : s.mysql.reading = some (k, row :: rows))
    (h : (stmt_fetch srv (some k)).run s = .ok result t)
    (hresult : result = .ok ∨ result = .MYSQL_DATA_TRUNCATED) :
    t.self = { s.self with slots := receive s.self.slots st.bind row } ∧
      t.mysql.stmts k = some { st with row := row } := by
  cases hsrv : srv.fetch s.mysql.tick with
  | ok u =>
      obtain ⟨_, hor, hfetch⟩ := mysql_stmt_fetch_run hst hreading hsrv
      have hderef : (deref (some k)).run { s.mysql with
          tick := s.mysql.tick + 1
          stmts := Function.update s.mysql.stmts k (some { st with row := row })
          reading := some (k, rows) } = .ok (k, { st with row := row }) _ :=
        deref_run (Function.update_self ..)
      rcases hor with rfl | rfl
      all_goals
        simp only [stmt_fetch, EStateM.run_bind, lib_run, hfetch, hderef] at h
        cases h
        exact ⟨rfl, Function.update_self ..⟩
  | error f =>
      have hfetch : ∃ m, (mysql_stmt_fetch srv (some k)).run s.mysql = .ok .error m :=
        ⟨_, by simp [mysql_stmt_fetch, deref_run hst, hreading, hsrv, fail_stmt]; rfl⟩
      obtain ⟨m, hfetch⟩ := hfetch
      simp only [stmt_fetch, EStateM.run_bind, lib_run, hfetch] at h
      cases h
      rcases hresult with hresult | hresult <;> cases hresult

-- Without a row the buffers stay as they are.
theorem stmt_fetch_no_row {s t : Obj MariaRow} {result : FetchResult}
    (h : (stmt_fetch srv (some k)).run s = .ok result t)
    (hresult : ¬(result = .ok ∨ result = .MYSQL_DATA_TRUNCATED)) :
    t.self = s.self ∧ SameBinds s.mysql t.mysql := by
  obtain ⟨result', u, hfetch, h⟩ := of_run_bind_ok h
  have hbinds := @mysql_stmt_fetch_binds srv (some k) s.mysql s.mysql (SameBinds.refl _)
  rw [lib_run] at hfetch
  split at hfetch
  · next hrun =>
      rw [hrun] at hbinds
      cases hfetch
      cases result' with
      | ok =>
          obtain ⟨_, _, _, h⟩ := of_run_bind_ok h
          obtain ⟨_, _, _, h⟩ := of_run_bind_ok h
          cases h
          exact absurd (.inl rfl) hresult
      | MYSQL_DATA_TRUNCATED =>
          obtain ⟨_, _, _, h⟩ := of_run_bind_ok h
          obtain ⟨_, _, _, h⟩ := of_run_bind_ok h
          cases h
          exact absurd (.inr rfl) hresult
      | _ =>
          cases h
          exact ⟨rfl, hbinds⟩
  · cases hfetch

theorem Bound.binds {m m' : MYSQL} (h : Bound k types current m) (hsame : SameBinds m m') :
    Bound k types none m' := by
  obtain ⟨st, hst, hbind, -⟩ := h
  obtain ⟨st', hst', hbind'⟩ := hsame.get hst
  exact ⟨st', hst', hbind'.trans hbind, fun row hrow => by cases hrow⟩

theorem Good.left {slot : Slot} (h : Good I H current j slot) : Good I H none j slot :=
  ⟨h.kept, fun row hrow => by cases hrow⟩

theorem setup_intact (hI : Tracks F I H) {s t : Obj MariaRow}
    (h : (setup srv (some k) types).run s = .ok () t) : Intact k types I H none t := by
  obtain ⟨hstatement, hslots, k', st, hk, hst, hbind⟩ := setup_ok h
  cases hk
  refine ⟨hstatement, ?_, fun j slot hslot => ?_, st, hst, hbind, fun row hrow => by cases hrow⟩
  · rw [hslots, List.map_map]
    exact List.map_id' types
  · rw [hslots, List.getElem?_map] at hslot
    obtain ⟨type, -, rfl⟩ := Option.map_eq_some_iff.mp hslot
    exact ⟨hI.fresh type, fun row hrow => by cases hrow⟩

theorem fetch_intact (hI : Tracks F I H) {s t : Obj MariaRow} {row : Row} {rows : List Row}
    {result : FetchResult} (hs : Intact k types I H current s)
    (hreading : s.mysql.reading = some (k, row :: rows)) (hrow : List.Forall₂ F types row)
    (h : (stmt_fetch srv (some k)).run s = .ok result t)
    (hresult : result = .ok ∨ result = .MYSQL_DATA_TRUNCATED) :
    Intact k types I H (some row) t := by
  obtain ⟨st, hst, hbind, -⟩ := hs.bound
  obtain ⟨hself, hst'⟩ := stmt_fetch_row hst hreading h hresult
  refine ⟨?_, ?_, fun j slot hslot => ?_, _, hst', hbind, fun row' hrow' => by cases hrow'; rfl⟩
  · rw [hself]
    exact hs.statement
  · rw [hself]
    exact (receive_types _ _ _).trans hs.columns
  · rw [hself] at hslot
    obtain ⟨old, hold⟩ : ∃ old, s.self.slots[j]? = some old := by
      have hj := (List.getElem?_eq_some_iff.mp hslot).1
      rw [length_receive] at hj
      exact ⟨_, List.getElem?_eq_getElem hj⟩
    have htype := hs.type hold
    obtain ⟨v, hv, hF⟩ := forall₂_getElem hrow htype
    have hbind' : st.bind[j]? = some (new_slot old.type).binding := by
      rw [hbind, List.getElem?_map, htype]
      rfl
    cases (receive_getElem hold hbind' hv).symm.trans hslot
    obtain ⟨hkept, hholds⟩ := hI.received old v (hs.slots j old hold).kept hF
    exact ⟨hkept, fun row' hrow' => by cases hrow'; exact ⟨v, hv, hholds⟩⟩

-- Whatever was fetched and delivered before, the slots are intact and hold the current row.
theorem Reached.intact (hI : Tracks F I H) {s : Obj MariaRow} (h : Reached srv k types F current s) :
    Intact k types I H current s := by
  induction h with
  | setup h => exact setup_intact hI h
  | fetch hs hreading hrow h hresult ih => exact fetch_intact hI ih hreading hrow h hresult
  | finished hs h hresult ih =>
      obtain ⟨hself, hbinds⟩ := stmt_fetch_no_row h hresult
      refine ⟨hself ▸ ih.statement, hself ▸ ih.columns, fun j slot hslot => ?_, ih.bound.binds hbinds⟩
      rw [hself] at hslot
      exact (ih.slots j slot hslot).left
  | @value current s t x i j hs h ih =>
      have hsafe : Safe (Intact k types I H current) (fun _ => True) (set_list_value srv x i j) :=
        set_list_value_intact hI x i
      have hsafe := hsafe s ih
      cases hrun : (set_list_value srv x i j).run s with
      | ok y u =>
          rw [hrun] at hsafe
          simp only [after, hrun, Option.some.injEq] at h
          rw [← h]
          exact hsafe
      | error e u =>
          rw [hrun] at hsafe
          rw [(after_error hrun h).2]
          exact hsafe.1
  | other hs hself hbinds ih =>
      refine ⟨hself ▸ ih.statement, hself ▸ ih.columns, fun j slot hslot => ?_, ih.bound.binds hbinds⟩
      rw [hself] at hslot
      exact (ih.slots j slot hslot).left

-- The slot of a column, in a state with a current row.
theorem Reached.slot (hI : Tracks F I H) {s : Obj MariaRow} {row : Row}
    (hs : Reached srv k types F (some row) s) {type : MariaFieldType} {v : Option SqlValue}
    (htype : types[j]? = some type) (hv : row[j]? = some v) :
    ∃ slot, s.self.slots[j]? = some slot ∧ slot.type = type ∧ I slot ∧ H slot v ∧
      Current s row := by
  have hintact := hs.intact hI
  obtain ⟨slot, hslot⟩ : ∃ slot, s.self.slots[j]? = some slot := by
    have hj := (List.getElem?_eq_some_iff.mp htype).1
    rw [← hintact.columns, List.length_map] at hj
    exact ⟨_, List.getElem?_eq_getElem hj⟩
  obtain ⟨hkept, hholds⟩ := hintact.slots j slot hslot
  obtain ⟨v', hv', hslot'⟩ := hholds row rfl
  cases hv'.symm.trans hv
  obtain ⟨st, hst, -, hrow⟩ := hintact.bound
  exact ⟨slot, hslot, Option.some.inj ((hintact.type hslot).symm.trans htype), hkept, hslot', k, st,
    hintact.statement, hst, hrow row rfl⟩

end Intact

section Values

-- The library copies no more than the row it was asked for, so neither the lengths of
-- earlier rows nor what they have left in a buffer can be seen.
theorem shaped_tracks : Tracks Fits Shaped Holds where
  fresh := new_slot_shaped
  received := fun _ _ hslot hv => receive_holds hslot hv
  refilled := fun _ b n htype hslot =>
    ⟨(keeps_fetched b n htype).shaped hslot, (keeps_fetched b n htype).holds⟩

variable {srv : Server} {k : Nat} {types : List MariaFieldType}

-- What is delivered for a value is what its type makes of it, whatever was fetched and
-- delivered before.
theorem set_list_value_reached {row : Row} {s : Obj MariaRow}
    (hs : Reached srv k types Fits (some row) s) {i j : Nat} {type : MariaFieldType}
    {v : Option SqlValue} {x : Column} (htype : types[j]? = some type) (hv : row[j]? = some v)
    (hx : x.type = type_sexp type) (hi : i < x.cells.length) :
    Comes srv s ((set_list_value srv x i j).run s)
      ((fun cell => { x with cells := x.cells.set i cell }) <$> cell_of type v) := by
  obtain ⟨slot, hslot, rfl, hshape, hholds, hat⟩ := hs.slot shaped_tracks htype hv
  exact set_list_value_outcome srv hat hslot hshape hholds hv hx hi

-- A statement whose result set is about to be read.
def executed (rows : List Row) : Obj MariaRow where
  mysql := { stmts := Function.update (fun _ => none) 0 (some {}), reading := some (0, rows) }
  self := {}

-- An empty string after a longer one that was delivered.
theorem set_list_value_reached_shorter : ∃ s : Obj MariaRow,
    Reached .agreeable 0 [.MY_STR, .MY_LGL] Fits (some [some (.bytes []), none]) s ∧
      Comes .agreeable s
        ((set_list_value .agreeable { type := .STRSXP, cells := [.str none] } 0 0).run s)
        (.ok { type := .STRSXP, cells := [.str (some [])] }) := by
  have hs : Reached .agreeable 0 [.MY_STR, .MY_LGL] Fits (some [some (.bytes []), none]) _ :=
    .fetch (.value (x := { type := .STRSXP, cells := [.str none] }) (i := 0) (j := 0)
      (.fetch (.setup (s := executed [[some (.bytes [97, 98]), some (.bytes [1])],
          [some (.bytes []), none]]) rfl) rfl (.cons trivial (.cons rfl .nil)) rfl (.inr rfl)) rfl)
      rfl (.cons trivial (.cons trivial .nil)) rfl (.inl rfl)
  have htype : [MariaFieldType.MY_STR, .MY_LGL][0]? = some .MY_STR := rfl
  have hv : [some (SqlValue.bytes []), none][0]? = some (some (.bytes [])) := rfl
  exact ⟨_, hs, set_list_value_reached (x := { type := .STRSXP, cells := [.str none] }) (i := 0) hs
    htype hv rfl (by decide)⟩

end Values

end RMariaDB.MariaRow
