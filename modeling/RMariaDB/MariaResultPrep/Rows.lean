import RMariaDB.MariaResultPrep
import RMariaDB.MariaRow.Decode
import RMariaDB.MariaUtils.Frames

-- One row on its way from the server into the columns of the data frame.

namespace RMariaDB.MariaResultPrep

open Program MariaRow

variable {srv : Server}

-- An open statement whose output buffers are bound for the types of the columns.
structure OutputBound (s : Obj MariaResultPrep) (k : Nat) (st : MYSQL_STMT) : Prop where
  statement : s.self.pStatement_ = some k
  stmt : s.mysql.stmts k = some st
  binds : st.bind = s.self.types_.map fun type => (new_slot type).binding
  output : s.self.bindingOutput_.pStatement_ = some k
  types : s.self.bindingOutput_.slots.map Slot.type = s.self.types_
  shaped : ∀ slot ∈ s.self.bindingOutput_.slots, Shaped slot

-- A row in the form of its columns.
def RowFits (types : List MariaFieldType) (row : Row) : Prop := List.Forall₂ Fits types row

-- Every slot holds its value of the row.
def HoldsRow (slots : List Slot) (row : Row) : Prop :=
  List.Forall₂ (fun slot v => Shaped slot ∧ Holds slot v) slots row

theorem receive_row {slots : List Slot} {row : Row} (hshaped : ∀ slot ∈ slots, Shaped slot)
    (hrow : RowFits (slots.map Slot.type) row) :
    HoldsRow (receive slots ((slots.map Slot.type).map fun type => (new_slot type).binding) row) row ∧
      (receive slots ((slots.map Slot.type).map fun type => (new_slot type).binding) row).map
        Slot.type = slots.map Slot.type := by
  induction slots generalizing row with
  | nil =>
      cases hrow
      exact ⟨.nil, rfl⟩
  | cons slot slots ih =>
      rw [List.map_cons] at hrow
      obtain ⟨v, rest, hv, hrest, rfl⟩ := List.forall₂_cons_left_iff.mp hrow
      obtain ⟨hholds, htypes⟩ := ih (fun a ha => hshaped a (List.mem_cons_of_mem _ ha)) hrest
      have hslot := receive_holds (hshaped slot (List.mem_cons_self ..)) hv
      refine ⟨.cons hslot hholds, ?_⟩
      simp only [List.map_cons, receive, receive_type, htypes]

theorem HoldsRow.shaped {slots : List Slot} {row : Row} (h : HoldsRow slots row) :
    ∀ slot ∈ slots, Shaped slot := by
  induction h with
  | nil => simp
  | cons hslot _ ih =>
      intro slot hmem
      rcases List.mem_cons.mp hmem with rfl | hmem
      · exact hslot.1
      · exact ih slot hmem

theorem HoldsRow.get {slots : List Slot} {row : Row} (h : HoldsRow slots row) {j : Nat}
    {v : Option SqlValue} (hv : row[j]? = some v) :
    ∃ slot, slots[j]? = some slot ∧ Shaped slot ∧ Holds slot v := by
  induction h generalizing j with
  | nil => simp at hv
  | cons hslot _ ih =>
      cases j with
      | zero =>
          rw [List.getElem?_cons_zero, Option.some.injEq] at hv
          subst hv
          exact ⟨_, rfl, hslot⟩
      | succ j => exact ih hv

-- The state after a row has been received.
def received (s : Obj MariaResultPrep) (k : Nat) (st : MYSQL_STMT) (row : Row) (rows : List Row) :
    Obj MariaResultPrep :=
  { s with
    mysql := { s.mysql with
      tick := s.mysql.tick + 1
      stmts := Function.update s.mysql.stmts k (some { st with row := row })
      reading := some (k, rows) }
    self.bindingOutput_.slots := receive s.self.bindingOutput_.slots st.bind row }

theorem fetch_row_run {s : Obj MariaResultPrep} {k : Nat} {st : MYSQL_STMT} {row : Row}
    {rows : List Row} (hs : OutputBound s k st) (hcomplete : s.self.complete_ = false)
    (hreading : s.mysql.reading = some (k, row :: rows))
    (hsrv : srv.fetch s.mysql.tick = .ok ()) :
    (fetch_row srv).run s = .ok true (received s k st row rows) := by
  obtain ⟨result, hresult, hfetch⟩ := mysql_stmt_fetch_run hs.stmt hreading hsrv
  have hderef : (deref (some k)).run { s.mysql with
      tick := s.mysql.tick + 1
      stmts := Function.update s.mysql.stmts k (some { st with row := row })
      reading := some (k, rows) } = .ok (k, { st with row := row }) _ :=
    deref_run (Function.update_self ..)
  rcases hresult with rfl | rfl
  · simp [fetch_row, hcomplete, hs.statement, output, stmt_fetch, hfetch, hderef, received]
  · simp [fetch_row, hcomplete, hs.statement, output, stmt_fetch, hfetch, hderef, received]

theorem received_bound {s : Obj MariaResultPrep} {k : Nat} {st : MYSQL_STMT} {row : Row}
    (rows : List Row) (hs : OutputBound s k st) (hrow : RowFits s.self.types_ row) :
    OutputBound (received s k st row rows) k { st with row := row } ∧
      HoldsRow (received s k st row rows).self.bindingOutput_.slots row := by
  obtain ⟨hstatement, hstmt, hbinds, houtput, htypes, hshaped⟩ := hs
  rw [← htypes] at hrow hbinds
  obtain ⟨hholds, hkept⟩ := receive_row hshaped hrow
  rw [← hbinds] at hholds hkept
  refine ⟨⟨hstatement, Function.update_self .., ?_, houtput, ?_, hholds.shaped⟩, hholds⟩
  · rw [hbinds, htypes]
    rfl
  · exact hkept.trans htypes

section Values

-- What R gets of a row.
def row_cells (types : List MariaFieldType) (row : Row) : Except Exc (List Cell) :=
  (types.zip row).mapM fun c => cell_of c.1 c.2

-- Reading the values of a row moves nothing but the clock and the output buffers.
structure ReadValues (s t : Obj MariaResultPrep) : Prop where
  read : Read ⟨s.toShared, s.self.bindingOutput_⟩ ⟨t.toShared, t.self.bindingOutput_⟩
  self : t.self = { s.self with bindingOutput_ := t.self.bindingOutput_ }

theorem ReadValues.refl (s : Obj MariaResultPrep) : ReadValues s s := ⟨Read.refl _, rfl⟩

theorem ReadValues.trans {s t u : Obj MariaResultPrep} (h : ReadValues s t) (h' : ReadValues t u) :
    ReadValues s u := ⟨h.read.trans h'.read, by rw [h'.self, h.self]⟩

-- The row has been received and none has been received since.
structure AtRow (srv : Server) (s : Obj MariaResultPrep) (row : Row) : Prop where
  current : At srv ⟨s.toShared, s.self.bindingOutput_⟩ row
  types : s.self.bindingOutput_.slots.map Slot.type = s.self.types_
  holds : HoldsRow s.self.bindingOutput_.slots row

theorem HoldsRow.keeps {slots : List Slot} {row : Row} (h : HoldsRow slots row) :
    ∀ {slots' : List Slot}, List.Forall₂ Keeps slots slots' → HoldsRow slots' row := by
  induction h with
  | nil =>
      intro slots' hkeeps
      cases hkeeps
      exact .nil
  | cons hslot _ ih =>
      intro slots' hkeeps
      obtain ⟨slot', rest, hslot', hrest, rfl⟩ := List.forall₂_cons_left_iff.mp hkeeps
      exact .cons ⟨hslot'.shaped hslot.1, hslot'.holds _ hslot.2⟩ (ih hrest)

theorem AtRow.read {s t : Obj MariaResultPrep} {row : Row} (h : AtRow srv s row)
    (hread : ReadValues s t) : AtRow srv t row := by
  refine ⟨h.current.read hread.read, ?_, h.holds.keeps hread.read.slots⟩
  rw [hread.self]
  exact (types_of_keeps hread.read.slots).trans h.types

theorem AtRow.length {s : Obj MariaResultPrep} {row : Row} (h : AtRow srv s row) :
    row.length = s.self.types_.length := by
  rw [← h.types, List.length_map, h.holds.length_eq]

theorem AtRow.slot {s : Obj MariaResultPrep} {row : Row} (h : AtRow srv s row) {j : Nat}
    {type : MariaFieldType} {v : Option SqlValue} (htype : s.self.types_[j]? = some type)
    (hv : row[j]? = some v) : ∃ slot, s.self.bindingOutput_.slots[j]? = some slot ∧
      slot.type = type ∧ Shaped slot ∧ Holds slot v := by
  obtain ⟨slot, hslot, hholds⟩ := h.holds.get hv
  refine ⟨slot, hslot, ?_, hholds⟩
  rw [← h.types, List.getElem?_map, hslot, Option.map_some, Option.some.injEq] at htype
  exact htype

-- One call of set_list_value(), for a column that has the type of the result's column.
theorem set_list_value_at {s : Obj MariaResultPrep} {row : Row} (hrow : AtRow srv s row)
    {cols : List Column} (htypes : cols.map Column.type = s.self.types_.map type_sexp) {j : Nat}
    {x : Column} (hx : cols[j]? = some x) {i : Nat} (hi : i < x.cells.length) :
    ∃ c t, (s.self.types_.zip row)[j]? = some c ∧ ReadValues s t ∧
      (output (set_list_value srv x i j)).run s = match cell_of c.1 c.2 with
        | .ok cell => .ok (put_cell i x cell) t
        | .error e => .error e t := by
  have hxtype := congrArg (·[j]?) htypes
  simp only [List.getElem?_map, hx, Option.map_some] at hxtype
  obtain ⟨type, htype, hxtype⟩ := Option.map_eq_some_iff.mp hxtype.symm
  have hj : j < row.length := by
    rw [hrow.length]
    exact (List.getElem?_eq_some_iff.mp htype).1
  have hv := List.getElem?_eq_getElem hj
  obtain ⟨slot, hslot, rfl, hshaped, hholds⟩ := hrow.slot htype hv
  obtain ⟨t, hread, hrun⟩ := set_list_value_run hrow.current hslot hshaped hholds hv hxtype.symm hi
  refine ⟨(slot.type, row[j]), ⟨t.toShared, { s.self with bindingOutput_ := t.self }⟩,
    List.getElem?_zip_eq_some.mpr ⟨htype, hv⟩, ⟨hread, rfl⟩, ?_⟩
  cases hcell : cell_of slot.type row[j] with
  | ok cell =>
      rw [hcell] at hrun
      simp [output, hrun, put_cell]
  | error e =>
      rw [hcell] at hrun
      simp [output, hrun]

theorem columns_put {cols done todo : List Column} {x : Column} (h : cols = done ++ x :: todo)
    (i : Nat) (cell : Cell) : cols.set done.length (put_cell i x cell) =
      (done ++ [put_cell i x cell]) ++ todo := by
  rw [h, List.set_append_right _ _ (Nat.le_refl _), Nat.sub_self, List.set_cons_zero,
    List.append_assoc, List.singleton_append]

theorem types_put {cols done todo : List Column} {x : Column} (h : cols = done ++ x :: todo)
    (i : Nat) (cell : Cell) :
    (cols.set done.length (put_cell i x cell)).map Column.type = cols.map Column.type := by
  rw [columns_put h, h, List.map_append, List.map_append, List.map_append]
  simp [put_cell]

-- The columns before position `done.length` have their value.
theorem set_list_values_run {row : Row} {i : Nat} (todo : List Column) :
    ∀ {s : Obj MariaResultPrep} {done : List Column} (out : DataFrame), AtRow srv s row →
      out.columns = done ++ todo → out.columns.map Column.type = s.self.types_.map type_sexp →
      (∀ x ∈ todo, i < x.cells.length) →
      ∃ t, ReadValues s t ∧
        (set_list_values srv i (List.range' done.length todo.length) out).run s =
          match ((s.self.types_.zip row).drop done.length).mapM (fun c => cell_of c.1 c.2) with
          | .ok cells => .ok { out with columns := done ++ todo.zipWith (put_cell i) cells } t
          | .error e => .error e t := by
  induction todo with
  | nil =>
      intro s done out hrow hout htypes _
      have hlen : (s.self.types_.zip row).length ≤ done.length := by
        have := congrArg List.length htypes
        simp only [hout, List.append_nil, List.length_map] at this
        rw [List.length_zip, this]
        exact Nat.min_le_left _ _
      refine ⟨s, ReadValues.refl s, ?_⟩
      rw [List.drop_eq_nil_of_le hlen, List.mapM_nil]
      simp [set_list_values, ← hout]
  | cons x todo ih =>
      intro s done out hrow hout htypes hroom
      have hx : out.columns[done.length]? = some x := by
        rw [hout, List.getElem?_append_right (Nat.le_refl _), Nat.sub_self, List.getElem?_cons_zero]
      obtain ⟨c, t, hc, hread, hvalue⟩ :=
        set_list_value_at hrow htypes hx (hroom x (List.mem_cons_self ..))
      have hindex : (liftM (index out.columns done.length) :
          EStateM Exc (Obj MariaResultPrep) Column).run s = .ok x s := by
        rw [run_liftM, index_eq_ok hx]
      obtain ⟨hlt, hc⟩ := List.getElem?_eq_some_iff.mp hc
      rw [List.drop_eq_getElem_cons hlt, hc, List.mapM_cons, List.length_cons, List.range'_succ,
        set_list_values, run_bind_ok hindex]
      cases hcell : cell_of c.1 c.2 with
      | error e =>
          rw [hcell] at hvalue
          exact ⟨t, hread, run_bind_error hvalue⟩
      | ok cell =>
          rw [hcell] at hvalue
          have hsame : t.self.types_ = s.self.types_ := by rw [hread.self]
          obtain ⟨u, hread', hrest⟩ := ih
            { out with columns := out.columns.set done.length (put_cell i x cell) }
            (hrow.read hread) (columns_put hout i cell)
            ((types_put hout i cell).trans (hsame ▸ htypes))
            (fun y hy => hroom y (List.mem_cons_of_mem _ hy))
          refine ⟨u, hread.trans hread', ?_⟩
          rw [List.length_append, List.length_singleton, hsame] at hrest
          rw [run_bind_ok hvalue, hrest]
          cases ((s.self.types_.zip row).drop (done.length + 1)).mapM
              (fun c => cell_of c.1 c.2) with
          | ok cells => simp
          | error e => rfl

end Values

end RMariaDB.MariaResultPrep
