import Mathlib.Data.List.Forall2
import Mathlib.Data.List.ReduceOption
import RMariaDB.MariaUtils

-- The rows of a data frame, and what resizing it does to them.

namespace RMariaDB

def DataFrame.row (df : DataFrame) (i : Nat) : List Cell :=
  (df.columns.map fun x => x.cells[i]?).reduceOption

def DataFrame.rows (df : DataFrame) : List (List Cell) := (List.range df.nrow.toNat).map df.row

-- A frame with room for n rows, of which the first ones have been written.
structure Filled (types : List MariaFieldType) (df : DataFrame) (n : Nat) (rows : List (List Cell)) :
    Prop where
  row_names : df.row_names = -n
  types : df.columns.map Column.type = types.map type_sexp
  room : ∀ x ∈ df.columns, x.cells.length = n
  fits : rows.length ≤ n
  cells : ∀ (i : Nat) (row : List Cell), rows[i]? = some row →
    (df.columns.map fun x => x.cells[i]?) = row.map some

variable {types : List MariaFieldType} {df : DataFrame} {n : Nat} {rows : List (List Cell)}

theorem filled_create (types : List MariaFieldType) (names : List String) (n : Nat) :
    Filled types (df_create types names n) n [] := by
  refine ⟨rfl, ?_, ?_, Nat.zero_le _, ?_⟩
  · simp [df_create, allocVector]
  · simp [df_create, allocVector]
  · intro i row h
    cases h

-- Rows that are read back are the rows that were written.
theorem Filled.rows_eq (h : Filled types df rows.length rows) : df.rows = rows := by
  have hnrow : df.nrow.toNat = rows.length := by
    rw [DataFrame.nrow, h.row_names]
    omega
  rw [DataFrame.rows, hnrow]
  apply List.ext_getElem?
  intro i
  by_cases hi : i < rows.length
  · have hrow := h.cells i rows[i] (List.getElem?_eq_getElem hi)
    simp only [List.getElem?_map, List.getElem?_range hi, Option.map_some, DataFrame.row, hrow,
      List.getElem?_eq_getElem hi]
    rw [List.reduceOption, List.filterMap_map]
    simp
  · simp [Nat.le_of_not_lt hi]

theorem getElem?_lengthgets {x : Column} {m i : Nat} (hm : i < m) (hi : i < x.cells.length) :
    (lengthgets x m).cells[i]? = x.cells[i]? := by
  have hlt : i < (x.cells.take m).length := by
    rw [List.length_take]
    omega
  rw [lengthgets, List.getElem?_append_left hlt, List.getElem?_take, if_pos hm]

-- No row is lost while there is room for all of them.
theorem Filled.resize (h : Filled types df n rows) {m : Nat} (hm : rows.length ≤ m) :
    Filled types (df_resize df m) m rows := by
  refine ⟨rfl, ?_, ?_, hm, ?_⟩
  · rw [← h.types, df_resize, List.map_map]
    rfl
  · intro x hx
    obtain ⟨y, _, rfl⟩ := List.mem_map.mp hx
    simp only [lengthgets, List.length_append, List.length_take, List.length_replicate]
    omega
  · intro i row hrow
    have hi : i < rows.length := (List.getElem?_eq_some_iff.mp hrow).1
    rw [← h.cells i row hrow, df_resize, List.map_map]
    apply List.map_congr_left
    intro x hx
    have hroom : i < x.cells.length := by
      rw [h.room x hx]
      have := h.fits
      omega
    exact getElem?_lengthgets (by omega) hroom

def put_cell (i : Nat) (x : Column) (cell : Cell) : Column := { x with cells := x.cells.set i cell }

theorem map_zipWith_left {α β γ : Type} (f : α → β → α) (g : α → γ) (xs : List α)
    (hfg : ∀ x ∈ xs, ∀ y, g (f x y) = g x) :
    ∀ {ys : List β}, xs.length = ys.length → (xs.zipWith f ys).map g = xs.map g := by
  induction xs with
  | nil =>
      intro ys _
      rfl
  | cons x xs ih =>
      intro ys hlen
      obtain ⟨y, ys, rfl⟩ := List.exists_cons_of_length_eq_add_one hlen.symm
      rw [List.zipWith_cons_cons, List.map_cons, List.map_cons, hfg x (List.mem_cons_self ..),
        ih (fun x hx => hfg x (List.mem_cons_of_mem _ hx)) (Nat.succ.inj hlen)]

theorem map_put_cell {i : Nat} (columns : List Column) (hroom : ∀ x ∈ columns, i < x.cells.length) :
    ∀ {row : List Cell}, columns.length = row.length →
      ((columns.zipWith (put_cell i) row).map fun x => x.cells[i]?) = row.map some := by
  induction columns with
  | nil =>
      intro row hlen
      obtain rfl := List.length_eq_zero_iff.mp hlen.symm
      rfl
  | cons x columns ih =>
      intro row hlen
      obtain ⟨cell, row, rfl⟩ := List.exists_cons_of_length_eq_add_one hlen.symm
      have hput : (put_cell i x cell).cells[i]? = some cell :=
        List.getElem?_set_self (hroom x (List.mem_cons_self ..))
      rw [List.zipWith_cons_cons, List.map_cons, List.map_cons, hput,
        ih (fun x hx => hroom x (List.mem_cons_of_mem _ hx)) (Nat.succ.inj hlen)]

theorem Filled.columns_length (h : Filled types df n rows) : df.columns.length = types.length := by
  simpa using congrArg List.length h.types

-- The next row is written.
theorem Filled.put (h : Filled types df n rows) {row : List Cell} (hn : rows.length < n)
    (hrow : df.columns.length = row.length) : Filled types
      { df with columns := df.columns.zipWith (put_cell rows.length) row } n (rows ++ [row]) := by
  refine ⟨h.row_names, ?_, ?_, by simpa using Nat.succ_le_of_lt hn, ?_⟩
  · rw [← h.types]
    exact map_zipWith_left (put_cell _) Column.type _ (fun _ _ _ => rfl) hrow
  · have hlengths : (df.columns.zipWith (put_cell rows.length) row).map (fun x => x.cells.length) =
        df.columns.map fun x => x.cells.length :=
      map_zipWith_left (put_cell _) _ _ (fun _ _ _ => List.length_set) hrow
    intro x hx
    have hmem := List.mem_map_of_mem (f := fun x : Column => x.cells.length) hx
    rw [hlengths] at hmem
    obtain ⟨y, hy, hlen⟩ := List.mem_map.mp hmem
    rw [← h.room y hy]
    exact hlen.symm
  · intro i row' hrow'
    rcases Nat.lt_trichotomy i rows.length with hi | rfl | hi
    · rw [List.getElem?_append_left hi] at hrow'
      rw [← h.cells i row' hrow']
      exact map_zipWith_left (put_cell _) _ _
        (fun _ _ _ => List.getElem?_set_ne (Nat.ne_of_gt hi)) hrow
    · rw [List.getElem?_concat_length, Option.some.injEq] at hrow'
      rw [← hrow']
      exact map_put_cell _ (fun x hx => by rw [h.room x hx]; exact hn) hrow
    · rw [List.getElem?_eq_none (by rw [List.length_append, List.length_singleton]; omega)] at hrow'
      cases hrow'

theorem s3_class_cells (x : Column) (type : MariaFieldType) : (s3_class x type).cells = x.cells := by
  cases type <;> rfl

theorem s3_class_type (x : Column) (type : MariaFieldType) : (s3_class x type).type = x.type := by
  cases type <;> rfl

-- Attributes are no part of the rows.
theorem Filled.s3 (h : Filled types df n rows) : Filled types (df_s3 df types) n rows := by
  have hcells : ∀ i : Nat, ((df.columns.zipWith s3_class types).map fun x => x.cells[i]?) =
      df.columns.map fun x => x.cells[i]? := fun i =>
    map_zipWith_left s3_class _ _ (fun x _ type => by rw [s3_class_cells]) h.columns_length
  refine ⟨h.row_names, ?_, ?_, h.fits, ?_⟩
  · rw [← h.types]
    exact map_zipWith_left s3_class _ _ (fun x _ type => s3_class_type x type) h.columns_length
  · intro x hx
    obtain ⟨j, hj⟩ := List.mem_iff_getElem?.mp hx
    rw [df_s3, List.getElem?_zipWith] at hj
    split at hj
    · rename_i y type hy _
      cases hj
      rw [s3_class_cells]
      exact h.room y (List.mem_of_getElem? hy)
    · cases hj
  · intro i row hrow
    rw [← h.cells i row hrow]
    exact hcells i

end RMariaDB
