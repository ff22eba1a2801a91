import RMariaDB.WriteTable

-- The steps of these functions that decide on no transaction.

namespace RMariaDB.WriteTable

open Program

variable {σ α β : Type} {P : σ → Prop} {E : Exc → σ → Prop}

section Plain

theorem only_cell_plain (df : DataFrame) : Plain (only_cell df) := by
  unfold only_cell
  split
  · exact Plain.stop _
  · split
    · exact Plain.ok _
    · exact Plain.stop _
    · exact Plain.stop _

theorem as_number_plain (cell : Cell) : Plain (as_number cell) := by
  unfold as_number
  split
  · exact Plain.ok _
  · exact Plain.ok _
  · exact Plain.ok _
  · exact Plain.ok _
  · exact Plain.stop _

theorem minus_plain (x y : Cell) : Plain (minus x y) := by
  unfold minus
  split
  · exact Plain.ok _
  · exact Plain.ok _
  · apply (as_number_plain _).bind
    intro a
    apply (as_number_plain _).bind
    intro b
    split <;> exact Plain.ok _

theorem less_plain (x : Double) (n : Nat) : Plain (less x n) := by
  unfold less
  split
  · exact Plain.ok _
  · exact Plain.ok _
  · exact Plain.ok _
  · exact Plain.stop _
  · exact Plain.stop _

theorem is_zero_plain (x : Double) : Plain (is_zero x) := by
  unfold is_zero
  split
  · exact Plain.ok _
  · exact Plain.ok _
  · exact Plain.ok _
  · exact Plain.stop _
  · exact Plain.stop _

theorem data_file_plain (lib : RLibrary) (timezone : String) (value : RFrame) :
    Plain (Table.data_file lib timezone value) := by
  have hquote (x : RVector) : Plain (Table.csv_quote_one lib timezone x) := by
    unfold Table.csv_quote_one
    generalize Table.without_AsIs x = x
    dsimp only
    split
    · exact Plain.ok _
    split
    · exact Plain.ok _
    · exact Plain.ok _
    apply Plain.ite
    · split <;> exact Plain.ok _
    apply Plain.ite (Plain.ok _)
    split
    · exact Plain.ok _
    apply Plain.ite (Plain.ok _)
    apply Plain.ite (Plain.ok _)
    apply Plain.ite (Plain.ok _)
    apply Plain.ite
    · split <;> exact Plain.ok _
    · exact Plain.stop _
  apply Plain.bind
  · apply (Plain.mapM fun x _ => hquote x).bind
    exact fun _ => Plain.ok _
  · exact fun _ => Plain.ok _

theorem combined_field_types_plain (field_types : Option (List (Text × Text))) (value : RFrame) :
    Plain (combined_field_types field_types value) := by
  have htype (x : RVector) : Plain (dbDataType x) := by
    unfold dbDataType
    apply Plain.ite (Plain.ok _)
    apply Plain.ite (Plain.ok _)
    apply Plain.ite (Plain.ok _)
    apply Plain.ite (Plain.ok _)
    apply Plain.ite (Plain.ok _)
    split
    · exact Plain.ok _
    · exact Plain.ok _
    · exact Plain.ok _
    · exact Plain.ok _
    · exact Plain.ok _
    · exact Plain.ok _
    · exact Plain.stop _
  unfold combined_field_types
  split
  · exact Plain.mapM fun x _ => htype x
  · apply Plain.ite
    · apply Plain.mapM
      rintro ⟨x, k⟩ _
      dsimp only
      split
      · exact Plain.ok _
      · exact htype x
    · exact Plain.stop _

end Plain

-- dbWriteTable() in parts: what is done to the table, and the rows that are appended to it.
def append_rows (d : Driver σ) (lib : RLibrary) (conn : MariaDBConnection) (name : Text)
    (value : RFrame) : EStateM Exc σ Double :=
  if conn.load_data_local_infile then
    db_append_table d lib conn name value false true false
  else
    dbAppendTable d lib conn name value true

def prepare_table (d : Driver σ) (name : Text) (value : RFrame) (flags : Flags) :
    EStateM Exc σ Unit := do
  let found ← find_table d name flags
  (if flags.overwrite then
      dbRemoveTable d name flags.temporary false
    else
      pure ())
  if !found || flags.overwrite then do
    let types ← combined_field_types flags.field_types (strings_frame value)
    dbCreateTable d name ((strings_frame value).names.zip types) flags.temporary
  else
    pure ()

theorem write_rows_eq (d : Driver σ) (lib : RLibrary) (conn : MariaDBConnection) (name : Text)
    (value : RFrame) (flags : Flags) (need_transaction : Bool) :
    write_rows d lib conn name value flags need_transaction = (do
      prepare_table d name value flags
      insert_rows d lib conn name (strings_frame value) need_transaction) := by
  simp only [write_rows, prepare_table, bind_assoc]

-- What the steps keep, and how they fail: whatever is raised while `P` holds may be caught again.
structure Holds (d : Driver σ) (P : σ → Prop) (E : Exc → σ → Prop) : Prop where
  raised : ∀ e s, e ≠ .outOfFuel → P s → E e s
  caught : ∀ e s, e.Ends = false → E e s → P s
  dbIsValid : Spec P d.dbIsValid (fun _ => P) E
  dbExecute : ∀ statement, Spec P (d.dbExecute statement) (fun _ => P) E
  dbGetQuery : ∀ statement, Spec P (d.dbGetQuery statement) (fun _ => P) E
  write_file : ∀ content, Spec P (d.write_file content) (fun _ => P) E
  warning : ∀ message, Spec P (d.warning message) (fun _ => P) E

section Steps

variable {d : Driver σ} (h : Holds d P E) (lib : RLibrary) (conn : MariaDBConnection) (name : Text)
  (value : RFrame)

include h

theorem throw_holds {e : Exc} (he : e ≠ .outOfFuel) :
    Spec P (throw e : EStateM Exc σ α) (fun _ => P) E := fun s hs => h.raised e s he hs

theorem plain_holds {x : Except Exc α} (hx : Plain x) :
    Spec P (liftM x : EStateM Exc σ α) (fun _ => P) E := by
  cases x with
  | ok a => exact fun _ hs => hs
  | error e => exact throw_holds h (hx e rfl).1

theorem dbExecute_holds (statement : Statement) :
    Spec P (dbExecute d statement) (fun _ => P) E := by
  intro s hs
  have hrun := h.dbExecute statement s hs
  rw [dbExecute, run_map]
  split at hrun
  · exact hrun
  · exact hrun

theorem load_counted_holds : Spec P (load_counted d name value) (fun _ => P) E := by
  apply (h.dbGetQuery _).bind
  intro count_before
  apply (plain_holds h (only_cell_plain _)).bind
  intro count_before
  apply (dbExecute_holds h _).bind
  intro out
  apply (plain_holds h (is_zero_plain _)).bind
  intro zero
  apply Spec.ite
  · intro _
    apply (h.dbGetQuery _).bind
    intro count_after
    apply (plain_holds h (only_cell_plain _)).bind
    intro count_after
    exact plain_holds h (minus_plain _ _)
  · exact fun _ _ hs => hs

-- The file is written, and `m` comes after it.
theorem append_table_holds {m : EStateM Exc σ Double} {warn_factor : Bool}
    (hm : Spec P m (fun _ => P) E) : Spec P (do
      let content ← Table.data_file lib conn.timezone value
      (if warn_factor && value.columns.any RVector.is_factor then
          d.warning "Factors converted to character"
        else
          pure ())
      d.write_file content
      m : EStateM Exc σ Double) (fun _ => P) E := by
  apply (plain_holds h (data_file_plain _ _ _)).bind
  intro content
  apply Spec.bind
  · apply Spec.ite
    · exact fun _ => h.warning _
    · exact fun _ => Spec.pure fun _ => id
  intro _
  exact (h.write_file _).bind fun _ => hm

-- Without a transaction of its own
theorem db_append_table_holds (warn_factor safe : Bool) :
    Spec P (db_append_table d lib conn name value warn_factor safe false) (fun _ => P) E := by
  apply append_table_holds h
  apply Spec.ite
  · exact fun _ => load_counted_holds h name value
  · exact fun _ => dbExecute_holds h _

theorem dbExistsTable_holds : Spec P (dbExistsTable d name) (fun _ => P) E := by
  apply h.dbIsValid.bind
  intro valid
  apply Spec.ite
  · intro _
    apply Spec.tryCatch
    · apply (h.dbGetQuery _).bind
      exact fun _ => Spec.pure fun _ => id
    · intro e
      apply Spec.ite
      · exact fun _ _ hs => hs
      · intro he s hs
        exact h.caught e s (Bool.eq_false_of_not_eq_true fun hends => he (.inl hends)) hs
  · exact fun _ => throw_holds h (by simp)

theorem find_table_holds (flags : Flags) : Spec P (find_table d name flags) (fun _ => P) E := by
  apply Spec.ite
  · intro _
    apply (dbExistsTable_holds h name).bind
    intro found
    apply Spec.ite
    · exact fun _ => throw_holds h (by simp)
    · exact fun _ => Spec.pure fun _ => id
  · exact fun _ => Spec.pure fun _ => id

-- dbAppendTable() opens no transaction here: on a connection with LOAD DATA it is not called.
theorem append_rows_holds : Spec P (append_rows d lib conn name value) (fun _ => P) E := by
  apply Spec.ite
  · exact fun _ => db_append_table_holds h lib conn name value false true
  · intro hplain
    apply Spec.ite
    · exact fun hload => absurd hload hplain
    · exact fun _ => dbExecute_holds h _

theorem insert_rows_holds (need_transaction : Bool) :
    Spec P (insert_rows d lib conn name value need_transaction) (fun _ => P) E := by
  apply Spec.ite
  · intro _
    apply Spec.bind (append_rows_holds h lib conn name value)
    intro out
    apply (plain_holds h (less_plain _ _)).bind
    intro few
    apply Spec.ite
    · intro _
      apply Spec.ite
      · exact fun _ => throw_holds h (by simp)
      · exact fun _ => h.warning _
    · exact fun _ => Spec.pure fun _ => id
  · exact fun _ => Spec.pure fun _ => id

-- The part of write_rows() before the rows are inserted
theorem prepare_table_holds (flags : Flags) :
    Spec P (prepare_table d name value flags) (fun _ => P) E := by
  apply (find_table_holds h name flags).bind
  intro found
  apply Spec.bind (Q := fun _ => P)
  · apply Spec.ite
    · intro _
      apply (h.dbExecute _).bind
      exact fun _ => Spec.pure fun _ => id
    · exact fun _ => Spec.pure fun _ => id
  intro _
  apply Spec.ite
  · intro _
    apply (plain_holds h (combined_field_types_plain _ _)).bind
    intro types
    apply (h.dbExecute _).bind
    exact fun _ => Spec.pure fun _ => id
  · exact fun _ => Spec.pure fun _ => id

theorem write_rows_holds (flags : Flags) (need_transaction : Bool) :
    Spec P (write_rows d lib conn name value flags need_transaction) (fun _ => P) E := by
  rw [write_rows_eq]
  apply (prepare_table_holds h name value flags).bind
  exact fun _ => insert_rows_holds h lib conn name _ need_transaction

end Steps

end RMariaDB.WriteTable
