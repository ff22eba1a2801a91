import RMariaDB.Table.Lossless
import RMariaDB.WriteTable.Database

-- What dbWriteTable() leaves behind when a temporary table can hide a persistent one.

namespace RMariaDB.WriteTable

open Program

variable {ρ : Type} {name : Text}

section Runs

variable {dbms : Dbms ρ} {lib : RLibrary} {conn : MariaDBConnection}

-- Apart from the tables the connection is what it was.
structure Beside (db t : Database ρ) : Prop where
  transacting : t.transacting = db.transacting
  warnings : t.warnings = db.warnings

theorem remove_run (db : Database ρ) (temporary fail_if_missing : Bool) :
    (dbRemoveTable (database dbms lib conn) name temporary fail_if_missing).run db =
      (define_table name temporary fun t => dbms.drop t name temporary fail_if_missing).run db := by
  show ((define_table name temporary _ >>= fun _ => pure 0) >>= fun _ => pure ()).run db = _
  rw [EStateM.run_bind, EStateM.run_bind]
  cases (define_table name temporary fun t => dbms.drop t name temporary fail_if_missing).run db <;> rfl

theorem make_run (db : Database ρ) (fields : List (Text × Text)) (temporary : Bool) :
    (dbCreateTable (database dbms lib conn) name fields temporary).run db =
      (define_table name temporary fun t => dbms.create t name fields temporary).run db := by
  show ((define_table name temporary _ >>= fun _ => pure 0) >>= fun _ => pure ()).run db = _
  rw [EStateM.run_bind, EStateM.run_bind]
  cases (define_table name temporary fun t => dbms.create t name fields temporary).run db <;> rfl

theorem exists_run (db : Database ρ) : (dbExistsTable (database dbms lib conn) name).run db =
    .ok (db.tables.resolve name).isSome db := by
  show (tryCatch (query dbms conn.bigint (.select_null name) >>= fun _ => pure true) fun e =>
    if e.Ends ∨ e = .interrupt then throw e else pure false).run db = _
  rw [run_tryCatch, EStateM.run_bind, query, EStateM.run_bind, EStateM.run_get]
  cases hresolve : db.tables.resolve name with
  | some table =>
      simp only [dbms.select_found _ _ _ hresolve]
      rfl
  | none =>
      obtain ⟨message, hselect, -⟩ := dbms.select_missing _ _ hresolve
      simp only [hselect]
      rfl

theorem put_slot {u : Tables ρ} {b : Bool} {x : Option (List ρ)} (h : u.slot b name = x) :
    u.put b name x = u := by
  cases b
  · exact congrArg (fun f => ({ u with persistent := f } : Tables ρ))
      (Function.update_eq_self_iff.mpr h.symm)
  · exact congrArg (fun f => ({ u with temporary := f } : Tables ρ))
      (Function.update_eq_self_iff.mpr h.symm)

section Defining

variable {f : Tables ρ → Except Exc (Tables ρ)} {db : Database ρ}

theorem define_ok (name : Text) {tables : Tables ρ} (temporary : Bool) (h : f db.tables = .ok tables) : ∃ t,
    (define_table name temporary f).run db = .ok () t ∧ t.tables = tables ∧ Beside db t := by
  refine ⟨{ db with
    tables
    durable := if temporary then db.durable.put true name (tables.temporary name) else tables },
    ?_, rfl, rfl, rfl⟩
  cases temporary <;> simp [define_table, commit_tables, h]

theorem define_error (name : Text) {e : Exc} (temporary : Bool) (h : f db.tables = .error e) : ∃ t,
    (define_table name temporary f).run db = .error e t ∧ t.transacting = db.transacting := by
  refine ⟨{ db with durable := if temporary then db.durable else db.tables }, ?_, rfl⟩
  cases temporary <;> simp [define_table, commit_tables, h]

end Defining

-- What a temporary table with no rows is made of
def with_temporary (db : Database ρ) (name : Text) : Database ρ :=
  { db with
    tables := db.tables.put true name (some [])
    durable := db.durable.put true name (some []) }

theorem create_temporary_run (dbms : Dbms ρ) (db : Database ρ) (fields : List (Text × Text)) :
    (define_table name true fun t => dbms.create t name fields true).run db =
    if db.tables.hidden name then .error (table_exists name) db
    else .ok () (with_temporary db name) := by
  unfold define_table
  cases hhidden : db.tables.hidden name with
  | true =>
      have hcreate := dbms.create_exists db.tables name fields true hhidden
      simp [hcreate]
  | false =>
      have hnone : db.tables.slot true name = none :=
        Option.not_isSome_iff_eq_none.mp (by rw [← Tables.hidden_eq, hhidden]; simp)
      have hcreate := dbms.create_new db.tables name fields true hnone
      have hslot := Tables.slot_put db.tables true name (some [])
      rw [Tables.slot, if_pos rfl] at hslot
      simp [hcreate, with_temporary, hslot]

-- A table is made only where there is none, and then it has no rows.
theorem create_run (dbms : Dbms ρ) (name : Text) (db : Database ρ) (fields : List (Text × Text))
    (temporary : Bool) : ∃ t, t.transacting = db.transacting ∧
    ((define_table name temporary fun t => dbms.create t name fields temporary).run db =
        .error (table_exists name) t ∨
      (define_table name temporary fun t => dbms.create t name fields temporary).run db = .ok () t ∧
        t.tables = db.tables.put temporary name (some []) ∧ Beside db t) := by
  cases hslot : db.tables.slot temporary name with
  | some table =>
      have hcreate := dbms.create_exists db.tables name fields temporary (by rw [hslot]; rfl)
      obtain ⟨t, hrun, htransacting⟩ := define_error name
        (f := fun t => dbms.create t name fields temporary) temporary hcreate
      exact ⟨t, htransacting, .inl hrun⟩
  | none =>
      have hcreate := dbms.create_new db.tables name fields temporary hslot
      obtain ⟨t, hrun, htables, hbeside⟩ := define_ok name
        (f := fun t => dbms.create t name fields temporary) temporary hcreate
      exact ⟨t, hbeside.transacting, .inr ⟨hrun, htables, hbeside⟩⟩

end Runs

section Specification

variable (dbms : Dbms ρ) (lib : RLibrary) (conn : MariaDBConnection) (name : Text) (value : RFrame)
  (flags : Flags) (db : Database ρ)

-- What row insertion is trusted with: rows that go in quietly are added to the table that the
-- name stands for, and no table is made for them.
structure InsertsRight : Prop where
  adds : ∀ db t need_transaction, (insert_rows (database dbms lib conn) lib conn name value
    need_transaction).run db = .ok () t → t.warnings = db.warnings →
    ∀ old, db.tables.resolve name = some old →
      t.tables = db.tables.put (db.tables.hidden name) name (some (old ++ dbms.rows value))
  makes : ∀ db t need_transaction e, (insert_rows (database dbms lib conn) lib conn name value
    need_transaction).run db = .error e t → ¬SaysExists name e

-- The rows that the call adds to
def previous : List ρ := if flags.append then (db.tables.resolve name).getD [] else []

-- What a call that returns without a warning leaves, and what a failed one does not say.
structure WritesRight : Prop where
  rows : ∀ t, (dbWriteTable (database dbms lib conn) lib conn name value flags).run db = .ok () t →
    t.warnings = db.warnings →
      t.tables.resolve name = some (previous name flags db ++ dbms.rows (strings_frame value))
  others : ∀ t, (dbWriteTable (database dbms lib conn) lib conn name value flags).run db = .ok () t →
    t.warnings = db.warnings → ∀ b n, ¬(b = t.tables.hidden name ∧ n = name) →
      ¬(flags.overwrite = true ∧ b = (flags.temporary || db.tables.hidden name) ∧ n = name) →
        t.tables.slot b n = db.tables.slot b n
  reason : flags.append = true → (db.tables.resolve name).isSome → ∀ e t,
    (dbWriteTable (database dbms lib conn) lib conn name value flags).run db = .error e t →
      ¬SaysExists name e

-- The rows go quietly into a temporary table that is made for them.
def Fills : Prop := ∃ t, (insert_rows (database dbms lib conn) lib conn name (strings_frame value)
    (!db.transacting)).run (with_temporary { db with transacting := true } name) = .ok () t ∧
  t.warnings = db.warnings

-- A temporary table is made beside the table that was to be extended.
def Hides : Prop := flags.append = true ∧ flags.temporary = true ∧
  (combined_field_types none (strings_frame value)).isOk = true ∧
  (db.tables.hidden name = true ∨
    (db.tables.persistent name).getD [] ≠ [] ∧ Fills dbms lib conn name value db)

end Specification

section Writes

variable {dbms : Dbms ρ} {lib : RLibrary} {conn : MariaDBConnection} {value : RFrame}
  {flags : Flags} {db : Database ρ}

theorem of_check_flags (h : check_flags flags = .ok ()) (happend : flags.append = true) :
    flags.overwrite = false ∧ flags.field_types = none := by
  unfold check_flags at h
  rw [happend] at h
  cases hoverwrite : flags.overwrite with
  | true =>
      rw [hoverwrite] at h
      cases h
  | false =>
      cases htypes : flags.field_types with
      | none => exact ⟨rfl, rfl⟩
      | some types =>
          rw [hoverwrite, htypes] at h
          simp only [Bool.false_and, Bool.false_eq_true, ite_false, Option.isSome_some, Bool.and_self,
            ite_true] at h
          split at h <;> cases h

theorem find_run : (find_table (database dbms lib conn) name flags).run db =
    if flags.temporary = false ∧ (db.tables.resolve name).isSome ∧ flags.overwrite = false ∧
      flags.append = false then .error (refused name) db
    else .ok (!flags.temporary && (db.tables.resolve name).isSome) db := by
  unfold find_table
  cases htemporary : flags.temporary with
  | true => rfl
  | false =>
      simp only [Bool.not_false, ite_true, Bool.true_and, true_and]
      rw [run_bind_ok (exists_run db)]
      cases (db.tables.resolve name).isSome <;> cases flags.overwrite <;> cases flags.append <;> rfl

theorem remove_stage {t : Database ρ} (h : (if flags.overwrite then
    dbRemoveTable (database dbms lib conn) name flags.temporary false else pure ()).run db = .ok () t) :
    t.tables = (if flags.overwrite then db.tables.dropped name flags.temporary else db.tables) ∧
      Beside db t := by
  cases hoverwrite : flags.overwrite with
  | false =>
      rw [hoverwrite] at h
      cases h
      exact ⟨rfl, rfl, rfl⟩
  | true =>
      rw [hoverwrite, if_pos rfl, remove_run] at h
      have hdrop := dbms.drop_if_exists db.tables name flags.temporary
      obtain ⟨u, hrun, htables, hbeside⟩ := define_ok name
        (f := fun t => dbms.drop t name flags.temporary false) flags.temporary hdrop
      rw [hrun] at h
      cases h
      exact ⟨htables, hbeside⟩

-- The CREATE TABLE that follows when there was no table or it was dropped
theorem create_stage {t : Database ρ} {c : Bool} {names : List Text} {types : Except Exc (List Text)}
    (h : EStateM.run (if c then (liftM types : EStateM Exc (Database ρ) (List Text)) >>= fun types =>
        dbCreateTable (database dbms lib conn) name (names.zip types) flags.temporary
      else pure ()) db = .ok () t) :
    t.tables = (if c then db.tables.put flags.temporary name (some []) else db.tables) ∧
      Beside db t := by
  cases c with
  | false =>
      cases h
      exact ⟨rfl, rfl, rfl⟩
  | true =>
      obtain ⟨types, u, htypes, h⟩ := of_run_bind_ok h
      rw [make_run] at h
      rw [run_liftM] at htypes
      split at htypes
      · cases htypes
        obtain ⟨v, _, hrun | ⟨hrun, htables, hbeside⟩⟩ :=
          create_run dbms name db (names.zip types) flags.temporary
        · rw [hrun] at h
          cases h
        · rw [hrun] at h
          cases h
          exact ⟨htables, hbeside⟩
      · cases htypes

-- The table that rows are inserted into
structure Ready (name : Text) (flags : Flags) (old : List ρ) (t u : Tables ρ) : Prop where
  resolve : u.resolve name = some old
  others : ∀ b n, ¬(b = u.hidden name ∧ n = name) →
    ¬(flags.overwrite = true ∧ b = (flags.temporary || t.hidden name) ∧ n = name) →
      u.slot b n = t.slot b n

namespace Tables

theorem resolve_put {t : Tables ρ} (name : Text) (b : Bool) (x : List ρ)
    (h : b = true ∨ t.hidden name = false) :
    (t.put b name (some x)).hidden name = b ∧ (t.put b name (some x)).resolve name = some x := by
  have hhidden : (t.put b name (some x)).hidden name = b := by
    cases b with
    | true => rw [hidden_put_true, Option.isSome_some]
    | false => rw [hidden_put_false, h.resolve_left Bool.false_ne_true]
  refine ⟨hhidden, ?_⟩
  rw [resolve, hhidden, slot_put]

theorem hidden_of_resolve {t : Tables ρ} (h : (t.resolve name).isSome = false) :
    t.hidden name = false := by
  cases hhidden : t.hidden name with
  | false => rfl
  | true =>
      rw [resolve, hhidden, ← hidden_eq, hhidden] at h
      cases h

end Tables

-- Without a table to extend, an empty one is made.
theorem ready_made {t : Tables ρ} (h : (!(!flags.temporary && (t.resolve name).isSome) ||
      flags.overwrite) = true) :
    Ready name flags [] t ((if flags.overwrite then t.dropped name flags.temporary else t).put
      flags.temporary name (some [])) := by
  have hput := Tables.resolve_put (t := if flags.overwrite then t.dropped name flags.temporary else t)
    name flags.temporary ([] : List ρ) (by
      cases hoverwrite : flags.overwrite with
      | true => exact .inr (Tables.hidden_dropped t name flags.temporary)
      | false =>
          cases htemporary : flags.temporary with
          | true => exact .inl rfl
          | false =>
              rw [hoverwrite, htemporary, Bool.or_false, Bool.not_eq_true'] at h
              exact .inr (Tables.hidden_of_resolve h))
  refine ⟨hput.2, ?_⟩
  intro b n hself hdropped
  rw [hput.1] at hself
  rw [Tables.slot_put_of_ne hself]
  split
  · rename_i hoverwrite
    exact Tables.slot_put_of_ne fun hn => hdropped ⟨hoverwrite, hn⟩
  · rfl

theorem ready_found {t : Tables ρ} {old : List ρ} (h : t.resolve name = some old) :
    Ready name flags old t t := ⟨h, fun _ _ _ _ => rfl⟩

-- What is there when the rows are inserted, if no temporary table is made beside the one to extend.
theorem write_rows_ready {t : Database ρ} {need_transaction : Bool}
    (happend : flags.append = true → flags.overwrite = false ∧ flags.temporary = false)
    (h : (write_rows (database dbms lib conn) lib conn name value flags need_transaction).run db =
      .ok () t) :
    ∃ u, (insert_rows (database dbms lib conn) lib conn name (strings_frame value)
        need_transaction).run u = .ok () t ∧ u.warnings = db.warnings ∧
      Ready name flags (previous name flags db) db.tables u.tables := by
  unfold write_rows at h
  obtain ⟨found, _, hfind, h⟩ := of_run_bind_ok h
  rw [find_run] at hfind
  split at hfind
  · cases hfind
  rename_i hrefused
  cases hfind
  obtain ⟨_, dropped, hdrop, h⟩ := of_run_bind_ok h
  obtain ⟨hdropped, hdropped_beside⟩ := remove_stage hdrop
  obtain ⟨_, u, hcreate, h⟩ := of_run_bind_ok h
  obtain ⟨hcreated, hcreated_beside⟩ := create_stage hcreate
  refine ⟨u, h, hcreated_beside.warnings.trans hdropped_beside.warnings, ?_⟩
  rw [hcreated, hdropped]
  split
  · rename_i hmade
    have hprevious : previous name flags db = [] := by
      unfold previous
      split
      · rename_i hflag
        obtain ⟨hoverwrite, htemporary⟩ := happend hflag
        rw [hoverwrite, htemporary, Bool.or_false, Bool.not_eq_true', Bool.not_false, Bool.true_and]
          at hmade
        rw [Option.isSome_eq_false_iff, Option.isNone_iff_eq_none] at hmade
        rw [hmade, Option.getD_none]
      · rfl
    rw [hprevious]
    exact ready_made hmade
  · rename_i hmade
    rw [Bool.not_eq_true, Bool.or_eq_false_iff, Bool.not_eq_false', Bool.and_eq_true,
      Bool.not_eq_true'] at hmade
    obtain ⟨⟨htemporary, hfound⟩, hoverwrite⟩ := hmade
    have hflag : flags.append = true := by
      by_contra hflag
      exact hrefused ⟨htemporary, hfound, hoverwrite, Bool.eq_false_of_not_eq_true hflag⟩
    obtain ⟨old, hold⟩ := Option.isSome_iff_exists.mp hfound
    have hprevious : previous name flags db = old := by
      unfold previous
      rw [hflag, hold]
      rfl
    rw [hoverwrite, hprevious]
    exact ready_found hold

theorem append_found_run {need_transaction : Bool} (happend : flags.append = true)
    (hoverwrite : flags.overwrite = false) (htemporary : flags.temporary = false)
    (hfound : (db.tables.resolve name).isSome = true) :
    (write_rows (database dbms lib conn) lib conn name value flags need_transaction).run db =
      (insert_rows (database dbms lib conn) lib conn name (strings_frame value) need_transaction).run
        db := by
  have hfind : (find_table (database dbms lib conn) name flags).run db = .ok true db := by
    rw [find_run, if_neg (by rw [happend]; simp), htemporary, hfound]
    rfl
  unfold write_rows
  rw [run_bind_ok hfind, hoverwrite]
  rfl

theorem append_temporary_run {need_transaction : Bool} (htemporary : flags.temporary = true)
    (hoverwrite : flags.overwrite = false) (htypes : flags.field_types = none) :
    (write_rows (database dbms lib conn) lib conn name value flags need_transaction).run db =
      match combined_field_types none (strings_frame value) with
      | .error e => .error e db
      | .ok _ => if db.tables.hidden name then .error (table_exists name) db
          else (insert_rows (database dbms lib conn) lib conn name (strings_frame value)
            need_transaction).run (with_temporary db name) := by
  have hfind : (find_table (database dbms lib conn) name flags).run db = .ok false db := by
    rw [find_run, if_neg (by rw [htemporary]; simp), htemporary]
    rfl
  unfold write_rows
  rw [run_bind_ok hfind, hoverwrite, htypes, htemporary]
  rw [if_neg Bool.false_ne_true, EStateM.run_bind]
  simp only [EStateM.run_pure, Bool.not_false, Bool.true_or, ite_true]
  cases combined_field_types none (strings_frame value) with
  | error e => rfl
  | ok types =>
      simp only [EStateM.run_bind, run_liftM, make_run, create_temporary_run]
      cases db.tables.hidden name <;> rfl

-- The same tables and warnings, or the same error
def SameOutcome : EStateM.Result Exc (Database ρ) Unit → EStateM.Result Exc (Database ρ) Unit → Prop
  | .ok _ t, .ok _ u => t.tables = u.tables ∧ t.warnings = u.warnings
  | .error e _, .error e' _ => e = e'
  | _, _ => False

theorem SameOutcome.refl (r : EStateM.Result Exc (Database ρ) Unit) : SameOutcome r r := by
  cases r with
  | ok a t => exact ⟨rfl, rfl⟩
  | error e t => rfl

-- The transaction around the call changes neither what is in the tables nor the error.
theorem write_table_outcome (dbms : Dbms ρ) (lib : RLibrary) (conn : MariaDBConnection)
    (name : Text) (value : RFrame) (db : Database ρ) (hflags : check_flags flags = .ok ()) :
    SameOutcome ((dbWriteTable (database dbms lib conn) lib conn name value flags).run db)
      ((write_rows (database dbms lib conn) lib conn name value flags (!db.transacting)).run
        { db with transacting := true }) := by
  have hasks : (database dbms lib conn).is_transacting.run db = .ok db.transacting db := rfl
  unfold dbWriteTable
  rw [hflags, EStateM.run_bind]
  simp only [run_liftM]
  rw [run_bind_ok hasks]
  cases htransacting : db.transacting with
  | true =>
      have hdb : { db with transacting := true } = db := by
        rw [← htransacting]
      rw [hdb]
      exact SameOutcome.refl _
  | false =>
      have hbegin : (database dbms lib conn).dbBegin.run db =
          .ok () { db with transacting := true } := begin_run htransacting
      rw [if_neg Bool.false_ne_true, run_bind_ok hbegin, Bool.not_false]
      have hkept := write_rows_balanced (database_tracks dbms lib conn) lib conn name value flags true
        { db with transacting := true } ⟨trivial, rfl⟩
      cases hrun : (write_rows (database dbms lib conn) lib conn name value flags true).run
          { db with transacting := true } with
      | ok a t =>
          rw [hrun] at hkept
          rw [run_bind_ok (run_onError_ok hrun)]
          have hcommit : (database dbms lib conn).dbCommit.run t =
              .ok () { t with durable := t.tables, transacting := false } := commit_run hkept.2
          rw [hcommit]
          exact ⟨rfl, rfl⟩
      | error e t =>
          rw [hrun] at hkept
          cases hends : e.Ends with
          | true =>
              rw [run_bind_error (run_onError_fatal hrun hends)]
              rfl
          | false =>
              have hin : t.transacting = true := (hkept.resolve_left (hends ▸ Bool.false_ne_true)).2
              have hrollback : (database dbms lib conn).dbRollback.run t =
                  .ok () { t with tables := t.durable, transacting := false } := rollback_run hin
              rw [run_bind_error (run_onError_cleanup hrun hends hrollback)]
              rfl

theorem SameOutcome.of_ok {r r' : EStateM.Result Exc (Database ρ) Unit} {t : Database ρ}
    (h : SameOutcome r r') (hr : r = .ok () t) :
    ∃ u, r' = .ok () u ∧ t.tables = u.tables ∧ t.warnings = u.warnings := by
  rw [hr] at h
  cases r' with
  | ok a u => exact ⟨u, rfl, h⟩
  | error e u => exact h.elim

theorem SameOutcome.of_error {r r' : EStateM.Result Exc (Database ρ) Unit} {e : Exc} {t : Database ρ}
    (h : SameOutcome r r') (hr : r = .error e t) : ∃ u, r' = .error e u := by
  rw [hr] at h
  cases r' with
  | ok a u => exact h.elim
  | error e' u => exact ⟨u, congrArg (EStateM.Result.error · u) h.symm⟩

theorem SameOutcome.symm {r r' : EStateM.Result Exc (Database ρ) Unit} (h : SameOutcome r r') :
    SameOutcome r' r := by
  cases r <;> cases r'
  · exact ⟨h.1.symm, h.2.symm⟩
  · exact h.elim
  · exact h.elim
  · exact Eq.symm h

theorem types_error {columns : RFrame} {e : Exc} (h : combined_field_types none columns = .error e) :
    ¬SaysExists name e := by
  obtain ⟨x, _, hx⟩ := of_mapM_eq_error h
  obtain rfl : e = .stop "Unsupported type" := by
    unfold dbDataType at hx
    repeat' split at hx
    all_goals first | (cases hx; rfl) | cases hx
  rintro (h | h)
  · have htext := congrArg String.toList (Exc.stop.inj h)
    simp at htext
  · have htext := congrArg String.toList (Exc.stop.inj h)
    simp at htext

-- Rows that go in quietly are where they belong, and no other table is touched.
theorem inserted_right {t u : Database ρ} {need_transaction : Bool} {old : List ρ}
    (hinsert : InsertsRight dbms lib conn name (strings_frame value))
    (hrun : (insert_rows (database dbms lib conn) lib conn name (strings_frame value)
      need_transaction).run u = .ok () t) (hquiet : t.warnings = u.warnings)
    (hready : Ready name flags old db.tables u.tables) :
    Ready name flags (old ++ dbms.rows (strings_frame value)) db.tables t.tables := by
  have hadds := hinsert.adds u t need_transaction hrun hquiet old hready.resolve
  have hhidden := Tables.hidden_put u.tables name (old ++ dbms.rows (strings_frame value))
  refine ⟨?_, ?_⟩
  · rw [hadds, Tables.resolve, hhidden, Tables.slot_put]
  · intro b n hself hdropped
    rw [hadds, hhidden] at hself
    rw [hadds, Tables.slot_put_of_ne hself]
    exact hready.others b n hself hdropped

theorem right_of_not_temporary (hflags : check_flags flags = .ok ())
    (hinsert : InsertsRight dbms lib conn name (strings_frame value))
    (hbeside : ¬(flags.append = true ∧ flags.temporary = true)) :
    WritesRight dbms lib conn name value flags db := by
  have houtcome := write_table_outcome dbms lib conn name value db hflags
  have happend (h : flags.append = true) : flags.overwrite = false ∧ flags.temporary = false :=
    ⟨(of_check_flags hflags h).1, Bool.eq_false_of_not_eq_true fun ht => hbeside ⟨h, ht⟩⟩
  have hready (t) (hrun : (dbWriteTable (database dbms lib conn) lib conn name value flags).run db =
      .ok () t) (hquiet : t.warnings = db.warnings) : Ready name flags (previous name flags db ++
        dbms.rows (strings_frame value)) db.tables t.tables := by
    obtain ⟨u, hu, htables, hwarnings⟩ := houtcome.of_ok hrun
    obtain ⟨v, hinserted, hv, hready⟩ := write_rows_ready happend hu
    rw [htables]
    exact inserted_right hinsert hinserted (hwarnings.symm.trans (hquiet.trans hv.symm)) hready
  refine ⟨fun t hrun hquiet => (hready t hrun hquiet).resolve,
    fun t hrun hquiet => (hready t hrun hquiet).others, ?_⟩
  intro hflag hfound e t hrun
  obtain ⟨u, hu⟩ := houtcome.of_error hrun
  obtain ⟨hoverwrite, htemporary⟩ := happend hflag
  have hfound : (({ db with transacting := true } : Database ρ).tables.resolve name).isSome = true :=
    hfound
  rw [append_found_run hflag hoverwrite htemporary hfound] at hu
  exact hinsert.makes _ u _ e hu

theorem resolve_of_not_hidden {t : Tables ρ} (h : t.hidden name = false) :
    t.resolve name = t.persistent name := by
  rw [Tables.resolve, h]
  rfl

theorem ready_temporary : (with_temporary db name).tables.hidden name = true ∧
    (with_temporary db name).tables.resolve name = some [] := Tables.resolve_put _ _ _ (.inl rfl)

-- A temporary table that is made hides the rows of the one that was to be extended.
theorem wrong_of_hides (hflags : check_flags flags = .ok ())
    (hinsert : InsertsRight dbms lib conn name (strings_frame value))
    (hides : Hides dbms lib conn name value flags db) :
    ¬WritesRight dbms lib conn name value flags db := by
  intro hright
  obtain ⟨hflag, htemporary, htypes, hides⟩ := hides
  obtain ⟨hoverwrite, hfield_types⟩ := of_check_flags hflags hflag
  have houtcome := (write_table_outcome dbms lib conn name value db hflags).symm
  cases hcombined : combined_field_types none (strings_frame value) with
  | error e =>
      rw [hcombined] at htypes
      cases htypes
  | ok types =>
      rw [append_temporary_run htemporary hoverwrite hfield_types, hcombined] at houtcome
      cases hhidden : db.tables.hidden name with
      | true =>
          simp only [hhidden, ite_true] at houtcome
          obtain ⟨u, hrun⟩ := houtcome.of_error rfl
          have hfound : (db.tables.resolve name).isSome = true := by
            rw [Tables.resolve, hhidden]
            exact hhidden
          exact hright.reason hflag hfound _ u hrun (.inl rfl)
      | false =>
          simp only [hhidden, Bool.false_eq_true, ite_false] at houtcome
          obtain hhides | ⟨hrows, t, hfills, hquiet⟩ := hides
          · rw [hhidden] at hhides
            cases hhides
          obtain ⟨u, hrun, htables, hwarnings⟩ := houtcome.of_ok hfills
          have hadded := hinsert.adds _ t _ hfills hquiet [] ready_temporary.2
          have hnow := hright.rows u hrun (hwarnings.symm.trans hquiet)
          rw [← htables, hadded, Tables.resolve, Tables.hidden_put, Tables.slot_put, List.nil_append]
            at hnow
          have hlength := congrArg List.length (Option.some.inj hnow)
          rw [previous, hflag, if_pos rfl, resolve_of_not_hidden hhidden, List.length_append] at hlength
          exact hrows (List.length_eq_zero_iff.mp (by omega))

theorem right_of_not_hides (hflags : check_flags flags = .ok ())
    (hinsert : InsertsRight dbms lib conn name (strings_frame value)) (hflag : flags.append = true)
    (htemporary : flags.temporary = true) (hides : ¬Hides dbms lib conn name value flags db) :
    WritesRight dbms lib conn name value flags db := by
  obtain ⟨hoverwrite, hfield_types⟩ := of_check_flags hflags hflag
  have houtcome := write_table_outcome dbms lib conn name value db hflags
  rw [append_temporary_run htemporary hoverwrite hfield_types] at houtcome
  cases hcombined : combined_field_types none (strings_frame value) with
  | error e =>
      rw [hcombined] at houtcome
      refine ⟨fun t hrun => ?_, fun t hrun => ?_, ?_⟩
      · obtain ⟨u, hu, _⟩ := houtcome.of_ok hrun
        cases hu
      · obtain ⟨u, hu, _⟩ := houtcome.of_ok hrun
        cases hu
      · intro _ _ e' t hrun
        obtain ⟨u, hu⟩ := houtcome.of_error hrun
        cases hu
        exact types_error hcombined
  | ok types =>
      have htypes : (combined_field_types none (strings_frame value)).isOk = true := by
        rw [hcombined]
        rfl
      have hhidden : db.tables.hidden name = false :=
        Bool.eq_false_of_not_eq_true fun h => hides ⟨hflag, htemporary, htypes, .inl h⟩
      rw [hcombined] at houtcome
      simp only [hhidden, Bool.false_eq_true, ite_false] at houtcome
      have hready (t) (hrun : (dbWriteTable (database dbms lib conn) lib conn name value flags).run db =
          .ok () t) (hquiet : t.warnings = db.warnings) : Ready name flags (previous name flags db ++
            dbms.rows (strings_frame value)) db.tables t.tables := by
        obtain ⟨u, hu, htables, hwarnings⟩ := houtcome.of_ok hrun
        have hrows : (db.tables.persistent name).getD [] = [] := by
          by_contra hrows
          exact hides ⟨hflag, htemporary, htypes, .inr ⟨hrows, u, hu, hwarnings.symm.trans hquiet⟩⟩
        rw [htables, previous, hflag, if_pos rfl, resolve_of_not_hidden hhidden, hrows]
        apply inserted_right hinsert hu (hwarnings.symm.trans hquiet)
        refine ⟨ready_temporary.2, fun b n hself _ => ?_⟩
        rw [ready_temporary.1] at hself
        exact Tables.slot_put_of_ne hself
      refine ⟨fun t hrun hquiet => (hready t hrun hquiet).resolve,
        fun t hrun hquiet => (hready t hrun hquiet).others, ?_⟩
      intro _ _ e t hrun
      obtain ⟨u, hu⟩ := houtcome.of_error hrun
      exact hinsert.makes _ u _ e hu

end Writes

section Inserting

variable {dbms : Dbms ρ} {lib : RLibrary} {conn : MariaDBConnection} {value : RFrame}
  {db : Database ρ}

theorem counted : less (Coerce.double_of_int value.nrow) value.nrow = .ok false := by
  have hna : (value.nrow : ℤ) ≠ NA_INTEGER := by
    unfold NA_INTEGER
    omega
  rw [Coerce.double_of_int, if_neg hna, less, Int.cast_natCast]
  exact congrArg Except.ok (decide_eq_false (lt_irrefl _))

theorem append_eq (hload : conn.load_data_local_infile = false) :
    dbAppendTable (database dbms lib conn) lib conn name value true =
      dbExecute (database dbms lib conn) (.insert name value) := by
  rw [dbAppendTable, hload, if_neg Bool.false_ne_true]

theorem inserts_ok (hload : conn.load_data_local_infile = false) {need_transaction : Bool}
    {t : Database ρ} (hnrow : value.nrow > 0)
    (h : (execute lib conn.timezone dbms (.insert name value)).run db = .ok value.nrow t) :
    (insert_rows (database dbms lib conn) lib conn name value need_transaction).run db = .ok () t := by
  rw [← database_executes] at h
  have hrun := dbExecute_ok h
  rw [insert_rows, if_pos hnrow, hload, if_neg Bool.false_ne_true, append_eq hload, run_bind_ok hrun,
    counted]
  rfl

theorem inserts_error (hload : conn.load_data_local_infile = false) {need_transaction : Bool}
    {e : Exc} {t : Database ρ} (hnrow : value.nrow > 0)
    (h : (execute lib conn.timezone dbms (.insert name value)).run db = .error e t) :
    (insert_rows (database dbms lib conn) lib conn name value need_transaction).run db =
      .error e t := by
  rw [← database_executes] at h
  have hrun := dbExecute_error h
  rw [insert_rows, if_pos hnrow, hload, if_neg Bool.false_ne_true, append_eq hload,
    run_bind_error hrun]

-- The plain INSERT is right, if its parameters can be sent.
theorem insert_right (hload : conn.load_data_local_infile = false)
    (hcolumns : check_columns lib conn.timezone value = .ok ())
    (hsent : sent_rows lib conn.timezone dbms value = (dbms.rows value).map .ok) :
    InsertsRight dbms lib conn name value := by
  constructor
  · intro db t need_transaction hrun _ old hold
    by_cases hnrow : value.nrow > 0
    · have hinsert := insert_run dbms hold hcolumns
      cases hall : (dbms.insert old (sent_rows lib conn.timezone dbms value)).2 with
      | ok a =>
          rw [hall] at hinsert
          rw [inserts_ok hload hnrow hinsert] at hrun
          cases hrun
          rw [inserted_rows hall]
          rfl
      | error e =>
          rw [hall] at hinsert
          rw [inserts_error hload hnrow hinsert] at hrun
          cases hrun
    · have hempty : dbms.rows value = [] := by
        rw [← List.length_eq_zero_iff, dbms.length_rows]
        omega
      rw [insert_rows, if_neg hnrow] at hrun
      cases hrun
      rw [hempty, List.append_nil, put_slot hold]
  · intro db t need_transaction e hrun
    by_cases hnrow : value.nrow > 0
    · cases hold : db.tables.resolve name with
      | none =>
          obtain ⟨e', hmissing, hother⟩ := missing_run dbms hold hcolumns
          rw [inserts_error hload hnrow hmissing] at hrun
          cases hrun
          exact hother
      | some old =>
          have hinsert := insert_run dbms hold hcolumns
          cases hall : (dbms.insert old (sent_rows lib conn.timezone dbms value)).2 with
          | ok a =>
              rw [hall] at hinsert
              rw [inserts_ok hload hnrow hinsert] at hrun
              cases hrun
          | error e' =>
              rw [hall] at hinsert
              rw [inserts_error hload hnrow hinsert] at hrun
              cases hrun
              rw [hsent] at hall
              exact dbms.insert_error old _ _ hall name
    · rw [insert_rows, if_neg hnrow] at hrun
      cases hrun

end Inserting

section Main

variable {dbms : Dbms ρ} {lib : RLibrary} {conn : MariaDBConnection} {value : RFrame}
  {flags : Flags} {db : Database ρ}

-- A call leaves the right rows exactly when no temporary table is made beside the one to extend.
theorem dbWriteTable_right_iff (hflags : check_flags flags = .ok ())
    (hinsert : InsertsRight dbms lib conn name (strings_frame value)) :
    WritesRight dbms lib conn name value flags db ↔ ¬Hides dbms lib conn name value flags db := by
  constructor
  · exact fun hright hides => wrong_of_hides hflags hinsert hides hright
  · intro hides
    by_cases hbeside : flags.append = true ∧ flags.temporary = true
    · exact right_of_not_hides hflags hinsert hbeside.1 hbeside.2 hides
    · exact right_of_not_temporary hflags hinsert hbeside

def to_temporary : Flags := { append := true, temporary := true }

-- A temporary table with one row
def occupied : Database Unit := { tables := ({} : Tables Unit).put true "t".toList (some [()]) }

theorem one_row_right : InsertsRight unconstrained Table.utc {} "t".toList (strings_frame one_row) := by
  apply insert_right
  · rfl
  · rfl
  · rfl

theorem append_to_temporary_fails : check_flags to_temporary = .ok () ∧
    InsertsRight unconstrained Table.utc {} "t".toList (strings_frame one_row) ∧
    ¬WritesRight unconstrained Table.utc {} "t".toList one_row to_temporary occupied := by
  refine ⟨rfl, one_row_right, ?_⟩
  apply wrong_of_hides rfl one_row_right
  exact ⟨rfl, rfl, rfl, .inl rfl⟩

theorem dbWriteTable_right_iff_one_row : check_flags to_temporary = .ok () ∧
    InsertsRight unconstrained Table.utc {} "t".toList (strings_frame one_row) ∧
    (WritesRight unconstrained Table.utc {} "t".toList one_row to_temporary occupied ↔
      ¬Hides unconstrained Table.utc {} "t".toList one_row to_temporary occupied) :=
  ⟨rfl, one_row_right, dbWriteTable_right_iff rfl one_row_right⟩

end Main

end RMariaDB.WriteTable
