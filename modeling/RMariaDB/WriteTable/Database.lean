import Mathlib.Logic.Function.Basic
import RMariaDB.Table.Fields
import RMariaDB.WriteTable
import RMariaDB.WriteTable.Brackets

-- A server with persistent and temporary tables, and a connection to it.

namespace RMariaDB.WriteTable

open Program

variable {ρ : Type}

-- The tables of a session by their names, with their rows.
structure Tables (ρ : Type) where
  persistent : Text → Option (List ρ) := fun _ => none
  temporary : Text → Option (List ρ) := fun _ => none

namespace Tables

def slot (t : Tables ρ) (temporary : Bool) : Text → Option (List ρ) :=
  if temporary then t.temporary else t.persistent

def put (t : Tables ρ) (temporary : Bool) (name : Text) (table : Option (List ρ)) : Tables ρ :=
  if temporary then { t with temporary := Function.update t.temporary name table }
  else { t with persistent := Function.update t.persistent name table }

-- A temporary table hides a persistent one of its name.
def hidden (t : Tables ρ) (name : Text) : Bool := (t.temporary name).isSome

def resolve (t : Tables ρ) (name : Text) : Option (List ρ) := t.slot (t.hidden name) name

variable {name : Text} {t : Tables ρ} {b b' : Bool} {n : Text} {x : Option (List ρ)}

@[simp] theorem slot_put (t : Tables ρ) (b : Bool) (n : Text) (x : Option (List ρ)) :
    (t.put b n x).slot b n = x := by
  cases b <;> exact Function.update_self ..

theorem slot_put_of_ne (h : ¬(b' = b ∧ n = name)) : (t.put b name x).slot b' n = t.slot b' n := by
  cases b
  · cases b'
    · exact Function.update_of_ne (fun hn => h ⟨rfl, hn⟩) ..
    · rfl
  · cases b'
    · rfl
    · exact Function.update_of_ne (fun hn => h ⟨rfl, hn⟩) ..

theorem hidden_eq (t : Tables ρ) (n : Text) : t.hidden n = (t.slot true n).isSome := rfl

@[simp] theorem hidden_put_true (t : Tables ρ) (n : Text) (x : Option (List ρ)) :
    (t.put true n x).hidden n = x.isSome := by
  rw [hidden_eq, slot_put]

@[simp] theorem hidden_put_false (t : Tables ρ) (n : Text) (x : Option (List ρ)) :
    (t.put false n x).hidden n = t.hidden n := rfl

-- A table stays the one that its name stands for while rows are added to it.
theorem hidden_put (t : Tables ρ) (name : Text) (rows : List ρ) :
    (t.put (t.hidden name) name (some rows)).hidden name = t.hidden name := by
  cases hhidden : t.hidden name with
  | true => rw [hidden_put_true, Option.isSome_some]
  | false => rw [hidden_put_false, hhidden]

end Tables

namespace Tables

def dropped (t : Tables ρ) (name : Text) (temporary : Bool) : Tables ρ :=
  t.put (temporary || t.hidden name) name none

theorem hidden_dropped (t : Tables ρ) (name : Text) (temporary : Bool) :
    (t.dropped name temporary).hidden name = false := by
  unfold dropped
  cases hhidden : t.hidden name with
  | true => rw [Bool.or_true, hidden_put_true, Option.isSome_none]
  | false =>
      cases temporary with
      | true => rw [Bool.or_false, hidden_put_true, Option.isSome_none]
      | false => rw [Bool.or_false, hidden_put_false, hhidden]

end Tables

section Errors

def missing_table (name : Text) : Exc :=
  .stop ("Table '" ++ String.ofList name ++ "' doesn't exist [1146]")

def unknown_table (name : Text) : Exc :=
  .stop ("Unknown table '" ++ String.ofList name ++ "' [1051]")

def table_exists (name : Text) : Exc :=
  .stop ("Table '" ++ String.ofList name ++ "' already exists [1050]")

def duplicate_entry : Exc := .stop "Duplicate entry for key [1062]"

def missing_file : Exc := .stop "File not found (Errcode: 2) [29]"

-- What dbWriteTable() says itself
def refused (name : Text) : Exc :=
  .stop ("Table " ++ String.ofList name ++ " exists in database, and both overwrite and" ++
    " append are FALSE")

def SaysExists (name : Text) (e : Exc) : Prop := e = table_exists name ∨ e = refused name

end Errors

-- What is relied upon of a server: its statements act on the tables of a session.
structure Dbms (ρ : Type) where
  -- the table that a name stands for
  select : Tables ρ → Text → Except Exc (List ρ)
  select_found : ∀ t name table, t.resolve name = some table → select t name = .ok table
  select_missing : ∀ t name, t.resolve name = none → ∃ message,
    select t name = .error (.stop message) ∧ ¬SaysExists name (.stop message)
  -- DROP TABLE, with TEMPORARY and without IF EXISTS
  drop : Tables ρ → Text → Bool → Bool → Except Exc (Tables ρ)
  drop_if_exists : ∀ t name temporary, drop t name temporary false = .ok (t.dropped name temporary)
  -- CREATE TABLE, with TEMPORARY
  create : Tables ρ → Text → List (Text × Text) → Bool → Except Exc (Tables ρ)
  create_new : ∀ t name fields temporary, t.slot temporary name = none →
    create t name fields temporary = .ok (t.put temporary name (some []))
  create_exists : ∀ t name fields temporary, (t.slot temporary name).isSome →
    create t name fields temporary = .error (table_exists name)
  -- the rows that a data frame becomes when its elements are parameters
  rows : RFrame → List ρ
  length_rows : ∀ value, (rows value).length = value.nrow
  -- an INSERT that is executed for each row, until one cannot be sent or is not accepted
  insert : List ρ → List (Except Exc ρ) → List ρ × Except Exc Unit
  insert_ok : ∀ table sent, (insert table sent).2 = .ok () →
    ∃ rows, sent = rows.map .ok ∧ (insert table sent).1 = table ++ rows
  insert_error : ∀ table (rows : List ρ) e, (insert table (rows.map .ok)).2 = .error e →
    ∀ name, ¬SaysExists name e
  -- LOAD DATA: the row that a line of the file becomes, whether IGNORE keeps it, and whether the
  -- server reports how many rows were added
  reads : Table.Row → ρ
  accepts : List ρ → ρ → Bool
  reports : Bool

structure Database (ρ : Type) where
  tables : Tables ρ := {}
  -- the tables as a ROLLBACK leaves them
  durable : Tables ρ := {}
  transacting : Bool := false
  warnings : List String := []
  -- the files of the client by their quoted paths
  files : Text → Option Bytes := fun _ => none

section Statements

def modify_tables (f : Tables ρ → Tables ρ) : EStateM Exc (Database ρ) Unit :=
  modify fun db => { db with tables := f db.tables }

def commit_tables : EStateM Exc (Database ρ) Unit := modify fun db => { db with durable := db.tables }

def autocommit : EStateM Exc (Database ρ) Unit := do
  let db ← get
  if db.transacting then pure () else commit_tables

-- DROP TABLE and CREATE TABLE commit implicitly, unless they name a TEMPORARY table: a rollback
-- brings no temporary table back and drops none.
def define_table (name : Text) (temporary : Bool) (f : Tables ρ → Except Exc (Tables ρ)) :
    EStateM Exc (Database ρ) Unit := do
  (if temporary then pure () else commit_tables)
  let db ← get
  let tables ← f db.tables
  set { db with
    tables
    durable := if temporary then db.durable.put true name (tables.temporary name) else tables }

-- LOAD DATA IGNORE skips what is not accepted.
def load_accepted (dbms : Dbms ρ) (table : List ρ) : List ρ → List ρ
  | [] => table
  | row :: rows =>
      if dbms.accepts table row then load_accepted dbms (table ++ [row]) rows
      else load_accepted dbms table rows

-- What the server makes of a file
def rows_read (dbms : Dbms ρ) (value : RFrame) (content : Bytes) : List ρ :=
  (Table.read_file (Table.load_data value) content).map dbms.reads

variable (lib : RLibrary) (timezone : String)

-- The parameters of an INSERT for each row
def check_columns (value : RFrame) : Except Exc Unit :=
  if value.columns = [] then .error (.stop "Query has no parameters")
  else do
    let _ ← value.columns.mapM fun x => variable_type_from_object (Coerce.sql_data lib timezone x)
    pure ()

def sent_row (value : RFrame) (row : ρ) (i : Nat) : Except Exc ρ := do
  let _ ← value.columns.mapM fun x => Table.plain_value lib timezone x i
  pure row

def sent_rows (dbms : Dbms ρ) (value : RFrame) : List (Except Exc ρ) :=
  (dbms.rows value).zipIdx.map fun (row, i) => sent_row lib timezone value row i

-- What is done with the rows of the table that a name stands for.
def with_table (dbms : Dbms ρ) (name : Text) (f : List ρ → List ρ × Except Exc ℤ) :
    EStateM Exc (Database ρ) ℤ := do
  let db ← get
  let table ← dbms.select db.tables name
  modify_tables fun t => t.put (t.hidden name) name (some (f table).1)
  autocommit
  liftM (f table).2

def execute (dbms : Dbms ρ) : Statement → EStateM Exc (Database ρ) ℤ
  | .drop name temporary fail_if_missing => do
      define_table name temporary fun t => dbms.drop t name temporary fail_if_missing
      pure 0
  | .create name fields temporary => do
      define_table name temporary fun t => dbms.create t name fields temporary
      pure 0
  | .insert name value => do
      check_columns lib timezone value
      with_table dbms name fun table =>
        let (rows, outcome) := dbms.insert table (sent_rows lib timezone dbms value)
        (rows, outcome.map fun _ => value.nrow)
  | .load_data path name value => do
      let db ← get
      match db.files path with
      | none => throw missing_file
      | some content =>
          with_table dbms name fun table =>
            let rows := load_accepted dbms table (rows_read dbms value content)
            (rows, .ok (if dbms.reports then rows.length - table.length else 0))
  | .select_null _ | .count _ => pure 0

def count_frame (n : Nat) : DataFrame where
  names := ["COUNT(*)"]
  row_names := -1
  columns := [{ type := .REALSXP, klass := ["integer64"], cells := [.int64 n] }]

def query (dbms : Dbms ρ) (bigint : Bigint) : Statement → EStateM Exc (Database ρ) DataFrame
  | .select_null name => do
      let db ← get
      let _ ← dbms.select db.tables name
      pure (df_create [] [] 0)
  | .count name => do
      let db ← get
      let table ← dbms.select db.tables name
      pure (convert_bigint bigint (count_frame table.length))
  | _ => pure (df_create [] [] 0)

end Statements

section Connection

def begin_transaction : EStateM Exc (Database ρ) Unit := do
  let db ← get
  if db.transacting then throw (.stop "Nested transactions not supported.")
  else set { db with transacting := true }

def commit : EStateM Exc (Database ρ) Unit := do
  let db ← get
  if db.transacting then set { db with durable := db.tables, transacting := false }
  else throw (.stop "Call dbBegin() to start a transaction.")

def rollback : EStateM Exc (Database ρ) Unit := do
  let db ← get
  if db.transacting then set { db with tables := db.durable, transacting := false }
  else throw (.stop "Call dbBegin() to start a transaction.")

variable (dbms : Dbms ρ) (lib : RLibrary) (conn : MariaDBConnection)

def tempfile : Text := "'RMariaDB.tsv'".toList

def database : Driver (Database ρ) where
  quoted_tempfile := tempfile
  paste := fun x => match x with
    | .finite q => toString (CArith.trunc q)
    | _ => "NA"
  dbIsValid := pure true
  is_transacting := do
    let db ← get
    pure db.transacting
  dbBegin := begin_transaction
  dbCommit := commit
  dbRollback := rollback
  dbExecute := execute lib conn.timezone dbms
  dbGetQuery := query dbms conn.bigint
  write_file := fun content => modify fun db => { db with
    files := Function.update db.files tempfile (some content) }
  warning := fun message => modify fun db => { db with warnings := db.warnings ++ [message] }

end Connection

section Inserting

variable {name : Text} {dbms : Dbms ρ} {lib : RLibrary} {timezone : String} {value : RFrame}

-- The rows of a table are replaced by a statement that commits itself outside of a transaction.
def landed (db : Database ρ) (name : Text) (rows : List ρ) : Database ρ :=
  let tables := db.tables.put (db.tables.hidden name) name (some rows)
  { db with tables := tables, durable := if db.transacting then db.durable else tables }

theorem autocommit_run (db : Database ρ) : autocommit.run db =
    .ok () { db with durable := if db.transacting then db.durable else db.tables } := by
  cases htransacting : db.transacting <;> simp [autocommit, commit_tables, htransacting]
  rw [← htransacting]

theorem with_table_run {f : List ρ → List ρ × Except Exc ℤ} {db : Database ρ} {table : List ρ}
    (h : db.tables.resolve name = some table) : (with_table dbms name f).run db =
      match (f table).2 with
      | .ok n => .ok n (landed db name (f table).1)
      | .error e => .error e (landed db name (f table).1) := by
  unfold with_table
  rw [EStateM.run_bind, EStateM.run_get]
  simp only [dbms.select_found _ _ _ h, EStateM.run_bind, run_liftM, modify_tables,
    EStateM.run_modify]
  rw [autocommit_run]
  cases (f table).2 <;> rfl

theorem with_table_missing {f : List ρ → List ρ × Except Exc ℤ} {db : Database ρ}
    (h : db.tables.resolve name = none) : ∃ e, (with_table dbms name f).run db = .error e db ∧
      ¬SaysExists name e := by
  obtain ⟨message, hselect, hother⟩ := dbms.select_missing _ _ h
  refine ⟨_, ?_, hother⟩
  unfold with_table
  rw [EStateM.run_bind, EStateM.run_get]
  dsimp only
  rw [hselect]
  rfl

theorem sent_row_eq {row sent : ρ} {i : Nat} (h : sent_row lib timezone value row i = .ok sent) :
    sent = row := by
  obtain ⟨_, _, h⟩ := of_bind_eq_ok h
  exact (Except.ok.inj h).symm

theorem sent_rows_eq {sent : List ρ} (h : sent_rows lib timezone dbms value = sent.map .ok) :
    sent = dbms.rows value := by
  have hfrom : ∀ (rows sent : List ρ) k, ((rows.zipIdx k).map fun (row, i) =>
      sent_row lib timezone value row i) = sent.map .ok → sent = rows := by
    intro rows
    induction rows with
    | nil => exact fun sent _ h => List.map_eq_nil_iff.mp h.symm
    | cons row rows ih =>
        intro sent k h
        cases sent with
        | nil => cases h
        | cons first sent =>
            rw [List.zipIdx_cons, List.map_cons, List.map_cons] at h
            obtain ⟨hfirst, hrest⟩ := List.cons.inj h
            rw [sent_row_eq hfirst, ih sent (k + 1) hrest]
  exact hfrom _ sent 0 h

-- An INSERT that goes through for every row adds the rows.
theorem inserted_rows {table : List ρ}
    (h : (dbms.insert table (sent_rows lib timezone dbms value)).2 = .ok ()) :
    (dbms.insert table (sent_rows lib timezone dbms value)).1 = table ++ dbms.rows value := by
  obtain ⟨sent, hsent, hrows⟩ := dbms.insert_ok _ _ h
  rw [hrows, sent_rows_eq hsent]

theorem insert_run (dbms : Dbms ρ) {db : Database ρ} {table : List ρ} (h : db.tables.resolve name = some table)
    (hcolumns : check_columns lib timezone value = .ok ()) :
    (execute lib timezone dbms (.insert name value)).run db =
      match (dbms.insert table (sent_rows lib timezone dbms value)).2 with
      | .ok _ => .ok value.nrow
          (landed db name (dbms.insert table (sent_rows lib timezone dbms value)).1)
      | .error e => .error e
          (landed db name (dbms.insert table (sent_rows lib timezone dbms value)).1) := by
  have hchecked : (liftM (.ok () : Except Exc Unit) : EStateM Exc (Database ρ) Unit).run db =
      .ok () db := rfl
  rw [execute, hcolumns, run_bind_ok hchecked, with_table_run h]
  cases dbms.insert table (sent_rows lib timezone dbms value) with
  | mk rows outcome => cases outcome <;> rfl

variable {conn : MariaDBConnection} {db : Database ρ}

theorem dbExecute_ok {d : Driver (Database ρ)} {statement : Statement} {n : ℤ} {t : Database ρ}
    (h : (d.dbExecute statement).run db = .ok n t) :
    (dbExecute d statement).run db = .ok (Coerce.double_of_int n) t := by
  rw [dbExecute, run_map, h]

theorem dbExecute_error {d : Driver (Database ρ)} {statement : Statement} {e : Exc} {t : Database ρ}
    (h : (d.dbExecute statement).run db = .error e t) :
    (dbExecute d statement).run db = .error e t := by
  rw [dbExecute, run_map, h]

theorem database_executes (statement : Statement) : (database dbms lib conn).dbExecute statement =
    execute lib conn.timezone dbms statement := rfl

theorem missing_run (dbms : Dbms ρ) (h : db.tables.resolve name = none)
    (hcolumns : check_columns lib timezone value = .ok ()) : ∃ e,
    (execute lib timezone dbms (.insert name value)).run db = .error e db ∧ ¬SaysExists name e := by
  have hchecked : (liftM (.ok () : Except Exc Unit) : EStateM Exc (Database ρ) Unit).run db =
      .ok () db := rfl
  rw [execute, hcolumns, run_bind_ok hchecked]
  exact with_table_missing h

end Inserting

section Tracking

variable {α : Type} {name : Text} {dbms : Dbms ρ} {lib : RLibrary} {conn : MariaDBConnection} {b : Bool}

-- Within a transaction or not, whatever the tables are
abbrev Still (b : Bool) (m : EStateM Exc (Database ρ) α) : Prop :=
  Balanced (fun _ => True) Database.transacting b m

theorem still_get_bind {f : Database ρ → EStateM Exc (Database ρ) α}
    (h : ∀ db, Still b (f db)) : Still b (get >>= f) := fun db hdb => h db db hdb

theorem still_modify {f : Database ρ → Database ρ} (h : ∀ db, (f db).transacting = db.transacting) :
    Still b (modify f) := fun db hdb => ⟨trivial, (h db).trans hdb.2⟩

theorem modify_tables_still (f : Tables ρ → Tables ρ) : Still b (modify_tables f) :=
  still_modify fun _ => rfl

theorem commit_tables_still : Still b (commit_tables : EStateM Exc (Database ρ) Unit) := still_modify fun _ => rfl

theorem still_liftM_bind {β : Type} {x : Except Exc α} {f : α → EStateM Exc (Database ρ) β}
    (h : ∀ a, Still b (f a)) : Still b (liftM x >>= f) := (Balanced.liftM x).bind h

theorem define_table_still (temporary : Bool) (f : Tables ρ → Except Exc (Tables ρ)) :
    Still b (define_table name temporary f) := by
  apply Leads.bind (Q := At (fun _ => True) Database.transacting b)
  · apply Leads.ite
    · exact Balanced.pure ()
    · exact commit_tables_still
  intro _ db hdb
  rw [EStateM.run_bind, EStateM.run_get]
  dsimp only
  rw [EStateM.run_bind, run_liftM]
  cases f db.tables with
  | ok tables => exact hdb
  | error e => exact Or.inr hdb

theorem with_table_still (dbms : Dbms ρ) (f : List ρ → List ρ × Except Exc ℤ) :
    Still b (with_table dbms name f) := by
  apply still_get_bind
  intro db
  apply still_liftM_bind
  intro table
  apply (modify_tables_still _).bind
  intro _
  apply Leads.bind (Q := At (fun _ => True) Database.transacting b)
  · apply still_get_bind
    intro db
    apply Leads.ite
    · exact Balanced.pure ()
    · exact still_modify fun _ => rfl
  · exact fun _ => Balanced.liftM _

theorem execute_still (statement : Statement) :
    Still b (execute lib conn.timezone dbms statement) := by
  cases statement with
  | drop name temporary fail_if_missing =>
      exact (define_table_still temporary _).bind fun _ => Balanced.pure 0
  | create name fields temporary =>
      exact (define_table_still temporary _).bind fun _ => Balanced.pure 0
  | insert name value => exact still_liftM_bind fun _ => with_table_still dbms _
  | load_data path name value =>
      apply still_get_bind
      intro db
      split
      · exact Balanced.throw _
      · exact with_table_still dbms _
  | select_null name => exact Balanced.pure 0
  | count name => exact Balanced.pure 0

theorem query_still (bigint : Bigint) (statement : Statement) :
    Still b (query dbms bigint statement) := by
  cases statement with
  | select_null name => exact still_get_bind fun _ => still_liftM_bind fun _ => Balanced.pure _
  | count name => exact still_get_bind fun _ => still_liftM_bind fun _ => Balanced.pure _
  | drop | load_data | create | insert => exact Balanced.pure _

theorem begin_run {db : Database ρ} (h : db.transacting = false) :
    begin_transaction.run db = .ok () { db with transacting := true } := by
  simp [begin_transaction, h]

theorem nested_run {db : Database ρ} (h : db.transacting = true) :
    begin_transaction.run db = .error (.stop "Nested transactions not supported.") db := by
  simp [begin_transaction, h]

theorem commit_run {db : Database ρ} (h : db.transacting = true) :
    commit.run db = .ok () { db with durable := db.tables, transacting := false } := by
  simp [commit, h]

theorem rollback_run {db : Database ρ} (h : db.transacting = true) :
    rollback.run db = .ok () { db with tables := db.durable, transacting := false } := by
  simp [rollback, h]

theorem leads_of_run_ok {m : EStateM Exc (Database ρ) α} {P Q E : Database ρ → Prop}
    (h : ∀ db, P db → ∃ a t, m.run db = .ok a t ∧ Q t) : Leads P m Q E := by
  intro db hdb
  obtain ⟨a, t, hrun, ht⟩ := h db hdb
  rw [hrun]
  exact ht

theorem leads_of_run_error {m : EStateM Exc (Database ρ) α} {P Q E : Database ρ → Prop}
    (h : ∀ db, P db → ∃ e t, m.run db = .error e t ∧ E t) : Leads P m Q E := by
  intro db hdb
  obtain ⟨e, t, hrun, ht⟩ := h db hdb
  rw [hrun]
  exact .inr ht

theorem database_tracks (dbms : Dbms ρ) (lib : RLibrary) (conn : MariaDBConnection) :
    Tracks (database dbms lib conn) (fun _ => True) Database.transacting where
  dbIsValid _ := Balanced.pure true
  is_transacting _ := fun _ hdb => ⟨hdb.2, hdb⟩
  dbBegin := leads_of_run_ok fun _ hdb => ⟨_, _, begin_run hdb.2, trivial, rfl⟩
  nested := leads_of_run_error fun _ hdb => ⟨_, _, nested_run hdb.2, hdb⟩
  dbCommit := leads_of_run_ok fun _ hdb => ⟨_, _, commit_run hdb.2, trivial, rfl⟩
  dbRollback := leads_of_run_ok fun _ hdb => ⟨_, _, rollback_run hdb.2, trivial, rfl⟩
  dbExecute _ statement := execute_still statement
  dbGetQuery _ statement := query_still _ statement
  write_file _ _ := still_modify fun _ => rfl
  warning _ _ := still_modify fun _ => rfl

end Tracking

section Example

-- One INSERT after the other
def insert_all (accepts : List ρ → ρ → Bool) (table : List ρ) :
    List (Except Exc ρ) → List ρ × Except Exc Unit
  | [] => (table, .ok ())
  | .error e :: _ => (table, .error e)
  | .ok row :: rows =>
      if accepts table row then insert_all accepts (table ++ [row]) rows
      else (table, .error duplicate_entry)

theorem insert_all_ok (accepts : List ρ → ρ → Bool) (table : List ρ) (sent : List (Except Exc ρ))
    (h : (insert_all accepts table sent).2 = .ok ()) :
    ∃ rows, sent = rows.map .ok ∧ (insert_all accepts table sent).1 = table ++ rows := by
  induction sent generalizing table with
  | nil => exact ⟨[], rfl, (List.append_nil _).symm⟩
  | cons row sent ih =>
      cases row with
      | error e => cases h
      | ok row =>
          rw [insert_all] at h ⊢
          split at h
          · rename_i haccepts
            obtain ⟨rows, hsent, hrows⟩ := ih (table ++ [row]) h
            refine ⟨row :: rows, by rw [hsent, List.map_cons], ?_⟩
            rw [if_pos haccepts, hrows, List.append_assoc, List.singleton_append]
          · cases h

theorem says_neither {name : Text} {message : String} (h : message.toList.head? ≠ some 'T') :
    ¬SaysExists name (.stop message) := by
  rintro (hother | hother)
  all_goals
    rw [Exc.stop.inj hother] at h
    simp at h

theorem insert_all_error (accepts : List ρ → ρ → Bool) (table : List ρ) (rows : List ρ) (e : Exc)
    (h : (insert_all accepts table (rows.map .ok)).2 = .error e) (name : Text) :
    ¬SaysExists name e := by
  induction rows generalizing table with
  | nil => cases h
  | cons row rows ih =>
      rw [List.map_cons, insert_all] at h
      split at h
      · exact ih _ h
      · cases h
        exact says_neither (by decide)

-- A server that is asked for no types and checks nothing but what a table accepts
def simple_server (rows : RFrame → List ρ) (length_rows : ∀ value, (rows value).length = value.nrow)
    (reads : Table.Row → ρ) (accepts : List ρ → ρ → Bool) : Dbms ρ where
  select := fun t name => (t.resolve name).elim (.error (missing_table name)) .ok
  select_found := fun t name table h => by rw [h, Option.elim_some]
  select_missing := fun t name h => by
    refine ⟨_, by rw [h, Option.elim_none, missing_table], ?_⟩
    rintro (hother | hother)
    · have htext := congrArg String.toList (Exc.stop.inj hother)
      simp at htext
    · have hlength := congrArg (fun s => s.toList.length) (Exc.stop.inj hother)
      simp at hlength
  drop := fun t name temporary fail_if_missing =>
    if fail_if_missing && !(t.slot (temporary || t.hidden name) name).isSome then
      .error (unknown_table name)
    else .ok (t.dropped name temporary)
  drop_if_exists := fun _ _ _ => rfl
  create := fun t name _ temporary =>
    if (t.slot temporary name).isSome then .error (table_exists name)
    else .ok (t.put temporary name (some []))
  create_new := fun t name _ temporary h => by rw [h]; rfl
  create_exists := fun t name _ temporary h => if_pos h
  rows
  length_rows
  insert := insert_all accepts
  insert_ok := insert_all_ok accepts
  insert_error := insert_all_error accepts
  reads
  accepts
  reports := true

-- Rows that are all alike
def unconstrained : Dbms Unit :=
  simple_server (fun value => List.replicate value.nrow ()) (fun _ => List.length_replicate)
    (fun _ => ()) fun _ _ => true

def one_row : RFrame where
  names := ["x".toList]
  columns := [{ sexp := .INTSXP [] [1] }]
  nrow := 1
  named := rfl
  rows := by decide

end Example

end RMariaDB.WriteTable
