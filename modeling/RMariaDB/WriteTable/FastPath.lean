import RMariaDB.Table.Lossless
import RMariaDB.WriteTable.Database

-- The two ways in which dbAppendTable() adds rows, on one server.

namespace RMariaDB.WriteTable

open Program

variable {ρ : Type} {dbms : Dbms ρ} {lib : RLibrary} {conn : MariaDBConnection} {name : Text}
  {value : RFrame} {db : Database ρ}

-- The same connection without and with LOAD DATA LOCAL INFILE
def plain (conn : MariaDBConnection) : MariaDBConnection := { conn with load_data_local_infile := false }

section Branches

open RVector

end Branches

section Counting

open CArith

end Counting

section Loading

variable {old new : List ρ} {content : Bytes}

-- A number of rows is not missing.
theorem reported (reports : Bool) (added : Nat) :
    Coerce.double_of_int (if reports then added else 0) =
      .finite ((if reports then added else 0 : ℤ) : ℚ) := by
  rw [Coerce.double_of_int, if_neg]
  unfold NA_INTEGER
  split <;> omega

-- The connection once the file is written
def written (value : RFrame) (content : Bytes) (db : Database ρ) : Database ρ :=
  { db with
    warnings := if value.columns.any RVector.is_factor then
        db.warnings ++ ["Factors converted to character"]
      else db.warnings
    files := Function.update db.files tempfile (some content) }

-- and in the transaction that is opened for it
def begun (value : RFrame) (content : Bytes) (db : Database ρ) : Database ρ :=
  { written value content db with transacting := true }

end Loading

section Main

variable {n : Double} {u : Database ρ}

variable (dbms lib conn name value db)

variable {dbms lib conn name value db}

-- An empty table, within a transaction of the client
def opened : Database Unit where
  tables := ({} : Tables Unit).put false "t".toList (some [])
  transacting := true

end Main

section Keyed

end Keyed

end RMariaDB.WriteTable
