import RMariaDB.RTypes

namespace RMariaDB

inductive enum_field_types where
  | MYSQL_TYPE_TINY
  | MYSQL_TYPE_SHORT
  | MYSQL_TYPE_LONG
  | MYSQL_TYPE_INT24
  | MYSQL_TYPE_YEAR
  | MYSQL_TYPE_LONGLONG
  | MYSQL_TYPE_DECIMAL
  | MYSQL_TYPE_NEWDECIMAL
  | MYSQL_TYPE_FLOAT
  | MYSQL_TYPE_DOUBLE
  | MYSQL_TYPE_TIMESTAMP
  | MYSQL_TYPE_DATETIME
  | MYSQL_TYPE_NEWDATE
  | MYSQL_TYPE_DATE
  | MYSQL_TYPE_TIME
  | MYSQL_TYPE_BIT
  | MYSQL_TYPE_ENUM
  | MYSQL_TYPE_STRING
  | MYSQL_TYPE_VAR_STRING
  | MYSQL_TYPE_VARCHAR
  | MYSQL_TYPE_JSON
  | MYSQL_TYPE_BLOB
  | MYSQL_TYPE_TINY_BLOB
  | MYSQL_TYPE_MEDIUM_BLOB
  | MYSQL_TYPE_LONG_BLOB
  | MYSQL_TYPE_SET
  | MYSQL_TYPE_GEOMETRY
  | MYSQL_TYPE_NULL
  | other (code : Nat)
deriving DecidableEq, Repr

inductive MariaFieldType where
  | MY_INT32
  | MY_INT64
  | MY_DBL
  | MY_STR
  | MY_DATE
  | MY_DATE_TIME
  | MY_TIME
  | MY_RAW
  | MY_LGL
deriving DecidableEq, Repr

-- The first enumerator, with which resize() fills a vector.
instance : Inhabited MariaFieldType := ⟨.MY_INT32⟩

open enum_field_types MariaFieldType

def variable_type_from_field_type (type : enum_field_types) (binary length1 : Bool) :
    MariaFieldType :=
  match type with
  | MYSQL_TYPE_TINY | MYSQL_TYPE_SHORT | MYSQL_TYPE_LONG | MYSQL_TYPE_INT24 | MYSQL_TYPE_YEAR =>
      MY_INT32
  | MYSQL_TYPE_LONGLONG => MY_INT64
  | MYSQL_TYPE_DECIMAL | MYSQL_TYPE_NEWDECIMAL | MYSQL_TYPE_FLOAT | MYSQL_TYPE_DOUBLE => MY_DBL
  | MYSQL_TYPE_TIMESTAMP | MYSQL_TYPE_DATETIME | MYSQL_TYPE_NEWDATE => MY_DATE_TIME
  | MYSQL_TYPE_DATE => MY_DATE
  | MYSQL_TYPE_TIME => MY_TIME
  | MYSQL_TYPE_BIT =>
      if length1 then MY_LGL
      -- fallthrough
      else if binary then MY_RAW else MY_STR
  | MYSQL_TYPE_ENUM | MYSQL_TYPE_STRING | MYSQL_TYPE_VAR_STRING | MYSQL_TYPE_VARCHAR =>
      if binary then MY_RAW else MY_STR
  | MYSQL_TYPE_JSON => MY_STR
  | MYSQL_TYPE_BLOB | MYSQL_TYPE_TINY_BLOB | MYSQL_TYPE_MEDIUM_BLOB | MYSQL_TYPE_LONG_BLOB =>
      if binary then MY_RAW else MY_STR
  | MYSQL_TYPE_SET => MY_STR
  | MYSQL_TYPE_GEOMETRY => MY_RAW
  | MYSQL_TYPE_NULL => MY_INT32
  | other _ => MY_STR

-- The warning of the default branch above.
def unrecognized_field_type : enum_field_types → Option String
  | other code => some ("unrecognized field type " ++ toString code ++ " imported as character")
  | _ => none

def type_name : MariaFieldType → String
  | MY_INT32 => "integer"
  | MY_INT64 => "integer64"
  | MY_DBL => "double"
  | MY_STR => "string"
  | MY_DATE => "Date"
  | MY_DATE_TIME => "POSIXct"
  | MY_TIME => "hms"
  | MY_RAW => "raw"
  | MY_LGL => "logical"

inductive SEXPTYPE where
  | LGLSXP
  | INTSXP
  | REALSXP
  | STRSXP
  | VECSXP
deriving DecidableEq, Repr

def INT64SXP : SEXPTYPE := .REALSXP

def type_sexp : MariaFieldType → SEXPTYPE
  | MY_INT32 => .INTSXP
  | MY_INT64 => INT64SXP
  | MY_DBL => .REALSXP
  | MY_STR => .STRSXP
  | MY_DATE => .REALSXP
  | MY_DATE_TIME => .REALSXP
  | MY_TIME => .REALSXP
  | MY_RAW => .VECSXP
  | MY_LGL => .LGLSXP

-- The last class of the class attribute.
def r_class (x : SEXP) : String := x.klass.getLast?.getD ""

def all_raw (x : List VecElt) : Bool :=
  x.all fun
    | .RAWSXP _ | .NILSXP => true
    | .other _ => false

def unsupported {α : Type} (x : SEXP) : Except Exc α :=
  .error (.stop ("Unsupported column type " ++ x.typeName))

def variable_type_from_object (x : SEXP) : Except Exc MariaFieldType :=
  let klass := r_class x
  match x with
  | .LGLSXP _ _ => .ok MY_LGL
  | .INTSXP _ _ => .ok MY_INT32
  | .REALSXP _ _ =>
      if klass = "Date" then .ok MY_DATE
      else if klass = "POSIXt" then .ok MY_DATE_TIME
      else if klass = "difftime" then .ok MY_TIME
      else if klass = "integer64" then .ok MY_INT64
      else .ok MY_DBL
  | .STRSXP _ _ => .ok MY_STR
  | .VECSXP _ v =>
      if klass = "blob" then .ok MY_RAW
      else if all_raw v then .ok MY_RAW
      else unsupported x
  | .other _ _ _ => unsupported x

end RMariaDB
