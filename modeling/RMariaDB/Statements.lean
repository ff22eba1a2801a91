import RMariaDB.Connect
import RMariaDB.Lib.Lexer
import RMariaDB.Quote.RoundTrip
import RMariaDB.Quote.Strings
import RMariaDB.WriteTable.Types

-- The statements that the package writes itself, as the server reads them: names and strings of the
-- user are one token each, whatever is in them.

namespace RMariaDB.Statements

open Lexer WriteTable

section Rules

-- Within backticks, over bytes
def identifierRules : Quoted.Rules UInt8 := { mark := 96 }

def is_space (b : UInt8) : Bool := b = 32 || (9 ≤ b && b ≤ 13)

-- Letters, digits, _ and $, and what is not ASCII
def is_word (b : UInt8) : Bool :=
  (97 ≤ b && b ≤ 122) || (65 ≤ b && b ≤ 90) || (48 ≤ b && b ≤ 57) || b = 95 || b = 36 || 128 ≤ b

-- ( ) * , . = @
def is_symbol (b : UInt8) : Bool := b ∈ [40, 41, 42, 44, 46, 61, 64]

-- The rest, which begins comments, operators, numbers with a sign and strings in double quotes, is
-- not understood here.
def kind (mode : Bool) (b : UInt8) : Kind UInt8 :=
  if is_space b then .space
  else if is_word b then .word
  else if is_symbol b then .symbol
  else if b = 96 then .mark identifierRules
  else if b = 39 then .mark (Quote.stringRules mode)
  else .unknown

theorem kind_closes (mode : Bool) (b : UInt8) (r : Quoted.Rules UInt8) (h : kind mode b = .mark r) :
    r.mark = b := by
  unfold kind at h
  split_ifs at h with _ _ _ hidentifier hstring
  · cases h
    exact hidentifier.symm
  · cases h
    exact hstring.symm

-- The lexical rules of the server, with or without NO_BACKSLASH_ESCAPES
def rules (mode : Bool) : Rules UInt8 := ⟨kind mode, kind_closes mode⟩

end Rules

section Tokens

def word (w : String) : Token UInt8 := .word (utf8 w.toList)

def words (ws : List String) : List (Token UInt8) := ws.map word

def symbol (c : Char) : Token UInt8 := .symbol (UInt8.ofNat c.toNat)

-- A name of the user, and a string
def name (x : Text) : Token UInt8 := .quoted 96 (utf8 x)

def string (x : Bytes) : Token UInt8 := .quoted 39 x

end Tokens

section Requests

-- A quoted string, and the string that it is a literal for
structure Literal (mode : Bool) where
  text : Text
  value : Bytes
  literal : Quoted.literal (Quote.stringRules mode) (utf8 text) = some value

-- What the package asks the server for, apart from the statements of the user and the templates of
-- DBI
inductive Request (mode : Bool) where
  | select_null (table : Text)
  | count (table : Text)
  | drop (table : Text) (temporary fail_if_missing : Bool)
  | load_data (path : Literal mode) (table : Text) (value : RFrame)
  | load_file (format : Functions.FileFormat) (table : Text) (path sep quote eol : Literal mode)
  | read_table (table : Text)
  | list_tables
  | list_all
  | list_schemas (schemas : List (Literal mode))
  | set_time_zone (timezone : Literal mode)
  | session_time_zone
  | autocommit

variable {mode : Bool} (client : WriteTable.Client)

def Request.sql : Request mode → Text
  | select_null table => (Statement.select_null table).sql client.dbi
  | count table => (Statement.count table).sql client.dbi
  | drop table temporary fail_if_missing =>
      (Statement.drop table temporary fail_if_missing).sql client.dbi
  | load_data path table value => (Statement.load_data path.text table value).sql client.dbi
  | load_file format table path sep quote eol =>
      Functions.load_file_sql client format path.text table sep.text quote.text eol.text
  | read_table table => Functions.read_table_sql table
  | list_tables => Functions.list_tables_sql
  | list_all => Functions.list_all_sql
  | list_schemas schemas => Functions.list_schemas_sql (schemas.map Literal.text)
  | set_time_zone timezone => Connect.set_time_zone_sql timezone.text
  | session_time_zone => Connect.session_time_zone_sql
  | autocommit => Connect.autocommit_sql

-- A field of a line goes to a column or to a variable.
def target : Table.Target → List (Token UInt8)
  | .column x => [name x]
  | .variable k => [symbol '@', word ("X" ++ toString k)]

def assignment (x : Text × Nat) : List (Token UInt8) :=
  [name x.1, symbol '=', word "UNHEX", symbol '(', symbol '@', word ("X" ++ toString x.2), symbol ')']

def assignments (set : List (Text × Nat)) : List (Token UInt8) :=
  if set = [] then [] else word "SET" :: [symbol ','].intercalate (set.map assignment)

def load_data (path : Bytes) (table : Text) (statement : Table.LoadData) : List (Token UInt8) :=
  words ["LOAD", "DATA", "LOCAL", "INFILE"] ++ [string path] ++ words ["IGNORE", "INTO", "TABLE"] ++
    [name table] ++ words ["CHARACTER", "SET", "utf8mb4"] ++ [symbol '('] ++
    [symbol ','].intercalate (statement.targets.map target) ++ [symbol ')'] ++ assignments statement.set

def load_file (path sep quote eol : Bytes) (table ignored : Text) : List (Token UInt8) :=
  words ["LOAD", "DATA", "LOCAL", "INFILE"] ++ [string path] ++ words ["INTO", "TABLE"] ++ [name table] ++
    words ["FIELDS", "TERMINATED", "BY"] ++ [string sep] ++
    words ["OPTIONALLY", "ENCLOSED", "BY"] ++ [string quote] ++
    words ["LINES", "TERMINATED", "BY"] ++ [string eol] ++
    words ["IGNORE"] ++ [.word (utf8 ignored)] ++ words ["LINES"]

def null_as (x : String) : List (Token UInt8) := [word "NULL", word "AS", name x.toList]

def tables_query : List (Token UInt8) :=
  words ["SELECT", "table_name", "FROM", "INFORMATION_SCHEMA"] ++ [symbol '.'] ++
    words ["tables", "WHERE", "table_schema"] ++ [symbol '=', word "DATABASE", symbol '(', symbol ')']

def all_query : List (Token UInt8) :=
  words ["SELECT"] ++ null_as "schema" ++ [symbol ','] ++ words ["table_name", "AS"] ++
    [name "table".toList] ++ words ["FROM", "INFORMATION_SCHEMA"] ++ [symbol '.'] ++
    words ["tables", "WHERE", "table_schema"] ++ [symbol '=', word "DATABASE", symbol '(', symbol ')'] ++
    words ["UNION", "ALL", "SELECT", "DISTINCT", "table_schema", "AS"] ++ [name "schema".toList] ++
    [symbol ','] ++ null_as "table" ++ words ["FROM", "INFORMATION_SCHEMA"] ++ [symbol '.'] ++
    words ["tables"]

def zone_query : List (Token UInt8) :=
  [word "SELECT", symbol '@', symbol '@', word "SESSION", symbol '.', word "time_zone"]

def schemas_query : List (Token UInt8) :=
  words ["SELECT", "table_schema", "AS"] ++ [name "schema".toList, symbol ','] ++
    words ["table_name", "AS"] ++ [name "table".toList] ++ words ["FROM", "INFORMATION_SCHEMA"] ++
    [symbol '.'] ++ words ["tables", "WHERE"] ++ [symbol '('] ++ words ["table_schema", "IN"] ++ [symbol '(']

-- What the server is to read
def Request.tokens : Request mode → List (Token UInt8)
  | select_null table => words ["SELECT", "NULL", "FROM"] ++ [name table] ++ words ["WHERE", "FALSE"]
  | count table =>
      words ["SELECT", "COUNT"] ++ [symbol '(', symbol '*', symbol ')', word "FROM"] ++ [name table]
  | drop table temporary fail_if_missing =>
      words ["DROP"] ++ words (if temporary then ["TEMPORARY"] else []) ++ words ["TABLE"] ++
        words (if fail_if_missing then [] else ["IF", "EXISTS"]) ++ [name table]
  | load_data path table value => Statements.load_data path.value table (Table.load_data value)
  | load_file format table path sep quote eol =>
      Statements.load_file path.value sep.value quote.value eol.value table
        (Functions.ignored client format)
  | read_table table => [word "SELECT", symbol '*', word "FROM"] ++ [name table]
  | list_tables => tables_query
  | list_all => all_query
  | list_schemas schemas =>
      schemas_query ++ [symbol ','].intercalate (schemas.map fun x => [string x.value]) ++
        [symbol ')', symbol ')']
  | set_time_zone timezone => words ["SET", "time_zone"] ++ [symbol '='] ++ [string timezone.value]
  | session_time_zone => zone_query
  | autocommit => words ["SET", "autocommit"] ++ [symbol '=', word "0"]

end Requests

end RMariaDB.Statements
