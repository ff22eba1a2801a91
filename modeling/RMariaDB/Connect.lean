import Mathlib.Data.BitVec
import RMariaDB.Functions
import RMariaDB.Timezone

-- dbConnect(): the options of the handle, the connection, and what is sent first.

namespace RMariaDB.Connect

open Program World

section Handle

inductive SslMode where
  | SSL_MODE_REQUIRED
  | SSL_MODE_VERIFY_IDENTITY
deriving DecidableEq, Repr

-- An option of mysql_options() and its value
inductive Opt where
  | MYSQL_OPT_LOCAL_INFILE (local_infile : Nat)
  | MYSQL_SET_CHARSET_NAME (name : String)
  | MYSQL_READ_DEFAULT_GROUP (group : Bytes)
  | MYSQL_READ_DEFAULT_FILE (file : Bytes)
  | MYSQL_OPT_SSL_MODE (mode : SslMode)
  | MYSQL_OPT_SSL_ENFORCE (use_ssl : Bool)
  | MYSQL_OPT_SSL_VERIFY_SERVER_CERT (verify_server_cert : Bool)
  | MYSQL_OPT_SSL_KEY (key : Bytes)
  | MYSQL_OPT_SSL_CERT (cert : Bytes)
  | MYSQL_OPT_SSL_CA (ca : Bytes)
  | MYSQL_OPT_SSL_CAPATH (capath : Bytes)
  | MYSQL_OPT_SSL_CIPHER (cipher : Bytes)
  | MYSQL_OPT_CONNECT_TIMEOUT (timeout : ℤ)
  | MYSQL_OPT_RECONNECT (reconnect : Bool)
deriving DecidableEq, Repr

-- Where mysql_real_connect() connects to, and how
structure Endpoint where
  host : Option Bytes
  user : Option Bytes
  password : Option Bytes
  db : Option Bytes
  port : Nat
  unix_socket : Option Bytes
  client_flag : BitVec 64
deriving DecidableEq, Repr

-- The calls of the client library on the handle of a connection
inductive HandleCall where
  | mysql_init
  | mysql_options (o : Opt)
  | mysql_ssl_set (key cert ca capath cipher : Option Bytes)
  | mysql_real_connect (endpoint : Endpoint)
  | mysql_close
deriving DecidableEq, Repr

-- The client library: its version, whether it has memory for a handle, and what comes of an attempt
-- to connect after the calls that were made before.
structure ClientLibrary where
  MYSQL_VERSION_ID : Nat
  init : Bool
  real_connect : List HandleCall → Endpoint → Except Failure Unit

-- A connection object that is being connected
structure Connecting where
  pConn_ : Bool := false
  calls : List HandleCall := []
  warnings : List String := []
deriving DecidableEq, Repr

def record (c : HandleCall) : EStateM Exc Connecting Unit :=
  modify fun s => { s with calls := s.calls ++ [c] }

-- A call on the handle, which is not to be NULL
def on_handle (c : HandleCall) : EStateM Exc Connecting Unit := do
  let s ← get
  if s.pConn_ then record c else throw (.fault .handle)

def mysql_options (o : Opt) : EStateM Exc Connecting Unit := on_handle (.mysql_options o)

def set_pConn (b : Bool) : EStateM Exc Connecting Unit := modify fun s => { s with pConn_ := b }

end Handle

section Arguments

-- cpp11::as_cpp<std::string>(x)
def as_string : SEXP → Except Exc Bytes
  | .STRSXP _ [some s] => .ok s
  | .STRSXP _ [none] => .ok [78, 65]
  | _ => .error (.stop "Expected string vector of length 1")

-- Rf_isNull(x) ? NULL : cpp11::as_cpp<std::string>(x).c_str()
def c_str : Option SEXP → Except Exc (Option Bytes)
  | none => .ok none
  | some x => some <$> as_string x

-- What connection_create() is given. NULL is none.
structure Arguments where
  host : Option SEXP := none
  user : Option SEXP := none
  password : Option SEXP := none
  db : Option SEXP := none
  port : Nat := 0
  unix_socket : Option SEXP := none
  client_flag : BitVec 64 := 0
  group : Option SEXP := none
  default_file : Option SEXP := none
  ssl_key : Option SEXP := none
  ssl_cert : Option SEXP := none
  ssl_ca : Option SEXP := none
  ssl_capath : Option SEXP := none
  ssl_cipher : Option SEXP := none
  timeout : ℤ := 0
  reconnect : Bool := false
deriving DecidableEq, Repr

def CLIENT_SSL : BitVec 64 := 2048

def CLIENT_SSL_VERIFY_SERVER_CERT : BitVec 64 := 1073741824

end Arguments

variable (mysql : ClientLibrary)

section Options

-- MYSQL_VERSION_ID >= 80000 && MYSQL_VERSION_ID < 100000
def ssl_modes : Bool := 80000 ≤ mysql.MYSQL_VERSION_ID ∧ mysql.MYSQL_VERSION_ID < 100000

def option_if (x : Option SEXP) (o : Bytes → Opt) : EStateM Exc Connecting Unit :=
  match x with
  | none => pure ()
  | some x => do
      let s ← as_string x
      mysql_options (o s)

def require_ssl (a : Arguments) : EStateM Exc Connecting Unit :=
  if ssl_modes mysql then
    mysql_options (.MYSQL_OPT_SSL_MODE .SSL_MODE_REQUIRED)
  else if 50700 ≤ mysql.MYSQL_VERSION_ID then
    mysql_options (.MYSQL_OPT_SSL_ENFORCE true)
  else do
    let key ← c_str a.ssl_key
    let cert ← c_str a.ssl_cert
    let ca ← c_str a.ssl_ca
    let capath ← c_str a.ssl_capath
    let cipher ← c_str a.ssl_cipher
    on_handle (.mysql_ssl_set key cert ca capath cipher)

-- With modes there is only one of them, and the later one replaces the earlier one.
def verify_server_cert : EStateM Exc Connecting Unit :=
  if ssl_modes mysql then
    mysql_options (.MYSQL_OPT_SSL_MODE .SSL_MODE_VERIFY_IDENTITY)
  else
    mysql_options (.MYSQL_OPT_SSL_VERIFY_SERVER_CERT true)

-- if (client_flag & flag) { ...; client_flag &= ~flag; }
def take_flag (flag client_flag : BitVec 64) (m : EStateM Exc Connecting Unit) :
    EStateM Exc Connecting (BitVec 64) :=
  if client_flag &&& flag ≠ 0 then do
    m
    pure (client_flag &&& ~~~flag)
  else
    pure client_flag

def ssl_files (a : Arguments) : EStateM Exc Connecting Unit :=
  if 50700 ≤ mysql.MYSQL_VERSION_ID then do
    option_if a.ssl_key .MYSQL_OPT_SSL_KEY
    option_if a.ssl_cert .MYSQL_OPT_SSL_CERT
    option_if a.ssl_ca .MYSQL_OPT_SSL_CA
    option_if a.ssl_capath .MYSQL_OPT_SSL_CAPATH
    option_if a.ssl_cipher .MYSQL_OPT_SSL_CIPHER
  else
    pure ()

end Options

section Connection

def hint (errno : Nat) : String :=
  if errno = 2026 then
    "\nTo suppress this try seting envvar " ++ "MARIADB_TLS_DISABLE_PEER_VERIFICATION=1"
  else ""

def real_connect (a : Arguments) (client_flag : BitVec 64) : EStateM Exc Connecting Unit := do
  let host ← c_str a.host
  let user ← c_str a.user
  let password ← c_str a.password
  let db ← c_str a.db
  let unix_socket ← c_str a.unix_socket
  let endpoint : Endpoint := ⟨host, user, password, db, a.port, unix_socket, client_flag⟩
  let s ← get
  on_handle (.mysql_real_connect endpoint)
  match mysql.real_connect s.calls endpoint with
  | .ok _ => pure ()
  | .error f => do
      on_handle .mysql_close
      set_pConn false
      throw (.stop ("Failed to connect: " ++ f.error ++ hint f.errno))

-- What is set before the attempt; the flags that are left are returned.
def set_options (a : Arguments) : EStateM Exc Connecting (BitVec 64) := do
  mysql_options (.MYSQL_OPT_LOCAL_INFILE 1)
  mysql_options (.MYSQL_SET_CHARSET_NAME "utf8mb4")
  option_if a.group .MYSQL_READ_DEFAULT_GROUP
  option_if a.default_file .MYSQL_READ_DEFAULT_FILE
  let client_flag ← take_flag CLIENT_SSL a.client_flag (require_ssl mysql a)
  let client_flag ← take_flag CLIENT_SSL_VERIFY_SERVER_CERT client_flag (verify_server_cert mysql)
  ssl_files mysql a
  (if a.timeout > 0 then
      mysql_options (.MYSQL_OPT_CONNECT_TIMEOUT a.timeout)
    else
      pure ())
  (if a.reconnect then
      mysql_options (.MYSQL_OPT_RECONNECT true)
    else
      pure ())
  pure client_flag

-- DbConnection::connect
def connect (a : Arguments) : EStateM Exc Connecting Unit := do
  record .mysql_init
  set_pConn mysql.init
  let client_flag ← set_options mysql a
  real_connect mysql a client_flag

-- The destructor. No result is there yet.
def delete : EStateM Exc Connecting Unit := do
  let s ← get
  if s.pConn_ then do
    modify fun s => { s with
      warnings := s.warnings ++ ["call dbDisconnect() when finished working with a connection"] }
    on_handle .mysql_close
    set_pConn false
  else
    pure ()

def connection_create (a : Arguments) : EStateM Exc Connecting Unit :=
  onError Exc.Ends (connect mysql a) delete

end Connection

section Versions

-- What connection_info() says of the server, as far as it is read here
structure Info where
  host : String
  dbname : String
  db_version : String
  db_version_int : ℤ
deriving DecidableEq, Repr

inductive ConnectionClass where
  | MariaDBConnection
  | MySQLConnection
deriving DecidableEq, Repr

-- Behind some digits and the character after them
def past_number (stop : Char) (s : Text) : Option Text :=
  if s.takeWhile Char.isDigit = [] then none
  else match s.dropWhile Char.isDigit with
    | c :: rest => if c = stop then some rest else none
    | [] => none

-- grepl("^5[.][0-9]+[.][0-9]+-.*mariadb", db.version, ignore.case = TRUE)
def built_as_mysql (version : Text) : Bool :=
  match version with
  | '5' :: '.' :: rest =>
      match past_number '.' rest >>= past_number '-' with
      | some rest => (rest.map Char.toLower).tails.any fun s => "mariadb".toList.isPrefixOf s
      | none => false
  | _ => false

-- The argument mysql, or what the version of the server says
def is_mysql (mysql : Option Bool) (info : Info) : Bool :=
  match mysql with
  | some mysql => mysql
  | none =>
      if info.db_version_int ≥ 100000 then false
      else !built_as_mysql info.db_version.toList

end Versions

section Session

-- What dbConnect() is given; the arguments that it passes on unchanged are those of
-- connection_create(). A group that is missing is none.
structure ConnectArgs where
  dbname : Option SEXP := none
  username : Option SEXP := none
  password : Option SEXP := none
  host : Option SEXP := none
  unix_socket : Option SEXP := none
  port : Double := .finite 0
  client_flag : Double := .finite 0
  group : Option (Option SEXP) := none
  default_file : Option SEXP := none
  ssl_key : Option SEXP := none
  ssl_cert : Option SEXP := none
  ssl_ca : Option SEXP := none
  ssl_capath : Option SEXP := none
  ssl_cipher : Option SEXP := none
  groups : Option SEXP := none
  load_data_local_infile : Bool := false
  bigint : Bigint := .integer64
  timeout : Double := .finite 10
  timezone : Option String := some "+00:00"
  timezone_out : Option String := none
  reconnect : Bool := false
  mysql : Option Bool := none

-- The object that it returns
structure Connection where
  klass : ConnectionClass
  host : String
  db : String
  load_data_local_infile : Bool
  bigint : Bigint
  zones : Timezone.Zones
deriving DecidableEq, Repr

-- What the function works with besides its arguments
structure Environment where
  mysql : ClientLibrary
  info : Info
  srv : Server
  client : WriteTable.Client
  lib : Functions.Library
  rlib : RLibrary
  lub : Lubridate rlib
  normalizePath : SEXP → Except Exc SEXP
  -- rlang::is_installed("readr")
  readr : Bool

-- The handle while it is connected, and the connection once it is
structure Session where
  connecting : Connecting := {}
  world : Option World := none

variable {α : Type} (env : Environment)

def onConnecting (m : EStateM Exc Connecting α) : EStateM Exc Session α :=
  zoom Session.connecting (fun t s => { s with connecting := t }) m

-- A call on the connection
def onWorld (m : EStateM Exc World α) : EStateM Exc Session α := do
  let s ← get
  match s.world with
  | none => throw (.fault .memory)
  | some w => zoom (fun _ => w) (fun t s => { s with world := some t }) m

def warn (messages : List String) : EStateM Exc Session Unit :=
  onConnecting (modify fun s => { s with warnings := s.warnings ++ messages })

-- as.integer()
def as_integer : Double → ℤ
  | .finite q =>
      if -2147483647 ≤ CArith.trunc q ∧ CArith.trunc q ≤ 2147483647 then CArith.trunc q else NA_INTEGER
  | _ => NA_INTEGER

def as_timeout : Double → ℤ
  | .Inf | .NegInf => -1
  | x => as_integer x

def normalized (x : Option SEXP) : Except Exc (Option SEXP) :=
  match x with
  | none => .ok none
  | some x => some <$> env.normalizePath x

def default_group : SEXP := .STRSXP [] [some [114, 115, 45, 100, 98, 105]]

def chosen_group (a : ConnectArgs) : Option SEXP :=
  match a.groups, a.group with
  | some groups, none => some groups
  | _, some group => group
  | none, none => some default_group

-- The conversion of an int to unsigned int and to unsigned long
def create_args (a : ConnectArgs) : Except Exc Arguments := do
  let default_file ← normalized env a.default_file
  let ssl_key ← normalized env a.ssl_key
  let ssl_cert ← normalized env a.ssl_cert
  let ssl_ca ← normalized env a.ssl_ca
  let ssl_capath ← normalized env a.ssl_capath
  pure {
    host := a.host
    user := a.username
    password := a.password
    db := a.dbname
    port := (as_integer a.port % 4294967296).toNat
    unix_socket := a.unix_socket
    client_flag := BitVec.ofInt 64 (as_integer a.client_flag)
    group := chosen_group a
    default_file := default_file
    ssl_key := ssl_key
    ssl_cert := ssl_cert
    ssl_ca := ssl_ca
    ssl_capath := ssl_capath
    ssl_cipher := a.ssl_cipher
    timeout := as_timeout a.timeout
    reconnect := a.reconnect }

def dbDisconnect : EStateM Exc Session Unit := do
  let _ ← onWorld (call env.srv .disconnect)
  pure ()

def set_time_zone_sql (quoted : Text) : Text := "SET time_zone = ".toList ++ quoted

def session_time_zone_sql : Text := "SELECT @@SESSION.time_zone".toList

def autocommit_sql : Text := "SET autocommit = 0".toList

def dbExecute (statement : Text) : EStateM Exc Session ℤ :=
  onWorld (Functions.dbExecute env.srv env.client statement none false)

-- dbGetQuery(conn, "SELECT @@SESSION.time_zone")[[1]], which check_tz() compares first
def server_time_zone (fuel : Nat) : EStateM Exc Session String := do
  let df ← onWorld (Functions.dbGetQuery env.srv env.client session_time_zone_sql none
    Functions.all_rows fuel)
  let cell ← only_cell df
  match cell with
  | .str (some s) => pure (String.ofList (env.lib.text s))
  | .str none => throw (.stop "missing value where TRUE/FALSE needed")
  | _ => throw (.stop "invalid time zone")

def choose_time_zone (timezone : Option String) (fuel : Nat) : EStateM Exc Session String :=
  match timezone with
  | some timezone => do
      let quoted ← Functions.dbQuoteString_one env.lib timezone.toList
      let _ ← dbExecute env (set_time_zone_sql quoted)
      pure timezone
  | none => server_time_zone env fuel

-- What is sent before the connection is returned
def set_up (a : ConnectArgs) (fuel : Nat) : EStateM Exc Session Timezone.Zones := do
  let timezone ← choose_time_zone env a.timezone fuel
  let (timezone, warnings) := Timezone.check_tz env.lub "timezone" timezone
  warn warnings
  let (timezone_out, warnings) := Timezone.zone_out env.lub timezone a.timezone_out
  warn warnings
  let _ ← dbExecute env autocommit_sql
  pure ⟨timezone, timezone_out⟩

def dbConnect (a : ConnectArgs) (fuel : Nat) : EStateM Exc Session Connection := do
  let args ← create_args env a
  if a.load_data_local_infile && !env.readr then
    throw (.stop "\x60load_data_local_infile = TRUE\x60 requires the readr package.")
  else do
    (if a.groups.isSome then
        warn ["Argument \x60groups\x60 is deprecated, use \x60group\x60 instead. "]
      else
        pure ())
    onConnecting (connection_create env.mysql args)
    modify fun s => { s with world := some {} }
    let zones ← onError Exc.Ends (set_up env a fuel) (dbDisconnect env)
    pure {
      klass := if is_mysql a.mysql env.info then .MySQLConnection else .MariaDBConnection
      host := env.info.host
      db := env.info.dbname
      load_data_local_infile := a.load_data_local_infile
      bigint := a.bigint
      zones := zones }

end Session

end RMariaDB.Connect
