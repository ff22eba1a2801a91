import RMariaDB.Connect

-- The handle of a connection attempt: the order of its calls, and what they ask of TLS.

namespace RMariaDB.Connect

open Program

section Phases

-- How far the calls on one handle have come
inductive Phase where
  | unborn
  | configuring
  | attempted
  | closed
deriving DecidableEq, Repr

-- Options come before the one attempt to connect, and nothing after the close.
def Phase.next : Phase → HandleCall → Option Phase
  | .unborn, .mysql_init => some .configuring
  | .configuring, .mysql_options _ => some .configuring
  | .configuring, .mysql_ssl_set _ _ _ _ _ => some .configuring
  | .configuring, .mysql_real_connect _ => some .attempted
  | .configuring, .mysql_close => some .closed
  | .attempted, .mysql_close => some .closed
  | _, _ => none

def phase (calls : List HandleCall) : Option Phase := calls.foldlM Phase.next .unborn

theorem phase_append (calls : List HandleCall) (c : HandleCall) :
    phase (calls ++ [c]) = (phase calls).bind (Phase.next · c) := by
  simp [phase, List.foldlM_append]

end Phases

section Security

-- What the client library insists on: an encrypted connection, and the identity of the server
structure Tls where
  required : Bool := false
  verified : Bool := false
deriving DecidableEq, Repr

def Tls.set (t : Tls) : HandleCall → Tls
  | .mysql_options (.MYSQL_OPT_SSL_MODE .SSL_MODE_REQUIRED) => ⟨true, false⟩
  | .mysql_options (.MYSQL_OPT_SSL_MODE .SSL_MODE_VERIFY_IDENTITY) => ⟨true, true⟩
  | .mysql_options (.MYSQL_OPT_SSL_ENFORCE b) => { t with required := b }
  | .mysql_options (.MYSQL_OPT_SSL_VERIFY_SERVER_CERT b) => { t with verified := b }
  | _ => t

def tls (calls : List HandleCall) : Tls := calls.foldl Tls.set {}

def asks (flag client_flag : BitVec 64) : Bool := client_flag &&& flag ≠ 0

-- What client.flag asks for. Only the modes of MySQL 8 make a verified connection an encrypted one,
-- and before 5.7 the library cannot be made to insist on encryption.
def requested (mysql : ClientLibrary) (client_flag : BitVec 64) : Tls where
  required :=
    (50700 ≤ mysql.MYSQL_VERSION_ID && asks CLIENT_SSL client_flag) ||
      (ssl_modes mysql && asks CLIENT_SSL_VERIFY_SERVER_CERT client_flag)
  verified := asks CLIENT_SSL_VERIFY_SERVER_CERT client_flag

-- What the two options change
def Tls.require (mysql : ClientLibrary) (t : Tls) : Tls :=
  if ssl_modes mysql then ⟨true, false⟩
  else if 50700 ≤ mysql.MYSQL_VERSION_ID then { t with required := true } else t

def Tls.verify (mysql : ClientLibrary) (t : Tls) : Tls :=
  if ssl_modes mysql then ⟨true, true⟩ else { t with verified := true }

-- The flags that are left for the server
def passed (client_flag : BitVec 64) : BitVec 64 :=
  client_flag &&& ~~~(CLIENT_SSL ||| CLIENT_SSL_VERIFY_SERVER_CERT)

theorem tls_append (calls : List HandleCall) (c : HandleCall) : tls (calls ++ [c]) = (tls calls).set c := by
  rw [tls, tls, List.foldl_append, List.foldl_cons, List.foldl_nil]

end Security

variable {mysql : ClientLibrary} {α : Type} {t : Tls}

section Strings

-- An error of an argument is an error of R.
def Stops (x : Except Exc α) : Prop := ∀ e, x = .error e → e.Ends = false

theorem as_string_stops (x : SEXP) : Stops (as_string x) := by
  intro e he
  unfold as_string at he
  split at he
  · cases he
  · cases he
  · cases he
    rfl

theorem c_str_stops (x : Option SEXP) : Stops (c_str x) := by
  intro e he
  cases x with
  | none => cases he
  | some x =>
      cases hx : as_string x with
      | ok s =>
          rw [c_str, hx] at he
          cases he
      | error e' =>
          rw [c_str, hx] at he
          cases he
          exact as_string_stops x e hx

end Strings

section Configuring

-- While the options are set
structure Configuring (t : Tls) (s : Connecting) : Prop where
  open_ : s.pConn_ = true
  phase : phase s.calls = some .configuring
  tls : tls s.calls = t

-- What an exception leaves: a handle that is still to be closed
structure Left (e : Exc) (s : Connecting) : Prop where
  ends : e.Ends = false
  open_ : s.pConn_ = true
  phase : phase s.calls = some .configuring

theorem Configuring.left {s : Connecting} (h : Configuring t s) {e : Exc} (hends : e.Ends = false) :
    Left e s := ⟨hends, h.open_, h.phase⟩

abbrev Sets (t t' : Tls) (m : EStateM Exc Connecting α) : Prop :=
  Spec (Configuring t) m (fun _ => Configuring t') Left

theorem on_handle_sets {c : HandleCall} (hc : Phase.next .configuring c = some .configuring) :
    Sets t (t.set c) (on_handle c) := by
  intro s hs
  simp only [on_handle, EStateM.run_bind, EStateM.run_get, hs.open_, if_true]
  refine ⟨hs.open_, ?_, ?_⟩
  · rw [phase_append, hs.phase]
    exact hc
  · rw [tls_append, hs.tls]

theorem mysql_options_sets (o : Opt) : Sets t (t.set (.mysql_options o)) (mysql_options o) :=
  on_handle_sets rfl

theorem pure_sets (a : α) : Sets t t (pure a) := Spec.pure fun _ hs => hs

theorem liftM_sets {x : Except Exc α} (hx : Stops x) :
    Sets t t (liftM x : EStateM Exc Connecting α) := by
  cases x with
  | ok a => exact Spec.pure fun _ hs => hs
  | error e => exact Spec.throw fun _ hs => hs.left (hx e rfl)

theorem as_string_sets (x : SEXP) : Sets t t (liftM (as_string x) : EStateM Exc Connecting Bytes) :=
  liftM_sets (as_string_stops x)

theorem c_str_sets (x : Option SEXP) :
    Sets t t (liftM (c_str x) : EStateM Exc Connecting (Option Bytes)) := liftM_sets (c_str_stops x)

-- The other options say nothing of TLS.
def Plain (o : Opt) : Prop := ∀ t : Tls, t.set (.mysql_options o) = t

theorem plain_sets {o : Opt} (ho : Plain o) : Sets t t (mysql_options o) := by
  have h := mysql_options_sets (t := t) o
  rwa [ho t] at h

theorem option_if_sets (x : Option SEXP) {o : Bytes → Opt} (ho : ∀ s, Plain (o s)) :
    Sets t t (option_if x o) := by
  cases x with
  | none => exact pure_sets ()
  | some x => exact Spec.bind (as_string_sets x) fun s => plain_sets (ho s)

theorem require_ssl_sets (a : Arguments) : Sets t (t.require mysql) (require_ssl mysql a) := by
  unfold require_ssl Tls.require
  split
  · exact mysql_options_sets _
  · split
    · exact mysql_options_sets _
    · refine Spec.bind (c_str_sets _) fun key => Spec.bind (c_str_sets _) fun cert => ?_
      refine Spec.bind (c_str_sets _) fun ca => Spec.bind (c_str_sets _) fun capath => ?_
      exact Spec.bind (c_str_sets _) fun cipher => on_handle_sets rfl

theorem verify_server_cert_sets : Sets t (t.verify mysql) (verify_server_cert mysql) := by
  unfold verify_server_cert Tls.verify
  split
  · exact mysql_options_sets _
  · exact mysql_options_sets _

theorem and_not_of_and_eq_zero {w : Nat} {x flag : BitVec w} (h : x &&& flag = 0) :
    x &&& ~~~flag = x := by
  ext i hi
  have hbit := congrArg (fun y : BitVec w => y[i]) h
  simp only [BitVec.getElem_and, BitVec.getElem_not, BitVec.ofNat_eq_ofNat, BitVec.getElem_zero]
    at hbit ⊢
  cases hx : x[i] with
  | false => rfl
  | true =>
      rw [hx, Bool.true_and] at hbit
      rw [hbit]
      rfl

theorem take_flag_sets {t' : Tls} (flag client_flag : BitVec 64) {m : EStateM Exc Connecting Unit}
    (hm : Sets t t' m) : Spec (Configuring t) (take_flag flag client_flag m)
      (fun left s => left = client_flag &&& ~~~flag ∧
        Configuring (if asks flag client_flag then t' else t) s) Left := by
  unfold take_flag asks
  by_cases hflag : client_flag &&& flag = 0
  · simp only [hflag, ne_eq, not_true, if_false, decide_false, Bool.false_eq_true]
    exact Spec.pure fun s hs => ⟨(and_not_of_and_eq_zero hflag).symm, hs⟩
  · simp only [hflag, ne_eq, not_false_eq_true, if_true, decide_true]
    exact hm.bind fun _ => Spec.pure fun s hs => ⟨rfl, hs⟩

theorem ssl_files_sets (a : Arguments) : Sets t t (ssl_files mysql a) := by
  unfold ssl_files
  split
  · refine Spec.bind (option_if_sets _ fun _ _ => rfl) fun _ => ?_
    refine Spec.bind (option_if_sets _ fun _ _ => rfl) fun _ => ?_
    refine Spec.bind (option_if_sets _ fun _ _ => rfl) fun _ => ?_
    exact Spec.bind (option_if_sets _ fun _ _ => rfl) fun _ => option_if_sets _ fun _ _ => rfl
  · exact pure_sets ()

end Configuring

section Attempts

-- The attempt to connect, after everything was set that the flags ask for
structure Attempted (mysql : ClientLibrary) (a : Arguments) (before : List HandleCall)
    (endpoint : Endpoint) : Prop where
  configured : phase before = some .configuring
  tls : tls before = requested mysql a.client_flag
  client_flag : endpoint.client_flag = passed a.client_flag

-- A handle that is connected
structure Reached (mysql : ClientLibrary) (a : Arguments) (s : Connecting) : Prop where
  open_ : s.pConn_ = true
  attempt : ∃ before endpoint, s.calls = before ++ [.mysql_real_connect endpoint] ∧
    Attempted mysql a before endpoint ∧ mysql.real_connect before endpoint = .ok ()

def refusal (f : Failure) : Exc := .stop ("Failed to connect: " ++ f.error ++ hint f.errno)

-- A handle that was closed after an attempt, or before there was one
structure GivenUp (mysql : ClientLibrary) (a : Arguments) (e : Exc) (s : Connecting) : Prop where
  ends : e.Ends = false
  closed : s.pConn_ = false
  calls : (∃ before, s.calls = before ++ [.mysql_close] ∧ phase before = some .configuring) ∨
    ∃ before endpoint f, s.calls = before ++ [.mysql_real_connect endpoint, .mysql_close] ∧
      Attempted mysql a before endpoint ∧ mysql.real_connect before endpoint = .error f ∧ e = refusal f

theorem real_connect_reaches (a : Arguments) {client_flag : BitVec 64}
    (hflag : client_flag = passed a.client_flag) :
    Spec (Configuring (requested mysql a.client_flag)) (real_connect mysql a client_flag)
      (fun _ => Reached mysql a) fun e s => Left e s ∨ GivenUp mysql a e s := by
  have hleft (x : Option SEXP) : Spec (Configuring (requested mysql a.client_flag))
      (liftM (c_str x) : EStateM Exc Connecting (Option Bytes))
      (fun _ => Configuring (requested mysql a.client_flag)) fun e s => Left e s ∨ GivenUp mysql a e s :=
    (c_str_sets x).mono (fun _ => id) (fun _ _ => id) fun _ _ => .inl
  refine Spec.bind (hleft _) fun host => Spec.bind (hleft _) fun user => ?_
  refine Spec.bind (hleft _) fun password => Spec.bind (hleft _) fun db => ?_
  refine Spec.bind (hleft _) fun unix_socket => fun s hs => ?_
  have hattempted : Attempted mysql a s.calls
      ⟨host, user, password, db, a.port, unix_socket, client_flag⟩ := ⟨hs.phase, hs.tls, hflag⟩
  simp only [on_handle, record, EStateM.run_bind, EStateM.run_get, hs.open_, if_true, EStateM.run_modify]
  cases hanswer : mysql.real_connect s.calls
      ⟨host, user, password, db, a.port, unix_socket, client_flag⟩ with
  | ok _ => exact ⟨rfl, _, _, rfl, hattempted, hanswer⟩
  | error f =>
      simp only [EStateM.run_bind, EStateM.run_get, EStateM.run_modify, if_true, set_pConn, run_throw]
      refine .inr ⟨rfl, rfl, .inr ⟨_, _, f, ?_, hattempted, hanswer, rfl⟩⟩
      rw [List.append_assoc]
      rfl

theorem asks_verify (client_flag : BitVec 64) :
    asks CLIENT_SSL_VERIFY_SERVER_CERT (client_flag &&& ~~~CLIENT_SSL) =
      asks CLIENT_SSL_VERIFY_SERVER_CERT client_flag := by
  have hother : ~~~CLIENT_SSL &&& CLIENT_SSL_VERIFY_SERVER_CERT = CLIENT_SSL_VERIFY_SERVER_CERT := by
    decide
  rw [asks, BitVec.and_assoc, hother, asks]

theorem passed_eq (client_flag : BitVec 64) :
    client_flag &&& ~~~CLIENT_SSL &&& ~~~CLIENT_SSL_VERIFY_SERVER_CERT = passed client_flag := by
  rw [BitVec.and_assoc]
  rfl

-- The ways in which the flags are put into options ask for the same.
theorem requested_eq (client_flag : BitVec 64) {t : Tls}
    (ht : t = if asks CLIENT_SSL client_flag then Tls.require mysql {} else {}) :
    (if asks CLIENT_SSL_VERIFY_SERVER_CERT (client_flag &&& ~~~CLIENT_SSL) then t.verify mysql else t) =
      requested mysql client_flag := by
  have hmodes : ssl_modes mysql = true → 50700 ≤ mysql.MYSQL_VERSION_ID := by
    intro h
    simp only [ssl_modes, decide_eq_true_eq] at h
    omega
  rw [asks_verify, ht]
  cases hssl : asks CLIENT_SSL client_flag <;>
    cases hverify : asks CLIENT_SSL_VERIFY_SERVER_CERT client_flag <;>
    cases hmode : ssl_modes mysql <;>
    simp [Tls.require, Tls.verify, requested, hssl, hverify, hmode, hmodes]
  all_goals split <;> simp [*]

theorem set_options_sets (a : Arguments) : Spec (Configuring {}) (set_options mysql a)
    (fun client_flag s => client_flag = passed a.client_flag ∧
      Configuring (requested mysql a.client_flag) s) Left := by
  refine Spec.bind (plain_sets fun _ => rfl) fun _ => Spec.bind (plain_sets fun _ => rfl) fun _ => ?_
  refine Spec.bind (option_if_sets _ fun _ _ => rfl) fun _ => ?_
  refine Spec.bind (option_if_sets _ fun _ _ => rfl) fun _ => ?_
  refine Spec.bind (take_flag_sets _ _ (require_ssl_sets a)) fun client_flag s hs => ?_
  obtain ⟨rfl, hs⟩ := hs
  have hpassed := passed_eq a.client_flag
  have hrequested := @requested_eq mysql a.client_flag _ rfl
  revert s
  refine Spec.bind (take_flag_sets _ _ verify_server_cert_sets) fun client_flag s hs => ?_
  obtain ⟨rfl, hs⟩ := hs
  rw [hpassed]
  rw [hrequested] at hs
  revert s
  refine Spec.bind (ssl_files_sets a) fun _ => ?_
  refine Spec.bind (Spec.ite (fun _ => plain_sets fun _ => rfl) fun _ => pure_sets ()) fun _ => ?_
  refine Spec.bind (Spec.ite (fun _ => plain_sets fun _ => rfl) fun _ => pure_sets ()) fun _ => ?_
  exact Spec.pure fun s hs => ⟨rfl, hs⟩

variable (hinit : mysql.init = true)

include hinit

theorem connect_reaches (a : Arguments) : Spec (fun s => s.calls = []) (connect mysql a)
    (fun _ => Reached mysql a) fun e s => Left e s ∨ GivenUp mysql a e s := by
  intro s hs
  have hrun : (connect mysql a).run s = (set_options mysql a >>= real_connect mysql a).run
      ⟨mysql.init, s.calls ++ [.mysql_init], s.warnings⟩ := rfl
  rw [hrun, hinit, hs]
  have hset : Spec (Configuring {}) (set_options mysql a)
      (fun client_flag s => client_flag = passed a.client_flag ∧
        Configuring (requested mysql a.client_flag) s) fun e s => Left e s ∨ GivenUp mysql a e s :=
    (set_options_sets a).mono (fun _ => id) (fun _ _ => id) fun _ _ => .inl
  exact Spec.bind hset (fun client_flag s hs => real_connect_reaches a hs.1 s hs.2) _ ⟨rfl, rfl, rfl⟩

omit hinit

theorem delete_closes (a : Arguments) (e : Exc) :
    Spec (fun s => Left e s ∨ GivenUp mysql a e s) delete (fun _ => GivenUp mysql a e)
      fun _ _ => False := by
  intro s hs
  rcases hs with hs | hs
  · simp only [delete, on_handle, record, set_pConn, EStateM.run_bind, EStateM.run_get,
      EStateM.run_modify, hs.open_, if_true]
    exact ⟨hs.ends, rfl, .inl ⟨_, rfl, hs.phase⟩⟩
  · simp only [delete, EStateM.run_bind, EStateM.run_get, hs.closed]
    exact hs

include hinit

theorem connection_create_reaches (a : Arguments) : Spec (fun s => s.calls = [])
    (connection_create mysql a) (fun _ => Reached mysql a) (GivenUp mysql a) := by
  apply Spec.onError (connect_reaches hinit a)
  · intro e s hends hs
    have hnot : e.Ends = false := hs.elim Left.ends GivenUp.ends
    rw [hends] at hnot
    cases hnot
  · intro e _
    exact (delete_closes a e).mono (fun _ => id) (fun _ _ => id) fun _ _ => False.elim

omit hinit

-- Without memory for a handle, the first option is set on none.
theorem connection_create_null (hnone : mysql.init = false) (a : Arguments) (s : Connecting) :
    ∃ t, (connection_create mysql a).run s = .error (.fault .handle) t := by
  refine ⟨⟨false, s.calls ++ [.mysql_init], s.warnings⟩, run_onError_fatal ?_ rfl⟩
  simp [connect, set_options, mysql_options, on_handle, record, set_pConn, hnone]

-- A handle is connected in one attempt, after all that its options and flags ask of TLS was set;
-- if it is not, it was closed, once and last.
theorem handle_of_connection_create (mysql : ClientLibrary) (a : Arguments) :
    match (connection_create mysql a).run {} with
    | .ok _ s => Reached mysql a s
    | .error e s => mysql.init = false ∧ e = .fault .handle ∨ GivenUp mysql a e s := by
  cases hinit : mysql.init with
  | true =>
      have h := connection_create_reaches hinit a {} rfl
      cases hrun : (connection_create mysql a).run {} with
      | ok _ s =>
          rw [hrun] at h
          exact h
      | error e s =>
          rw [hrun] at h
          exact .inr h
  | false =>
      obtain ⟨t, hrun⟩ := connection_create_null hinit a {}
      rw [hrun]
      exact .inl ⟨rfl, rfl⟩

end Attempts

end RMariaDB.Connect
