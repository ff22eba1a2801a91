import Mathlib.Data.List.TakeWhile
import RMariaDB.Lib.Quoted
import RMariaDB.RTypes

-- String literals: connection_quote_string().

namespace RMariaDB.Quote

section Literals

-- What a character behind a backslash stands for
def unescaped (b : UInt8) : Bytes :=
  if b = 48 then [0]
  else if b = 98 then [8]
  else if b = 110 then [10]
  else if b = 114 then [13]
  else if b = 116 then [9]
  else if b = 90 then [26]
  -- the wildcards of a pattern keep their backslash
  else if b = 37 ∨ b = 95 then [92, b]
  else [b]

-- The text of a literal, in single quotes
def stringRules (no_backslash_escapes : Bool) : Quoted.Rules UInt8 where
  mark := 39
  escape := if no_backslash_escapes then none else some 92
  escaped := unescaped

theorem escape_ne_mark (mode : Bool) :
    (stringRules mode).escape ≠ some (stringRules mode).mark := by
  cases mode <;> decide

end Literals

section Client

def INT_MAX : Nat := 2147483647

-- A string of R: no NUL, and as many bytes as an int counts
abbrev CHARSXP := { s : Bytes // 0 ∉ s ∧ s.length ≤ INT_MAX }

theorem length_le (x : CHARSXP) : x.1.length ≤ 2147483647 := x.2.2

-- What mysql_real_escape_string() writes and what it returns
structure Escape where
  written : Bytes
  result : Nat

-- (unsigned long) -1
def failure : Nat := 18446744073709551615

-- The client library. A call may answer differently each time, in a connection with or without
-- NO_BACKSLASH_ESCAPES; what it writes is right if it does not fail.
structure Client where
  mysql_real_escape_string : Nat → Bool → Bytes → Escape
  room : ∀ i mode s, (mysql_real_escape_string i mode s).written.length ≤ 2 * s.length + 1
  correct : ∀ i mode s, 0 ∉ s → (mysql_real_escape_string i mode s).result = failure ∨
    ∃ text, mysql_real_escape_string i mode s = ⟨text ++ [0], text.length⟩ ∧
      Quoted.content (stringRules mode) text = some s

-- What quoting reads of a connection
structure Connection where
  -- whether R's pointer to it is gone
  released : Bool := false
  no_backslash_escapes : Bool := false

end Client

section Quoting

def size_t (n : Nat) : Nat := n % 18446744073709551616

-- std::string::resize()
def resize (s : Bytes) (n : Nat) : Bytes := s.take n ++ List.replicate (n - s.length) 0

-- A callee writes from s[k] on.
def write (s : Bytes) (k : Nat) (written : Bytes) : Except Exc Bytes :=
  if k + written.length ≤ s.length then
    pure (s.take k ++ written ++ s.drop (k + written.length))
  else throw (.fault .memory)

-- Rf_mkCharCE(s.c_str(), CE_UTF8)
def mkCharCE (s : Bytes) : Except Exc Bytes :=
  let name := s.takeWhile (· ≠ 0)
  if INT_MAX < name.length then
    throw (.stop "R character strings are limited to 2^31-1 bytes")
  else pure name

-- "NULL"
def get_null_string : Bytes := [78, 85, 76, 76]

variable (client : Client)

def quote_string (mode : Bool) (i : Nat) (input : Option CHARSXP) : Except Exc Bytes :=
  match input with
  | none => pure get_null_string
  | some input_str => do
      let input_len := input_str.1.length
      let output := resize [39] (size_t (input_len * 2 + 3))
      let call := client.mysql_real_escape_string i mode input_str.1
      let output ← write output 1 call.written
      let output := resize output (size_t (call.result + 1))
      mkCharCE (output ++ [39])

def quote_strings (mode : Bool) : Nat → List (Option CHARSXP) → Except Exc (List Bytes)
  | _, [] => pure []
  | i, x :: xs => do
      let y ← quote_string client mode i x
      let output ← quote_strings mode (i + 1) xs
      pure (y :: output)

def connection_quote_string (con : Connection) (xs : List (Option CHARSXP)) :
    Except Exc (List Bytes) :=
  if con.released then throw (.stop "Invalid connection")
  else quote_strings client con.no_backslash_escapes 0 xs

end Quoting

section Elements

variable {client : Client} {mode : Bool} {i : Nat} {x : CHARSXP} {text : Bytes}

-- The element is a literal for this string, or NULL.
def Complete (mode : Bool) (x : Option CHARSXP) (y : Bytes) : Prop :=
  match x with
  | none => y = get_null_string
  | some x => Quoted.literal (stringRules mode) y = some x.1

theorem size_t_of_lt {n : Nat} (h : n < 18446744073709551616) : size_t n = n := Nat.mod_eq_of_lt h

-- The buffer that the text is written to
theorem quote_string_eq (client : Client) (mode : Bool) (i : Nat) (x : CHARSXP) :
    ∃ rest, quote_string client mode i (some x) = mkCharCE (resize
      (39 :: (client.mysql_real_escape_string i mode x.1).written ++ rest)
      (size_t ((client.mysql_real_escape_string i mode x.1).result + 1)) ++ [39]) := by
  have hroom := client.room i mode x.1
  have hlength : size_t (x.1.length * 2 + 3) = x.1.length * 2 + 2 + 1 := by
    have hx := length_le x
    exact size_t_of_lt (by omega)
  have hbuffer : resize [39] (size_t (x.1.length * 2 + 3)) =
      39 :: List.replicate (x.1.length * 2 + 2) 0 := by
    rw [hlength]
    rfl
  refine ⟨List.replicate (x.1.length * 2 + 2 -
    (client.mysql_real_escape_string i mode x.1).written.length) 0, ?_⟩
  simp only [quote_string, hbuffer, write, List.length_cons, List.length_replicate]
  rw [if_pos (by omega), Nat.add_comm 1]
  simp only [List.take_succ_cons, List.take_zero, List.drop_succ_cons, List.drop_replicate,
    List.cons_append, List.nil_append]
  rfl

theorem quote_string_failure (h : (client.mysql_real_escape_string i mode x.1).result = failure) :
    quote_string client mode i (some x) = .ok [39] := by
  obtain ⟨rest, hrest⟩ := quote_string_eq client mode i x
  -- the length wraps to zero
  have hzero : size_t (failure + 1) = 0 := by decide
  rw [hrest, h, hzero, resize, List.take_zero, Nat.zero_sub]
  rfl

theorem quote_string_written
    (h : client.mysql_real_escape_string i mode x.1 = ⟨text ++ [0], text.length⟩) :
    quote_string client mode i (some x) =
      mkCharCE (Quoted.quoted (stringRules mode) text) := by
  obtain ⟨rest, hrest⟩ := quote_string_eq client mode i x
  have hroom := client.room i mode x.1
  have hx := length_le x
  rw [h] at hrest hroom
  simp only [List.length_append, List.length_singleton] at hrest hroom
  rw [hrest, size_t_of_lt (by omega), resize]
  simp [Quoted.quoted, stringRules]

theorem mkCharCE_quoted (h : Quoted.content (stringRules mode) text = some x.1) :
    mkCharCE (Quoted.quoted (stringRules mode) text) =
      if INT_MAX < text.length + 2 then
        .error (.stop "R character strings are limited to 2^31-1 bytes")
      else .ok (Quoted.quoted (stringRules mode) text) := by
  have hplain : (stringRules mode).escape ≠ some 0 := by
    cases mode <;> decide
  have hself : 0 ∈ (stringRules mode).escaped 0 := by
    cases mode <;> decide
  have hmark : 0 ≠ (stringRules mode).mark := by
    cases mode <;> decide
  have htext : 0 ∉ text := fun hmem => x.2.1 (Quoted.mem_of_content hplain hself h hmem)
  have hnonzero : ∀ b ∈ Quoted.quoted (stringRules mode) text, decide (b ≠ 0) = true := by
    intro b hb
    simp only [Quoted.quoted, List.mem_cons, List.mem_append, List.not_mem_nil, or_false] at hb
    rw [decide_eq_true_eq]
    rintro rfl
    rcases hb with hb | hb | hb
    · exact hmark hb
    · exact htext hb
    · exact hmark hb
  have hname : (Quoted.quoted (stringRules mode) text).takeWhile (· ≠ 0) =
      Quoted.quoted (stringRules mode) text := List.takeWhile_eq_self_iff.mpr hnonzero
  have hlength : (Quoted.quoted (stringRules mode) text).length = text.length + 2 := by
    simp [Quoted.quoted]
  simp only [mkCharCE, hname, hlength]
  rfl

end Elements

section Calls

variable (client : Client) (mode : Bool)

-- The library refuses the element.
def Fails (call : Option CHARSXP × Nat) : Prop :=
  ∃ x, call.1 = some x ∧ (client.mysql_real_escape_string call.2 mode x.1).result = failure

-- R has no string that holds the escaped text and two quotes.
def TooLong (call : Option CHARSXP × Nat) : Prop :=
  ∃ x, call.1 = some x ∧ (client.mysql_real_escape_string call.2 mode x.1).result ≠ failure ∧
    INT_MAX < (client.mysql_real_escape_string call.2 mode x.1).result + 2

variable {client mode} {x : Option CHARSXP} {xs : List (Option CHARSXP)} {i : Nat}

theorem quote_string_too_long (h : TooLong client mode (x, i)) :
    ∃ message, quote_string client mode i x = .error (.stop message) := by
  obtain ⟨x, rfl, hresult, hlong⟩ := h
  rcases client.correct i mode x.1 x.2.1 with hfails | ⟨text, hwritten, hcontent⟩
  · exact absurd hfails hresult
  · rw [hwritten] at hlong
    rw [quote_string_written hwritten, mkCharCE_quoted hcontent, if_pos hlong]
    exact ⟨_, rfl⟩

theorem quote_string_ok (h : ¬TooLong client mode (x, i)) :
    ∃ y, quote_string client mode i x = .ok y ∧ (Complete mode x y ↔ ¬Fails client mode (x, i)) := by
  cases x with
  | none =>
      refine ⟨get_null_string, rfl, iff_of_true rfl ?_⟩
      rintro ⟨x, hx, -⟩
      cases hx
  | some x =>
      by_cases hfails : (client.mysql_real_escape_string i mode x.1).result = failure
      · refine ⟨[39], quote_string_failure hfails, iff_of_false ?_ ?_⟩
        · intro hcomplete
          have hopen : Quoted.literal (stringRules mode) [39] = none := Quoted.literal_mark
          rw [Complete, hopen] at hcomplete
          cases hcomplete
        · exact not_not_intro ⟨x, rfl, hfails⟩
      · rcases client.correct i mode x.1 x.2.1 with hfailure | ⟨text, hwritten, hcontent⟩
        · exact absurd hfailure hfails
        · have hshort : ¬INT_MAX < text.length + 2 := by
            intro hlong
            exact h ⟨x, rfl, hfails, by rw [hwritten]; exact hlong⟩
          refine ⟨Quoted.quoted (stringRules mode) text, ?_, iff_of_true ?_ ?_⟩
          · rw [quote_string_written hwritten, mkCharCE_quoted hcontent, if_neg hshort]
          · exact Quoted.literal_content (escape_ne_mark mode) hcontent
          · rintro ⟨y, hy, hfailure⟩
            cases hy
            exact hfails hfailure

-- The first element whose literal is too long ends the call.
theorem quote_strings_too_long (h : ∃ call ∈ xs.zipIdx i, TooLong client mode call) :
    ∃ message, quote_strings client mode i xs = .error (.stop message) := by
  induction xs generalizing i with
  | nil =>
      obtain ⟨call, hcall, -⟩ := h
      cases hcall
  | cons x xs ih =>
      by_cases hx : TooLong client mode (x, i)
      · obtain ⟨message, herror⟩ := quote_string_too_long hx
        refine ⟨message, ?_⟩
        rw [quote_strings, herror]
        rfl
      · obtain ⟨y, hy, -⟩ := quote_string_ok hx
        have hrest : ∃ call ∈ xs.zipIdx (i + 1), TooLong client mode call := by
          obtain ⟨call, hcall, hlong⟩ := h
          rw [List.zipIdx_cons] at hcall
          rcases List.mem_cons.mp hcall with rfl | hcall
          · exact absurd hlong hx
          · exact ⟨call, hcall, hlong⟩
        obtain ⟨message, herror⟩ := ih hrest
        refine ⟨message, ?_⟩
        rw [quote_strings, hy, herror]
        rfl

theorem quote_strings_ok (h : ∀ call ∈ xs.zipIdx i, ¬TooLong client mode call) :
    ∃ ys, quote_strings client mode i xs = .ok ys ∧
      (List.Forall₂ (Complete mode) xs ys ↔ ∀ call ∈ xs.zipIdx i, ¬Fails client mode call) := by
  induction xs generalizing i with
  | nil =>
      refine ⟨[], rfl, iff_of_true .nil ?_⟩
      intro call hcall
      cases hcall
  | cons x xs ih =>
      rw [List.zipIdx_cons, List.forall_mem_cons] at h
      obtain ⟨y, hy, hcomplete⟩ := quote_string_ok h.1
      obtain ⟨ys, hys, hrest⟩ := ih h.2
      refine ⟨y :: ys, ?_, ?_⟩
      · rw [quote_strings, hy, hys]
        rfl
      · rw [List.forall₂_cons, hcomplete, hrest, List.zipIdx_cons, List.forall_mem_cons]

-- Each literal is that of its element.
theorem quote_strings_getElem {ys : List Bytes} (h : quote_strings client mode i xs = .ok ys) :
    ys.length = xs.length ∧ ∀ (k : Nat) x, xs[k]? = some x →
      ∃ y, ys[k]? = some y ∧ quote_string client mode (i + k) x = .ok y := by
  induction xs generalizing i ys with
  | nil =>
      cases h
      exact ⟨rfl, fun k x hx => by cases hx⟩
  | cons x xs ih =>
      rw [quote_strings] at h
      cases hy : quote_string client mode i x with
      | error e =>
          rw [hy] at h
          cases h
      | ok y =>
          cases hrest : quote_strings client mode (i + 1) xs with
          | error e =>
              rw [hy, hrest] at h
              cases h
          | ok output =>
              rw [hy, hrest] at h
              cases h
              obtain ⟨hlength, helements⟩ := ih hrest
              refine ⟨congrArg Nat.succ hlength, fun k z hz => ?_⟩
              cases k with
              | zero =>
                  cases hz
                  exact ⟨y, rfl, hy⟩
              | succ k =>
                  have hindex : i + 1 + k = i + (k + 1) := by omega
                  obtain ⟨z', hz', hquote⟩ := helements k z hz
                  exact ⟨z', hz', hindex ▸ hquote⟩

end Calls

section Literals

-- Each element is complete, or R stops with an error.
def Exact (mode : Bool) (xs : List (Option CHARSXP)) (output : Except Exc (List Bytes)) : Prop :=
  match output with
  | .ok ys => List.Forall₂ (Complete mode) xs ys
  | .error e => ∃ message, e = .stop message

variable (client : Client) (con : Connection) (xs : List (Option CHARSXP))

theorem no_write_outside (fault : Fault) :
    connection_quote_string client con xs ≠ .error (.fault fault) := by
  intro h
  by_cases hreleased : con.released = true
  · rw [connection_quote_string, if_pos hreleased] at h
    cases h
  · rw [connection_quote_string, if_neg hreleased] at h
    by_cases hlong : ∃ call ∈ xs.zipIdx, TooLong client con.no_backslash_escapes call
    · obtain ⟨message, herror⟩ := quote_strings_too_long hlong
      cases herror.symm.trans h
    · obtain ⟨ys, hys, -⟩ := quote_strings_ok fun call hcall h => hlong ⟨call, hcall, h⟩
      cases hys.symm.trans h

theorem exact_iff :
    Exact con.no_backslash_escapes xs (connection_quote_string client con xs) ↔
      con.released = true ∨
        (∃ call ∈ xs.zipIdx, TooLong client con.no_backslash_escapes call) ∨
          ∀ call ∈ xs.zipIdx, ¬Fails client con.no_backslash_escapes call := by
  by_cases hreleased : con.released = true
  · rw [connection_quote_string, if_pos hreleased]
    exact iff_of_true ⟨_, rfl⟩ (.inl hreleased)
  · rw [connection_quote_string, if_neg hreleased, or_iff_right hreleased]
    by_cases hlong : ∃ call ∈ xs.zipIdx, TooLong client con.no_backslash_escapes call
    · obtain ⟨message, herror⟩ := quote_strings_too_long hlong
      rw [herror]
      exact iff_of_true ⟨_, rfl⟩ (.inl hlong)
    · obtain ⟨ys, hys, hexact⟩ := quote_strings_ok fun call hcall h => hlong ⟨call, hcall, h⟩
      rw [hys, or_iff_right hlong]
      exact hexact

-- Nothing is written outside a buffer. The literals are complete unless the library refuses
-- an element of a vector that is quoted to its end.
theorem literals_complete :
    (∀ fault, connection_quote_string client con xs ≠ .error (.fault fault)) ∧
      (Exact con.no_backslash_escapes xs (connection_quote_string client con xs) ↔
        con.released = true ∨
          (∃ call ∈ xs.zipIdx, TooLong client con.no_backslash_escapes call) ∨
            ∀ call ∈ xs.zipIdx, ¬Fails client con.no_backslash_escapes call) :=
  ⟨no_write_outside client con xs, exact_iff client con xs⟩

end Literals

section Libraries

-- Each byte on its own, and a NUL behind them
def Escape.of (code : UInt8 → Bytes) (s : Bytes) : Escape :=
  ⟨s.flatMap code ++ [0], (s.flatMap code).length⟩

def backslashed (b : UInt8) : Bytes :=
  if b = 0 then [92, 48]
  else if b = 10 then [92, 110]
  else if b = 13 then [92, 114]
  else if b = 26 then [92, 90]
  else if b = 34 ∨ b = 39 ∨ b = 92 then [92, b]
  else [b]

def doubled_quotes (b : UInt8) : Bytes := if b = 39 then [39, 39] else [b]

theorem encodes_backslashed (b : UInt8) :
    Quoted.Encodes (stringRules false) b (backslashed b) := by
  unfold backslashed
  split_ifs with h0 h10 h13 h26 h
  · exact .escaped rfl (by rw [h0]; decide)
  · exact .escaped rfl (by rw [h10]; decide)
  · exact .escaped rfl (by rw [h13]; decide)
  · exact .escaped rfl (by rw [h26]; decide)
  · rcases h with rfl | rfl | rfl <;> exact .escaped rfl (by decide)
  · rw [not_or, not_or] at h
    exact .plain h.2.1 fun heq => h.2.2 (Option.some.inj heq).symm

theorem encodes_doubled_quotes (b : UInt8) :
    Quoted.Encodes (stringRules true) b (doubled_quotes b) := by
  unfold doubled_quotes
  split_ifs with h
  · rw [h]
    exact .doubled (by decide)
  · exact .plain h fun heq => by cases heq

theorem length_of_le {mode : Bool} {code : UInt8 → Bytes}
    (h : ∀ b, Quoted.Encodes (stringRules mode) b (code b)) (s : Bytes) :
    (Escape.of code s).written.length ≤ 2 * s.length + 1 := by
  have hle := Quoted.length_flatMap_le (x := s) fun b _ => h b
  simp only [Escape.of, List.length_append, List.length_singleton]
  omega

-- MariaDB's library doubles the quotes where a backslash is an ordinary character.
def Client.mariadb : Client where
  mysql_real_escape_string := fun _ mode s =>
    Escape.of (if mode then doubled_quotes else backslashed) s
  room := by
    intro i mode s
    cases mode with
    | false => exact length_of_le encodes_backslashed s
    | true => exact length_of_le encodes_doubled_quotes s
  correct := by
    intro i mode s _
    refine .inr ⟨_, rfl, ?_⟩
    cases mode with
    | false => exact Quoted.content_flatMap fun b _ => encodes_backslashed b
    | true => exact Quoted.content_flatMap fun b _ => encodes_doubled_quotes b

theorem mariadb_works (mode : Bool) (call : Option CHARSXP × Nat) : ¬Fails .mariadb mode call := by
  rintro ⟨x, -, hfails⟩
  have hroom := Client.mariadb.room call.2 mode x.1
  have hx := length_le x
  simp only [Client.mariadb, Escape.of, List.length_append, List.length_singleton, failure] at hroom hfails
  omega

-- It never fails, so that all literals are complete.
theorem mariadb_literals (con : Connection) (xs : List (Option CHARSXP)) :
    Exact con.no_backslash_escapes xs (connection_quote_string .mariadb con xs) :=
  (exact_iff .mariadb con xs).mpr (.inr (.inr fun call _ => mariadb_works _ call))

-- MySQL's library refuses to escape there.
def Client.mysql : Client where
  mysql_real_escape_string := fun _ mode s =>
    if mode then ⟨[], failure⟩ else Escape.of backslashed s
  room := by
    intro i mode s
    cases mode with
    | false => exact length_of_le encodes_backslashed s
    | true => exact Nat.zero_le _
  correct := by
    intro i mode s _
    cases mode with
    | false => exact .inr ⟨_, rfl, Quoted.content_flatMap fun b _ => encodes_backslashed b⟩
    | true => exact .inl rfl

-- The literal of "a" is a quote that nothing closes.
theorem mysql_literal_is_open :
    let con : Connection := { no_backslash_escapes := true }
    let xs : List (Option CHARSXP) := [some ⟨[97], by decide⟩]
    connection_quote_string .mysql con xs = .ok [[39]] ∧
      ¬Exact con.no_backslash_escapes xs (connection_quote_string .mysql con xs) := by
  intro con xs
  have hquote : quote_string .mysql true 0 (some ⟨[97], by decide⟩) = .ok [39] :=
    quote_string_failure rfl
  have houtput : connection_quote_string .mysql con xs = .ok [[39]] := by
    simp only [connection_quote_string, quote_strings, con, xs, hquote]
    rfl
  refine ⟨houtput, ?_⟩
  rw [houtput]
  intro hexact
  have hcomplete := (List.forall₂_cons.mp hexact).1
  have hopen : Quoted.literal (stringRules true) [39] = none := Quoted.literal_mark
  cases hopen.symm.trans hcomplete

end Libraries

end RMariaDB.Quote
