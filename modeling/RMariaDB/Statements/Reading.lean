import RMariaDB.Statements

-- Every statement is read as it was meant.

namespace RMariaDB.Statements

open Lexer WriteTable

variable {mode : Bool} {dbi : DBI} {s t x : Text} {ts us : List (Token UInt8)}

section Bytes

theorem utf8_append (s t : Text) : utf8 (s ++ t) = utf8 s ++ utf8 t := List.flatMap_append ..

theorem utf8_ne_nil (h : t ≠ []) : utf8 t ≠ [] := by
  obtain ⟨c, t, rfl⟩ := List.exists_cons_of_ne_nil h
  have hlength := String.length_utf8EncodeChar c
  have hpos := c.utf8Size_pos
  intro hnil
  rw [utf8, List.flatMap_cons] at hnil
  rw [(List.append_eq_nil_iff.mp hnil).1, List.length_nil] at hlength
  omega

theorem utf8_intercalate (sep : Text) (xs : List Text) :
    utf8 (sep.intercalate xs) = (utf8 sep).intercalate (xs.map utf8) := by
  induction xs with
  | nil => rfl
  | cons x xs ih =>
      cases xs with
      | nil => simp
      | cons y xs =>
          simp only [List.map_cons, List.intercalate_cons_cons] at ih ⊢
          rw [utf8_append, utf8_append, ih]

-- A byte of ASCII stands for its character only.
theorem backtick_of_mem {c : Char} (h : (96 : UInt8) ∈ String.utf8EncodeChar c) :
    c = Quote.backtick := by
  have hbyte (n : Nat) : (96 : UInt8) = UInt8.ofNat n → n % 256 = 96 := by
    intro heq
    have hnat := congrArg UInt8.toNat heq
    rw [UInt8.toNat_ofNat'] at hnat
    exact hnat.symm
  have hv : c.val.toNat = 96 → c = Quote.backtick := fun hv =>
    Char.ext (UInt32.toNat_inj.mp hv)
  unfold String.utf8EncodeChar at h
  generalize hval : c.val.toNat = v at h hv
  dsimp only at h
  split_ifs at h
  all_goals simp only [List.mem_cons, List.not_mem_nil, or_false] at h
  · have := hbyte _ h
    exact hv (by omega)
  · rcases h with h | h <;> have := hbyte _ h <;> omega
  · rcases h with h | h | h <;> have := hbyte _ h <;> omega
  · rcases h with h | h | h | h <;> have := hbyte _ h <;> omega

-- Doubling the backticks of a text doubles those bytes.
theorem utf8_doubled (t : Text) :
    utf8 (Substitute.doubled Quote.backtick t) = Substitute.doubled 96 (utf8 t) := by
  induction t with
  | nil => rfl
  | cons c t ih =>
      have hone : utf8 (Substitute.code Quote.backtick [Quote.backtick, Quote.backtick] c) =
          Substitute.doubled 96 (String.utf8EncodeChar c) := by
        by_cases hc : c = Quote.backtick
        · rw [hc]
          decide
        · have hsame : ∀ b ∈ String.utf8EncodeChar c, Substitute.code (96 : UInt8) [96, 96] b = [b] := by
            intro b hb
            refine if_neg ?_
            rintro rfl
            exact hc (backtick_of_mem hb)
          rw [Substitute.code, if_neg hc, Substitute.doubled, List.flatMap_congr hsame]
          simp [utf8]
      rw [Substitute.doubled, List.flatMap_cons, utf8_append, hone]
      have hcons : utf8 (c :: t) = String.utf8EncodeChar c ++ utf8 t := rfl
      rw [hcons, Substitute.doubled, Substitute.doubled, List.flatMap_append]
      exact congrArg _ ih

end Bytes

section Pieces

-- The tokens of a text
abbrev Read (mode : Bool) (t : Text) (ts : List (Token UInt8)) : Prop := Reads (rules mode) (utf8 t) ts

theorem no_escape (b : UInt8) : identifierRules.escape ≠ some b := by
  intro h
  cases h

theorem encodes_backtick (b : UInt8) :
    Quoted.Encodes identifierRules b (Substitute.code 96 [96, 96] b) := by
  by_cases hb : b = 96
  · rw [Substitute.code, if_pos hb, hb]
    exact .doubled (no_escape _)
  · rw [Substitute.code, if_neg hb]
    exact .plain hb (no_escape b)

theorem read_name (x : Text) : Read mode (Quote.quote x) [name x] := by
  have hcontent : Quoted.content identifierRules (utf8 (Substitute.doubled Quote.backtick x)) =
      some (utf8 x) := by
    rw [utf8_doubled]
    exact Quoted.content_flatMap fun b _ => encodes_backtick b
  have hend : ([] : List UInt8).head? ≠ some identifierRules.mark := by
    simp
  have hscan := Quoted.scan_content (no_escape _) hend hcontent
  have hquote : utf8 (Quote.quote x) =
      96 :: (utf8 (Substitute.doubled Quote.backtick x) ++ [identifierRules.mark]) := by
    rw [Quote.quote_eq, Quote.ticked]
    exact congrArg _ (utf8_append _ _)
  rw [Read, hquote]
  exact .quoted (r := identifierRules) rfl hscan .nil

theorem read_literal (x : Literal mode) : Read mode x.text [string x.value] := by
  have hliteral := x.literal
  unfold Quoted.literal at hliteral
  split at hliteral
  · rename_i value hfirst
    cases hliteral
    cases htext : utf8 x.text with
    | nil =>
        rw [htext] at hfirst
        cases hfirst
    | cons b rest =>
        rw [htext, Quoted.first] at hfirst
        split at hfirst
        · rename_i hmark
          rw [Read, htext]
          subst hmark
          exact .quoted (r := Quote.stringRules mode) rfl hfirst .nil
        · cases hfirst
  · cases hliteral

def is_between (b : UInt8) : Bool := is_space b || (!is_word b && is_symbol b)

theorem kind_between (mode : Bool) (b : UInt8) : ((rules mode).kind b).is_between = is_between b := by
  have hkind : (rules mode).kind b = kind mode b := rfl
  rw [hkind, kind, is_between]
  cases is_space b <;> cases is_word b <;> cases is_symbol b <;> simp [Kind.is_between]
  all_goals split_ifs <;> rfl

-- Texts to which anything joins
def Opens (t : Text) : Prop := (utf8 t).head?.all is_between = true

def Ends (t : Text) : Prop := (utf8 t).getLast?.all is_between = true

instance : Decidable (Opens t) := instDecidableEqBool _ _

instance : Decidable (Ends t) := instDecidableEqBool _ _

theorem Opens.first (h : Opens t) : ∀ b ∈ (utf8 t).head?, is_between b = true :=
  fun b hb => (Option.all_eq_true is_between _).mp h b hb

theorem Ends.last (h : Ends t) : ∀ b ∈ (utf8 t).getLast?, is_between b = true :=
  fun b hb => (Option.all_eq_true is_between _).mp h b hb

theorem Opens.append (hs : Opens s) (hne : s ≠ []) : Opens (s ++ t) := by
  rw [Opens, utf8_append, List.head?_append_of_ne_nil _ (utf8_ne_nil hne)]
  exact hs

-- Before what opens, and behind what ends
theorem Read.then (hs : Read mode s ts) (hopens : Opens t) (ht : Read mode t us) :
    Read mode (s ++ t) (ts ++ us) := by
  rw [Read, utf8_append]
  exact hs.append ht (joins_first fun b hb => (kind_between mode b).trans (hopens.first b hb))

theorem Read.before (hs : Read mode s ts) (hends : Ends s) (ht : Read mode t us) :
    Read mode (s ++ t) (ts ++ us) := by
  rw [Read, utf8_append]
  exact hs.append ht (joins_last fun b hb => (kind_between mode b).trans (hends.last b hb))

-- A text that is read in the same way in both modes
def Fixed (t : Text) (ts : List (Token UInt8)) : Prop :=
  lex (rules true) (utf8 t) = some ts ∧ lex (rules false) (utf8 t) = some ts

instance : Decidable (Fixed t ts) :=
  inferInstanceAs (Decidable (lex (rules true) (utf8 t) = some ts ∧ lex (rules false) (utf8 t) = some ts))

theorem read_fixed (h : Fixed t ts) : Read mode t ts := by
  cases mode with
  | true => exact reads_iff.mpr h.1
  | false => exact reads_iff.mpr h.2

-- A text of the source between names and strings
theorem read_text (p : String) (ts : List (Token UInt8)) (h : Fixed p.toList ts) :
    Read mode p.toList ts := read_fixed h

theorem kind_word {b : UInt8} (h : is_word b = true) : (rules mode).kind b = .word := by
  have hspace : is_space b = false := by
    simp only [is_word, is_space, Bool.or_eq_true, Bool.and_eq_true, decide_eq_true_eq,
      Bool.or_eq_false_iff, Bool.and_eq_false_iff, decide_eq_false_iff_not, UInt8.le_iff_toNat_le,
      ← UInt8.toNat_inj, UInt8.toNat_ofNat] at h ⊢
    omega
  have hkind : (rules mode).kind b = kind mode b := rfl
  rw [hkind, kind, hspace, h]
  rfl

theorem read_word (hne : t ≠ []) (h : ∀ b ∈ utf8 t, is_word b = true) :
    Read mode t [.word (utf8 t)] := by
  have hword := Reads.word (R := rules mode) (utf8_ne_nil hne) (fun b hb => kind_word (h b hb))
    (by simp) .nil
  rwa [List.append_nil] at hword

theorem is_word_digit {c : Char} (hc : c.isDigit = true) :
    ∀ b ∈ String.utf8EncodeChar c, is_word b = true := by
  intro b hb
  simp only [Char.isDigit, Bool.and_eq_true, decide_eq_true_eq, UInt32.le_iff_toNat_le] at hc
  change 48 ≤ c.val.toNat ∧ c.val.toNat ≤ 57 at hc
  unfold String.utf8EncodeChar at hb
  generalize c.val.toNat = v at hb hc
  have hascii : v ≤ 127 := by omega
  rw [if_pos hascii, List.mem_singleton] at hb
  subst hb
  simp only [is_word, Bool.or_eq_true, Bool.and_eq_true, decide_eq_true_eq, UInt8.le_iff_toNat_le,
    ← UInt8.toNat_inj, UInt8.toNat_ofNat', UInt8.toNat_ofNat]
  omega

-- A number behind an X is one word with it.
theorem read_variable (k : Nat) :
    Read mode ("X".toList ++ (toString k).toList) [word ("X" ++ toString k)] := by
  have htext : ("X" ++ toString k).toList = "X".toList ++ (toString k).toList := String.toList_append
  rw [word, htext]
  refine read_word (by simp) fun b hb => ?_
  rw [utf8_append, List.mem_append] at hb
  rcases hb with hb | hb
  · have hx : b = 88 := List.mem_singleton.mp hb
    rw [hx]
    decide
  · obtain ⟨c, hc, hb⟩ := List.mem_flatMap.mp hb
    have hdigits : (toString k).toList = Nat.toDigits 10 k := Nat.toList_repr
    rw [hdigits] at hc
    exact is_word_digit (Nat.isDigit_of_mem_toDigits (by decide) (by decide) hc) b hb

end Pieces

section Queries

theorem read_select_null (table : Text) :
    Read mode ("SELECT NULL FROM ".toList ++ Quote.quote table ++ " WHERE FALSE".toList)
      (words ["SELECT", "NULL", "FROM"] ++ [name table] ++ words ["WHERE", "FALSE"]) := by
  rw [List.append_assoc, List.append_assoc]
  refine (read_text "SELECT NULL FROM " _ (by decide)).before (by decide) ?_
  exact (read_name table).then (by decide) (read_text " WHERE FALSE" _ (by decide))

theorem read_count (table : Text) : Read mode ("SELECT COUNT(*) FROM ".toList ++ Quote.quote table)
    (words ["SELECT", "COUNT"] ++ [symbol '(', symbol '*', symbol ')', word "FROM"] ++ [name table]) :=
  (read_text "SELECT COUNT(*) FROM " _ (by decide)).before (by decide) (read_name table)

theorem read_table (table : Text) : Read mode (Functions.read_table_sql table)
    ([word "SELECT", symbol '*', word "FROM"] ++ [name table]) := by
  have htext : Functions.read_table_sql table = "SELECT * FROM  ".toList ++ Quote.quote table := by
    unfold Functions.read_table_sql
    rfl
  rw [htext]
  exact (read_text "SELECT * FROM  " _ (by decide)).before (by decide) (read_name table)

theorem read_set_time_zone (timezone : Literal mode) :
    Read mode (Connect.set_time_zone_sql timezone.text)
      (words ["SET", "time_zone"] ++ [symbol '='] ++ [string timezone.value]) :=
  (read_text "SET time_zone = " _ (by decide)).before (by decide) (read_literal timezone)

variable (dbi) in
theorem read_drop (table : Text) (temporary fail_if_missing : Bool) :
    Read mode ((Statement.drop table temporary fail_if_missing).sql dbi)
      (words ["DROP"] ++ words (if temporary then ["TEMPORARY"] else []) ++ words ["TABLE"] ++
        words (if fail_if_missing then [] else ["IF", "EXISTS"]) ++ [name table]) := by
  have htemporary : Read mode ("DROP ".toList ++ (if temporary then "TEMPORARY ".toList else []) ++
      "TABLE ".toList ++ (if fail_if_missing then [] else "IF EXISTS ".toList))
      (words ["DROP"] ++ words (if temporary then ["TEMPORARY"] else []) ++ words ["TABLE"] ++
        words (if fail_if_missing then [] else ["IF", "EXISTS"])) := by
    cases temporary <;> cases fail_if_missing
    all_goals exact read_fixed (by decide)
  refine htemporary.before ?_ (read_name table)
  cases temporary <;> cases fail_if_missing <;> decide

end Queries

section Loading

variable {β : Type} {f : β → Text} {g : β → List (Token UInt8)} {xs : List β}

-- Texts with commas between them
theorem read_list (h : ∀ x ∈ xs, Read mode (f x) (g x)) :
    Read mode ((", ".toList).intercalate (xs.map f)) ([symbol ','].intercalate (xs.map g)) := by
  have hsep : Read mode ", ".toList [symbol ','] := read_text ", " _ (by decide)
  rw [Read, utf8_intercalate, List.map_map]
  refine reads_intercalate hsep (by decide) (fun b hb => ?_) (fun b hb => ?_) h
  · rw [kind_between]
    have hopens : Opens ", ".toList := by decide
    exact hopens.first b hb
  · rw [kind_between]
    have hends : Ends ", ".toList := by decide
    exact hends.last b hb

theorem read_target (x : Table.Target) : Read mode x.text (target x) := by
  cases x with
  | column x => exact read_name x
  | «variable» k =>
      exact (read_text "@" [symbol '@'] (by decide)).before (by decide) (read_variable k)

theorem read_assignment (x : Text × Nat) :
    Read mode (Quote.quote x.1 ++ " = UNHEX(@X".toList ++ (toString x.2).toList ++ ")".toList)
      (assignment x) := by
  have htext : Quote.quote x.1 ++ " = UNHEX(@X".toList ++ (toString x.2).toList ++ ")".toList =
      Quote.quote x.1 ++ (" = UNHEX(@".toList ++ (("X".toList ++ (toString x.2).toList) ++ ")".toList)) := by
    simp
  have hvariable : Read mode (("X".toList ++ (toString x.2).toList) ++ ")".toList)
      ([word ("X" ++ toString x.2)] ++ [symbol ')']) :=
    (read_variable x.2).then (by decide) (read_text ")" _ (by decide))
  rw [htext]
  refine (read_name x.1).then ?_ ((read_text " = UNHEX(@"
    [symbol '=', word "UNHEX", symbol '(', symbol '@'] (by decide)).before (by decide)
    hvariable)
  exact Opens.append (by decide) (by decide)

theorem read_set (set : List (Text × Nat)) : Read mode (Table.set_text set) (assignments set) := by
  rw [Table.set_text, assignments]
  split_ifs with hset
  · exact .nil
  · exact (read_text "SET " [word "SET"] (by decide)).before (by decide)
      (read_list fun x _ => read_assignment x)

theorem load_data_sql (path table : Text) (statement : Table.LoadData) :
    Table.sql path (Quote.quote table) statement = "LOAD DATA LOCAL INFILE ".toList ++
      (path ++ ("\nIGNORE\nINTO TABLE ".toList ++ (Quote.quote table ++
        ("\nCHARACTER SET utf8mb4 \n(".toList ++
          ((", ".toList).intercalate (statement.targets.map Table.Target.text) ++
            (")".toList ++ Table.set_text statement.set)))))) := by
  unfold Table.sql
  simp only [List.append_assoc]
  rfl

theorem read_load_data (path : Literal mode) (table : Text) (statement : Table.LoadData) :
    Read mode (Table.sql path.text (Quote.quote table) statement)
      (load_data path.value table statement) := by
  rw [load_data_sql]
  unfold load_data
  simp only [List.append_assoc]
  refine (read_text "LOAD DATA LOCAL INFILE " _ (by decide)).before (by decide) ?_
  refine (read_literal path).then (Opens.append (by decide) (by decide)) ?_
  refine (read_text "\nIGNORE\nINTO TABLE " _ (by decide)).before (by decide) ?_
  refine (read_name table).then (Opens.append (by decide) (by decide)) ?_
  refine (read_text "\nCHARACTER SET utf8mb4 \n(" (words ["CHARACTER", "SET", "utf8mb4"] ++ [symbol '('])
    (by decide)).before (by decide) ?_
  refine (read_list fun x _ => read_target x).then (Opens.append (by decide) (by decide)) ?_
  exact (read_text ")" _ (by decide)).before (by decide) (read_set statement.set)

theorem load_file_sql_eq (client : WriteTable.Client) (format : Functions.FileFormat)
    (path table sep quote eol : Text) :
    Functions.load_file_sql client format path table sep quote eol = "LOAD DATA LOCAL INFILE ".toList ++
      (path ++ ("\nINTO TABLE ".toList ++ (Quote.quote table ++ ("\nFIELDS TERMINATED BY ".toList ++
        (sep ++ ("\nOPTIONALLY ENCLOSED BY ".toList ++ (quote ++ ("\nLINES TERMINATED BY ".toList ++
          (eol ++ ("\nIGNORE ".toList ++ (Functions.ignored client format ++ " LINES".toList)))))))))))
      := by
  unfold Functions.load_file_sql
  simp only [List.append_assoc]
  rfl

theorem read_load_file (client : WriteTable.Client) (format : Functions.FileFormat) (table : Text)
    (path sep quote eol : Literal mode)
    (hword : Read mode (Functions.ignored client format) [.word (utf8 (Functions.ignored client format))]) :
    Read mode (Functions.load_file_sql client format path.text table sep.text quote.text eol.text)
      (load_file path.value sep.value quote.value eol.value table (Functions.ignored client format)) := by
  rw [load_file_sql_eq]
  unfold load_file
  simp only [List.append_assoc]
  refine (read_text "LOAD DATA LOCAL INFILE " _ (by decide)).before (by decide) ?_
  refine (read_literal path).then (Opens.append (by decide) (by decide)) ?_
  refine (read_text "\nINTO TABLE " _ (by decide)).before (by decide) ?_
  refine (read_name table).then (Opens.append (by decide) (by decide)) ?_
  refine (read_text "\nFIELDS TERMINATED BY " _ (by decide)).before (by decide) ?_
  refine (read_literal sep).then (Opens.append (by decide) (by decide)) ?_
  refine (read_text "\nOPTIONALLY ENCLOSED BY " _ (by decide)).before (by decide) ?_
  refine (read_literal quote).then (Opens.append (by decide) (by decide)) ?_
  refine (read_text "\nLINES TERMINATED BY " _ (by decide)).before (by decide) ?_
  refine (read_literal eol).then (Opens.append (by decide) (by decide)) ?_
  refine (read_text "\nIGNORE " _ (by decide)).before (by decide) ?_
  exact hword.then (by decide) (read_text " LINES" _ (by decide))

end Loading

section Statements

-- What the quoting of strings returns is such a literal, unless the client library refused.
def Literal.of_quoted {client : Quote.Client} {i : Nat} {input : Quote.CHARSXP} {y : Bytes}
    (h : Quote.quote_string client mode i (some input) = .ok y)
    (hnot : ¬Quote.Fails client mode (some input, i)) (htext : utf8 t = y) : Literal mode where
  text := t
  value := input.1
  literal := by
    by_cases hlong : Quote.TooLong client mode (some input, i)
    · obtain ⟨message, herror⟩ := Quote.quote_string_too_long hlong
      cases herror.symm.trans h
    · obtain ⟨y', hy, hcomplete⟩ := Quote.quote_string_ok hlong
      cases hy.symm.trans h
      rw [htext]
      exact hcomplete.mpr hnot

variable (client : WriteTable.Client)

theorem read_list_tables : Read mode Functions.list_tables_sql tables_query := by
  have hquery : tables_query =
      (words ["SELECT", "table_name", "FROM", "INFORMATION_SCHEMA"] ++ [symbol '.'] ++ words ["tables"]) ++
        (words ["WHERE", "table_schema"] ++ [symbol '=', word "DATABASE", symbol '(', symbol ')']) := rfl
  unfold Functions.list_tables_sql
  rw [String.toList_append, hquery]
  exact (read_text "SELECT table_name FROM INFORMATION_SCHEMA.tables\n" _ (by decide)).before
    (by decide) (read_text "WHERE table_schema = DATABASE()" _ (by decide))

theorem read_list_all : Read mode Functions.list_all_sql all_query := by
  have hquery : all_query = words ["SELECT", "NULL", "AS"] ++
      (([name "schema".toList, symbol ','] ++ words ["table_name", "AS"] ++ [name "table".toList] ++
        words ["FROM", "INFORMATION_SCHEMA"] ++ [symbol '.'] ++ words ["tables"]) ++
      ((words ["WHERE", "table_schema"] ++ [symbol '=', word "DATABASE", symbol '(', symbol ')']) ++
      (words ["UNION", "ALL"] ++
      ((words ["SELECT", "DISTINCT", "table_schema", "AS"] ++ [name "schema".toList, symbol ','] ++
        null_as "table" ++ words ["FROM"]) ++
      (words ["INFORMATION_SCHEMA"] ++ [symbol '.'] ++ words ["tables"]))))) := rfl
  unfold Functions.list_all_sql
  simp only [String.toList_append, List.append_assoc]
  rw [hquery]
  refine (read_text "SELECT NULL AS " _ (by decide)).before (by decide) ?_
  refine (read_text "\x60schema\x60, table_name AS \x60table\x60 FROM INFORMATION_SCHEMA.tables\n" _
    (by decide)).before (by decide) ?_
  refine (read_text "WHERE table_schema = DATABASE()\n" _ (by decide)).before (by decide) ?_
  refine (read_text "UNION ALL\n" _ (by decide)).before (by decide) ?_
  refine (read_text "SELECT DISTINCT table_schema AS \x60schema\x60, NULL AS \x60table\x60 FROM " _
    (by decide)).before (by decide) ?_
  exact read_text "INFORMATION_SCHEMA.tables" _ (by decide)

theorem read_session_time_zone : Read mode Connect.session_time_zone_sql zone_query :=
  read_fixed (by decide)

theorem read_autocommit :
    Read mode Connect.autocommit_sql (words ["SET", "autocommit"] ++ [symbol '=', word "0"]) :=
  read_fixed (by decide)

theorem read_list_schemas (schemas : List (Literal mode)) :
    Read mode (Functions.list_schemas_sql (schemas.map Literal.text))
      (schemas_query ++ [symbol ','].intercalate (schemas.map fun x => [string x.value]) ++
        [symbol ')', symbol ')']) := by
  have hquery : schemas_query =
      (words ["SELECT", "table_schema", "AS"] ++ [name "schema".toList, symbol ','] ++
        words ["table_name", "AS"] ++ [name "table".toList] ++ words ["FROM", "INFORMATION_SCHEMA"] ++
        [symbol '.'] ++ words ["tables"]) ++
      (words ["WHERE"] ++ (symbol '(' :: words ["table_schema", "IN"] ++ [symbol '('])) := rfl
  unfold Functions.list_schemas_sql
  simp only [String.toList_append, List.append_assoc]
  rw [hquery, List.append_assoc]
  refine (read_text _ _ (by decide)).before (by decide) ?_
  rw [List.append_assoc]
  refine (read_text "WHERE " _ (by decide)).before (by decide) ?_
  refine (read_text "(table_schema IN (" _ (by decide)).before (by decide) ?_
  exact (read_list fun x _ => read_literal x).then (by decide) (read_text "))" _ (by decide))

def Request.ignored : Request mode → Option Text
  | load_file format _ _ _ _ _ => some (Functions.ignored client format)
  | _ => none

-- The number of lines that are left out is written as one word. For 100000 lines, paste0() writes
-- 1e+05.
def Request.Numbered (r : Request mode) : Prop :=
  ∀ t ∈ r.ignored client, t ≠ [] ∧ ∀ b ∈ utf8 t, is_word b = true

theorem word_kind {b : UInt8} (h : (rules mode).kind b = .word) : is_word b = true := by
  have hkind : (rules mode).kind b = kind mode b := rfl
  rw [hkind, kind] at h
  split_ifs at h
  assumption

theorem request_reads_iff (r : Request mode) :
    Read mode (r.sql client) (r.tokens client) ↔ r.Numbered client := by
  cases r with
  | select_null table => exact iff_of_true (read_select_null table) (fun t h => by cases h)
  | count table => exact iff_of_true (read_count table) (fun t h => by cases h)
  | drop table temporary fail_if_missing =>
      exact iff_of_true (read_drop client.dbi table temporary fail_if_missing) (fun t h => by cases h)
  | load_data path table value =>
      exact iff_of_true (read_load_data path table _) (fun t h => by cases h)
  | load_file format table path sep quote eol =>
      constructor
      · rintro hread t ⟨⟩
        have hmem : Token.word (utf8 (Functions.ignored client format)) ∈
            load_file path.value sep.value quote.value eol.value table
              (Functions.ignored client format) := by
          simp [load_file]
        obtain ⟨hne, hword⟩ := word_of_reads hread hmem
        refine ⟨?_, fun b hb => word_kind (hword b hb)⟩
        rintro hnil
        exact hne (by rw [hnil]; rfl)
      · intro hnumbered
        obtain ⟨hne, hword⟩ := hnumbered _ rfl
        exact read_load_file client format table path sep quote eol (read_word hne hword)
  | read_table table => exact iff_of_true (Statements.read_table table) (fun t h => by cases h)
  | list_tables => exact iff_of_true read_list_tables (fun t h => by cases h)
  | list_all => exact iff_of_true read_list_all (fun t h => by cases h)
  | list_schemas schemas => exact iff_of_true (read_list_schemas schemas) (fun t h => by cases h)
  | set_time_zone timezone => exact iff_of_true (read_set_time_zone timezone) (fun t h => by cases h)
  | session_time_zone => exact iff_of_true read_session_time_zone (fun t h => by cases h)
  | autocommit => exact iff_of_true read_autocommit (fun t h => by cases h)

-- What the user named and wrote is a token each, and the other tokens are those of the source, for
-- every server with these rules; only the number of lines that are left out can be written in
-- another way, which is not read by them.
theorem statements_read_iff (server : Reader (rules mode)) (r : Request mode) :
    (r.Numbered client → server.read (utf8 (r.sql client)) = some (r.tokens client)) ∧
      (lex (rules mode) (utf8 (r.sql client)) = some (r.tokens client) ↔ r.Numbered client) := by
  refine ⟨fun hnumbered => server.of_reads ((request_reads_iff client r).mpr hnumbered), ?_⟩
  rw [← reads_iff]
  exact request_reads_iff client r

-- it's, as the library of MariaDB quotes it
theorem its_quoted : Quote.quote_string .mariadb false 0 (some ⟨utf8 "it's".toList, by decide⟩) =
    .ok (utf8 "'it\\'s'".toList) := by decide

def its : Literal false := Literal.of_quoted its_quoted (Quote.mariadb_works _ _) rfl

example : lex (rules false) (utf8 (Connect.set_time_zone_sql its.text)) =
    some [word "SET", word "time_zone", symbol '=', string (utf8 "it's".toList)] := by decide

end Statements

end RMariaDB.Statements
