import RMariaDB.Table.Lossless

-- What the two ways of appending store of logical, integer and integer64 columns.

namespace RMariaDB.Table

open Delimited RVector Decimal Program

section Storage

inductive ColumnType where
  -- an integer type that is wide enough
  | integer
  -- BIT(1)
  | bit
  -- wide enough, too
  | varchar
deriving DecidableEq, Repr

inductive Stored where
  | number (n : ℤ)
  | text (s : Bytes)
  | converted (value : ParamValue)
deriving DecidableEq, Repr

def big_endian (s : Bytes) : Nat := s.foldl (fun n b => 256 * n + b.toNat) 0

-- LOAD DATA IGNORE; an empty field has no digits and no bytes.
def stored_field : ColumnType → Bytes → Stored
  | .integer, s => .number (integer s)
  | .bit, s => .number (min 1 (big_endian s))
  | .varchar, s => .text s

def stored_integer : ColumnType → ℤ → Stored
  | .varchar, n => .text (signed n)
  | _, n => .number n

def stored_param (type : ColumnType) : ParamValue → Stored
  | .int n | .int64 n => stored_integer type n
  | value => .converted value

end Storage

section Columns

-- A vector of one of the three types, without another meaning.
def IntegerLike (x : RVector) : Prop :=
  match x.sexp with
  | .LGLSXP klass _ | .INTSXP klass _ => ∀ c ∈ special, c ∉ klass
  | .REALSXP klass _ =>
      klass.getLast? = some "integer64" ∧ ∀ c ∈ special, c ≠ "integer64" → c ∉ klass
  | _ => False

def known (missing n : ℤ) : Option ℤ := if n = missing then none else some n

-- The integer in row i; NA is none.
def integer_at (x : RVector) (i : Nat) : Option ℤ :=
  match x.sexp with
  | .LGLSXP _ v => v[i]?.bind (known NA_LOGICAL)
  | .INTSXP _ v => v[i]?.bind (known NA_INTEGER)
  | .REALSXP _ v => v[i]?.bind fun cell => known NA_INTEGER64 cell.int64
  | _ => none

-- The text of an integer in a field
def field_text (x : RVector) (n : ℤ) : Bytes := if n = 0 ∧ x.is_logical = false then [] else signed n

-- The integer as a parameter
def of_integer (x : RVector) (n : ℤ) : ParamValue := if x.is_integer64 then .int64 n else .int n

variable (lib : RLibrary) (timezone : String)

theorem csv_quote_one_logical {x : RVector} {klass : List String} {v : List ℤ}
    (hx : x.sexp = .LGLSXP klass v) (h : ∀ c ∈ special, x.inherits c = false) :
    csv_quote_one lib timezone x = .ok (strings (v.map quote_logical)) := by
  have hdrop : (without_AsIs x).sexp = .LGLSXP (dropped klass) v := by rw [without_AsIs, hx]; rfl
  have hsame : ∀ c ∈ special, (without_AsIs x).inherits c = false := fun c hc =>
    (inherits_without_AsIs (by simp [hx]) (special_ne_AsIs c hc)).trans (h c hc)
  have hfactor : (without_AsIs x).is_factor = false := hsame "factor" (by decide)
  have hinteger64 : (without_AsIs x).is_integer64 = false := hsame "integer64" (by decide)
  simp only [csv_quote_one, is_numeric, hfactor, hinteger64, hdrop]
  rfl

theorem csv_quote_one_integer64 {x : RVector} {klass : List String} {v : List RealCell}
    (hx : x.sexp = .REALSXP klass v) (h : x.inherits "factor" = false)
    (hinteger64 : x.inherits "integer64" = true) :
    csv_quote_one lib timezone x = .ok (strings (v.map fun cell => quote_integer64 cell.int64)) := by
  have hdrop : (without_AsIs x).sexp = .REALSXP (dropped klass) v := by rw [without_AsIs, hx]; rfl
  have hfactor : (without_AsIs x).is_factor = false :=
    (inherits_without_AsIs (by simp [hx]) (by decide)).trans h
  have his : (without_AsIs x).is_integer64 = true :=
    (inherits_without_AsIs (by simp [hx]) (by decide)).trans hinteger64
  simp only [csv_quote_one, hfactor, hdrop, his]
  rfl

-- An integer without a class is written as a number.
theorem as_character_signed {x : RVector} (h : ∀ c ∈ special, x.inherits c = false)
    (hlist : ∀ klass v, x.sexp ≠ .VECSXP klass v) (v : ℤ) :
    as_character_integer lib (without_AsIs x) v = signed v := by
  have hsame : ∀ c ∈ special, (without_AsIs x).inherits c = false := fun c hc =>
    (inherits_without_AsIs hlist (special_ne_AsIs c hc)).trans (h c hc)
  simp [as_character_integer, hsame "Date" (by decide), hsame "POSIXt" (by decide),
    hsame "hms" (by decide)]

theorem quote_logical_known {x : RVector} (h : x.is_logical = true) (n : ℤ) :
    quote_logical n = (known NA_LOGICAL n).map (field_text x) := by
  unfold quote_logical known
  split
  · rfl
  · simp [field_text, h]

theorem quote_integer_known {x y : RVector} (h : x.is_logical = false) (n : ℤ)
    (htext : as_character_integer lib y n = signed n) :
    quote_integer lib y n = (known NA_INTEGER n).map (field_text x) := by
  unfold quote_integer known
  split
  · rfl
  split
  · rename_i hzero
    rw [Option.map_some, field_text, if_pos ⟨hzero, h⟩]
  · rename_i hzero
    simp [field_text, hzero, htext]

theorem quote_integer64_known {x : RVector} (h : x.is_logical = false) (n : ℤ) :
    quote_integer64 n = (known NA_INTEGER64 n).map (field_text x) := by
  unfold quote_integer64 known
  split
  · rfl
  split
  · rename_i hzero
    rw [Option.map_some, field_text, if_pos ⟨hzero, h⟩]
  · rename_i hzero
    simp [field_text, hzero]

theorem bind_known {α : Type} {f : α → Option Bytes} {g : α → Option ℤ} {x : RVector}
    (h : ∀ a, f a = (g a).map (field_text x)) (a : Option α) :
    a.bind f = (a.bind g).map (field_text x) := by
  cases a with
  | none => rfl
  | some a => exact h a

theorem fast_value_logical {x : RVector} {klass : List String} {v : List ℤ}
    (hx : x.sexp = .LGLSXP klass v) (h : ∀ c ∈ special, x.inherits c = false) (i : Nat) :
    fast_value lib timezone x i = .ok ((integer_at x i).map (field_text x)) := by
  have hat : integer_at x i = v[i]?.bind (known NA_LOGICAL) := by rw [integer_at, hx]
  rw [fast_value_strings_of lib timezone (csv_quote_one_logical lib timezone hx h) (by rw [is_list, hx])
    (fun a _ s hs => quote_logical_verbatim a hs), hat]
  exact congrArg Except.ok (bind_known (quote_logical_known (by rw [is_logical, hx])) _)

theorem fast_value_INTSXP {x : RVector} {klass : List String} {v : List ℤ}
    (hx : x.sexp = .INTSXP klass v) (h : ∀ c ∈ special, x.inherits c = false) (i : Nat) :
    fast_value lib timezone x i = .ok ((integer_at x i).map (field_text x)) := by
  have hat : integer_at x i = v[i]?.bind (known NA_INTEGER) := by rw [integer_at, hx]
  rw [fast_value_strings_of lib timezone
    (csv_quote_one_integer lib timezone hx (h "factor" (by decide))) (by rw [is_list, hx])
    (fun a _ s hs => quote_integer_verbatim lib _ a hs), hat]
  exact congrArg Except.ok (bind_known (fun n => quote_integer_known lib (by rw [is_logical, hx]) n
    (as_character_signed lib h (by simp [hx]) n)) _)

theorem fast_value_integer64 {x : RVector} {klass : List String} {v : List RealCell}
    (hx : x.sexp = .REALSXP klass v) (h : x.inherits "factor" = false)
    (hinteger64 : x.inherits "integer64" = true) (i : Nat) :
    fast_value lib timezone x i = .ok ((integer_at x i).map (field_text x)) := by
  have hat : integer_at x i = v[i]?.bind fun cell => known NA_INTEGER64 cell.int64 := by
    rw [integer_at, hx]
  rw [fast_value_strings_of lib timezone (csv_quote_one_integer64 lib timezone hx h hinteger64)
    (by rw [is_list, hx]) (fun a _ s hs => quote_integer64_verbatim _ hs), hat]
  exact congrArg Except.ok (bind_known (fun cell => quote_integer64_known (by rw [is_logical, hx]) _) _)

theorem IntegerLike.inherits {x : RVector} (h : IntegerLike x) :
    x.inherits "factor" = false ∧ x.inherits "Date" = false ∧ x.inherits "difftime" = false ∧
      x.inherits "POSIXt" = false ∧
      ((∀ klass v, x.sexp ≠ .REALSXP klass v) → ∀ c ∈ special, x.inherits c = false) := by
  unfold IntegerLike at h
  split at h
  · rename_i klass v hx
    have hall : ∀ c ∈ special, x.inherits c = false := fun c hc => by
      simpa [inherits_eq (x := x) (by simp [hx]), hx, SEXP.klass] using h c hc
    exact ⟨hall _ (by decide), hall _ (by decide), hall _ (by decide), hall _ (by decide), fun _ => hall⟩
  · rename_i klass v hx
    have hall : ∀ c ∈ special, x.inherits c = false := fun c hc => by
      simpa [inherits_eq (x := x) (by simp [hx]), hx, SEXP.klass] using h c hc
    exact ⟨hall _ (by decide), hall _ (by decide), hall _ (by decide), hall _ (by decide), fun _ => hall⟩
  · rename_i klass v hx
    have hall : ∀ c ∈ special, c ≠ "integer64" → x.inherits c = false := fun c hc hne => by
      simpa [inherits_eq (x := x) (by simp [hx]), hx, SEXP.klass] using h.2 c hc hne
    exact ⟨hall _ (by decide) (by decide), hall _ (by decide) (by decide), hall _ (by decide) (by decide),
      hall _ (by decide) (by decide), fun hreal => absurd hx (hreal klass v)⟩
  · exact h.elim

theorem IntegerLike.integer64 {x : RVector} (h : IntegerLike x) {klass : List String}
    {v : List RealCell} (hx : x.sexp = .REALSXP klass v) : klass.getLast? = some "integer64" ∧
      x.is_integer64 = true := by
  unfold IntegerLike at h
  rw [hx] at h
  refine ⟨h.1, ?_⟩
  simpa [is_integer64, inherits_eq (x := x) (by simp [hx]), hx, SEXP.klass] using
    List.mem_of_getLast? h.1

theorem fast_value_integer {x : RVector} (h : IntegerLike x) (i : Nat) :
    fast_value lib timezone x i = .ok ((integer_at x i).map (field_text x)) := by
  obtain ⟨hfactor, -, -, -, hspecial⟩ := h.inherits
  cases hx : x.sexp with
  | LGLSXP klass v => exact fast_value_logical lib timezone hx (hspecial (by simp [hx])) i
  | INTSXP klass v => exact fast_value_INTSXP lib timezone hx (hspecial (by simp [hx])) i
  | REALSXP klass v =>
      exact fast_value_integer64 lib timezone hx hfactor (h.integer64 hx).2 i
  | _ =>
      unfold IntegerLike at h
      rw [hx] at h
      exact h.elim

-- Nothing of sql_data() applies to these columns.
theorem sql_data_integer {x : RVector} (h : IntegerLike x) : Coerce.sql_data lib timezone x = x.sexp := by
  obtain ⟨hfactor, hdate, hdifftime, hposix, -⟩ := h.inherits
  have hstring : Coerce.factor_to_string x = x := by
    unfold Coerce.factor_to_string
    split
    · exact if_neg (by rw [is_factor, hfactor]; decide)
    · rfl
  have hfinite : Coerce.numeric_to_finite x = x := by
    rw [Coerce.numeric_to_finite, if_neg]
    cases hx : x.sexp with
    | REALSXP klass v => simp [(h.integer64 hx).2]
    | INTSXP klass v => simp [is_integer, is_factor, hx, hfactor]
    | _ => simp [is_numeric, hx]
  simp [Coerce.sql_data, hstring, Coerce.difftime_to_hms, hdifftime, Coerce.posixlt_to_posixct, hposix,
    hfinite, Coerce.date_to_double, hdate]

theorem bound_known {x : RVector} {missing n : ℤ} {value : ParamValue} (h : of_integer x n = value) :
    (pure (if n = missing then none else some value) : Except Exc (Option ParamValue)) =
      .ok ((known missing n).map (of_integer x)) := by
  unfold known
  split
  · rfl
  · rw [← h]
    rfl

theorem plain_value_integer {x : RVector} (h : IntegerLike x) {i : Nat} (hi : i < x.length) :
    plain_value lib timezone x i = .ok ((integer_at x i).map (of_integer x)) := by
  obtain ⟨-, -, -, -, hspecial⟩ := h.inherits
  rw [plain_value, sql_data_integer lib timezone h, integer_at]
  rw [RVector.length] at hi
  cases hx : x.sexp with
  | LGLSXP klass v =>
      rw [hx] at hi
      have his : x.is_integer64 = false := hspecial (by simp [hx]) _ (by decide)
      obtain ⟨n, hn⟩ : ∃ n, v[i]? = some n := ⟨_, List.getElem?_eq_getElem hi⟩
      simp only [variable_type_from_object, ok_bind, MariaBinding.param_value, LOGICAL, index_eq_ok hn, hn,
        Option.bind_some]
      exact bound_known (by simp [of_integer, his])
  | INTSXP klass v =>
      rw [hx] at hi
      have his : x.is_integer64 = false := hspecial (by simp [hx]) _ (by decide)
      obtain ⟨n, hn⟩ : ∃ n, v[i]? = some n := ⟨_, List.getElem?_eq_getElem hi⟩
      simp only [variable_type_from_object, ok_bind, MariaBinding.param_value, INTEGER, index_eq_ok hn, hn,
        Option.bind_some]
      exact bound_known (by simp [of_integer, his])
  | REALSXP klass v =>
      rw [hx] at hi
      obtain ⟨hlast, his⟩ := h.integer64 hx
      obtain ⟨cell, hcell⟩ : ∃ cell, v[i]? = some cell := ⟨_, List.getElem?_eq_getElem hi⟩
      have htype : variable_type_from_object (.REALSXP klass v) = .ok .MY_INT64 := by
        simp [variable_type_from_object, r_class, SEXP.klass, hlast]
      simp only [htype, ok_bind, MariaBinding.param_value, INTEGER64, index_eq_ok hcell, map_ok, hcell,
        Option.bind_some]
      exact bound_known (by simp [of_integer, his])
  | _ =>
      unfold IntegerLike at h
      rw [hx] at h
      exact h.elim

-- Both paths store the same.
def StoreAlike (type : ColumnType) (x : RVector) (i : Nat) : Prop :=
  ∃ v p, fast_value lib timezone x i = .ok v ∧ plain_value lib timezone x i = .ok p ∧
    v.map (stored_field type) = p.map (stored_param type)

theorem stored_of_integer (type : ColumnType) (x : RVector) (n : ℤ) :
    stored_param type (of_integer x n) = stored_integer type n := by
  unfold of_integer
  split <;> rfl

theorem field_text_integer (x : RVector) (n : ℤ) : integer (field_text x n) = n := by
  unfold field_text
  split
  · rename_i h
    rw [h.1]
    rfl
  · exact integer_signed n

theorem signed_ne_nil (n : ℤ) : signed n ≠ [] := by
  unfold signed
  split
  · exact List.cons_ne_nil _ _
  · exact decimal_ne_nil _

theorem stored_varchar_iff (x : RVector) (n : ℤ) :
    stored_field .varchar (field_text x n) = stored_integer .varchar n ↔
      ¬(n = 0 ∧ x.is_logical = false) := by
  simp only [stored_field, stored_integer, field_text, Stored.text.injEq]
  split
  · rename_i h
    exact ⟨fun hnil => absurd hnil.symm (signed_ne_nil n), fun hnot => absurd h hnot⟩
  · rename_i h
    exact ⟨fun _ => h, fun _ => rfl⟩

-- BIT(1) takes the first digit for a byte, which no digit's code fits.
theorem stored_bit_iff (x : RVector) {n : ℤ} (h : n = 0 ∨ n = 1) :
    stored_field .bit (field_text x n) = stored_integer .bit n ↔ ¬(n = 0 ∧ x.is_logical = true) := by
  cases hlogical : x.is_logical with
  | true =>
      rcases h with rfl | rfl
      · simp only [field_text, hlogical]
        decide
      · simp only [field_text, hlogical]
        decide
  | false =>
      rcases h with rfl | rfl
      · simp only [field_text, hlogical]
        decide
      · simp only [field_text, hlogical]
        decide

-- The values for which the two paths part: a zero that is written as an empty field for the
-- sake of BIT(1), and FALSE, for which this is not done.
theorem integers_store_alike_iff (type : ColumnType) {x : RVector} (h : IntegerLike x) {i : Nat}
    (hi : i < x.length)
    (hbit : type = .bit → ∀ n, integer_at x i = some n → n = 0 ∨ n = 1) :
    StoreAlike lib timezone type x i ↔
      ¬(type = .varchar ∧ x.is_logical = false ∧ integer_at x i = some 0) ∧
      ¬(type = .bit ∧ x.is_logical = true ∧ integer_at x i = some 0) := by
  have halike : StoreAlike lib timezone type x i ↔
      (integer_at x i).map (fun n => stored_field type (field_text x n)) =
        (integer_at x i).map (stored_integer type) := by
    constructor
    · rintro ⟨v, p, hv, hp, hsame⟩
      rw [fast_value_integer lib timezone h] at hv
      rw [plain_value_integer lib timezone h hi] at hp
      cases hv
      cases hp
      simpa [Function.comp_def, stored_of_integer] using hsame
    · intro hsame
      refine ⟨_, _, fast_value_integer lib timezone h i, plain_value_integer lib timezone h hi, ?_⟩
      simpa [Function.comp_def, stored_of_integer] using hsame
  rw [halike]
  cases hn : integer_at x i with
  | none => simp
  | some n =>
      cases type with
      | integer => simp [stored_field, stored_integer, field_text_integer]
      | bit => simp [stored_bit_iff x (hbit rfl n hn), and_comm]
      | varchar => simp [stored_varchar_iff, and_comm]

end Columns

section Example

def counts : RVector := { sexp := .INTSXP [] [NA_INTEGER, 0, -5] }

theorem integers_store_alike_iff_counts : StoreAlike utc "UTC" .integer counts 1 ↔
    ¬(ColumnType.integer = .varchar ∧ counts.is_logical = false ∧ integer_at counts 1 = some 0) ∧
    ¬(ColumnType.integer = .bit ∧ counts.is_logical = true ∧ integer_at counts 1 = some 0) :=
  integers_store_alike_iff utc "UTC" .integer (x := counts) (by simp [counts, IntegerLike]) (by decide)
    (by simp)

def flag : RVector := { sexp := .LGLSXP [] [0] }

-- FALSE is stored in BIT(1) as 1, and a zero in VARCHAR as an empty string.
theorem false_and_zero_not_stored_alike :
    (IntegerLike flag ∧ integer_at flag 0 = some 0 ∧ ¬StoreAlike utc "UTC" .bit flag 0) ∧
    (IntegerLike counts ∧ integer_at counts 1 = some 0 ∧ ¬StoreAlike utc "UTC" .varchar counts 1) := by
  have hflag : IntegerLike flag := by simp [flag, IntegerLike]
  have hcounts : IntegerLike counts := by simp [counts, IntegerLike]
  refine ⟨⟨hflag, rfl, ?_⟩, ⟨hcounts, rfl, ?_⟩⟩
  · rintro ⟨v, p, hv, hp, hsame⟩
    rw [fast_value_integer utc "UTC" hflag] at hv
    rw [plain_value_integer utc "UTC" hflag (by decide)] at hp
    cases hv
    cases hp
    revert hsame
    decide
  · rintro ⟨v, p, hv, hp, hsame⟩
    rw [fast_value_integer utc "UTC" hcounts] at hv
    rw [plain_value_integer utc "UTC" hcounts (by decide)] at hp
    cases hv
    cases hp
    revert hsame
    decide

end Example

end RMariaDB.Table
