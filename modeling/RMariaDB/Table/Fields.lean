import RMariaDB.MariaBinding.Rows
import RMariaDB.Table.LoadData

-- The fields of the file are read as the columns they were written from.

namespace RMariaDB.Table

open Delimited RVector Decimal Program

section Verbatim

def Verbatim (s : Bytes) : Prop := ∀ c ∈ s, c ≠ backslash ∧ c ≠ TAB ∧ c ≠ LF

instance : DecidablePred Verbatim := fun s => List.decidableBAll (fun c => c ≠ backslash ∧ c ≠ TAB ∧ c ≠ LF) s

theorem Verbatim.append {s t : Bytes} (hs : Verbatim s) (ht : Verbatim t) : Verbatim (s ++ t) := by
  intro c hc
  rcases List.mem_append.mp hc with hc | hc
  · exact hs c hc
  · exact ht c hc

theorem Verbatim.ite {p : Prop} [Decidable p] {s t : Bytes} (hs : Verbatim s) (ht : Verbatim t) :
    Verbatim (if p then s else t) := by
  split
  · exact hs
  · exact ht

theorem Verbatim.of_digits {s : Bytes} (h : ∀ c ∈ s, IsDigit c) : Verbatim s := by
  intro c hc
  have hdigit := h c hc
  refine ⟨?_, ?_, ?_⟩
  · rintro rfl
    exact absurd hdigit (by decide)
  · rintro rfl
    exact absurd hdigit (by decide)
  · rintro rfl
    exact absurd hdigit (by decide)

theorem Verbatim.framed {s : Bytes} (h : Verbatim s) : Framed backslash TAB LF s := by
  refine .of_plain ?_ ?_ ?_
  · exact fun hc => (h _ hc).1 rfl
  · exact fun hc => (h _ hc).2.1 rfl
  · exact fun hc => (h _ hc).2.2 rfl

theorem Verbatim.read {s : Bytes} (h : Verbatim s) : value_read (some s) = some s :=
  decode_plain fun hc => (h _ hc).1 rfl

theorem padded_verbatim (w n : Nat) : Verbatim (padded w n) := .of_digits (isDigit_padded w n)

theorem signed_verbatim (v : ℤ) : Verbatim (signed v) := by
  have hdigits : Verbatim (decimal v.natAbs) := .of_digits (isDigit_decimal _)
  have hsign : Verbatim [45] := by decide
  unfold signed
  exact .ite (hsign.append hdigits) hdigits

theorem date_text_verbatim (lib : RLibrary) (day : ℤ) : Verbatim (date_text lib day) := by
  have hdash : Verbatim (ascii "-") := by decide
  have hnone : Verbatim [] := by decide
  unfold date_text
  exact ((((Verbatim.ite hdash hnone).append (padded_verbatim _ _)).append hdash).append
    (padded_verbatim _ _)).append hdash |>.append (padded_verbatim _ _)

theorem clock_text_verbatim (seconds : Nat) : Verbatim (clock_text seconds) := by
  have hcolon : Verbatim (ascii ":") := by decide
  unfold clock_text
  exact (((padded_verbatim _ _).append hcolon).append (padded_verbatim _ _)).append hcolon |>.append
    (padded_verbatim _ _)

theorem hms_text_verbatim (t : ℤ) : Verbatim (hms_text t) := by
  have hdash : Verbatim (ascii "-") := by decide
  have hdot : Verbatim (ascii ".") := by decide
  have hnone : Verbatim [] := by decide
  unfold hms_text
  exact ((Verbatim.ite hdash hnone).append (clock_text_verbatim _)).append
    (.ite hnone (hdot.append (padded_verbatim _ _)))

theorem datetime_text_verbatim (lib : RLibrary) (v : ℚ) : Verbatim (datetime_text lib v) := by
  have hT : Verbatim (ascii "T") := by decide
  have hdot : Verbatim (ascii ".") := by decide
  unfold datetime_text
  exact (((date_text_verbatim _ _).append hT).append (clock_text_verbatim _)).append hdot |>.append
    (padded_verbatim _ _)

theorem POSIXct_text_verbatim (lib : RLibrary) (v : ℤ) : Verbatim (POSIXct_text lib v) := by
  have hblank : Verbatim (ascii " ") := by decide
  have hnone : Verbatim [] := by decide
  unfold POSIXct_text
  exact (date_text_verbatim _ _).append (.ite hnone (hblank.append (clock_text_verbatim _)))

theorem hex_digit_verbatim : ∀ n < 16, Verbatim [hex_digit n] := by decide

theorem hex_verbatim (b : Bytes) : Verbatim (hex b) := by
  intro c hc
  rw [hex, List.mem_flatMap] at hc
  obtain ⟨a, -, ha⟩ := hc
  have hlt := a.toNat_lt
  rcases List.mem_pair.mp ha with rfl | rfl
  · exact hex_digit_verbatim _ (by omega) _ (List.mem_singleton_self _)
  · exact hex_digit_verbatim _ (by omega) _ (List.mem_singleton_self _)

end Verbatim

section Text

-- What csv_quote_char() makes of one byte.
def quoted_byte (b : UInt8) : Bytes :=
  if b = backslash then [backslash, backslash]
  else if b = TAB then [backslash, 116]
  else if b = CR then [backslash, 114]
  else if b = LF then [backslash, 110]
  else [b]

def byte_token (b : UInt8) : Token UInt8 :=
  if b = backslash then .escaped backslash
  else if b = TAB then .escaped 116
  else if b = CR then .escaped 114
  else if b = LF then .escaped 110
  else .plain b

-- The backslashes of the later substitutions are not doubled by the first one.
theorem csv_quote_char_eq (s : Bytes) : csv_quote_char s = s.flatMap quoted_byte := by
  simp only [csv_quote_char, Substitute.replaceAll_single, List.flatMap_assoc]
  congr 1
  funext b
  unfold quoted_byte
  by_cases h1 : b = backslash
  · subst h1
    decide
  by_cases h2 : b = TAB
  · subst h2
    decide
  by_cases h3 : b = CR
  · subst h3
    decide
  by_cases h4 : b = LF
  · subst h4
    decide
  simp [Substitute.code, h1, h2, h3, h4]

theorem quoted_tokens (s : Bytes) :
    tokens backslash (s.flatMap quoted_byte) = s.map byte_token ∧
      Complete backslash (s.flatMap quoted_byte) := by
  induction s with
  | nil => exact ⟨rfl, .nil⟩
  | cons b s ih =>
      obtain ⟨htokens, hcomplete⟩ := ih
      rw [List.flatMap_cons, List.map_cons, ← htokens]
      unfold quoted_byte byte_token
      split
      · exact ⟨tokens_escaped _ _, .escaped _ hcomplete⟩
      split
      · exact ⟨tokens_escaped _ _, .escaped _ hcomplete⟩
      split
      · exact ⟨tokens_escaped _ _, .escaped _ hcomplete⟩
      split
      · exact ⟨tokens_escaped _ _, .escaped _ hcomplete⟩
      · exact ⟨tokens_cons ‹_› _, .plain ‹_› hcomplete⟩

theorem byte_token_ne (b : UInt8) : byte_token b ≠ .plain TAB ∧ byte_token b ≠ .plain LF := by
  unfold byte_token
  constructor
  · split_ifs <;> simp_all
  · split_ifs <;> simp_all

theorem csv_quote_char_framed (s : Bytes) : Framed backslash TAB LF (csv_quote_char s) := by
  obtain ⟨htokens, hcomplete⟩ := quoted_tokens s
  rw [csv_quote_char_eq]
  refine ⟨hcomplete, ?_, ?_⟩
  · rw [htokens, List.mem_map]
    rintro ⟨b, -, hb⟩
    exact (byte_token_ne b).1 hb
  · rw [htokens, List.mem_map]
    rintro ⟨b, -, hb⟩
    exact (byte_token_ne b).2 hb

theorem unescaped_byte_token (b : UInt8) : unescaped (byte_token b) = b := by
  unfold byte_token
  split_ifs with h1 h2 h3 h4
  · rw [h1]
    rfl
  · rw [h2]
    rfl
  · rw [h3]
    rfl
  · rw [h4]
    rfl
  · rfl

-- The text \N is written with two backslashes, so that it is not read as NULL.
theorem byte_token_ne_N (b : UInt8) : byte_token b ≠ .escaped 78 := by
  unfold byte_token
  split_ifs <;> simp [backslash]

theorem decode_quoted (s : Bytes) : decode (tokens backslash (csv_quote_char s)) = some s := by
  rw [csv_quote_char_eq, (quoted_tokens s).1, decode, if_neg, List.map_map]
  · simp [Function.comp_def, unescaped_byte_token]
  · intro h
    obtain ⟨b, rfl, hb⟩ := List.map_eq_singleton_iff.mp h
    exact byte_token_ne_N b hb

end Text

section Blobs

theorem hex_value_digit {n : Nat} (h : n < 16) : hex_value (hex_digit n) = some n := by
  revert n
  decide

theorem hex_pairs_hex (b : Bytes) : hex_pairs (hex b) = some b := by
  induction b with
  | nil => rfl
  | cons c b ih =>
      have hhigh := hex_value_digit (n := c.toNat / 16) (by have := c.toNat_lt; omega)
      have hlow := hex_value_digit (n := c.toNat % 16) (by omega)
      have hbyte : 16 * (c.toNat / 16) + c.toNat % 16 = c.toNat := Nat.div_add_mod _ _
      have hrest : hex_pairs (List.flatMap _ b) = some b := ih
      simp only [hex, List.flatMap_cons, List.cons_append, List.nil_append, hex_pairs, hhigh, hlow,
        hrest, Option.bind_eq_bind, Option.bind_some, hbyte]
      simp

theorem length_hex (b : Bytes) : (hex b).length = 2 * b.length := by
  induction b with
  | nil => rfl
  | cons c b ih =>
      rw [hex] at ih ⊢
      rw [List.flatMap_cons, List.length_append, ih, List.length_cons]
      simp
      omega

theorem UNHEX_hex (b : Bytes) : UNHEX (hex b) = some b := by
  rw [UNHEX, length_hex, if_neg (by omega), hex_pairs_hex]

end Blobs

section Paths

variable (lib : RLibrary) (timezone : String)

-- What the table receives of row i of a column by LOAD DATA.
def fast_value (x : RVector) (i : Nat) : Except Exc (Option Bytes) := do
  let y ← csv_quote_one lib timezone x
  pure (received x (value_read (text_at (Coerce.factor_to_string y) i)))

-- The parameter that is bound for row i of a column.
def plain_value (x : RVector) (i : Nat) : Except Exc (Option ParamValue) := do
  let column := Coerce.sql_data lib timezone x
  let type ← variable_type_from_object column
  MariaBinding.param_value type column i

end Paths

section File

variable {lib : RLibrary} {timezone : String}

-- Columns that are written without a tab, line feed or backslash that is not quoted.
def Clean (lib : RLibrary) (x : RVector) : Prop :=
  match x.sexp with
  | .STRSXP klass _ => "factor" ∉ klass
  | .REALSXP _ _ => ∀ q, Verbatim (lib.formatE q)
  | .VECSXP _ v => all_raw v = true
  | _ => True

-- The class vector without AsIs
def dropped (klass : List String) : List String := klass.filter fun c => c ≠ "AsIs"

theorem mem_dropped {klass : List String} {c : String} (h : c ≠ "AsIs") :
    c ∈ dropped klass ↔ c ∈ klass := by
  simp [dropped, h]

theorem Clean.without_AsIs {x : RVector} (h : Clean lib x) : Clean lib (without_AsIs x) := by
  unfold Clean Table.without_AsIs at *
  cases hx : x.sexp with
  | STRSXP klass v =>
      rw [hx] at h
      have hdropped : "factor" ∉ dropped klass := by rwa [mem_dropped (by decide)]
      exact hdropped
  | REALSXP klass v =>
      rw [hx] at h
      exact h
  | VECSXP klass v =>
      rw [hx] at h
      exact h
  | _ => trivial

theorem strings_fits {v : List (Option Bytes)}
    (h : ∀ s, some s ∈ v → Framed backslash TAB LF s) : Fits (Coerce.factor_to_string (strings v)) := h

theorem map_fits {α : Type} {xs : List α} {f : α → Option Bytes}
    (h : ∀ a ∈ xs, ∀ s, f a = some s → Verbatim s) :
    Fits (Coerce.factor_to_string (strings (xs.map f))) := by
  refine strings_fits fun s hs => ?_
  obtain ⟨a, ha, hf⟩ := List.mem_map.mp hs
  exact (h a ha s hf).framed

theorem quoted_strings_fits (klass : List String) (v : List (Option Bytes)) :
    Fits { sexp := .STRSXP klass (v.map fun s => s.map csv_quote_char) } := by
  intro s hs
  obtain ⟨t, -, ht⟩ := List.mem_map.mp hs
  obtain ⟨t', rfl, rfl⟩ := Option.map_eq_some_iff.mp ht
  exact csv_quote_char_framed t'

theorem labels_map (f : Bytes → Bytes) (levels : List (Option Bytes)) (codes : List ℤ) :
    Coerce.labels (levels.map fun s => s.map f) codes =
      (Coerce.labels levels codes).map fun s => s.map f := by
  rw [Coerce.labels, Coerce.labels, List.map_map]
  refine List.map_congr_left fun v _ => ?_
  simp only [Function.comp_apply]
  split
  · rfl
  · rw [List.getElem?_map]
    cases levels[v.toNat - 1]? <;> rfl

theorem quote_integer_verbatim (lib : RLibrary) (x : RVector) (v : ℤ) {s : Bytes}
    (h : quote_integer lib x v = some s) : Verbatim s := by
  unfold quote_integer at h
  split_ifs at h
  · cases h
    exact fun c hc => absurd hc List.not_mem_nil
  · cases h
    unfold as_character_integer
    exact .ite (date_text_verbatim _ _) (.ite (POSIXct_text_verbatim _ _)
      (.ite (hms_text_verbatim _) (signed_verbatim _)))

theorem quote_integer64_verbatim (v : ℤ) {s : Bytes} (h : quote_integer64 v = some s) :
    Verbatim s := by
  unfold quote_integer64 at h
  split_ifs at h
  · cases h
    exact fun c hc => absurd hc List.not_mem_nil
  · cases h
    exact signed_verbatim v

theorem quote_numeric_verbatim {integerish : Bool} (hformatE : ∀ q, Verbatim (lib.formatE q))
    (x : Double) {s : Bytes} (h : quote_numeric lib integerish x = some s) : Verbatim s := by
  cases x with
  | finite q =>
      cases h
      exact .ite (signed_verbatim _) (hformatE q)
  | _ => cases h

theorem quote_logical_verbatim (v : ℤ) {s : Bytes} (h : quote_logical v = some s) : Verbatim s := by
  unfold quote_logical at h
  split_ifs at h
  cases h
  exact signed_verbatim v

theorem quote_element_verbatim {e : VecElt} {s : Bytes}
    (hraw : (match e with
      | .RAWSXP _ | .NILSXP => true
      | .other _ => false) = true)
    (h : quote_element lib e = some s) : Verbatim s := by
  cases e with
  | RAWSXP b =>
      cases h
      exact hex_verbatim b
  | NILSXP => cases h
  | other type => cases hraw

theorem quote_double_verbatim {f : ℚ → Bytes} (hf : ∀ q, Verbatim (f q)) (x : Double) {s : Bytes}
    (h : quote_double f x = some s) : Verbatim s := by
  cases x with
  | finite q =>
      cases h
      exact hf q
  | _ => cases h

-- A column that is not a vector of strings after quoting has no fields of its own.
theorem no_cells_fits {y : RVector} (h : ∀ klass v, y.sexp ≠ .STRSXP klass v)
    (hfactor : y.is_factor = false) : Fits (Coerce.factor_to_string y) := by
  intro s hs
  unfold Coerce.factor_to_string at hs
  cases hy : y.sexp with
  | STRSXP klass v => exact absurd hy (h klass v)
  | _ => simp [hy, hfactor, cells] at hs

theorem is_factor_INTSXP {x : RVector} {klass : List String} {codes : List ℤ}
    (hx : x.sexp = .INTSXP klass codes) : x.is_factor = klass.contains "factor" := by
  rw [is_factor, inherits, hx]
  rfl

theorem factor_to_string_factor {x : RVector} {klass : List String} {codes : List ℤ}
    (hx : x.sexp = .INTSXP klass codes) (h : x.is_factor = true) :
    Coerce.factor_to_string x = { sexp := .STRSXP [] (Coerce.labels x.levels codes) } := by
  rw [Coerce.factor_to_string, hx]
  exact if_pos h

theorem quoted_levels_fit (x : RVector) (h : ∀ klass v, x.sexp = .STRSXP klass v → "factor" ∉ klass)
    (hfactor : x.is_factor = true) : Fits (Coerce.factor_to_string
      { x with levels := x.levels.map fun s => s.map csv_quote_char }) := by
  cases hx : x.sexp with
  | INTSXP klass codes =>
      have hlevels := factor_to_string_factor
        (x := { x with levels := x.levels.map fun s => s.map csv_quote_char }) hx hfactor
      rw [labels_map] at hlevels
      rw [← hx, hlevels]
      exact quoted_strings_fits [] _
  | STRSXP klass v =>
      have hnot := h klass v hx
      simp [is_factor, inherits, hx, SEXP.klass, hnot] at hfactor
  | _ =>
      intro s hs
      simp [Coerce.factor_to_string, cells] at hs

theorem csv_quote_one_fits {x y : RVector} (hclean : Clean lib x)
    (h : csv_quote_one lib timezone x = .ok y) : Fits (Coerce.factor_to_string y) := by
  have hclean := hclean.without_AsIs
  unfold csv_quote_one at h
  generalize without_AsIs x = x at *
  unfold Clean at hclean
  simp only at h
  split at h
  · rename_i hfactor
    cases h
    refine quoted_levels_fit x (fun klass v hx => ?_) hfactor
    rw [hx] at hclean
    exact hclean
  rename_i hfactor
  split at h
  · cases h
    exact quoted_strings_fits _ _
  · cases h
    exact map_fits fun v _ s hs => quote_integer_verbatim lib x v hs
  split at h
  · split at h
    · cases h
      exact map_fits fun cell _ s hs => quote_integer64_verbatim cell.int64 hs
    · cases h
      exact no_cells_fits ‹_› (Bool.eq_false_iff.mpr hfactor)
  split at h
  · rename_i hnumeric
    cases h
    refine map_fits fun v hv s hs => quote_numeric_verbatim ?_ v hs
    cases hx : x.sexp with
    | REALSXP klass cells =>
        rw [hx] at hclean
        exact hclean
    | _ => simp [hx, doubles] at hv
  split at h
  · cases h
    exact map_fits fun v _ s hs => quote_logical_verbatim v hs
  split at h
  · cases h
    exact map_fits fun v _ s hs => quote_double_verbatim (fun q => date_text_verbatim _ _) v hs
  split at h
  · cases h
    exact map_fits fun _ _ s hs => quote_double_verbatim (fun q => hms_text_verbatim _) _ hs
  split at h
  · cases h
    exact map_fits fun v _ s hs => quote_double_verbatim (fun q => datetime_text_verbatim _ _) v hs
  split at h
  · split at h
    · cases h
      rename_i hx
      rw [hx] at hclean
      exact map_fits fun e he s hs => quote_element_verbatim (List.all_eq_true.mp hclean e he) hs
    · cases h
      refine no_cells_fits ?_ (Bool.eq_false_iff.mpr hfactor)
      assumption
  · cases h

theorem of_data_file {value : RFrame} {file : Bytes} (h : data_file lib timezone value = .ok file) :
    ∃ ys, value.columns.mapM (csv_quote_one lib timezone) = .ok ys ∧
      List.Forall₂ (fun x y => csv_quote_one lib timezone x = .ok y) value.columns ys ∧
      file = write_delim value.nrow (ys.map Coerce.factor_to_string) := by
  obtain ⟨quoted, hquoted, h⟩ := of_bind_eq_ok h
  obtain ⟨ys, hys, hquoted⟩ := of_bind_eq_ok hquoted
  cases hquoted
  cases h
  refine ⟨ys, hys, List.forall₂_iff_zip.mpr ⟨(length_of_mapM hys).symm, fun {x y} hxy => ?_⟩, rfl⟩
  have hyx : (y, x) ∈ ys.zip value.columns := by
    rw [← List.zip_swap]
    exact List.mem_map.mpr ⟨(x, y), hxy, rfl⟩
  exact of_mapM_eq_ok hys (y, x) hyx

theorem fast_values {xs ys : List RVector}
    (h : List.Forall₂ (fun x y => csv_quote_one lib timezone x = .ok y) xs ys) (i : Nat) :
    List.Forall₂ (fun x v => fast_value lib timezone x i = .ok v) xs
      ((xs.zip (ys.map Coerce.factor_to_string)).map fun (x, y) =>
        received x (value_read (text_at y i))) := by
  induction h with
  | nil => exact .nil
  | cons hx _ ih =>
      refine .cons ?_ ih
      rw [fast_value, hx]
      rfl

-- Row by row, the column of each name receives what its column in the data frame stands for.
theorem data_file_rows {value : RFrame} (hclean : ∀ x ∈ value.columns, Clean lib x) {file : Bytes}
    (h : data_file lib timezone value = .ok file) :
    (read_file (load_data value) file).length = value.nrow ∧
    ∀ i (row : Row), (read_file (load_data value) file)[i]? = some row →
      ∃ values, List.Forall₂ (fun x v => fast_value lib timezone x i = .ok v) value.columns values ∧
        row.Perm (value.names.zip values) := by
  obtain ⟨ys, -, hys, rfl⟩ := of_data_file h
  have hfits : ∀ y ∈ ys.map Coerce.factor_to_string, Fits y := by
    intro z hz
    obtain ⟨y, hy, rfl⟩ := List.mem_map.mp hz
    obtain ⟨k, hk, rfl⟩ := List.getElem_of_mem hy
    have hk' : k < value.columns.length := hys.length_eq ▸ hk
    exact csv_quote_one_fits (hclean _ (List.getElem_mem hk')) (hys.get hk' hk)
  obtain ⟨hlen, hrows⟩ := read_file_rows value (by rw [List.length_map, hys.length_eq]) hfits
  refine ⟨hlen, fun i row hrow => ⟨_, ?_, hrows i row hrow⟩⟩
  exact fast_values hys i

end File

section Classes

-- The classes that a column is treated by.
def special : List String := ["factor", "integer64", "Date", "difftime", "hms", "POSIXt", "POSIXlt"]

theorem inherits_eq {x : RVector} (hlist : ∀ klass v, x.sexp ≠ .VECSXP klass v) (c : String) :
    x.inherits c = x.sexp.klass.contains c := by
  unfold inherits
  split
  · rename_i v hx
    exact absurd hx (hlist [] v)
  · rfl

theorem inherits_without_AsIs {x : RVector} {c : String} (hlist : ∀ klass v, x.sexp ≠ .VECSXP klass v)
    (h : c ≠ "AsIs") : (without_AsIs x).inherits c = x.inherits c := by
  unfold inherits without_AsIs
  cases hx : x.sexp with
  | VECSXP klass v => exact absurd hx (hlist klass v)
  | _ => simp [SEXP.klass, h]

theorem special_ne_AsIs : ∀ c ∈ special, c ≠ "AsIs" := by decide

theorem csv_quote_one_integer (lib : RLibrary) (timezone : String) {x : RVector} {klass : List String} {v : List ℤ}
    (hx : x.sexp = .INTSXP klass v) (h : x.inherits "factor" = false) :
    csv_quote_one lib timezone x = .ok (strings (v.map (quote_integer lib (without_AsIs x)))) := by
  have hdrop : (without_AsIs x).sexp = .INTSXP (dropped klass) v := by rw [without_AsIs, hx]; rfl
  have hfactor : (without_AsIs x).is_factor = false :=
    (inherits_without_AsIs (by simp [hx]) (by decide)).trans h
  simp only [csv_quote_one, hfactor, hdrop]
  rfl

theorem fast_value_strings_of (lib : RLibrary) (timezone : String) {x : RVector} {α : Type} {xs : List α} {f : α → Option Bytes}
    (hquote : csv_quote_one lib timezone x = .ok (strings (xs.map f))) (hlist : x.is_list = false)
    (hf : ∀ a ∈ xs, ∀ s, f a = some s → Verbatim s) (i : Nat) :
    fast_value lib timezone x i = .ok (xs[i]?.bind f) := by
  have hsame : Coerce.factor_to_string (strings (xs.map f)) = strings (xs.map f) := rfl
  rw [fast_value, hquote, ok_bind, hsame, received, hlist, text_at, strings, cells, List.getElem?_map]
  cases hx : xs[i]? with
  | none => rfl
  | some a =>
      cases ha : f a with
      | none => simp [ha]
      | some s => simp [ha, (hf a (List.mem_of_getElem? hx) s ha).read]

end Classes

end RMariaDB.Table
