import RMariaDB.Table.Fields

-- Text and blobs come back from the file as they were.

namespace RMariaDB.Table

open Delimited RVector Program Decimal

section Columns

variable (lib : RLibrary) (timezone : String)

-- The classes of a list of raw vectors: none, AsIs, or a class that is a list. Those that
-- csv_quote_one() tests for earlier are not among them.
def BlobClass (klass : List String) : Prop :=
  (∀ c ∈ klass, c = "AsIs") ∨
    "list" ∈ klass ∧ ∀ c ∈ ["factor", "integer64", "Date", "difftime", "POSIXt"], c ∉ klass

instance : DecidablePred BlobClass := fun _ => inferInstanceAs (Decidable (_ ∨ _))

-- A character vector, a factor or a list of raw vectors.
def Textual (x : RVector) : Prop :=
  match x.sexp with
  | .STRSXP klass _ => "factor" ∉ klass
  | .INTSXP klass _ => "factor" ∈ klass
  | .VECSXP klass v => BlobClass klass ∧ all_raw v = true
  | _ => False

def element_bytes : VecElt → Option Bytes
  | .RAWSXP b => some b
  | _ => none

-- The value in row i of such a column.
def value_at (x : RVector) (i : Nat) : Option Bytes :=
  match x.sexp with
  | .STRSXP _ v => v[i]?.join
  | .INTSXP _ codes => (Coerce.labels x.levels codes)[i]?.join
  | .VECSXP _ v => v[i]?.bind element_bytes
  | _ => none

theorem read_quoted (s : Option Bytes) : value_read (s.map csv_quote_char) = s := by
  cases s with
  | none => rfl
  | some s => exact decode_quoted s

theorem read_element {e : VecElt} (h : all_raw [e] = true) :
    (value_read (quote_element lib e)).bind UNHEX = element_bytes e := by
  cases e with
  | RAWSXP b =>
      have hread : value_read (some (hex b)) = some (hex b) := (hex_verbatim b).read
      rw [quote_element, hread]
      exact UNHEX_hex b
  | NILSXP => rfl
  | other type => cases h

theorem dropped_nil {klass : List String} (h : ∀ c ∈ klass, c = "AsIs") : dropped klass = [] := by
  simpa [dropped] using h

theorem csv_quote_one_strings {x : RVector} {klass : List String} {v : List (Option Bytes)}
    (hx : x.sexp = .STRSXP klass v) (hklass : "factor" ∉ klass) :
    csv_quote_one lib timezone x = .ok (strings (v.map fun s => s.map csv_quote_char)) := by
  have hfactor : "factor" ∉ dropped klass := by rwa [mem_dropped (by decide)]
  have hdrop : (without_AsIs x).sexp = .STRSXP (dropped klass) v := by rw [without_AsIs, hx]; rfl
  have hnot : (without_AsIs x).is_factor = false := by
    simpa [is_factor, inherits, hdrop, SEXP.klass] using hfactor
  simp only [csv_quote_one, hnot, hdrop]
  rfl

theorem csv_quote_one_factor {x : RVector} {klass : List String} {codes : List ℤ}
    (hx : x.sexp = .INTSXP klass codes) (hklass : "factor" ∈ klass) :
    csv_quote_one lib timezone x = .ok { x with
      sexp := .INTSXP (dropped klass) codes
      levels := x.levels.map fun s => s.map csv_quote_char } := by
  have hfactor : "factor" ∈ dropped klass := by rwa [mem_dropped (by decide)]
  have hdrop : (without_AsIs x).sexp = .INTSXP (dropped klass) codes := by rw [without_AsIs, hx]; rfl
  have his : (without_AsIs x).is_factor = true := by
    simpa [is_factor, inherits, hdrop, SEXP.klass] using hfactor
  simp only [csv_quote_one, his, if_pos]
  rw [without_AsIs, hx]
  rfl

theorem inherits_VECSXP_nil {x : RVector} {v : List VecElt} (hx : x.sexp = .VECSXP [] v)
    (what : String) : x.inherits what = decide (what = "list") := by
  rw [inherits, hx]

theorem inherits_VECSXP {x : RVector} {klass : List String} {v : List VecElt}
    (hx : x.sexp = .VECSXP klass v) (hne : klass ≠ []) (what : String) :
    x.inherits what = klass.contains what := by
  rw [inherits, hx]
  cases klass with
  | nil => exact absurd rfl hne
  | cons c klass => rfl

theorem BlobClass.inherits {x : RVector} {klass : List String} {v : List VecElt}
    (h : BlobClass klass) (hx : x.sexp = .VECSXP (dropped klass) v) : x.inherits "list" = true ∧
      ∀ c ∈ ["factor", "integer64", "Date", "difftime", "POSIXt"], x.inherits c = false := by
  rcases h with hAsIs | ⟨hlist, hothers⟩
  · rw [dropped_nil hAsIs] at hx
    refine ⟨by rw [inherits_VECSXP_nil hx]; rfl, fun c hc => ?_⟩
    rw [inherits_VECSXP_nil hx]
    revert c
    decide
  · have hmem : "list" ∈ dropped klass := by rwa [mem_dropped (by decide)]
    have hne : dropped klass ≠ [] := List.ne_nil_of_mem hmem
    refine ⟨by rw [inherits_VECSXP hx hne, List.contains_iff_mem]; exact hmem, fun c hc => ?_⟩
    have hAsIs : c ≠ "AsIs" := by
      revert c
      decide
    have hnot : c ∉ dropped klass := by
      rw [mem_dropped hAsIs]
      exact hothers c hc
    simpa [inherits_VECSXP hx hne] using hnot

theorem csv_quote_one_blobs {x : RVector} {klass : List String} {v : List VecElt}
    (hx : x.sexp = .VECSXP klass v) (hklass : BlobClass klass) :
    csv_quote_one lib timezone x = .ok (strings (v.map (quote_element lib))) := by
  have hdrop : (without_AsIs x).sexp = .VECSXP (dropped klass) v := by rw [without_AsIs, hx]; rfl
  obtain ⟨hlist, hothers⟩ := hklass.inherits hdrop
  have hfactor := hothers "factor" (by decide)
  have hinteger64 := hothers "integer64" (by decide)
  have hdate := hothers "Date" (by decide)
  have hdifftime := hothers "difftime" (by decide)
  have hposix := hothers "POSIXt" (by decide)
  simp only [csv_quote_one, is_factor, is_integer64, is_numeric, hdrop, hfactor, hinteger64, hdate,
    hdifftime, hposix, hlist]
  rfl

theorem fast_value_strings {x : RVector} {klass : List String} {v : List (Option Bytes)}
    (hx : x.sexp = .STRSXP klass v) (hklass : "factor" ∉ klass) (i : Nat) :
    fast_value lib timezone x i = .ok v[i]?.join := by
  have hlist : x.is_list = false := by rw [is_list, hx]
  have hread : value_read (text_at (strings (v.map fun s => s.map csv_quote_char)) i) = v[i]?.join := by
    rw [text_at, strings, cells, List.getElem?_map]
    cases v[i]? with
    | none => rfl
    | some s => exact read_quoted s
  have hsame : Coerce.factor_to_string (strings (v.map fun s => s.map csv_quote_char)) =
      strings (v.map fun s => s.map csv_quote_char) := rfl
  rw [fast_value, csv_quote_one_strings lib timezone hx hklass, ok_bind, hsame, hread, received, hlist]
  rfl

theorem fast_value_factor {x : RVector} {klass : List String} {codes : List ℤ}
    (hx : x.sexp = .INTSXP klass codes) (hklass : "factor" ∈ klass) (i : Nat) :
    fast_value lib timezone x i = .ok (Coerce.labels x.levels codes)[i]?.join := by
  have hlist : x.is_list = false := by rw [is_list, hx]
  have hlevels : Coerce.factor_to_string { x with
        sexp := .INTSXP (dropped klass) codes
        levels := x.levels.map fun s => s.map csv_quote_char } =
      { sexp := .STRSXP [] ((Coerce.labels x.levels codes).map fun s => s.map csv_quote_char) } := by
    have hfactor : "factor" ∈ dropped klass := by rwa [mem_dropped (by decide)]
    rw [factor_to_string_factor rfl (by rw [is_factor_INTSXP rfl]; simpa using hfactor), labels_map]
  rw [fast_value, csv_quote_one_factor lib timezone hx hklass, ok_bind, hlevels, received, hlist, text_at,
    cells, List.getElem?_map]
  cases (Coerce.labels x.levels codes)[i]? with
  | none => rfl
  | some s => exact congrArg Except.ok (read_quoted s)

theorem fast_value_blobs {x : RVector} {klass : List String} {v : List VecElt}
    (hx : x.sexp = .VECSXP klass v) (hklass : BlobClass klass) (hraw : all_raw v = true) (i : Nat) :
    fast_value lib timezone x i = .ok (value_at x i) := by
  have hlist : x.is_list = true := by rw [is_list, hx]
  have hsame : Coerce.factor_to_string (strings (v.map (quote_element lib))) =
      strings (v.map (quote_element lib)) := rfl
  rw [fast_value, csv_quote_one_blobs lib timezone hx hklass, ok_bind, hsame, received, hlist, value_at, hx,
    text_at, strings, cells, List.getElem?_map]
  dsimp only
  cases hv : v[i]? with
  | none => rfl
  | some e =>
      have he := List.all_eq_true.mp hraw e (List.mem_of_getElem? hv)
      exact congrArg Except.ok (read_element lib (by simpa [all_raw] using he))

theorem fast_value_textual {x : RVector} (h : Textual x) (i : Nat) :
    fast_value lib timezone x i = .ok (value_at x i) := by
  unfold Textual at h
  split at h
  · rename_i klass v hx
    rw [fast_value_strings lib timezone hx h, value_at, hx]
  · rename_i klass codes hx
    rw [fast_value_factor lib timezone hx h, value_at, hx]
  · rename_i klass v hx
    exact fast_value_blobs lib timezone hx h.1 h.2 i
  · exact h.elim

theorem csv_quote_one_textual {x : RVector} (h : Textual x) :
    ∃ y, csv_quote_one lib timezone x = .ok y := by
  unfold Textual at h
  split at h
  · exact ⟨_, csv_quote_one_strings lib timezone ‹_› h⟩
  · exact ⟨_, csv_quote_one_factor lib timezone ‹_› h⟩
  · exact ⟨_, csv_quote_one_blobs lib timezone ‹_› h.1⟩
  · exact h.elim

theorem Textual.clean {x : RVector} (h : Textual x) : Clean lib x := by
  unfold Textual at h
  unfold Clean
  split at h
  · rename_i hx
    rw [hx]
    exact h
  · rename_i hx
    rw [hx]
    trivial
  · rename_i hx
    rw [hx]
    exact h.2
  · exact h.elim

theorem values_eq {f : RVector → Except Exc (Option Bytes)} {g : RVector → Option Bytes}
    {xs : List RVector} {vs : List (Option Bytes)} (hf : ∀ x ∈ xs, f x = .ok (g x))
    (h : List.Forall₂ (fun x v => f x = .ok v) xs vs) : vs = xs.map g := by
  induction h with
  | nil => rfl
  | @cons x v xs vs hx _ ih =>
      have hv : Except.ok v = (Except.ok (g x) : Except Exc (Option Bytes)) :=
        hx.symm.trans (hf x List.mem_cons_self)
      rw [List.map_cons, ← Except.ok.inj hv, ih fun x' hx' => hf x' (List.mem_cons_of_mem _ hx')]

-- Every row arrives, with the value of each column in the column of its name.
theorem text_and_blobs_lossless (value : RFrame) (h : ∀ x ∈ value.columns, Textual x) :
    ∃ file, data_file lib timezone value = .ok file ∧
      (read_file (load_data value) file).length = value.nrow ∧
      ∀ i (row : Row), (read_file (load_data value) file)[i]? = some row →
        row.Perm (value.names.zip (value.columns.map fun x => value_at x i)) := by
  obtain ⟨ys, hys, -⟩ := mapM_eq_ok (P := fun _ _ => True) fun x hx =>
    (csv_quote_one_textual lib timezone (h x hx)).imp fun _ hy => ⟨hy, trivial⟩
  have hfile : data_file lib timezone value =
      .ok (write_delim value.nrow (ys.map Coerce.factor_to_string)) := by
    rw [data_file, csv_quote, hys]
    rfl
  obtain ⟨hlen, hrows⟩ := data_file_rows (fun x hx => (h x hx).clean lib) hfile
  refine ⟨_, hfile, hlen, fun i row hrow => ?_⟩
  obtain ⟨values, hvalues, hperm⟩ := hrows i row hrow
  rw [values_eq (fun x hx => fast_value_textual lib timezone (h x hx) i) hvalues] at hperm
  exact hperm

end Columns

section Example

def hms_seconds (units : Units) : Double → Double
  | .finite q => .rounded (q * units.seconds)
  | d => d

-- There is no clock time of an infinite value.
def shifted (offset : ℚ → ℤ) : Double → Double
  | .finite q => .finite (CArith.machine.double (q + offset q))
  | .Inf | .NegInf => .NA
  | d => d

-- The library for some time zones
def zoned (offset : String → ℚ → ℤ) (h : ∀ v, offset "UTC" v = 0) : RLibrary where
  offset := offset
  offset_UTC := h
  seconds := hms_seconds
  seconds_finite := fun _ _ => rfl
  seconds_other := fun _ d hd => by
    cases d with
    | finite q => exact absurd rfl (hd q)
    | _ => rfl
  local_time := fun zone => shifted (offset zone)
  local_time_number := fun _ _ _ => rfl
  local_time_finite := fun _ d _ hv => by
    cases d with
    | finite q => exact ⟨q, rfl, (Double.finite.inj hv).symm⟩
    | _ => cases hv
  local_time_missing := fun _ d hd => by
    cases d <;> first | exact hd | cases hd
  subseconds := fun t => ⌊Int.fract t * 1000000⌋.toNat
  subseconds_whole := by simp
  subseconds_lt := fun t _ _ => by
    have hfloor : ⌊Int.fract t * 1000000⌋ < 1000000 := by
      apply Int.floor_lt.mpr
      push_cast
      linarith [Int.fract_lt_one t]
    omega
  ticks := CArith.trunc
  ticks_whole := fun n _ => CArith.trunc_intCast n
  formatE := fun q => signed (CArith.trunc q)
  format := ascii

-- The library where all times are those of UTC.
def utc : RLibrary := zoned (fun _ _ => 0) fun _ => rfl

-- A tab, the text \N, a missing level, an empty blob and a missing one.
def mixed : RFrame where
  names := ["s".toList, "f".toList, "b".toList]
  columns := [
    { sexp := .STRSXP [] [some (ascii "a\tb\\"), some (ascii "\\N"), none] },
    { sexp := .INTSXP ["factor"] [2, NA_INTEGER, 1], levels := [some [], some (ascii "\r\n")] },
    { sexp := .VECSXP ["blob", "vctrs_list_of", "vctrs_vctr", "list"]
        [.RAWSXP [0, 255], .RAWSXP [], .NILSXP] }]
  nrow := 3
  named := rfl
  rows := by decide

theorem text_and_blobs_lossless_mixed : ∃ file, data_file utc "UTC" mixed = .ok file ∧
    (read_file (load_data mixed) file).length = 3 ∧
    ∀ i (row : Row), (read_file (load_data mixed) file)[i]? = some row →
      row.Perm (mixed.names.zip (mixed.columns.map fun x => value_at x i)) :=
  text_and_blobs_lossless utc "UTC" mixed (by simp [mixed, Textual, BlobClass, all_raw])

end Example

end RMariaDB.Table
