import RMariaDB.Coerce.Missing
import RMariaDB.Lib.Floating
import RMariaDB.Lib.Scientific
import RMariaDB.Table.Lossless

-- The doubles of the file are those that a statement binds.

namespace RMariaDB.Table

open Program RVector Decimal Floating Coerce

section Texts

theorem exponent_verbatim (e : ℤ) : Verbatim (Scientific.exponent e) := by
  have hminus : Verbatim [45] := by decide
  have hplus : Verbatim [43] := by decide
  rw [Scientific.exponent]
  split
  · exact hminus.append (padded_verbatim 2 _)
  · exact hplus.append (padded_verbatim 2 _)

theorem unsigned_verbatim (k m : Nat) (e : ℤ) : Verbatim (Scientific.unsigned k m e) := by
  have hpoint : Verbatim [Scientific.point] := by decide
  have hE : Verbatim [Scientific.E] := by decide
  have hdigits : Verbatim (decimal (m / 10 ^ k)) := .of_digits (isDigit_decimal _)
  exact ((hdigits.append (hpoint.append (padded_verbatim k _))).append (hE.append (exponent_verbatim e)))

theorem format_verbatim (k : Nat) (q : ℚ) : Verbatim (Scientific.format k q) := by
  have hminus : Verbatim [45] := by decide
  rw [Scientific.format]
  exact .ite (hminus.append (unsigned_verbatim k _ _)) (unsigned_verbatim k _ _)

-- Reading the text with correct rounding gives the double.
def Denotes (s : Bytes) (q : ℚ) : Prop := ∃ x, Scientific.numeral s = some x ∧ ReadsAs double x q

theorem signed_denotes {v : ℤ} (h : IsFloat double (v : ℚ)) : Denotes (signed v) v :=
  ⟨v, Scientific.numeral_signed v, readsAs_self h⟩

-- 18 significant digits tell any two doubles apart: 2 * 10^17 > 2^54.
theorem format_denotes {q : ℚ} (h : IsFloat double q) : Denotes (Scientific.format 17 q) q := by
  refine ⟨_, Scientific.numeral_format (by decide) q, ?_⟩
  by_cases hq : q = 0
  · subst hq
    simpa [Scientific.significand] using readsAs_self h
  · have hclose := Scientific.format_close 17 hq
    have hpos : 0 < |q| := abs_pos.mpr hq
    generalize (if q < 0 then -1 else 1) * (((Scientific.significand 17 q).1 : ℚ) / 10 ^ 17 *
      10 ^ (Scientific.significand 17 q).2) = x at *
    refine readsAs_of_close h ?_
    have hdistance : 0 ≤ |x - q| := abs_nonneg _
    have hbits : (2 : ℚ) ^ (double.precision + 1) = 18014398509481984 := by norm_num [double]
    rw [hbits]
    norm_num at hclose
    linarith

end Texts

section Columns

variable {lib : RLibrary} {timezone : String} {x : RVector}

-- The field and the parameter are the same double, or both are missing.
def SameDouble : Option Bytes → Option ParamValue → Prop
  | none, none => True
  | some s, some (.double (.finite q)) => Denotes s q
  | _, _ => False

theorem csv_quote_one_numeric {klass : List String} {v : List RealCell}
    (hx : x.sexp = .REALSXP klass v) (h : ∀ c ∈ special, x.inherits c = false) :
    csv_quote_one lib timezone x = .ok (strings ((v.map RealCell.real).map
      (quote_numeric lib (all_integerish (v.map RealCell.real))))) := by
  have hdrop : (without_AsIs x).sexp = .REALSXP (dropped klass) v := by rw [without_AsIs, hx]; rfl
  have hsame : ∀ c ∈ special, (without_AsIs x).inherits c = false := fun c hc =>
    (inherits_without_AsIs (by simp [hx]) (special_ne_AsIs c hc)).trans (h c hc)
  have hfactor : (without_AsIs x).is_factor = false := hsame "factor" (by decide)
  have hinteger64 : (without_AsIs x).is_integer64 = false := hsame "integer64" (by decide)
  have hnumeric : (without_AsIs x).is_numeric = true := by
    simp [is_numeric, hdrop, hfactor, hsame "Date" (by decide), hsame "POSIXt" (by decide),
      hsame "difftime" (by decide)]
  simp only [csv_quote_one, hfactor, hinteger64, hnumeric, hdrop]
  rfl

theorem integerish_of_all {v : List Double} {q : ℚ} (h : all_integerish v = true)
    (hq : .finite q ∈ v) : q = (CArith.trunc q : ℚ) := by
  have hone := List.all_eq_true.mp h _ hq
  simp only [is_integerish, decide_eq_true_eq] at hone
  exact hone.2.2

-- The field of an element is the number that is bound for it.
theorem quote_numeric_same (hformatE : ∀ q, lib.formatE q = Scientific.format 17 q) {v : List Double}
    (hv : ∀ q, .finite q ∈ v → IsFloat double q) {d : Double} (hd : d ∈ v) :
    SameDouble (quote_numeric lib (all_integerish v) d)
      (if ISNA (finite_or_NA d) then none else some (.double (finite_or_NA d))) := by
  cases d with
  | finite q =>
      have hq := hv q hd
      cases hall : all_integerish v with
      | true =>
          have htrunc := integerish_of_all hall hd
          have hsigned : Denotes (signed (CArith.trunc q)) (CArith.trunc q : ℚ) :=
            signed_denotes (htrunc ▸ hq)
          rw [← htrunc] at hsigned
          exact hsigned
      | false =>
          have hdenotes := format_denotes hq
          rw [← hformatE q] at hdenotes
          exact hdenotes
  | _ => trivial

structure DoubleVector (x : RVector) : Prop extends PlainNumeric x where
  doubles : ∀ q, .finite q ∈ numbers x.sexp → IsFloat double q

theorem doubles_same (hformatE : ∀ q, lib.formatE q = Scientific.format 17 q) (h : DoubleVector x)
    {i : Nat} (hi : i < x.length) : ∃ v p, fast_value lib timezone x i = .ok v ∧
      plain_value lib timezone x i = .ok p ∧ SameDouble v p := by
  obtain ⟨klass, v, hx⟩ := h.stored
  have hnumbers : numbers x.sexp = v.map RealCell.real := by rw [hx, numbers]
  have hlength : i < v.length := by rwa [RVector.length, hx] at hi
  have hcell : v[i]? = some v[i] := List.getElem?_eq_getElem hlength
  have hd : (numbers x.sexp)[i]? = some v[i].real := by
    rw [hnumbers, List.getElem?_map, hcell, Option.map_some]
  have htype := variable_type_numeric hx h.others (w := v.map fun cell =>
    { cell with real := finite_or_NA cell.real })
  have hplain := @numeric_value lib timezone x _ _ _ _ _ hx h.others
    (by rw [sql_data_numeric hx h.others]; exact htype) hd
  have hverbatim : ∀ q, Verbatim (lib.formatE q) := fun q => hformatE q ▸ format_verbatim 17 q
  have hfast := fast_value_strings_of lib timezone (csv_quote_one_numeric hx h.others)
    (by rw [is_list, hx]) (fun a _ s hs => quote_numeric_verbatim hverbatim a hs) i
  rw [List.getElem?_map, hcell, Option.map_some, Option.bind_some] at hfast
  refine ⟨_, _, hfast, ?_, quote_numeric_same hformatE ?_ ?_⟩
  · rw [plain_value, sql_data_numeric hx h.others, htype, ok_bind]
    rw [sql_data_numeric hx h.others] at hplain
    exact hplain.2
  · rw [← hnumbers]
    exact h.doubles
  · exact List.mem_of_getElem? (i := i) (by rw [← hnumbers, hd])

-- Whatever else the frame holds
theorem doubles_lossless (hformatE : ∀ q, lib.formatE q = Scientific.format 17 q) {value : RFrame}
    (hclean : ∀ x ∈ value.columns, Clean lib x) {file : Bytes}
    (h : data_file lib timezone value = .ok file) :
    (read_file (load_data value) file).length = value.nrow ∧
    ∀ i (row : Row), (read_file (load_data value) file)[i]? = some row →
      ∃ values, row.Perm (value.names.zip values) ∧
        List.Forall₂ (fun x v => DoubleVector x →
          ∃ p, plain_value lib timezone x i = .ok p ∧ SameDouble v p) value.columns values := by
  obtain ⟨hlen, hrows⟩ := data_file_rows hclean h
  refine ⟨hlen, fun i row hrow => ?_⟩
  obtain ⟨values, hvalues, hperm⟩ := hrows i row hrow
  have hi : i < value.nrow := by
    rw [← hlen]
    exact (List.getElem?_eq_some_iff.mp hrow).1
  refine ⟨values, hperm, ?_⟩
  have hwith : List.Forall₂ (fun x v => x ∈ value.columns ∧ fast_value lib timezone x i = .ok v)
      value.columns values :=
    List.forall₂_iff_zip.mpr ⟨hvalues.length_eq, fun hxv =>
      ⟨(List.of_mem_zip hxv).1, List.forall₂_zip hvalues hxv⟩⟩
  refine hwith.imp fun x v hxv hdouble => ?_
  have hlength : i < x.length := by rwa [value.rows x hxv.1]
  obtain ⟨v', p, hv', hp, hsame⟩ := @doubles_same lib timezone x hformatE hdouble i hlength
  rw [hxv.2] at hv'
  cases hv'
  exact ⟨p, hp, hsame⟩

end Columns

section Example

def printing : RLibrary := { utc with formatE := Scientific.format 17 }

-- The double that is closest to 0.1, a large one, and a missing one
def measured : RVector where
  sexp := .REALSXP [] [⟨.finite (3602879701896397 / 2 ^ 55), 0⟩, ⟨.finite (2 ^ 60), 0⟩, ⟨.NA, 0⟩]

def measurements : RFrame where
  names := ["weight".toList]
  columns := [measured]
  nrow := 3
  named := rfl
  rows := by decide

theorem measured_doubles : DoubleVector measured where
  stored := ⟨_, _, rfl⟩
  others := by decide
  doubles := by
    intro q hq
    simp only [measured, numbers, List.map_cons, List.map_nil, List.mem_cons, List.not_mem_nil,
      Double.finite.injEq, reduceCtorEq, or_false] at hq
    rcases hq with rfl | rfl
    · exact ⟨3602879701896397, -55, by norm_num [double], by decide, by decide, by norm_num⟩
    · exact ⟨1, 60, by norm_num [double], by decide, by decide, by norm_num⟩

theorem doubles_lossless_measurements : ∃ file, data_file printing "UTC" measurements = .ok file ∧
    (read_file (load_data measurements) file).length = 3 ∧
    ∀ i (row : Row), (read_file (load_data measurements) file)[i]? = some row →
      ∃ v, row.Perm [("weight".toList, v)] ∧
        ∃ p, plain_value printing "UTC" measured i = .ok p ∧ SameDouble v p := by
  have hfile : data_file printing "UTC" measurements = .ok (write_delim 3 [strings
      (([.finite (3602879701896397 / 2 ^ 55), .finite (2 ^ 60), .NA] : List Double).map
        (quote_numeric printing false))]) := by
    have hquoted := @csv_quote_one_numeric printing "UTC" measured _ _ rfl measured_doubles.others
    have hmixed : all_integerish [.finite (3602879701896397 / 2 ^ 55), .finite (2 ^ 60), .NA] = false := by
      norm_num [all_integerish, is_integerish]
    simp only [List.map_cons, List.map_nil, hmixed] at hquoted
    simp only [data_file, csv_quote, measurements, List.mapM_cons, List.mapM_nil, hquoted]
    rfl
  refine ⟨_, hfile, ?_⟩
  have hclean : ∀ x ∈ measurements.columns, Clean printing x := by
    intro x hx
    rw [List.mem_singleton.mp hx]
    exact fun q => format_verbatim 17 q
  obtain ⟨hlen, hrows⟩ := doubles_lossless (fun _ => rfl) hclean hfile
  refine ⟨hlen, fun i row hrow => ?_⟩
  obtain ⟨values, hperm, hvalues⟩ := hrows i row hrow
  cases hvalues with
  | cons hv hnil =>
      cases hnil
      exact ⟨_, hperm, hv measured_doubles⟩

end Example

end RMariaDB.Table
