import RMariaDB.Table.Temporal

-- What sql_data() makes of the numbers of a column.

namespace RMariaDB.Coerce

open RVector Table

-- The numeric values of a vector, however they are stored.
def numbers : SEXP → List Double
  | .INTSXP _ v => v.map double_of_int
  | .REALSXP _ v => v.map RealCell.real
  | _ => []

-- A Date, difftime or POSIXct in integer or double storage, by its class attribute.
structure Temporal (type : TemporalType) (x : RVector) : Prop where
  stored : NumberVector x
  klass : x.inherits (class_of type) = true
  others : ∀ c ∈ special, c ≠ class_of type → c ≠ "hms" → x.inherits c = false

def converted (lib : RLibrary) (timezone : String) (units : Units) :
    TemporalType → Double → Double
  | .date => id
  | .time => lib.seconds units
  | .datetime => clock_time lib timezone

def class_sent (x : RVector) : TemporalType → List String
  | .time => ["hms", "difftime"]
  | .date | .datetime => x.sexp.klass

-- In UTC the integers of a POSIXct are not made doubles.
def KeepsIntegers (timezone : String) (x : RVector) : TemporalType → Prop
  | .datetime => timezone = "UTC" ∧ ∃ klass v, x.sexp = .INTSXP klass v
  | _ => False

section Temporal

variable (lib : RLibrary) {timezone : String} {x : RVector} {type : TemporalType}

theorem as_double_numbers (h : NumberVector x) :
    ∃ v, as_double x.sexp = .REALSXP x.sexp.klass v ∧ v.map RealCell.real = numbers x.sexp := by
  unfold NumberVector at h
  split at h
  · rename_i klass v hx
    refine ⟨v.map fun n => ⟨double_of_int n, 0⟩, by rw [hx]; rfl, ?_⟩
    rw [hx, numbers, List.map_map]
    rfl
  · rename_i klass v hx
    exact ⟨v, by rw [hx]; rfl, by rw [hx]; rfl⟩
  · exact h.elim

theorem map_real (f : Double → Double) (v : List RealCell) :
    (v.map fun cell => { cell with real := f cell.real }).map RealCell.real =
      (v.map RealCell.real).map f := by
  rw [List.map_map, List.map_map]
  rfl

-- Temporal columns are sent as doubles, each converted by itself.
theorem sql_data_temporal (h : Temporal type x) (hkeeps : ¬KeepsIntegers timezone x type) :
    ∃ v, sql_data lib timezone x = .REALSXP (class_sent x type) v ∧
      v.map RealCell.real = (numbers x.sexp).map (converted lib timezone x.units type) := by
  obtain ⟨v, hv, hnumbers⟩ := as_double_numbers h.stored
  have hclass := h.klass
  cases type with
  | date =>
      have hsql := sql_data_date lib timezone
        (h.others "factor" (by decide) (by decide) (by decide)) hclass
        (h.others "difftime" (by decide) (by decide) (by decide))
        (h.others "POSIXt" (by decide) (by decide) (by decide))
      exact ⟨v, hsql.trans hv, by rw [hnumbers, converted, List.map_id]⟩
  | time =>
      have hsql := sql_data_difftime lib timezone hv
        (h.others "factor" (by decide) (by decide) (by decide)) hclass
      exact ⟨_, hsql, by rw [map_real, hnumbers, converted]⟩
  | datetime =>
      have hfactor := h.others "factor" (by decide) (by decide) (by decide)
      have hdate := h.others "Date" (by decide) (by decide) (by decide)
      have hdifftime := h.others "difftime" (by decide) (by decide) (by decide)
      have hposixlt := h.others "POSIXlt" (by decide) (by decide) (by decide)
      by_cases hzone : timezone = "UTC"
      · obtain ⟨klass, w, hx⟩ : ∃ klass w, x.sexp = .REALSXP klass w := by
          have hstored := h.stored
          unfold NumberVector at hstored
          split at hstored
          · rename_i klass w hx
            exact absurd ⟨hzone, klass, w, hx⟩ hkeeps
          · rename_i klass w hx
            exact ⟨klass, w, hx⟩
          · exact hstored.elim
        have hsql := sql_data_POSIXct_double lib timezone hx hfactor hdate hdifftime hclass hposixlt
        refine ⟨_, by rw [hsql, class_sent, hx]; rfl, ?_⟩
        rw [map_real, hx, numbers, converted]
      · have hsql := sql_data_POSIXct lib timezone hv hfactor hdifftime hclass hposixlt hzone
        refine ⟨_, hsql, ?_⟩
        rw [map_real, hnumbers, converted]
        exact List.map_congr_left fun d _ => (if_neg hzone).symm

theorem sql_data_integers (h : Temporal type x) (hkeeps : KeepsIntegers timezone x type) :
    sql_data lib timezone x = x.sexp := by
  cases type with
  | datetime =>
      rw [hkeeps.1]
      exact sql_data_POSIXct_UTC lib (h.others "factor" (by decide) (by decide) (by decide))
        (h.others "Date" (by decide) (by decide) (by decide))
        (h.others "difftime" (by decide) (by decide) (by decide)) h.klass
        (h.others "POSIXlt" (by decide) (by decide) (by decide))
  | _ => exact hkeeps.elim

theorem class_sent_not_integer64 (h : Temporal type x) :
    "integer64" ∉ class_sent x type := by
  cases type with
  | time => simp [class_sent]
  | _ =>
      intro hmem
      have hnot := h.others "integer64" (by decide) (by decide) (by decide)
      rw [inherits_eq h.stored.not_list.1] at hnot
      simp only [List.contains_eq_mem, decide_eq_false_iff_not] at hnot
      exact hnot hmem

end Temporal

end RMariaDB.Coerce
