import RMariaDB.WriteTable

-- What the column types that dbDataType() chooses can hold.

namespace RMariaDB.WriteTable

section Encoding

-- A text in UTF-8
def utf8 (t : Text) : Bytes := t.flatMap String.utf8EncodeChar

theorem continues_iff (n : Nat) :
    (128 ≤ UInt8.ofNat n ∧ UInt8.ofNat n < 192) ↔ 128 ≤ n % 256 ∧ n % 256 < 192 := by
  rw [UInt8.le_iff_toNat_le, UInt8.lt_iff_toNat_lt, UInt8.toNat_ofNat']
  rfl

theorem nchar_first {n : Nat} (h : n % 256 < 128 ∨ 192 ≤ n % 256) (s : Bytes) :
    nchar (UInt8.ofNat n :: s) = nchar s + 1 := by
  have hfirst : ¬(128 ≤ UInt8.ofNat n ∧ UInt8.ofNat n < 192) := by
    rw [continues_iff]
    omega
  rw [nchar, List.filter_cons_of_pos (by rw [decide_eq_false hfirst]; rfl), List.length_cons]
  rfl

theorem nchar_continued {n : Nat} (h : 128 ≤ n % 256 ∧ n % 256 < 192) (s : Bytes) :
    nchar (UInt8.ofNat n :: s) = nchar s := by
  have hcontinues := (continues_iff n).mpr h
  rw [nchar, List.filter_cons_of_neg (by rw [decide_eq_true hcontinues]; simp)]
  rfl

theorem nchar_char (c : Char) : nchar (String.utf8EncodeChar c) = 1 := by
  have hnil : nchar [] = 0 := rfl
  unfold String.utf8EncodeChar
  generalize c.val.toNat = v
  dsimp only
  split_ifs with h1 h2 h3
  · rw [nchar_first (by omega), hnil]
  · rw [nchar_first (by omega), nchar_continued (by omega), hnil]
  · rw [nchar_first (by omega), nchar_continued (by omega), nchar_continued (by omega), hnil]
  · rw [nchar_first (by omega), nchar_continued (by omega), nchar_continued (by omega),
      nchar_continued (by omega), hnil]

theorem nchar_append (s t : Bytes) : nchar (s ++ t) = nchar s + nchar t := by
  rw [nchar, List.filter_append, List.length_append]
  rfl

theorem nchar_utf8 (t : Text) : nchar (utf8 t) = t.length := by
  induction t with
  | nil => rfl
  | cons c t ih =>
      have hcons : utf8 (c :: t) = String.utf8EncodeChar c ++ utf8 t := rfl
      rw [hcons, nchar_append, nchar_char, ih, List.length_cons, Nat.add_comm]

theorem length_utf8_le (t : Text) : (utf8 t).length ≤ 4 * t.length := by
  induction t with
  | nil => exact Nat.le_refl _
  | cons c t ih =>
      have hcons : utf8 (c :: t) = String.utf8EncodeChar c ++ utf8 t := rfl
      have hsize := c.utf8Size_le_four
      rw [hcons, List.length_append, String.length_utf8EncodeChar, List.length_cons]
      omega

end Encoding

section Capacity

-- A value that is sent for one element
inductive Datum where
  | text (t : Text)
  | raw (b : Bytes)

def Datum.size : Datum → Nat
  | text t => (utf8 t).length
  | raw b => b.length

def varchar (w : Nat) : Text := "VARCHAR(".toList ++ (toString w).toList ++ ")".toList

-- The values that a column of the type stores as they are. The other types count bytes.
inductive Stores : Text → Datum → Prop
  | varchar {w : Nat} {t : Text} (h : t.length ≤ w) : Stores (varchar w) (.text t)
  | text {t : Text} (h : (utf8 t).length ≤ 65535) : Stores "TEXT".toList (.text t)
  | blob {b : Bytes} (h : b.length ≤ 65535) : Stores "BLOB".toList (.raw b)

theorem varchar_head (w : Nat) : (varchar w).head? = some 'V' := by
  have hhead (s t : Text) : ("VARCHAR(".toList ++ s ++ t).head? = some 'V' := by
    rw [List.append_assoc, List.head?_append]
    rfl
  exact hhead _ _

theorem varchar_ne (w : Nat) : varchar w ≠ "TEXT".toList := by
  intro h
  have hhead := varchar_head w
  rw [h] at hhead
  exact absurd hhead (by decide)

theorem stores_text_iff {t : Text} :
    Stores "TEXT".toList (.text t) ↔ (utf8 t).length ≤ 65535 := by
  constructor
  · intro h
    generalize htype : "TEXT".toList = type at h
    cases h with
    | varchar _ => exact absurd htype.symm (varchar_ne _)
    | text h => exact h
  · exact .text

theorem stores_blob_iff {b : Bytes} : Stores "BLOB".toList (.raw b) ↔ b.length ≤ 65535 := by
  constructor
  · intro h
    generalize htype : "BLOB".toList = type at h
    cases h with
    | blob h => exact h
  · exact .blob

-- The width that get_char_type() measures
def width (x : List Bytes) : Nat := x.foldl (fun width s => max width (nchar s)) 1

theorem foldl_max_le {x : List Bytes} {n : Nat} :
    n ≤ x.foldl (fun width s => max width (nchar s)) n ∧
      ∀ s ∈ x, nchar s ≤ x.foldl (fun width s => max width (nchar s)) n := by
  induction x generalizing n with
  | nil => exact ⟨Nat.le_refl _, fun s hs => absurd hs List.not_mem_nil⟩
  | cons a x ih =>
      obtain ⟨hn, hx⟩ := ih (n := max n (nchar a))
      refine ⟨(Nat.le_max_left _ _).trans hn, fun s hs => ?_⟩
      rcases List.mem_cons.mp hs with rfl | hs
      · exact (Nat.le_max_right _ _).trans hn
      · exact hx s hs

-- VARCHAR is chosen for texts of at most 255 characters, which are 1020 bytes.
theorem char_type_stores_iff {x : List (Option Text)} {t : Text} (ht : some t ∈ x) :
    Stores (get_char_type (x.map (Option.map utf8))) (.text t) ↔ (utf8 t).length ≤ 65535 := by
  have hmem : utf8 t ∈ (x.map (Option.map utf8)).filterMap id :=
    List.mem_filterMap.mpr ⟨some (utf8 t), List.mem_map.mpr ⟨some t, ht, rfl⟩, rfl⟩
  have hwidth : t.length ≤ width ((x.map (Option.map utf8)).filterMap id) := by
    rw [← nchar_utf8]
    exact foldl_max_le.2 _ hmem
  have htype : get_char_type (x.map (Option.map utf8)) =
      if width ((x.map (Option.map utf8)).filterMap id) > 255 then "TEXT".toList
      else varchar (width ((x.map (Option.map utf8)).filterMap id)) := rfl
  rw [htype]
  split
  · exact stores_text_iff
  · have hbytes := length_utf8_le t
    exact iff_of_true (.varchar hwidth) (by omega)

end Capacity

section Columns

-- The classes that dbDataType() looks for
def typed : List String := ["factor", "POSIXct", "Date", "difftime", "integer64"]

-- A character vector, a factor or a list of raw vectors
inductive Column where
  | character (klass : { k : List String // ∀ c ∈ typed, c ∉ k }) (x : List (Option Text))
  | factor (klass : { k : List String // "factor" ∈ k }) (levels : List (Option Text)) (codes : List ℤ)
  | list (klass : { k : List String // ∀ c ∈ typed, c ∉ k }) (x : List (Option Bytes))

namespace Column

def vector : Column → RVector
  | character klass x => { sexp := .STRSXP klass (x.map (Option.map utf8)) }
  | factor klass levels codes =>
      { sexp := .INTSXP klass codes, levels := levels.map (Option.map utf8) }
  | list klass x => { sexp := .VECSXP klass (x.map fun e => e.elim .NILSXP .RAWSXP) }

-- The elements; those that are missing have no value.
def elements : Column → List (Option Datum)
  | character _ x => x.map (Option.map .text)
  | factor _ levels codes => codes.map fun v =>
      if v = NA_INTEGER then none else levels[v.toNat - 1]?.join.map .text
  | list _ x => x.map (Option.map .raw)

theorem inherits_typed {x : RVector} {c : String} (hc : c ∈ typed) (h : c ∉ x.sexp.klass) :
    x.inherits c = false := by
  have hlist : c ≠ "list" := by
    rintro rfl
    revert hc
    decide
  unfold RVector.inherits
  split
  · simpa using hlist
  · simpa using h

theorem dbDataType_untyped {x : RVector} (h : ∀ c ∈ typed, c ∉ x.sexp.klass) :
    dbDataType x = match x.sexp with
      | .LGLSXP _ _ => .ok "TINYINT".toList
      | .INTSXP _ _ => .ok "INTEGER".toList
      | .REALSXP _ _ => .ok "DOUBLE".toList
      | .STRSXP _ x => .ok (get_char_type x)
      | .VECSXP _ _ | .other "list" _ _ => .ok "BLOB".toList
      | .other _ _ _ => .error (.stop "Unsupported type") := by
  have hnot : ∀ c ∈ typed, x.inherits c = false := fun c hc => inherits_typed hc (h c hc)
  simp only [dbDataType, RVector.is_factor, hnot "factor" (by decide), hnot "POSIXct" (by decide),
    hnot "Date" (by decide), hnot "difftime" (by decide), hnot "integer64" (by decide)]
  rfl

theorem element_stores_iff (x : Column) : ∃ type, dbDataType x.vector = .ok type ∧
    ∀ d, some d ∈ x.elements → (Stores type d ↔ d.size ≤ 65535) := by
  cases x with
  | character klass x =>
      refine ⟨_, dbDataType_untyped klass.2, fun d hd => ?_⟩
      obtain ⟨t, ht, hsome⟩ := List.mem_map.mp hd
      obtain ⟨t, rfl, rfl⟩ := Option.map_eq_some_iff.mp hsome
      exact char_type_stores_iff ht
  | factor klass levels codes =>
      have hfactor : (vector (factor klass levels codes)).is_factor = true := by
        simpa [RVector.is_factor, RVector.inherits, vector, SEXP.klass] using klass.2
      refine ⟨get_char_type (levels.map (Option.map utf8)), ?_, fun d hd => ?_⟩
      · rw [dbDataType, if_pos hfactor]
        rfl
      · obtain ⟨v, -, hv⟩ := List.mem_map.mp hd
        rw [Option.ite_none_left_eq_some] at hv
        obtain ⟨t, ht, rfl⟩ := Option.map_eq_some_iff.mp hv.2
        have hlevel : levels[v.toNat - 1]? = some (some t) := by
          cases hget : levels[v.toNat - 1]? with
          | none =>
              rw [hget] at ht
              cases ht
          | some level =>
              rw [hget] at ht
              exact congrArg some ht
        exact char_type_stores_iff (List.mem_of_getElem? hlevel)
  | list klass x =>
      refine ⟨_, dbDataType_untyped klass.2, fun d hd => ?_⟩
      obtain ⟨b, -, hsome⟩ := List.mem_map.mp hd
      obtain ⟨b, rfl, rfl⟩ := Option.map_eq_some_iff.mp hsome
      exact stores_blob_iff

-- The chosen type stores the values of a column unless one of them has more bytes than TEXT
-- and BLOB store.
theorem column_type_stores_iff (x : Column) :
    (∃ type, dbDataType x.vector = .ok type ∧ ∀ d, some d ∈ x.elements → Stores type d) ↔
      ∀ d, some d ∈ x.elements → d.size ≤ 65535 := by
  obtain ⟨type, htype, hstores⟩ := element_stores_iff x
  constructor
  · rintro ⟨type', htype', h⟩ d hd
    cases htype.symm.trans htype'
    exact (hstores d hd).mp (h d hd)
  · intro h
    exact ⟨type, htype, fun d hd => (hstores d hd).mpr (h d hd)⟩

-- A raw vector of 65536 bytes
def long_blob : Column := .list ⟨[], by decide⟩ [some (List.replicate 65536 0)]

theorem long_blob_does_not_fit :
    ¬∃ type, dbDataType long_blob.vector = .ok type ∧ ∀ d, some d ∈ long_blob.elements → Stores type d := by
  rintro ⟨type, htype, h⟩
  obtain ⟨type', htype', hstores⟩ := element_stores_iff long_blob
  cases htype.symm.trans htype'
  have hmem : some (Datum.raw (List.replicate 65536 0)) ∈ long_blob.elements := List.mem_singleton.mpr rfl
  have hsize := (hstores _ hmem).mp (h _ hmem)
  rw [Datum.size, List.length_replicate] at hsize
  omega

end Column

end Columns

end RMariaDB.WriteTable
