import RMariaDB.Table

-- How the server reads the file of a LOAD DATA statement: what the columns of the table
-- receive is what the fields of the file were written for.

namespace RMariaDB.Table

open Delimited

section Reading

def unescape (c : UInt8) : UInt8 :=
  if c = 110 then 10
  else if c = 116 then 9
  else if c = 114 then 13
  else if c = 98 then 8
  else if c = 48 then 0
  else if c = 90 then 26
  else c

def unescaped : Token UInt8 → UInt8
  | .plain c => c
  | .escaped c => unescape c

-- A field that is \N is NULL.
def decode (field : List (Token UInt8)) : Option Bytes :=
  if field = [.escaped 78] then none else some (field.map unescaped)

def hex_value (c : UInt8) : Option Nat :=
  if 48 ≤ c.toNat ∧ c.toNat ≤ 57 then some (c.toNat - 48)
  else if 97 ≤ c.toNat ∧ c.toNat ≤ 102 then some (c.toNat - 87)
  else if 65 ≤ c.toNat ∧ c.toNat ≤ 70 then some (c.toNat - 55)
  else none

def hex_pairs : Bytes → Option Bytes
  | [] => some []
  | [_] => none
  | a :: b :: s => do
      let high ← hex_value a
      let low ← hex_value b
      let rest ← hex_pairs s
      pure (UInt8.ofNat (16 * high + low) :: rest)

-- A text of odd length is read with a zero in front.
def UNHEX (s : Bytes) : Option Bytes :=
  if s.length % 2 = 1 then hex_pairs (48 :: s) else hex_pairs s

-- The columns of the table that get a value, and their values.
abbrev Row := List (Text × Option Bytes)

def assigned (targets : List Target) (fields : List (Option Bytes)) : Row :=
  (targets.zip fields).filterMap fun
    | (.column name, v) => some (name, v)
    | (.variable _, _) => none

-- A user variable that is not assigned to is NULL.
def variable_value (targets : List Target) (fields : List (Option Bytes)) (k : Nat) : Option Bytes :=
  ((targets.zip fields).lookup (.variable k)).join

def set_values (set : List (Text × Nat)) (f : Nat → Option Bytes) : Row :=
  set.map fun (name, k) => (name, (f k).bind UNHEX)

def read_row (statement : LoadData) (fields : List (Option Bytes)) : Row :=
  assigned statement.targets fields ++
    set_values statement.set (variable_value statement.targets fields)

def read_file (statement : LoadData) (file : Bytes) : List Row :=
  (Delimited.read backslash TAB LF file).map fun fields => read_row statement (fields.map decode)

end Reading

section Targets

-- What a column of the table receives from a field, by the column of the data frame.
def received (x : RVector) (v : Option Bytes) : Option Bytes := if x.is_list then v.bind UNHEX else v

def targets_from (n : Nat) (columns : List (Text × RVector)) : List Target :=
  (columns.zipIdx n).map fun ((name, x), k) => target name x k

def set_from (n : Nat) (columns : List (Text × RVector)) : List (Text × Nat) :=
  (columns.zipIdx n).filterMap fun ((name, x), k) => if x.is_list then some (name, k) else none

-- The variables are numbered by the columns, so that none is assigned to twice.
theorem variable_value_from {columns : List (Text × RVector)} {fields : List (Option Bytes)}
    {n i : Nat} {name : Text} {x : RVector} (h : columns[i]? = some (name, x)) (hx : x.is_list) :
    variable_value (targets_from n columns) fields (n + i) = fields[i]?.join := by
  induction columns generalizing n i fields with
  | nil => simp at h
  | cons column columns ih =>
      obtain ⟨name', x'⟩ := column
      cases fields with
      | nil => simp [variable_value]
      | cons v fields =>
          have htargets : targets_from n ((name', x') :: columns) =
              target name' x' n :: targets_from (n + 1) columns := rfl
          rw [variable_value, htargets, List.zip_cons_cons]
          cases i with
          | zero =>
              simp only [List.getElem?_cons_zero, Option.some.injEq, Prod.mk.injEq] at h
              obtain ⟨rfl, rfl⟩ := h
              simp [target, hx]
          | succ i =>
              have hne : (Target.variable (n + (i + 1)) == target name' x' n) = false := by
                unfold target
                split
                · simp
                · simp
              have hindex : n + (i + 1) = n + 1 + i := by omega
              rw [List.lookup_cons, hne, List.getElem?_cons_succ, hindex]
              exact ih h

-- Every column of the data frame reaches the column of its name, in one way or the other.
theorem assigned_perm (columns : List (Text × RVector)) (fields : List (Option Bytes)) {n : Nat}
    (f : Nat → Option Bytes)
    (hf : ∀ i (name : Text) x, columns[i]? = some (name, x) → x.is_list → f (n + i) = fields[i]?.join)
    (hlen : fields.length = columns.length) :
    (assigned (targets_from n columns) fields ++ set_values (set_from n columns) f).Perm
      ((columns.zip fields).map fun ((name, x), v) => (name, received x v)) := by
  induction columns generalizing n fields with
  | nil => simp [assigned, targets_from, set_from, set_values]
  | cons column columns ih =>
      obtain ⟨name, x⟩ := column
      cases fields with
      | nil => simp at hlen
      | cons v fields =>
          have hrest := ih fields (n := n + 1)
            (fun i name' x' h hx => by
              have hindex : n + 1 + i = n + (i + 1) := by omega
              rw [hindex]
              exact hf (i + 1) name' x' h hx)
            (by simpa using hlen)
          have htargets : targets_from n ((name, x) :: columns) =
              target name x n :: targets_from (n + 1) columns := rfl
          rw [htargets, List.zip_cons_cons, List.map_cons]
          change List.Perm _ ((name, received x v) :: _)
          by_cases hx : x.is_list
          · have hset : set_from n ((name, x) :: columns) = (name, n) :: set_from (n + 1) columns := by
              simp [set_from, hx]
            have hvalue : f n = v := by
              simpa using hf 0 name x rfl hx
            have hreceived : received x v = v.bind UNHEX := if_pos hx
            have hskip : assigned (target name x n :: targets_from (n + 1) columns) (v :: fields) =
                assigned (targets_from (n + 1) columns) fields := by
              simp [assigned, target, hx]
            rw [hset, hskip, hreceived, ← hvalue]
            exact List.perm_middle.trans (hrest.cons _)
          · have hset : set_from n ((name, x) :: columns) = set_from (n + 1) columns := by
              simp [set_from, hx]
            have htake : assigned (target name x n :: targets_from (n + 1) columns) (v :: fields) =
                (name, v) :: assigned (targets_from (n + 1) columns) fields := by
              simp [assigned, target, hx]
            have hvalue : received x v = v := if_neg hx
            rw [hset, htake, hvalue]
            exact hrest.cons _

theorem zip_received (names : List Text) (columns : List RVector) (fields : List (Option Bytes)) :
    ((names.zip columns).zip fields).map (fun ((name, x), v) => (name, received x v)) =
      names.zip ((columns.zip fields).map fun (x, v) => received x v) := by
  induction names generalizing columns fields with
  | nil => rfl
  | cons name names ih =>
      cases columns with
      | nil => rfl
      | cons x columns =>
          cases fields with
          | nil => rfl
          | cons v fields => simp [ih]

theorem read_row_perm (value : RFrame) (fields : List (Option Bytes))
    (hlen : fields.length = value.columns.length) :
    (read_row (load_data value) fields).Perm
      (value.names.zip ((value.columns.zip fields).map fun (x, v) => received x v)) := by
  have hcolumns : (value.names.zip value.columns).length = value.columns.length := by
    rw [List.length_zip, value.named, Nat.min_self]
  have hperm := assigned_perm (value.names.zip value.columns) fields (n := 1)
    (variable_value (load_data value).targets fields)
    (fun i name x h hx => variable_value_from h hx) (hlen.trans hcolumns.symm)
  rw [zip_received] at hperm
  exact hperm

-- Only the fields that stand for columns matter.
theorem read_row_nil {value : RFrame} (h : value.columns = []) (fields : List (Option Bytes)) :
    read_row (load_data value) fields = [] := by
  simp [read_row, load_data, h, assigned, set_values]

end Targets

section File

-- Row i of a column that has been quoted.
def text_at (y : RVector) (i : Nat) : Option Bytes := (cells y)[i]?.join

def Fits (y : RVector) : Prop := ∀ s, some s ∈ cells y → Framed backslash TAB LF s

theorem NULL_framed : Framed backslash TAB LF (ascii "\\N") := by
  refine ⟨.escaped 78 .nil, ?_, ?_⟩
  · decide
  · decide

theorem field_framed {y : RVector} (h : Fits y) (i : Nat) :
    Framed backslash TAB LF (field (text_at y i)) := by
  cases htext : text_at y i with
  | none => exact NULL_framed
  | some s =>
      rw [text_at, Option.join_eq_some_iff] at htext
      exact h s (List.mem_of_getElem? htext)

-- What is read of a row of the file.
def value_read (v : Option Bytes) : Option Bytes := decode (tokens backslash (field v))

@[simp] theorem value_read_none : value_read none = none := by decide

-- A text that needs no escape character.
theorem decode_plain {s : Bytes} (h : backslash ∉ s) : decode (tokens backslash s) = some s := by
  rw [tokens_plain h, decode, if_neg, List.map_map]
  · simp [Function.comp_def, unescaped]
  · intro hs
    obtain ⟨c, -, hc⟩ := List.map_eq_singleton_iff.mp hs
    cases hc

-- The file of quoted columns is read back row by row, and in each row every column of the
-- table receives what is read of the field of its column.
theorem read_file_rows (value : RFrame) {quoted : List RVector}
    (hlen : quoted.length = value.columns.length) (hfits : ∀ y ∈ quoted, Fits y) :
    (read_file (load_data value) (write_delim value.nrow quoted)).length = value.nrow ∧
    ∀ i (row : Row), (read_file (load_data value) (write_delim value.nrow quoted))[i]? = some row →
      row.Perm (value.names.zip ((value.columns.zip quoted).map fun (x, y) =>
        received x (value_read (text_at y i)))) := by
  have hwrite : write_delim value.nrow quoted = write TAB LF ((List.range value.nrow).map fun i =>
      quoted.map fun y => field (text_at y i)) := rfl
  have hframed : ∀ fields ∈ (List.range value.nrow).map fun i => quoted.map fun y => field (text_at y i),
      ∀ s ∈ fields, Framed backslash TAB LF s := by
    intro fields hfields s hs
    obtain ⟨i, hi, rfl⟩ := List.mem_map.mp hfields
    obtain ⟨y, hy, rfl⟩ := List.mem_map.mp hs
    exact field_framed (hfits y hy) i
  have hread := read_write (by decide) (by decide) (by decide) hframed
  rw [read_file, hwrite, hread]
  refine ⟨by simp, ?_⟩
  intro i row hrow
  simp only [List.getElem?_map, Option.map_map, Option.map_eq_some_iff] at hrow
  obtain ⟨k, hk, rfl⟩ := hrow
  obtain ⟨hi, rfl⟩ := List.getElem?_eq_some_iff.mp hk
  cases hquoted : quoted with
  | nil =>
      have hnil : value.columns = [] := by simpa [hquoted] using hlen.symm
      simp [read_row_nil hnil, hnil]
  | cons y ys =>
      have hne : quoted.map (fun y => field (text_at y i)) ≠ [] := by simp [hquoted]
      rw [← hquoted, Function.comp_apply, Function.comp_apply, List.getElem_range, fieldsOf, if_neg hne,
        List.map_map, List.map_map]
      have hperm := read_row_perm value (quoted.map fun y => value_read (text_at y i))
        (by rw [List.length_map, hlen])
      have hzip : value.columns.zip (quoted.map fun y => value_read (text_at y i)) =
          (value.columns.zip quoted).map (Prod.map id fun y => value_read (text_at y i)) :=
        List.zip_map_right
      rw [hzip, List.map_map] at hperm
      exact hperm

end File

end RMariaDB.Table
