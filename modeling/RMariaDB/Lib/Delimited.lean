import Mathlib.Data.List.Basic

-- Rows of fields as text: a separator between the fields of a row, a terminator behind each
-- row, and an escape character that takes the meaning of the next one away.

namespace Delimited

inductive Token (α : Type) where
  | plain (a : α)
  | escaped (a : α)
deriving DecidableEq, Repr

variable {α : Type} [DecidableEq α] {esc sep eol : α}

-- An escape character at the end stands for itself.
def tokens (esc : α) : List α → List (Token α)
  | [] => []
  | [a] => [.plain a]
  | a :: b :: s => if a = esc then .escaped b :: tokens esc s else .plain a :: tokens esc (b :: s)

-- The pieces before each terminator, and what follows the last one if there is something.
def terminated (eol : Token α) (s : List (Token α)) : List (List (Token α)) :=
  let rows := s.splitOn eol
  if rows.getLast? = some [] then rows.dropLast else rows

def read (esc sep eol : α) (s : List α) : List (List (List (Token α))) :=
  (terminated (.plain eol) (tokens esc s)).map fun row => row.splitOn (.plain sep)

def writeRow (sep : α) (fields : List (List α)) : List α := [sep].intercalate fields

def write (sep eol : α) (rows : List (List (List α))) : List α :=
  rows.flatMap fun fields => writeRow sep fields ++ [eol]

section Tokens

-- A text whose end does not change the meaning of what follows.
def Complete (esc : α) (x : List α) : Prop := ∀ y, tokens esc (x ++ y) = tokens esc x ++ tokens esc y

theorem tokens_cons {a : α} (h : a ≠ esc) (s : List α) :
    tokens esc (a :: s) = .plain a :: tokens esc s := by
  cases s with
  | nil => rfl
  | cons b s => rw [tokens, if_neg h]

theorem tokens_escaped (b : α) (s : List α) :
    tokens esc (esc :: b :: s) = .escaped b :: tokens esc s := by
  rw [tokens, if_pos rfl]

theorem Complete.nil : Complete esc [] := fun _ => rfl

theorem Complete.plain {a : α} {x : List α} (h : a ≠ esc) (hx : Complete esc x) :
    Complete esc (a :: x) := by
  intro y
  rw [List.cons_append, tokens_cons h, tokens_cons h, hx, List.cons_append]

theorem Complete.escaped {x : List α} (b : α) (hx : Complete esc x) :
    Complete esc (esc :: b :: x) := by
  intro y
  simp only [List.cons_append, tokens_escaped, hx y]

theorem Complete.append {x y : List α} (hx : Complete esc x) (hy : Complete esc y) :
    Complete esc (x ++ y) := by
  intro z
  rw [List.append_assoc, hx, hy, hx, List.append_assoc]

-- Text without escape characters.
theorem tokens_plain {x : List α} (h : esc ∉ x) : tokens esc x = x.map .plain := by
  induction x with
  | nil => rfl
  | cons a x ih =>
      rw [List.mem_cons, not_or] at h
      rw [tokens_cons (Ne.symm h.1), ih h.2, List.map_cons]

theorem Complete.of_not_mem {x : List α} (h : esc ∉ x) : Complete esc x := by
  induction x with
  | nil => exact .nil
  | cons a x ih =>
      rw [List.mem_cons, not_or] at h
      exact .plain (Ne.symm h.1) (ih h.2)

end Tokens

section Framing

-- A field that can stand between separators and terminators.
structure Framed (esc sep eol : α) (x : List α) : Prop where
  complete : Complete esc x
  separator : Token.plain sep ∉ tokens esc x
  terminator : Token.plain eol ∉ tokens esc x

theorem Framed.of_plain {x : List α} (hesc : esc ∉ x) (hsep : sep ∉ x) (heol : eol ∉ x) :
    Framed esc sep eol x := by
  refine ⟨.of_not_mem hesc, ?_, ?_⟩
  · rw [tokens_plain hesc]
    simpa using hsep
  · rw [tokens_plain hesc]
    simpa using heol

-- A row without fields is read as one that is empty.
def fieldsOf (esc : α) (fields : List (List α)) : List (List (Token α)) :=
  if fields = [] then [[]] else fields.map (tokens esc)

theorem writeRow_tokens (hsep : sep ≠ esc) {fields : List (List α)}
    (h : ∀ x ∈ fields, Framed esc sep eol x) :
    tokens esc (writeRow sep fields) = [Token.plain sep].intercalate (fields.map (tokens esc)) ∧
      Complete esc (writeRow sep fields) := by
  induction fields with
  | nil => exact ⟨rfl, .nil⟩
  | cons x fields ih =>
      have hx := (h x List.mem_cons_self).complete
      cases fields with
      | nil => simpa [writeRow, List.intercalate] using hx
      | cons y fields =>
          obtain ⟨htokens, hcomplete⟩ := ih fun z hz => h z (List.mem_cons_of_mem _ hz)
          have hwrite : writeRow sep (x :: y :: fields) = x ++ sep :: writeRow sep (y :: fields) := by
            simp [writeRow, List.intercalate]
          rw [hwrite]
          refine ⟨?_, hx.append (.plain hsep hcomplete)⟩
          rw [hx, tokens_cons hsep, htokens]
          simp [List.intercalate]

theorem row_fields (hsep : sep ≠ esc) {fields : List (List α)}
    (h : ∀ x ∈ fields, Framed esc sep eol x) :
    (tokens esc (writeRow sep fields)).splitOn (.plain sep) = fieldsOf esc fields := by
  rw [(writeRow_tokens hsep h).1, fieldsOf]
  split
  · rename_i hnil
    rw [hnil]
    rfl
  · rename_i hne
    refine List.splitOn_intercalate _ (fun l hl => ?_) (by simpa using hne)
    obtain ⟨x, hx, rfl⟩ := List.mem_map.mp hl
    exact (h x hx).separator

theorem not_mem_intercalate {β : Type} {a b : β} {ls : List (List β)} (hne : a ≠ b)
    (h : ∀ l ∈ ls, a ∉ l) : a ∉ [b].intercalate ls := by
  induction ls with
  | nil => exact List.not_mem_nil
  | cons l ls ih =>
      have hl := h l List.mem_cons_self
      cases ls with
      | nil => simpa [List.intercalate] using hl
      | cons l' ls =>
          have hrest := ih fun x hx => h x (List.mem_cons_of_mem _ hx)
          have hjoin : [b].intercalate (l :: l' :: ls) = l ++ b :: [b].intercalate (l' :: ls) := by
            simp [List.intercalate]
          rw [hjoin, List.mem_append, List.mem_cons]
          rintro (hmem | hmem | hmem)
          · exact hl hmem
          · exact hne hmem
          · exact hrest hmem

theorem row_terminator (hsep : sep ≠ esc) (hne : sep ≠ eol) {fields : List (List α)}
    (h : ∀ x ∈ fields, Framed esc sep eol x) :
    Token.plain eol ∉ tokens esc (writeRow sep fields) := by
  rw [(writeRow_tokens hsep h).1]
  refine not_mem_intercalate (by simpa using Ne.symm hne) fun l hl => ?_
  obtain ⟨x, hx, rfl⟩ := List.mem_map.mp hl
  exact (h x hx).terminator

theorem write_tokens (hsep : sep ≠ esc) (heol : eol ≠ esc) (hne : sep ≠ eol)
    {rows : List (List (List α))} (h : ∀ fields ∈ rows, ∀ x ∈ fields, Framed esc sep eol x) :
    (tokens esc (write sep eol rows)).splitOn (.plain eol) =
      rows.map (fun fields => tokens esc (writeRow sep fields)) ++ [[]] := by
  induction rows with
  | nil => rfl
  | cons fields rows ih =>
      have hfields := h fields List.mem_cons_self
      have hcomplete := (writeRow_tokens hsep hfields).2
      rw [write, List.flatMap_cons, List.append_assoc, hcomplete, List.cons_append, List.nil_append,
        tokens_cons heol,
        List.splitOn_append_cons_self_of_not_mem (row_terminator hsep hne hfields)]
      rw [← write, ih fun fields hfields => h fields (List.mem_cons_of_mem _ hfields), List.map_cons,
        List.cons_append]

-- What is written is read back field by field.
theorem read_write (hsep : sep ≠ esc) (heol : eol ≠ esc) (hne : sep ≠ eol)
    {rows : List (List (List α))} (h : ∀ fields ∈ rows, ∀ x ∈ fields, Framed esc sep eol x) :
    read esc sep eol (write sep eol rows) = rows.map (fieldsOf esc) := by
  rw [read, terminated, write_tokens hsep heol hne h]
  simp only [List.getLast?_append, List.getLast?_singleton, Option.some_or, if_true,
    List.dropLast_concat, List.map_map]
  exact List.map_congr_left fun fields hfields => row_fields hsep (h fields hfields)

end Framing

end Delimited
