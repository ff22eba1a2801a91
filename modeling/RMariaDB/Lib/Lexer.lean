import Mathlib.Data.List.TakeWhile
import RMariaDB.Lib.Quoted

-- Texts of a language with words, single symbols and texts in quotation marks, and the tokens
-- that are read from them. What is not understood is not read at all.

namespace Lexer

variable {α : Type}

-- What a character begins or belongs to
inductive Kind (α : Type) where
  | space
  | word
  | symbol
  | mark (r : Quoted.Rules α)
  | unknown

structure Rules (α : Type) where
  kind : α → Kind α
  closes : ∀ a r, kind a = .mark r → r.mark = a

inductive Token (α : Type) where
  | word (w : List α)
  | symbol (a : α)
  | quoted (mark : α) (x : List α)
deriving DecidableEq, Repr

def Kind.is_word : Kind α → Bool
  | .word => true
  | _ => false

def Kind.is_mark : Kind α → Bool
  | .mark _ => true
  | _ => false

variable (R : Rules α)

section Words

-- A word that runs into a quotation mark is not read: the mark may mean something else there.
def stops (s : List α) : Bool := s.head?.all fun a => !(R.kind a).is_mark

variable {R} {s : List α}

theorem is_word_iff {a : α} : (R.kind a).is_word = true ↔ R.kind a = .word := by
  cases R.kind a <;> simp [Kind.is_word]

theorem stops_iff : stops R s = true ↔ ∀ a ∈ s.head?, (R.kind a).is_mark = false := by
  cases s with
  | nil => simp [stops]
  | cons a s => simp [stops]

theorem takeWhile_word {w : List α} (hw : ∀ a ∈ w, R.kind a = .word)
    (hend : ∀ a ∈ s.head?, (R.kind a).is_word = false) :
    (w ++ s).takeWhile (fun b => (R.kind b).is_word) = w ∧
      (w ++ s).dropWhile (fun b => (R.kind b).is_word) = s := by
  have hall : ∀ a ∈ w, (R.kind a).is_word = true := fun a ha => is_word_iff.mpr (hw a ha)
  rw [List.takeWhile_append_of_pos hall, List.dropWhile_append_of_pos hall]
  cases s with
  | nil => simp
  | cons a s => simp [hend a rfl]

end Words

section Reading

variable [DecidableEq α]

-- Every token takes a character.
def lexFrom : Nat → List α → Option (List (Token α))
  | _, [] => some []
  | 0, _ :: _ => none
  | n + 1, a :: s =>
      match R.kind a with
      | .space => lexFrom n s
      | .symbol => (lexFrom n s).map (.symbol a :: ·)
      | .word =>
          let w := s.takeWhile fun b => (R.kind b).is_word
          let rest := s.dropWhile fun b => (R.kind b).is_word
          if stops R rest then (lexFrom n rest).map (.word (a :: w) :: ·) else none
      | .mark r =>
          match Quoted.scan r s with
          | some (x, rest) => (lexFrom n rest).map (.quoted a x :: ·)
          | none => none
      | .unknown => none

def lex (s : List α) : Option (List (Token α)) := lexFrom R s.length s

end Reading

section Relation

variable [DecidableEq α]

-- The same as a relation between a text and its tokens
inductive Reads : List α → List (Token α) → Prop where
  | nil : Reads [] []
  | space {a : α} {s : List α} {ts : List (Token α)} (ha : R.kind a = .space) (hs : Reads s ts) :
      Reads (a :: s) ts
  | symbol {a : α} {s : List α} {ts : List (Token α)} (ha : R.kind a = .symbol) (hs : Reads s ts) :
      Reads (a :: s) (.symbol a :: ts)
  | word {w s : List α} {ts : List (Token α)} (hne : w ≠ []) (hw : ∀ a ∈ w, R.kind a = .word)
      (hend : ∀ a ∈ s.head?, (R.kind a).is_word = false ∧ (R.kind a).is_mark = false)
      (hs : Reads s ts) : Reads (w ++ s) (.word w :: ts)
  | quoted {a : α} {r : Quoted.Rules α} {s x rest : List α} {ts : List (Token α)}
      (ha : R.kind a = .mark r) (hscan : Quoted.scan r s = some (x, rest)) (hs : Reads rest ts) :
      Reads (a :: s) (.quoted a x :: ts)

variable {R} {s t : List α} {ts us : List (Token α)}

theorem lexFrom_of_reads (h : Reads R s ts) : ∀ {n : Nat}, s.length ≤ n → lexFrom R n s = some ts := by
  induction h with
  | nil =>
      intro n _
      cases n <;> rfl
  | space ha _ ih =>
      intro n hn
      cases n with
      | zero => exact absurd hn (Nat.not_succ_le_zero _)
      | succ n =>
          rw [lexFrom, ha]
          exact ih (Nat.le_of_succ_le_succ hn)
  | symbol ha _ ih =>
      intro n hn
      cases n with
      | zero => exact absurd hn (Nat.not_succ_le_zero _)
      | succ n =>
          rw [lexFrom, ha]
          dsimp only
          rw [ih (Nat.le_of_succ_le_succ hn)]
          rfl
  | @word w s ts hne hw hend _ ih =>
      intro n hn
      obtain ⟨a, w, rfl⟩ := List.exists_cons_of_ne_nil hne
      rw [List.length_append, List.length_cons] at hn
      cases n with
      | zero => omega
      | succ n =>
          obtain ⟨htake, hdrop⟩ := takeWhile_word (fun b hb => hw b (List.mem_cons_of_mem _ hb))
            fun b hb => (hend b hb).1
          rw [List.cons_append, lexFrom, hw a List.mem_cons_self]
          dsimp only
          rw [htake, hdrop, if_pos (stops_iff.mpr fun b hb => (hend b hb).2), ih (by omega)]
          rfl
  | @quoted a r s x rest ts ha hscan _ ih =>
      intro n hn
      obtain ⟨body, rfl⟩ := Quoted.scan_split hscan
      rw [List.length_cons, List.length_append, List.length_cons] at hn
      cases n with
      | zero => omega
      | succ n =>
          rw [lexFrom, ha]
          dsimp only
          rw [hscan]
          dsimp only
          rw [ih (by omega)]
          rfl

theorem reads_of_lexFrom {n : Nat} (h : lexFrom R n s = some ts) : Reads R s ts := by
  induction n generalizing s ts with
  | zero =>
      cases s with
      | nil =>
          cases h
          exact .nil
      | cons a s => cases h
  | succ n ih =>
      cases s with
      | nil =>
          cases h
          exact .nil
      | cons a s =>
          rw [lexFrom] at h
          split at h
          · rename_i ha
            exact .space ha (ih h)
          · rename_i ha
            obtain ⟨us, hus, rfl⟩ := Option.map_eq_some_iff.mp h
            exact .symbol ha (ih hus)
          · rename_i ha
            dsimp only at h
            split at h
            · rename_i hstops
              obtain ⟨us, hus, rfl⟩ := Option.map_eq_some_iff.mp h
              have hword := Reads.word (R := R) (w := a :: s.takeWhile fun b => (R.kind b).is_word)
                (List.cons_ne_nil _ _) ?_ ?_ (ih hus)
              · rwa [List.cons_append, List.takeWhile_append_dropWhile] at hword
              · intro b hb
                rcases List.mem_cons.mp hb with rfl | hb
                · exact ha
                · exact is_word_iff.mp (List.mem_takeWhile_imp (p := fun b => (R.kind b).is_word) hb)
              · intro b hb
                refine ⟨?_, stops_iff.mp hstops b hb⟩
                have hnot := List.head?_dropWhile_not (fun b => (R.kind b).is_word) s
                rw [Option.mem_def.mp hb] at hnot
                exact hnot
            · cases h
          · rename_i r ha
            split at h
            · rename_i x rest hscan
              obtain ⟨us, hus, rfl⟩ := Option.map_eq_some_iff.mp h
              exact .quoted ha hscan (ih hus)
            · cases h
          · cases h

-- Words are read as such, and none of them is empty.
theorem word_of_reads {w : List α} (h : Reads R s ts) (hw : .word w ∈ ts) :
    w ≠ [] ∧ ∀ a ∈ w, R.kind a = .word := by
  induction h with
  | nil => cases hw
  | space _ _ ih => exact ih hw
  | symbol _ _ ih => exact ih ((List.mem_cons.mp hw).resolve_left (by simp))
  | word hne hall _ _ ih =>
      rcases List.mem_cons.mp hw with heq | hw
      · cases heq
        exact ⟨hne, hall⟩
      · exact ih hw
  | quoted _ _ _ ih => exact ih ((List.mem_cons.mp hw).resolve_left (by simp))

theorem reads_iff : Reads R s ts ↔ lex R s = some ts :=
  ⟨fun h => lexFrom_of_reads h (Nat.le_refl _), reads_of_lexFrom⟩

end Relation

section Readers

variable [DecidableEq α] (R : Rules α)

-- A program that reads by these rules. What it does with other texts is not said.
structure Reader where
  read : List α → Option (List (Token α))
  nil : read [] = some []
  space : ∀ {a s ts}, R.kind a = .space → read s = some ts → read (a :: s) = some ts
  symbol : ∀ {a s ts}, R.kind a = .symbol → read s = some ts → read (a :: s) = some (.symbol a :: ts)
  word : ∀ {w s ts}, w ≠ [] → (∀ a ∈ w, R.kind a = .word) →
    (∀ a ∈ s.head?, (R.kind a).is_word = false ∧ (R.kind a).is_mark = false) →
    read s = some ts → read (w ++ s) = some (.word w :: ts)
  quoted : ∀ {a r s x rest ts}, R.kind a = .mark r → Quoted.scan r s = some (x, rest) →
    read rest = some ts → read (a :: s) = some (.quoted a x :: ts)

def lexer : Reader R where
  read := lex R
  nil := rfl
  space := fun ha h => reads_iff.mp (.space ha (reads_iff.mpr h))
  symbol := fun ha h => reads_iff.mp (.symbol ha (reads_iff.mpr h))
  word := fun hne hw hend h => reads_iff.mp (.word hne hw hend (reads_iff.mpr h))
  quoted := fun ha hscan h => reads_iff.mp (.quoted ha hscan (reads_iff.mpr h))

variable {R} {s : List α} {ts : List (Token α)}

theorem Reader.of_reads (reader : Reader R) (h : Reads R s ts) : reader.read s = some ts := by
  induction h with
  | nil => exact reader.nil
  | space ha _ ih => exact reader.space ha ih
  | symbol ha _ ih => exact reader.symbol ha ih
  | word hne hw hend _ ih => exact reader.word hne hw hend ih
  | quoted ha hscan _ ih => exact reader.quoted ha hscan ih

end Readers

section Joining

variable [DecidableEq α]

-- Whether a text that ends with `a` can be followed by `b`, and both are read as before
def apart (a b : α) : Bool :=
  match R.kind a with
  | .word => !(R.kind b).is_word && !(R.kind b).is_mark
  | .mark _ => a ≠ b
  | _ => true

def Joins (s t : List α) : Prop := ∀ a ∈ s.getLast?, ∀ b ∈ t.head?, apart R a b = true

variable {R} {s t : List α} {ts us : List (Token α)}

theorem Joins.tail {a : α} {s : List α} (h : Joins R (a :: s) t) (hs : s ≠ []) : Joins R s t := by
  intro b hb
  obtain ⟨c, s, rfl⟩ := List.exists_cons_of_ne_nil hs
  exact h b (by rwa [List.getLast?_cons_cons])

theorem Joins.suffix {w s : List α} (h : Joins R (w ++ s) t) (hs : s ≠ []) : Joins R s t := by
  induction w with
  | nil => exact h
  | cons a w ih => exact ih (h.tail (List.append_ne_nil_of_right_ne_nil _ hs))

theorem Reads.append (hs : Reads R s ts) (ht : Reads R t us) :
    Joins R s t → Reads R (s ++ t) (ts ++ us) := by
  induction hs with
  | nil => exact fun _ => ht
  | @space a s ts ha _ ih =>
      intro hjoins
      refine .space ha ?_
      by_cases hs : s = []
      · subst hs
        exact ih fun b hb => by cases hb
      · exact ih (hjoins.tail hs)
  | @symbol a s ts ha _ ih =>
      intro hjoins
      refine .symbol ha ?_
      by_cases hs : s = []
      · subst hs
        exact ih fun b hb => by cases hb
      · exact ih (hjoins.tail hs)
  | @word w s ts hne hw hend _ ih =>
      intro hjoins
      rw [List.append_assoc, List.cons_append]
      by_cases hs : s = []
      · subst hs
        refine .word hne hw ?_ (ih fun b hb => by cases hb)
        intro b hb
        have hlast := List.getLast?_eq_some_getLast hne
        have hapart := hjoins (w.getLast hne) (by rw [List.append_nil]; exact hlast) b hb
        rw [apart, hw _ (List.getLast_mem hne)] at hapart
        simpa using hapart
      · refine .word hne hw ?_ (ih (hjoins.suffix hs))
        intro b hb
        rw [List.head?_append_of_ne_nil _ hs] at hb
        exact hend b hb
  | @quoted a r s x rest ts ha hscan _ ih =>
      intro hjoins
      obtain ⟨body, hbody⟩ := Quoted.scan_split hscan
      by_cases hrest : rest = []
      · subst hrest
        have hscan := Quoted.scan_append (t := t) ?_ hscan
        · exact .quoted ha hscan (ih fun b hb => by cases hb)
        · intro _ hhead
          have hlast : (a :: s).getLast? = some r.mark := by
            rw [hbody, ← List.cons_append, List.getLast?_append]
            rfl
          have hapart := hjoins _ hlast _ hhead
          rw [apart, R.closes a r ha, ha] at hapart
          simp at hapart
      · have hsplit : a :: s = (a :: (body ++ [r.mark])) ++ rest := by
          rw [hbody, List.cons_append, List.append_assoc]
          rfl
        rw [hsplit] at hjoins
        have hjoins := hjoins.suffix hrest
        exact .quoted ha (Quoted.scan_append (fun h => absurd h hrest) hscan) (ih hjoins)

-- A space or a symbol joins to anything.
def Kind.is_between : Kind α → Bool
  | .space | .symbol => true
  | _ => false

theorem joins_last (h : ∀ a ∈ s.getLast?, (R.kind a).is_between = true) : Joins R s t := by
  intro a ha b _
  have hkind := h a ha
  rw [apart]
  cases hcase : R.kind a <;> rw [hcase] at hkind <;> first | rfl | cases hkind

theorem joins_first (h : ∀ b ∈ t.head?, (R.kind b).is_between = true) : Joins R s t := by
  intro a _ b hb
  have hkind := h b hb
  rw [apart]
  cases ha : R.kind a with
  | word => cases hcase : R.kind b <;> rw [hcase] at hkind <;> first | rfl | cases hkind
  | mark r =>
      have hne : a ≠ b := by
        rintro rfl
        rw [ha] at hkind
        cases hkind
      simpa using hne
  | _ => rfl

variable {β : Type} {sep : List α} {f : β → List α} {g : β → List (Token α)} {xs : List β}

-- Texts with a separator between them
theorem reads_intercalate (hsep : Reads R sep us) (hne : sep ≠ [])
    (hfirst : ∀ a ∈ sep.head?, (R.kind a).is_between = true)
    (hlast : ∀ a ∈ sep.getLast?, (R.kind a).is_between = true)
    (h : ∀ x ∈ xs, Reads R (f x) (g x)) :
    Reads R (sep.intercalate (xs.map f)) (us.intercalate (xs.map g)) := by
  induction xs with
  | nil => exact .nil
  | cons x xs ih =>
      have hx := h x List.mem_cons_self
      cases xs with
      | nil => simpa using hx
      | cons y xs =>
          have hrest := ih fun z hz => h z (List.mem_cons_of_mem _ hz)
          simp only [List.map_cons, List.intercalate_cons_cons] at hrest ⊢
          have hmore := hsep.append hrest (joins_last hlast)
          rw [List.append_assoc, List.append_assoc]
          refine hx.append hmore (joins_first fun a ha => ?_)
          rw [List.head?_append_of_ne_nil _ hne] at ha
          exact hfirst a ha

end Joining

end Lexer
