import Mathlib.Data.List.Basic

-- Texts between quotation marks, where a mark in the text is doubled or escaped.

namespace Quoted

variable {α : Type}

-- The mark, and the escape character if there is one, with what a character behind it
-- stands for.
structure Rules (α : Type) where
  mark : α
  escape : Option α := none
  escaped : α → List α := fun a => [a]

-- A text in marks
def quoted (r : Rules α) (s : List α) : List α := r.mark :: (s ++ [r.mark])

section Reading

variable [DecidableEq α] (r : Rules α)

-- What may stand between two marks, and its meaning
def content : List α → Option (List α)
  | [] => some []
  | [a] => if r.escape = some a ∨ a = r.mark then none else some [a]
  | a :: b :: s =>
      if r.escape = some a then (content s).map (r.escaped b ++ ·)
      else if a = r.mark then
        if b = r.mark then (content s).map (a :: ·) else none
      else (content (b :: s)).map (a :: ·)

-- A text up to the mark that closes it, and what follows
def scan : List α → Option (List α × List α)
  | [] => none
  | [a] => if r.escape ≠ some a ∧ a = r.mark then some ([], []) else none
  | a :: b :: s =>
      if r.escape = some a then (scan s).map (Prod.map (r.escaped b ++ ·) id)
      else if a = r.mark then
        if b = r.mark then (scan s).map (Prod.map (a :: ·) id) else some ([], b :: s)
      else (scan (b :: s)).map (Prod.map (a :: ·) id)

def first : List α → Option (List α × List α)
  | [] => none
  | a :: s => if a = r.mark then scan r s else none

-- A text that is one quoted text and nothing else
def literal (s : List α) : Option (List α) :=
  match first r s with
  | some (x, []) => some x
  | _ => none

-- Quoted texts, none of them empty, with a separator between them
def listFrom (sep : α) : Nat → List α → Option (List (List α))
  | _, [] => some []
  | 0, _ => none
  | n + 1, s =>
      match first r s with
      | none => none
      | some ([], _) => none
      | some (x, []) => some [x]
      | some (x, a :: rest) =>
          if a = sep ∧ rest ≠ [] then (listFrom sep n rest).map (x :: ·) else none

def list (sep : α) (s : List α) : Option (List (List α)) := listFrom r sep s.length s

end Reading

variable {r : Rules α} {s x rest : List α} {a sep : α}

section Closing

variable [DecidableEq α]

theorem scan_mark (hescape : r.escape ≠ some r.mark) (hrest : rest.head? ≠ some r.mark) :
    scan r (r.mark :: rest) = some ([], rest) := by
  cases rest with
  | nil => rw [scan, if_pos ⟨hescape, rfl⟩]
  | cons b rest =>
      have hb : b ≠ r.mark := fun h => hrest (congrArg some h)
      rw [scan, if_neg hescape, if_pos rfl, if_neg hb]

-- The mark behind a content closes it, unless another one follows.
theorem scan_content (hescape : r.escape ≠ some r.mark) (hrest : rest.head? ≠ some r.mark) :
    content r s = some x → scan r (s ++ r.mark :: rest) = some (x, rest) := by
  fun_induction content r s generalizing x with
  | case1 =>
      intro h
      cases h
      exact scan_mark hescape hrest
  | case2 a ha =>
      intro h
      cases h
  | case3 a ha =>
      intro h
      cases h
      obtain ⟨hplain, hmark⟩ := not_or.mp ha
      rw [List.singleton_append, scan, if_neg hplain, if_neg hmark, scan_mark hescape hrest]
      rfl
  | case4 a b s ha ih =>
      intro h
      obtain ⟨y, hy, rfl⟩ := Option.map_eq_some_iff.mp h
      rw [List.cons_append, List.cons_append, scan, if_pos ha, ih hy]
      rfl
  | case5 s ha ih =>
      intro h
      obtain ⟨y, hy, rfl⟩ := Option.map_eq_some_iff.mp h
      rw [List.cons_append, List.cons_append, scan, if_neg ha, if_pos rfl, if_pos rfl, ih hy]
      rfl
  | case6 b s hb ha =>
      intro h
      cases h
  | case7 a b s ha hmark ih =>
      intro h
      obtain ⟨y, hy, rfl⟩ := Option.map_eq_some_iff.mp h
      rw [List.cons_append, List.cons_append, scan, if_neg ha, if_neg hmark, ← List.cons_append,
        ih hy]
      rfl

variable (rest) in
theorem first_content (hescape : r.escape ≠ some r.mark) (h : content r s = some x)
    (hrest : rest.head? ≠ some r.mark) : first r (quoted r s ++ rest) = some (x, rest) := by
  rw [quoted, List.cons_append, List.append_assoc, List.singleton_append, first, if_pos rfl,
    scan_content hescape hrest h]

theorem literal_content (hescape : r.escape ≠ some r.mark) (h : content r s = some x) :
    literal r (quoted r s) = some x := by
  have hfirst := first_content [] hescape h (by simp)
  rw [List.append_nil] at hfirst
  rw [literal, hfirst]

-- A mark alone opens a text that is not closed.
theorem literal_mark : literal r [r.mark] = none := by
  rw [literal, first, if_pos rfl, scan]

-- A character that means itself wherever it stands is not lost.
theorem mem_of_content {a : α} (hplain : r.escape ≠ some a) (hescaped : a ∈ r.escaped a) :
    content r s = some x → a ∈ s → a ∈ x := by
  fun_induction content r s generalizing x with
  | case1 =>
      intro _ hmem
      exact absurd hmem List.not_mem_nil
  | case2 b hb =>
      intro h
      cases h
  | case3 b hb =>
      intro h hmem
      cases h
      exact hmem
  | case4 b c s hb ih =>
      intro h hmem
      obtain ⟨y, hy, rfl⟩ := Option.map_eq_some_iff.mp h
      rcases List.mem_cons.mp hmem with rfl | hmem
      · exact absurd hb hplain
      · rcases List.mem_cons.mp hmem with rfl | hmem
        · exact List.mem_append_left _ hescaped
        · exact List.mem_append_right _ (ih hy hmem)
  | case5 s hb ih =>
      intro h hmem
      obtain ⟨y, hy, rfl⟩ := Option.map_eq_some_iff.mp h
      rcases List.mem_cons.mp hmem with rfl | hmem
      · exact List.mem_cons_self
      · rcases List.mem_cons.mp hmem with rfl | hmem
        · exact List.mem_cons_self
        · exact List.mem_cons_of_mem _ (ih hy hmem)
  | case6 b s hb hmark =>
      intro h
      cases h
  | case7 b c s hb hmark ih =>
      intro h hmem
      obtain ⟨y, hy, rfl⟩ := Option.map_eq_some_iff.mp h
      rcases List.mem_cons.mp hmem with rfl | hmem
      · exact List.mem_cons_self
      · exact List.mem_cons_of_mem _ (ih hy hmem)

end Closing

section Suffixes

variable [DecidableEq α] {t : List α}

-- A text that was read ends with the mark that closes it.
theorem scan_split : scan r s = some (x, rest) → ∃ body, s = body ++ r.mark :: rest := by
  fun_induction scan r s generalizing x with
  | case1 =>
      intro h
      cases h
  | case2 a ha =>
      intro h
      cases h
      exact ⟨[], by rw [ha.2]; rfl⟩
  | case3 a ha =>
      intro h
      cases h
  | case4 a b s ha ih =>
      intro h
      obtain ⟨⟨y, rest'⟩, hy, heq⟩ := Option.map_eq_some_iff.mp h
      cases heq
      obtain ⟨body, rfl⟩ := ih hy
      exact ⟨a :: b :: body, rfl⟩
  | case5 s ha ih =>
      intro h
      obtain ⟨⟨y, rest'⟩, hy, heq⟩ := Option.map_eq_some_iff.mp h
      cases heq
      obtain ⟨body, rfl⟩ := ih hy
      exact ⟨r.mark :: r.mark :: body, rfl⟩
  | case6 b s hb ha =>
      intro h
      cases h
      exact ⟨[], rfl⟩
  | case7 a b s ha hmark ih =>
      intro h
      obtain ⟨⟨y, rest'⟩, hy, heq⟩ := Option.map_eq_some_iff.mp h
      cases heq
      obtain ⟨body, hbody⟩ := ih hy
      exact ⟨a :: body, by rw [hbody]; rfl⟩

-- What follows does not change it, unless it is another mark.
theorem scan_append (ht : rest = [] → t.head? ≠ some r.mark) :
    scan r s = some (x, rest) → scan r (s ++ t) = some (x, rest ++ t) := by
  fun_induction scan r s generalizing x with
  | case1 =>
      intro h
      cases h
  | case2 a ha =>
      intro h
      cases h
      obtain ⟨hescape, rfl⟩ := ha
      exact scan_mark hescape (ht rfl)
  | case3 a ha =>
      intro h
      cases h
  | case4 a b s ha ih =>
      intro h
      obtain ⟨⟨y, rest'⟩, hy, heq⟩ := Option.map_eq_some_iff.mp h
      cases heq
      rw [List.cons_append, List.cons_append, scan, if_pos ha, ih hy]
      rfl
  | case5 s ha ih =>
      intro h
      obtain ⟨⟨y, rest'⟩, hy, heq⟩ := Option.map_eq_some_iff.mp h
      cases heq
      rw [List.cons_append, List.cons_append, scan, if_neg ha, if_pos rfl, if_pos rfl, ih hy]
      rfl
  | case6 b s hb ha =>
      intro h
      cases h
      rw [List.cons_append, List.cons_append, scan, if_neg ha, if_pos rfl, if_neg hb]
  | case7 a b s ha hmark ih =>
      intro h
      obtain ⟨⟨y, rest'⟩, hy, heq⟩ := Option.map_eq_some_iff.mp h
      cases heq
      rw [List.cons_append, List.cons_append, scan, if_neg ha, if_neg hmark, ← List.cons_append,
        ih hy]
      rfl

end Suffixes

section Encoding

-- The ways to write a character between two marks
inductive Encodes (r : Rules α) : α → List α → Prop where
  | plain {a : α} (hmark : a ≠ r.mark) (hescape : r.escape ≠ some a) : Encodes r a [a]
  | doubled (hescape : r.escape ≠ some r.mark) : Encodes r r.mark [r.mark, r.mark]
  | escaped {a b e : α} (he : r.escape = some e) (hb : r.escaped b = [a]) : Encodes r a [e, b]

theorem Encodes.length_le {a : α} {code : List α} (h : Encodes r a code) : code.length ≤ 2 := by
  cases h <;> simp

theorem length_flatMap_le {code : α → List α} (h : ∀ a ∈ x, Encodes r a (code a)) :
    (x.flatMap code).length ≤ 2 * x.length := by
  induction x with
  | nil => exact Nat.le_refl _
  | cons a x ih =>
      have hcode := (h a List.mem_cons_self).length_le
      have hrest := ih fun b hb => h b (List.mem_cons_of_mem _ hb)
      rw [List.flatMap_cons, List.length_append, List.length_cons]
      omega

variable [DecidableEq α]

theorem content_cons {a : α} {code : List α} (h : Encodes r a code) (s : List α) :
    content r (code ++ s) = (content r s).map (a :: ·) := by
  cases h with
  | plain hmark hescape =>
      cases s with
      | nil =>
          simp only [List.append_nil, content]
          rw [if_neg (not_or_intro hescape hmark)]
          rfl
      | cons b s => rw [List.singleton_append, content, if_neg hescape, if_neg hmark]
  | doubled hescape =>
      rw [List.cons_append, List.singleton_append, content, if_neg hescape, if_pos rfl, if_pos rfl]
  | escaped he hb =>
      rw [List.cons_append, List.singleton_append, content, if_pos he, hb]
      rfl

-- Characters that are encoded one by one are read back.
theorem content_flatMap {code : α → List α} (h : ∀ a ∈ x, Encodes r a (code a)) :
    content r (x.flatMap code) = some x := by
  induction x with
  | nil => rfl
  | cons a x ih =>
      rw [List.flatMap_cons, content_cons (h a List.mem_cons_self),
        ih fun b hb => h b (List.mem_cons_of_mem _ hb)]
      rfl

end Encoding

section Lists

variable {write : List α → List α}

theorem intercalate_map_cons (f : List α → List α) (s t : List α) (texts : List (List α)) :
    [sep].intercalate ((s :: t :: texts).map f) =
      f s ++ sep :: [sep].intercalate ((t :: texts).map f) := by
  simp [List.intercalate]

theorem intercalate_quoted_ne_nil (t : List α) (texts : List (List α)) :
    [sep].intercalate ((t :: texts).map fun t => quoted r (write t)) ≠ [] := by
  cases texts with
  | nil => simp [quoted, List.intercalate]
  | cons s texts =>
      rw [intercalate_map_cons]
      exact List.append_ne_nil_of_left_ne_nil (List.cons_ne_nil _ _) _

theorem length_intercalate_quoted (texts : List (List α)) :
    texts.length ≤ ([sep].intercalate (texts.map fun t => quoted r (write t))).length := by
  induction texts with
  | nil => exact Nat.zero_le _
  | cons s texts ih =>
      cases texts with
      | nil => simp [quoted, List.intercalate]
      | cons t texts =>
          rw [intercalate_map_cons, List.length_append]
          simp only [List.length_cons] at ih ⊢
          omega

variable [DecidableEq α]

theorem listFrom_quoted (hescape : r.escape ≠ some r.mark) (hsep : sep ≠ r.mark)
    {texts : List (List α)} {n : Nat} (htexts : ∀ t ∈ texts, content r (write t) = some t ∧ t ≠ [])
    (hn : texts.length ≤ n) :
    listFrom r sep n ([sep].intercalate (texts.map fun t => quoted r (write t))) = some texts := by
  induction texts generalizing n with
  | nil => cases n <;> rfl
  | cons s texts ih =>
      obtain ⟨hs, hne⟩ := htexts s List.mem_cons_self
      obtain ⟨a, y, rfl⟩ := List.exists_cons_of_ne_nil hne
      have hrest : ∀ t ∈ texts, content r (write t) = some t ∧ t ≠ [] := fun t ht =>
        htexts t (List.mem_cons_of_mem _ ht)
      cases n with
      | zero => exact absurd hn (Nat.not_succ_le_zero _)
      | succ n =>
          have hmore := ih hrest (Nat.le_of_succ_le_succ hn)
          cases texts with
          | nil =>
              have hfirst := first_content [] hescape hs (by simp)
              rw [List.append_nil] at hfirst
              rw [List.map_singleton, List.intercalate_singleton]
              simp only [quoted, listFrom] at hfirst ⊢
              rw [hfirst]
          | cons t texts =>
              generalize htext : [sep].intercalate ((t :: texts).map fun t => quoted r (write t)) = text
                at hmore
              have hsome : text ≠ [] := by
                rw [← htext]
                exact intercalate_quoted_ne_nil t texts
              have hfirst := first_content (sep :: text) hescape hs (by simpa using hsep)
              rw [intercalate_map_cons, htext]
              simp only [quoted, List.cons_append, listFrom] at hfirst ⊢
              rw [hfirst]
              dsimp only
              rw [if_pos ⟨rfl, hsome⟩, hmore]
              rfl

variable (write) in
-- Texts that are written between marks, with separators between them, are read back.
theorem list_quoted (hescape : r.escape ≠ some r.mark) (hsep : sep ≠ r.mark)
    {texts : List (List α)} (h : ∀ t ∈ texts, content r (write t) = some t ∧ t ≠ []) :
    list r sep ([sep].intercalate (texts.map fun t => quoted r (write t))) = some texts :=
  listFrom_quoted hescape hsep h (length_intercalate_quoted texts)

end Lists

end Quoted
