import Mathlib.Data.List.Basic

-- Every occurrence of a pattern is replaced, from the left and without overlap.

namespace Substitute

variable {α : Type} [DecidableEq α]

-- The number counts the elements of the last occurrence that are still to be skipped.
def replaceFrom (pattern replacement : List α) : Nat → List α → List α
  | _, [] => []
  | k + 1, _ :: s => replaceFrom pattern replacement k s
  | 0, a :: s =>
      if pattern <+: a :: s then
        replacement ++ replaceFrom pattern replacement (pattern.length - 1) s
      else a :: replaceFrom pattern replacement 0 s

def replaceAll (pattern replacement s : List α) : List α := replaceFrom pattern replacement 0 s

-- What a single element is replaced by.
def code (c : α) (replacement : List α) (a : α) : List α := if a = c then replacement else [a]

theorem replaceAll_single (c : α) (replacement s : List α) :
    replaceAll [c] replacement s = s.flatMap (code c replacement) := by
  rw [replaceAll]
  induction s with
  | nil => rfl
  | cons a s ih =>
      by_cases h : a = c
      · subst h
        simp [replaceFrom, code, ih]
      · have hnot : ¬[c] <+: a :: s := by
          simp [Ne.symm h]
        simp [replaceFrom, code, h, hnot, ih]

-- A text in which every `c` is doubled.
def doubled (c : α) (s : List α) : List α := s.flatMap (code c [c, c])

variable {c : α}

@[simp] theorem doubled_nil : doubled c [] = [] := rfl

theorem doubled_cons_self (s : List α) : doubled c (c :: s) = c :: c :: doubled c s := by
  simp [doubled, code]

theorem doubled_cons_of_ne {a : α} (h : a ≠ c) (s : List α) :
    doubled c (a :: s) = a :: doubled c s := by
  simp [doubled, code, h]

theorem doubled_ne_nil {s : List α} (h : s ≠ []) : doubled c s ≠ [] := by
  cases s with
  | nil => exact absurd rfl h
  | cons a s =>
      by_cases ha : a = c
      · rw [ha, doubled_cons_self]
        exact List.cons_ne_nil _ _
      · rw [doubled_cons_of_ne ha]
        exact List.cons_ne_nil _ _

theorem replaceAll_doubled (s : List α) : replaceAll [c, c] [c] (doubled c s) = s := by
  rw [replaceAll]
  induction s with
  | nil => rfl
  | cons a s ih =>
      by_cases h : a = c
      · subst h
        simp [doubled_cons_self, replaceFrom, ih]
      · have hnot : ¬[c, c] <+: a :: doubled c s := by
          simp [Ne.symm h]
        simp [doubled_cons_of_ne h, replaceFrom, hnot, ih]

-- A single `c` ends a doubled text, wherever it is followed by another element or by none.
theorem doubled_append_inj {s s' x y : List α} (h : doubled c s ++ c :: x = doubled c s' ++ c :: y)
    (hx : x.head? ≠ some c) (hy : y.head? ≠ some c) : s = s' ∧ x = y := by
  induction s generalizing s' with
  | nil =>
      cases s' with
      | nil => exact ⟨rfl, by simpa using h⟩
      | cons b s' =>
          by_cases hb : b = c
          · rw [hb, doubled_cons_self] at h
            simp only [doubled_nil, List.nil_append, List.cons_append, List.cons.injEq, true_and] at h
            rw [h] at hx
            exact absurd rfl hx
          · rw [doubled_cons_of_ne hb] at h
            simp only [doubled_nil, List.nil_append, List.cons_append, List.cons.injEq] at h
            exact absurd h.1.symm hb
  | cons a s ih =>
      by_cases ha : a = c
      · rw [ha, doubled_cons_self] at h
        cases s' with
        | nil =>
            simp only [doubled_nil, List.nil_append, List.cons_append, List.cons.injEq, true_and] at h
            rw [← h] at hy
            exact absurd rfl hy
        | cons b s' =>
            by_cases hb : b = c
            · rw [hb, doubled_cons_self] at h
              simp only [List.cons_append, List.cons.injEq, true_and] at h
              obtain ⟨hs, hrest⟩ := ih h
              exact ⟨by rw [ha, hb, hs], hrest⟩
            · rw [doubled_cons_of_ne hb] at h
              simp only [List.cons_append, List.cons.injEq] at h
              exact absurd h.1.symm hb
      · rw [doubled_cons_of_ne ha] at h
        cases s' with
        | nil =>
            simp only [doubled_nil, List.nil_append, List.cons_append, List.cons.injEq] at h
            exact absurd h.1 ha
        | cons b s' =>
            by_cases hb : b = c
            · rw [hb, doubled_cons_self] at h
              simp only [List.cons_append, List.cons.injEq] at h
              exact absurd h.1 ha
            · rw [doubled_cons_of_ne hb] at h
              simp only [List.cons_append, List.cons.injEq] at h
              obtain ⟨hs, hrest⟩ := ih h.2
              exact ⟨by rw [h.1, hs], hrest⟩

end Substitute
