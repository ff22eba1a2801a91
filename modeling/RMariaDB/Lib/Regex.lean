import Mathlib.Data.List.Basic
import Mathlib.Data.List.Lex

-- Regular expressions with groups, matched against a whole text.

inductive Regex (α : Type) where
  | empty
  | char (p : α → Bool)
  | seq (r r' : Regex α)
  | alt (r r' : Regex α)
  -- one or more
  | plus (r : Regex α)
  | group (k : Nat) (r : Regex α)

namespace Regex

variable {α : Type}

-- One way to match a text: the lengths that the subexpressions match, in order, and what
-- the groups capture.
structure Parse (α : Type) where
  spans : List Nat
  groups : List (Nat × List α)

def Parse.append (p q : Parse α) : Parse α := ⟨p.spans ++ q.spans, p.groups ++ q.groups⟩

-- The last capture of a group; a group that takes no part captures nothing.
def Parse.group (p : Parse α) (k : Nat) : List α :=
  ((p.groups.filter fun g => g.1 = k).getLast?.map Prod.snd).getD []

inductive Matches : Regex α → List α → Parse α → Prop where
  | empty : Matches .empty [] ⟨[], []⟩
  | char {p : α → Bool} {a : α} (h : p a = true) : Matches (.char p) [a] ⟨[1], []⟩
  | seq {r r' : Regex α} {s s' : List α} {p p' : Parse α} (h : Matches r s p)
      (h' : Matches r' s' p') :
      Matches (.seq r r') (s ++ s') ⟨s.length :: (p.append p').spans, (p.append p').groups⟩
  | left {r r' : Regex α} {s : List α} {p : Parse α} (h : Matches r s p) : Matches (.alt r r') s p
  | right {r r' : Regex α} {s : List α} {p : Parse α} (h : Matches r' s p) : Matches (.alt r r') s p
  | one {r : Regex α} {s : List α} {p : Parse α} (h : Matches r s p) : Matches (.plus r) s p
  -- no repetition is empty
  | more {r : Regex α} {s s' : List α} {p p' : Parse α} (h : Matches r s p)
      (h' : Matches (.plus r) s' p') (hs : s ≠ []) (hs' : s' ≠ []) :
      Matches (.plus r) (s ++ s') ⟨s.length :: (p.append p').spans, (p.append p').groups⟩
  | group {k : Nat} {r : Regex α} {s : List α} {p : Parse α} (h : Matches r s p) :
      Matches (.group k r) s ⟨s.length :: p.spans, (k, s) :: p.groups⟩

-- What holds of one repetition and is kept by another one holds of all.
theorem Matches.plus_induct {r : Regex α} {s : List α} {p : Parse α} (h : Matches (.plus r) s p)
    {P : List α → List (Nat × List α) → Prop} (hone : ∀ s p, Matches r s p → P s p.groups)
    (hmore : ∀ s p s' g, Matches r s p → P s' g → P (s ++ s') (p.groups ++ g)) : P s p.groups := by
  generalize hr : Regex.plus r = r' at h
  induction h with
  | one h =>
      cases hr
      exact hone _ _ h
  | more h _ _ _ _ ih =>
      cases hr
      exact hmore _ _ _ _ h (ih rfl)
  | _ => cases hr

section Ways

-- All ways to cut a text in two.
def splits (s : List α) : List (List α × List α) :=
  (List.range (s.length + 1)).map fun k => (s.take k, s.drop k)

theorem mem_splits {s x y : List α} : (x, y) ∈ splits s ↔ x ++ y = s := by
  simp only [splits, List.mem_map, List.mem_range, Prod.mk.injEq]
  constructor
  · rintro ⟨k, -, rfl, rfl⟩
    exact List.take_append_drop k s
  · rintro rfl
    exact ⟨x.length, by simp only [List.length_append]; omega, by simp, by simp⟩

-- The ways to match two expressions one after the other.
def both (f g : List α → List (Parse α)) (s : List α) (keep : List α → List α → Bool) :
    List (Parse α) :=
  (splits s).flatMap fun (x, y) =>
    if keep x y then
      (f x).flatMap fun p => (g y).map fun q =>
        ⟨x.length :: (p.append q).spans, (p.append q).groups⟩
    else []

theorem mem_both {f g : List α → List (Parse α)} {s : List α} {keep : List α → List α → Bool}
    {p : Parse α} : p ∈ both f g s keep ↔ ∃ x y q q', x ++ y = s ∧ keep x y = true ∧ q ∈ f x ∧
      q' ∈ g y ∧ p = ⟨x.length :: (q.append q').spans, (q.append q').groups⟩ := by
  simp only [both, List.mem_flatMap, Prod.exists]
  constructor
  · rintro ⟨x, y, hxy, hp⟩
    split at hp
    · rename_i hkeep
      obtain ⟨q, hq, hp⟩ := List.mem_flatMap.mp hp
      obtain ⟨q', hq', rfl⟩ := List.mem_map.mp hp
      exact ⟨x, y, q, q', mem_splits.mp hxy, hkeep, hq, hq', rfl⟩
    · cases hp
  · rintro ⟨x, y, q, q', hxy, hkeep, hq, hq', rfl⟩
    refine ⟨x, y, mem_splits.mpr hxy, ?_⟩
    rw [if_pos hkeep]
    exact List.mem_flatMap.mpr ⟨q, hq, List.mem_map.mpr ⟨q', hq', rfl⟩⟩

-- The text gets shorter with each repetition, so that its length bounds them.
def repeated (f : List α → List (Parse α)) : Nat → List α → List (Parse α)
  | 0, s => f s
  | n + 1, s => f s ++ both f (repeated f n) s fun x y => !x.isEmpty && !y.isEmpty

def ways : Regex α → List α → List (Parse α)
  | empty, s => if s.isEmpty then [⟨[], []⟩] else []
  | char p, s =>
      match s with
      | [a] => if p a then [⟨[1], []⟩] else []
      | _ => []
  | seq r r', s => both (ways r) (ways r') s fun _ _ => true
  | alt r r', s => ways r s ++ ways r' s
  | plus r, s => repeated (ways r) s.length s
  | group k r, s => (ways r s).map fun p => ⟨s.length :: p.spans, (k, s) :: p.groups⟩

theorem mem_repeated {r : Regex α} (h : ∀ s p, p ∈ ways r s ↔ Matches r s p) (n : Nat) :
    ∀ s p, s.length ≤ n + 1 → (p ∈ repeated (ways r) n s ↔ Matches (.plus r) s p) := by
  induction n with
  | zero =>
      intro s p hlen
      refine (h s p).trans ⟨.one, fun hp => ?_⟩
      cases hp with
      | one h => exact h
      | more _ _ hs hs' =>
          have := List.length_pos_iff.mpr hs
          have := List.length_pos_iff.mpr hs'
          simp only [List.length_append] at hlen
          omega
  | succ n ih =>
      intro s p hlen
      rw [repeated, List.mem_append, mem_both, h]
      constructor
      · rintro (hp | ⟨x, y, q, q', rfl, hkeep, hq, hq', rfl⟩)
        · exact .one hp
        · simp only [Bool.and_eq_true, Bool.not_eq_true', List.isEmpty_eq_false_iff] at hkeep
          have := List.length_pos_iff.mpr hkeep.1
          simp only [List.length_append] at hlen
          exact .more ((h x q).mp hq) ((ih y q' (by omega)).mp hq') hkeep.1 hkeep.2
      · intro hp
        cases hp with
        | one h => exact .inl h
        | @more _ x y q q' hq hq' hs hs' =>
            have := List.length_pos_iff.mpr hs
            simp only [List.length_append] at hlen
            exact .inr ⟨x, y, q, q', rfl, by simp [hs, hs'], (h x q).mpr hq,
              (ih y q' (by omega)).mpr hq', rfl⟩

theorem mem_ways {r : Regex α} : ∀ {s : List α} {p : Parse α}, p ∈ ways r s ↔ Matches r s p := by
  induction r with
  | empty =>
      intro s p
      cases s with
      | nil =>
          simp only [ways, List.isEmpty_nil, if_true, List.mem_singleton]
          exact ⟨fun h => h ▸ .empty, fun h => (by cases h; rfl)⟩
      | cons a s => exact ⟨(nomatch ·), (nomatch ·)⟩
  | char p =>
      intro s q
      match s with
      | [] => exact ⟨(nomatch ·), (nomatch ·)⟩
      | [a] =>
          by_cases ha : p a = true
          · simp only [ways, ha, if_true, List.mem_singleton]
            exact ⟨fun h => h ▸ .char ha, fun h => (by cases h; rfl)⟩
          · simp only [ways, ha, Bool.false_eq_true, if_false]
            exact ⟨(nomatch ·), fun h => by cases h with | char h => exact absurd h ha⟩
      | a :: b :: s => exact ⟨(nomatch ·), (nomatch ·)⟩
  | seq r r' ih ih' =>
      intro s p
      rw [ways, mem_both]
      constructor
      · rintro ⟨x, y, q, q', rfl, -, hq, hq', rfl⟩
        exact .seq (ih.mp hq) (ih'.mp hq')
      · intro h
        cases h with
        | seq h h' => exact ⟨_, _, _, _, rfl, rfl, ih.mpr h, ih'.mpr h', rfl⟩
  | alt r r' ih ih' =>
      intro s p
      rw [ways, List.mem_append, ih, ih']
      constructor
      · rintro (h | h)
        · exact .left h
        · exact .right h
      · intro h
        cases h with
        | left h => exact .inl h
        | right h => exact .inr h
  | plus r ih => exact fun {s p} => mem_repeated (fun _ _ => ih) s.length s p (Nat.le_succ _)
  | group k r ih =>
      intro s p
      rw [ways, List.mem_map]
      constructor
      · rintro ⟨q, hq, rfl⟩
        exact .group (ih.mp hq)
      · intro h
        cases h with
        | group h => exact ⟨_, ih.mpr h, rfl⟩

end Ways

section Choice

-- Of two ways the one is taken that matches more with the first subexpression in which they
-- differ.
def prefer (p q : Parse α) : Parse α := if p.spans < q.spans then q else p

def longest : List (Parse α) → Option (Parse α)
  | [] => none
  | p :: ps =>
      match longest ps with
      | none => some p
      | some q => some (prefer p q)

def fullMatch (r : Regex α) (s : List α) : Option (Parse α) := longest (ways r s)

theorem prefer_eq (p q : Parse α) : prefer p q = p ∨ prefer p q = q := by
  rw [prefer]
  split
  · exact .inr rfl
  · exact .inl rfl

theorem longest_cases (ps : List (Parse α)) :
    longest ps = none ∧ ps = [] ∨ ∃ p ∈ ps, longest ps = some p := by
  induction ps with
  | nil => exact .inl ⟨rfl, rfl⟩
  | cons p ps ih =>
      refine .inr ?_
      rcases ih with ⟨hnone, -⟩ | ⟨q, hq, hsome⟩
      · exact ⟨p, List.mem_cons_self, by rw [longest, hnone]⟩
      · rcases prefer_eq p q with h | h
        · exact ⟨p, List.mem_cons_self, by simp only [longest, hsome, h]⟩
        · exact ⟨q, List.mem_cons_of_mem _ hq, by simp only [longest, hsome, h]⟩

-- Where all ways capture the same it does not matter which of them is taken.
theorem fullMatch_of_unique {r : Regex α} {s : List α} {p : Parse α} (h : Matches r s p)
    (hunique : ∀ q, Matches r s q → q.groups = p.groups) :
    ∃ q, fullMatch r s = some q ∧ q.groups = p.groups := by
  rcases longest_cases (ways r s) with ⟨-, hnil⟩ | ⟨q, hq, hsome⟩
  · have hp := mem_ways.mpr h
    rw [hnil] at hp
    cases hp
  · exact ⟨q, hsome, hunique q (mem_ways.mp hq)⟩

end Choice

end Regex
