import RMariaDB.Lib.Program

-- Several results that are read one after the other: the rest of the result being
-- read, and the results still to be opened, each of which may fail to open.

structure Cursor (ε ρ : Type) where
  unread : List ρ
  waiting : List (Except ε (List ρ))

namespace Cursor

open Program

variable {ε ρ α : Type}

-- The rows up to the first result that does not open.
def available : List (Except ε (List ρ)) → List ρ
  | [] => []
  | .error _ :: _ => []
  | .ok rows :: waiting => rows ++ available waiting

def remaining (c : Cursor ε ρ) : List ρ := c.unread ++ available c.waiting

def finished : Cursor ε ρ := ⟨[], []⟩

section Next

-- The next row, past results that are empty.
def advance : List ρ → List (Except ε (List ρ)) → Except ε (Option (ρ × Cursor ε ρ))
  | row :: rows, waiting => .ok (some (row, ⟨rows, waiting⟩))
  | [], [] => .ok none
  | [], .error e :: _ => .error e
  | [], .ok rows :: waiting => advance rows waiting

def next (c : Cursor ε ρ) : Except ε (Option (ρ × Cursor ε ρ)) := advance c.unread c.waiting

@[simp] theorem next_cons (row : ρ) (rows : List ρ) (waiting : List (Except ε (List ρ))) :
    next ⟨row :: rows, waiting⟩ = .ok (some (row, ⟨rows, waiting⟩)) := by
  rw [next, advance]

theorem advance_cases (waiting : List (Except ε (List ρ))) : ∀ (unread : List ρ),
    match advance unread waiting with
    | .ok none => unread ++ available waiting = []
    | .ok (some (row, c)) => unread ++ available waiting = row :: c.remaining
    | .error e => unread ++ available waiting = [] ∧ .error e ∈ waiting := by
  induction waiting with
  | nil =>
      intro unread
      cases unread with
      | nil => rfl
      | cons row rows => rfl
  | cons result waiting ih =>
      intro unread
      cases unread with
      | cons row rows => rfl
      | nil =>
          cases result with
          | error e => exact ⟨rfl, List.mem_cons_self ..⟩
          | ok rows =>
              have hrest := ih rows
              simp only [advance, available, List.nil_append]
              split at hrest
              · exact hrest
              · exact hrest
              · exact ⟨hrest.1, List.mem_cons_of_mem _ hrest.2⟩

theorem remaining_of_next_none {c : Cursor ε ρ} (h : c.next = .ok none) : c.remaining = [] := by
  have hcases := advance_cases c.waiting c.unread
  rw [show advance c.unread c.waiting = .ok none from h] at hcases
  exact hcases

theorem remaining_of_next_error {c : Cursor ε ρ} {e : ε} (h : c.next = .error e) :
    c.remaining = [] := by
  have hcases := advance_cases c.waiting c.unread
  rw [show advance c.unread c.waiting = .error e from h] at hcases
  exact hcases.1

theorem remaining_of_next_some {c c' : Cursor ε ρ} {row : ρ} (h : c.next = .ok (some (row, c'))) :
    c.remaining = row :: c'.remaining := by
  have hcases := advance_cases c.waiting c.unread
  rw [show advance c.unread c.waiting = .ok (some (row, c')) from h] at hcases
  exact hcases

theorem waiting_of_next_error {c : Cursor ε ρ} {e : ε} (h : c.next = .error e) :
    .error e ∈ c.waiting := by
  have hcases := advance_cases c.waiting c.unread
  rw [show advance c.unread c.waiting = .error e from h] at hcases
  exact hcases.2

theorem advance_waiting (waiting : List (Except ε (List ρ))) : ∀ (unread : List ρ) (row : ρ)
    (c : Cursor ε ρ), advance unread waiting = .ok (some (row, c)) →
      c.waiting ⊆ waiting := by
  induction waiting with
  | nil =>
      intro unread row c h
      cases unread with
      | nil => cases h
      | cons row' rows =>
          cases h
          exact List.Subset.refl _
  | cons result waiting ih =>
      intro unread row c h
      cases unread with
      | cons row' rows =>
          cases h
          exact List.Subset.refl _
      | nil =>
          cases result with
          | error e => cases h
          | ok rows => exact List.subset_cons_of_subset _ (ih rows row c h)

end Next

section Collect

-- Read up to n rows and turn each of them into what it stands for.
def collect (f : ρ → Except ε α) : Nat → Cursor ε ρ → Except ε (List α × Cursor ε ρ)
  | 0, c => .ok ([], c)
  | n + 1, c =>
      match c.next with
      | .error e => .error e
      | .ok none => .ok ([], finished)
      | .ok (some (row, c)) => do
          let a ← f row
          let rest ← collect f n c
          pure (a :: rest.1, rest.2)

variable {f : ρ → Except ε α}

-- What was read and what remains is what there was: no row is lost, repeated or
-- moved.
theorem collect_accounts (n : Nat) : ∀ {c c' : Cursor ε ρ} {as : List α},
    collect f n c = .ok (as, c') → c'.waiting ⊆ c.waiting ∧ ∃ rows,
      c.remaining = rows ++ c'.remaining ∧ rows.length = min n c.remaining.length ∧
      rows.mapM f = .ok as := by
  induction n with
  | zero =>
      intro c c' as h
      cases h
      exact ⟨List.Subset.refl _, [], rfl, by simp, rfl⟩
  | succ n ih =>
      intro c c' as h
      unfold collect at h
      split at h
      · cases h
      · rename_i hnext
        cases h
        exact ⟨List.nil_subset _, [], by rw [remaining_of_next_none hnext]; rfl,
          by simp [remaining_of_next_none hnext], rfl⟩
      · rename_i row c₁ hnext
        obtain ⟨a, ha, h⟩ := of_bind_eq_ok h
        obtain ⟨rest, hrest, h⟩ := of_bind_eq_ok h
        cases h
        obtain ⟨hwaiting, rows, hsplit, hlength, hrows⟩ := ih hrest
        have hremaining := remaining_of_next_some hnext
        refine ⟨fun _ hr => advance_waiting c.waiting c.unread row c₁ hnext (hwaiting hr), row :: rows,
          by rw [hremaining, hsplit, List.cons_append], ?_, ?_⟩
        · rw [hremaining, List.length_cons, List.length_cons, hlength]
          omega
        · rw [List.mapM_cons, ha, ok_bind, hrows]
          rfl

-- Only a result that does not open and a row that cannot be turned stop the reading.
theorem collect_error (n : Nat) : ∀ {c : Cursor ε ρ} {e : ε}, collect f n c = .error e →
    .error e ∈ c.waiting ∨ ∃ row ∈ c.remaining, f row = .error e := by
  induction n with
  | zero =>
      intro c e h
      cases h
  | succ n ih =>
      intro c e h
      unfold collect at h
      split at h
      · rename_i e' hnext
        cases h
        exact .inl (waiting_of_next_error hnext)
      · cases h
      · rename_i row c₁ hnext
        rw [remaining_of_next_some hnext]
        cases ha : f row with
        | error e' =>
            rw [ha] at h
            cases h
            exact .inr ⟨row, List.mem_cons_self .., ha⟩
        | ok a =>
            rw [ha, ok_bind] at h
            cases hrest : collect f n c₁ with
            | ok rest =>
                rw [hrest] at h
                cases h
            | error e' =>
                rw [hrest] at h
                cases h
                rcases ih hrest with hwaiting | ⟨row', hmem, hrow'⟩
                · exact .inl (advance_waiting c.waiting c.unread row c₁ hnext hwaiting)
                · exact .inr ⟨row', List.mem_cons_of_mem _ hmem, hrow'⟩

end Collect

section Took

-- The rows that were read off a cursor until it became another one
structure Took (c : Cursor ε ρ) (rows : List ρ) (c' : Cursor ε ρ) : Prop where
  waiting : c'.waiting ⊆ c.waiting
  remaining : c.remaining = rows ++ c'.remaining

variable {c c₁ c' : Cursor ε ρ} {rows : List ρ}

theorem Took.refl (c : Cursor ε ρ) : c.Took [] c := ⟨List.Subset.refl _, rfl⟩

theorem Took.trans {rows' : List ρ} (h : c.Took rows c₁) (h' : c₁.Took rows' c') :
    c.Took (rows ++ rows') c' := by
  refine ⟨fun _ hr => h.waiting (h'.waiting hr), ?_⟩
  rw [h.remaining, h'.remaining, List.append_assoc]

theorem took_of_next {row : ρ} (h : c.next = .ok (some (row, c'))) : c.Took [row] c' :=
  ⟨advance_waiting c.waiting c.unread row c' h, remaining_of_next_some h⟩

-- A result that is opened and has been read to its end
theorem took_open (rows : List ρ) (waiting : List (Except ε (List ρ))) :
    (⟨[], .ok rows :: waiting⟩ : Cursor ε ρ).Took [] ⟨rows, waiting⟩ :=
  ⟨List.subset_cons_self .., rfl⟩

theorem took_of_collect {f : ρ → Except ε α} {n : Nat} {as : List α}
    (h : collect f n c = .ok (as, c')) : ∃ rows, c.Took rows c' ∧
      rows.length = min n c.remaining.length ∧ rows.mapM f = .ok as := by
  obtain ⟨hwaiting, rows, hsplit, hlength, hrows⟩ := collect_accounts n h
  exact ⟨rows, ⟨hwaiting, hsplit⟩, hlength, hrows⟩

end Took

end Cursor
