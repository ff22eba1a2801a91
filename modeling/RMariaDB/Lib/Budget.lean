import Mathlib.Algebra.Ring.Nat
import RMariaDB.Lib.Program

-- What programs may spend: the steps are paid for with credits, and what is not spent is
-- handed on, also when a program raises.

namespace Program

variable {ε σ τ α β : Type}

section Budget

-- From s the program costs at most k; a result a still has j a of it, an exception e has l e.
def PaysAt (cost : σ → Nat) (s : σ) (k : Nat) (m : EStateM ε σ α) (j : α → Nat) (l : ε → Nat) : Prop :=
  Spec (fun t => t = s) m (fun a t => cost t + j a ≤ cost s + k) fun e t => cost t + l e ≤ cost s + k

abbrev Pays (cost : σ → Nat) (k : Nat) (m : EStateM ε σ α) (j : α → Nat) (l : ε → Nat) : Prop :=
  ∀ s, PaysAt cost s k m j l

-- It costs nothing.
abbrev Free (cost : σ → Nat) (m : EStateM ε σ α) : Prop := Pays cost 0 m (fun _ => 0) fun _ => 0

variable {cost : σ → Nat} {s : σ} {k : Nat} {m : EStateM ε σ α} {f : α → EStateM ε σ β} {j : α → Nat}
  {i : β → Nat} {l : ε → Nat}

theorem Pays.pure {a : α} (h : j a ≤ k) : Pays cost k (pure a) j l := by
  rintro s t rfl
  exact Nat.add_le_add_left h _

theorem Pays.throw {e : ε} (h : l e ≤ k) : Pays cost k (throw e : EStateM ε σ α) j l := by
  rintro s t rfl
  exact Nat.add_le_add_left h _

theorem PaysAt.throw {e : ε} (h : l e ≤ k) : PaysAt cost s k (throw e : EStateM ε σ α) j l :=
  Pays.throw h s

theorem PaysAt.modify {f : σ → σ} {j : PUnit → Nat} (h : cost (f s) + j ⟨⟩ ≤ cost s + k) :
    PaysAt cost s k (modify f) j l := by
  rintro s rfl
  exact h

theorem PaysAt.modifyGet {f : σ → α × σ} (h : cost (f s).2 + j (f s).1 ≤ cost s + k) :
    PaysAt cost s k (modifyGet f) j l := by
  rintro s rfl
  exact h

theorem PaysAt.set_pure {t : σ} {a : α} (h : cost t + j a ≤ cost s + k) :
    PaysAt cost s k (do
      set t
      pure a) j l := by
  rintro s rfl
  exact h

theorem PaysAt.set {t : σ} {j : PUnit → Nat} (h : cost t + j ⟨⟩ ≤ cost s + k) :
    PaysAt cost s k (set t : EStateM ε σ PUnit) j l := by
  rintro s rfl
  exact h

-- What is known of the states in between may be used.
theorem PaysAt.bind_of {Q : α → σ → Prop} (hm : PaysAt cost s k m j l)
    (hQ : Spec (fun t => t = s) m Q fun _ _ => True)
    (hf : ∀ a t, Q a t → PaysAt cost t (j a) (f a) i l) : PaysAt cost s k (m >>= f) i l := by
  rintro s rfl
  have hcost := hm s rfl
  have hknown := hQ s rfl
  rw [EStateM.run_bind]
  cases hrun : m.run s with
  | error e t =>
      rw [hrun] at hcost
      exact hcost
  | ok a t =>
      rw [hrun] at hcost hknown
      have hrest := hf a t hknown t rfl
      dsimp only
      cases hlast : (f a).run t with
      | ok b u =>
          rw [hlast] at hrest
          exact Nat.le_trans hrest hcost
      | error e u =>
          rw [hlast] at hrest
          exact Nat.le_trans hrest hcost

theorem PaysAt.bind (hm : PaysAt cost s k m j l) (hf : ∀ a, Pays cost (j a) (f a) i l) :
    PaysAt cost s k (m >>= f) i l :=
  hm.bind_of (Q := fun _ _ => True) (fun t _ => by cases m.run t <;> trivial) fun a t _ => hf a t

theorem Pays.bind (hm : Pays cost k m j l) (hf : ∀ a, Pays cost (j a) (f a) i l) :
    Pays cost k (m >>= f) i l := fun s => (hm s).bind hf

-- The state that is read is the one that pays.
theorem PaysAt.get_bind {f : σ → EStateM ε σ β} (h : PaysAt cost s k (f s) i l) :
    PaysAt cost s k (get >>= f) i l := by
  rintro s rfl
  exact h s rfl

theorem Pays.get_bind {f : σ → EStateM ε σ β} (h : ∀ s, PaysAt cost s k (f s) i l) :
    Pays cost k (get >>= f) i l := fun s => PaysAt.get_bind (h s)

theorem PaysAt.ite {c : Prop} [Decidable c] {m n : EStateM ε σ α} (hm : c → PaysAt cost s k m j l)
    (hn : ¬c → PaysAt cost s k n j l) : PaysAt cost s k (if c then m else n) j l := Spec.ite hm hn

theorem Pays.ite {c : Prop} [Decidable c] {m n : EStateM ε σ α} (hm : c → Pays cost k m j l)
    (hn : ¬c → Pays cost k n j l) : Pays cost k (if c then m else n) j l := by
  split
  · exact hm ‹_›
  · exact hn ‹_›

-- A handler starts with what the exception has left.
theorem PaysAt.tryCatch {h : ε → EStateM ε σ α} {l' : ε → Nat} (hm : PaysAt cost s k m j l')
    (hh : ∀ e, Pays cost (l' e) (h e) j l) : PaysAt cost s k (tryCatch m h) j l := by
  rintro s rfl
  have hcost := hm s rfl
  rw [run_tryCatch]
  cases hrun : m.run s with
  | ok a t =>
      rw [hrun] at hcost
      exact hcost
  | error e t =>
      rw [hrun] at hcost
      have hrest := hh e t t rfl
      dsimp only
      cases hlast : (h e).run t with
      | ok b u =>
          rw [hlast] at hrest
          exact Nat.le_trans hrest hcost
      | error e' u =>
          rw [hlast] at hrest
          exact Nat.le_trans hrest hcost

theorem PaysAt.mono {k' : Nat} {j' : α → Nat} {l' : ε → Nat} (h : PaysAt cost s k m j l) (hk : k ≤ k')
    (hj : ∀ a, j' a ≤ j a) (hl : ∀ e, l' e ≤ l e) : PaysAt cost s k' m j' l' := by
  refine Spec.mono h (fun _ => id) (fun a t ht => ?_) fun e t ht => ?_
  · have ha := hj a
    omega
  · have he := hl e
    omega

-- Credits that are not needed are kept.
theorem PaysAt.add (h : PaysAt cost s k m j l) (c : Nat) :
    PaysAt cost s (k + c) m (fun a => j a + c) fun e => l e + c := by
  refine Spec.mono h (fun _ => id) (fun a t ht => ?_) fun e t ht => ?_
  · dsimp only
    omega
  · dsimp only
    omega

theorem PaysAt.of_free (h : PaysAt cost s 0 m (fun _ => 0) fun _ => 0) (hj : ∀ a, j a ≤ k)
    (hl : ∀ e, l e ≤ k) : PaysAt cost s k m j l := by
  refine (h.add k).mono (Nat.le_of_eq (Nat.zero_add k)) (fun a => ?_) fun e => ?_
  · rw [Nat.zero_add]
    exact hj a
  · rw [Nat.zero_add]
    exact hl e

-- A step that is free leaves the credits to the rest.
theorem Free.before (hm : Free cost m) (hl : ∀ e, l e ≤ k) (hf : ∀ a, Pays cost k (f a) i l) :
    Pays cost k (m >>= f) i l := fun s => ((hm s).of_free (fun _ => Nat.le_refl k) hl).bind hf

theorem Pays.liftM {x : Except ε α} (hj : ∀ a, x = .ok a → j a ≤ k) (hl : ∀ e, x = .error e → l e ≤ k) :
    Pays cost k (liftM x : EStateM ε σ α) j l := by
  cases x with
  | ok a => exact Pays.pure (hj a rfl)
  | error e => exact Pays.throw (hl e rfl)

theorem PaysAt.map {g : α → β} (h : PaysAt cost s k m (fun a => i (g a)) l) :
    PaysAt cost s k (g <$> m) i l := by
  rintro s rfl
  have hcost := h s rfl
  rw [run_map]
  cases hrun : m.run s with
  | ok a t =>
      rw [hrun] at hcost
      exact hcost
  | error e t =>
      rw [hrun] at hcost
      exact hcost

-- A part of the state pays for itself.
theorem PaysAt.zoom {get : σ → τ} {put : τ → σ → σ} {part : τ → Nat} {m : EStateM ε τ α}
    (hput : ∀ t, cost (put t s) + part (get s) ≤ cost s + part t) (h : PaysAt part (get s) k m j l) :
    PaysAt cost s k (zoom get put m) j l := by
  rintro s rfl
  have hcost := h (get s) rfl
  rw [run_zoom]
  cases hrun : m.run (get s) with
  | ok a t =>
      rw [hrun] at hcost
      have ht := hput t
      dsimp only at hcost ⊢
      omega
  | error e t =>
      rw [hrun] at hcost
      have ht := hput t
      dsimp only at hcost ⊢
      omega

-- Exceptions that are not raised may have any credits.
theorem PaysAt.raises {E : ε → Prop} {l' : ε → Nat} (h : PaysAt cost s k m j l)
    (hE : Spec (fun t => t = s) m (fun _ _ => True) fun e _ => E e) (hl : ∀ e, E e → l' e ≤ l e) :
    PaysAt cost s k m j l' := by
  rintro s rfl
  have hcost := h s rfl
  have hraised := hE s rfl
  cases hrun : m.run s with
  | ok a t =>
      rw [hrun] at hcost
      exact hcost
  | error e t =>
      rw [hrun] at hcost hraised
      exact Nat.le_trans (Nat.add_le_add_left (hl e hraised) _) hcost

section Free

theorem Free.pure (a : α) : Free cost (pure a : EStateM ε σ α) := Pays.pure (Nat.le_refl 0)

theorem Free.throw (e : ε) : Free cost (throw e : EStateM ε σ α) := Pays.throw (Nat.le_refl 0)

theorem Free.modify {f : σ → σ} (h : ∀ s, cost (f s) ≤ cost s) : Free cost (modify f : EStateM ε σ PUnit) :=
  fun s => PaysAt.modify (h s)

theorem Free.modifyGet {f : σ → α × σ} (h : ∀ s, cost (f s).2 ≤ cost s) :
    Free cost (modifyGet f : EStateM ε σ α) := fun s => PaysAt.modifyGet (h s)

theorem Free.bind (hm : Free cost m) (hf : ∀ a, Free cost (f a)) : Free cost (m >>= f) :=
  Pays.bind hm hf

theorem Free.get_bind {f : σ → EStateM ε σ β} (h : ∀ s, Free cost (f s)) : Free cost (get >>= f) :=
  Pays.get_bind fun s => h s s

theorem Free.ite {c : Prop} [Decidable c] {m n : EStateM ε σ α} (hm : Free cost m) (hn : Free cost n) :
    Free cost (if c then m else n) := Pays.ite (fun _ => hm) fun _ => hn

theorem Free.liftM (x : Except ε α) : Free cost (liftM x : EStateM ε σ α) :=
  Pays.liftM (fun _ _ => Nat.le_refl 0) fun _ _ => Nat.le_refl 0

theorem Free.map (h : Free cost m) (g : α → β) : Free cost (g <$> m) := fun s => PaysAt.map (h s)

end Free

end Budget

section Runs

variable {ι A : Type} {next : A → σ → Option σ} {costs : ι → σ → Nat} {grant : A → Nat} {C : A → Prop}

-- What a run costs is granted by its actions, also where the steps before the last one are paid for
-- by the measure of another part of the state.
theorem replay_pays
    (hstep : ∀ a s t i, C a → next a s = some t → ∃ i', costs i t ≤ costs i' s + grant a) {as : List A}
    (hC : ∀ a ∈ as, C a) : ∀ {s t : σ}, replay next as s = some t → ∀ i, ∃ i',
      costs i t ≤ costs i' s + (as.map grant).sum := by
  induction as with
  | nil =>
      intro s t h i
      cases h
      exact ⟨i, Nat.le_refl _⟩
  | cons a as ih =>
      intro s t h i
      rw [replay_cons] at h
      obtain ⟨u, hu, h⟩ := Option.bind_eq_some_iff.mp h
      obtain ⟨i', hrest⟩ := ih (fun b hb => hC b (List.mem_cons_of_mem _ hb)) h i
      obtain ⟨i'', hfirst⟩ := hstep a s u i' (hC a List.mem_cons_self) hu
      refine ⟨i'', ?_⟩
      rw [List.map_cons, List.sum_cons]
      omega

end Runs

end Program
