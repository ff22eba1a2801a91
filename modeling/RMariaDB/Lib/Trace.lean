import RMariaDB.Lib.Program

-- Programs that record what they do, next to their state. Without its record such a
-- program is the program that it was made from.

namespace Program

variable {ε σ ω α β : Type}

def note (w : ω) : EStateM ε (σ × List ω) Unit := modify fun s => (s.1, s.2 ++ [w])

-- A program that records nothing.
def silent (m : EStateM ε σ α) : EStateM ε (σ × List ω) α := zoom Prod.fst (fun t s => (t, s.2)) m

def record (m : EStateM ε (σ × List ω) α) (s : σ) : List ω := (finalState (m.run (s, []))).2

-- From a state, `m` does what `n` does and records `ws`.
def Traces (m : EStateM ε (σ × List ω) α) (n : EStateM ε σ α) (s : σ) (ws : List ω) : Prop :=
  ∀ log, m.run (s, log) = match n.run s with
    | .ok a t => .ok a (t, log ++ ws)
    | .error e t => .error e (t, log ++ ws)

def Erases (m : EStateM ε (σ × List ω) α) (n : EStateM ε σ α) : Prop := ∀ s, ∃ ws, Traces m n s ws

section Traces

variable {m : EStateM ε (σ × List ω) α} {n : EStateM ε σ α} {s t : σ} {ws vs : List ω}
  {f : α → EStateM ε (σ × List ω) β} {g : α → EStateM ε σ β}

theorem Traces.record (h : Traces m n s ws) : record m s = ws := by
  rw [Program.record, h []]
  cases n.run s <;> rfl

theorem Traces.pure (a : α) : Traces (pure a : EStateM ε (σ × List ω) α) (pure a) s [] := fun log => by
  rw [List.append_nil]
  rfl

theorem Traces.throw (e : ε) : Traces (throw e : EStateM ε (σ × List ω) α) (throw e) s [] :=
  fun log => by
    rw [List.append_nil]
    rfl

theorem Traces.liftM_bind {x : Except ε α} {a : α} (hx : x = .ok a) (hf : Traces (f a) (g a) s vs) :
    Traces (liftM x >>= f) (liftM x >>= g) s vs := by
  subst hx
  exact hf

theorem Traces.liftM (x : Except ε α) :
    Traces (liftM x : EStateM ε (σ × List ω) α) (liftM x) s [] := by
  cases x with
  | ok a => exact Traces.pure a
  | error e => exact Traces.throw e

theorem Traces.silent (m : EStateM ε σ α) :
    Traces (silent m : EStateM ε (σ × List ω) α) m s [] := fun log => by
  cases h : m.run s <;> simp only [Program.silent, run_zoom, h, List.append_nil]

theorem Traces.note_bind {m : EStateM ε (σ × List ω) α} (w : ω) (h : Traces m n s ws) :
    Traces (note w >>= fun _ => m) n s (w :: ws) := fun log => by
  have hrun : (note w : EStateM ε (σ × List ω) Unit).run (s, log) = .ok () (s, log ++ [w]) := rfl
  rw [run_bind_ok hrun, h, List.append_assoc]
  rfl

theorem Traces.bind {a : α} (h : Traces m n s ws) (hrun : n.run s = .ok a t)
    (hf : Traces (f a) (g a) t vs) : Traces (m >>= f) (n >>= g) s (ws ++ vs) := fun log => by
  have hm := h log
  rw [hrun] at hm
  rw [run_bind_ok hm, run_bind_ok hrun, hf, List.append_assoc]

theorem Traces.bind_error {e : ε} (h : Traces m n s ws) (hrun : n.run s = .error e t) :
    Traces (m >>= f) (n >>= g) s ws := fun log => by
  have hm := h log
  rw [hrun] at hm
  rw [run_bind_error hm, run_bind_error hrun]

-- What follows a program that records nothing.
theorem Traces.silent_bind {a : α} (hrun : n.run s = .ok a t) (hf : Traces (f a) (g a) t vs) :
    Traces (Program.silent n >>= f) (n >>= g) s vs := (Traces.silent n).bind hrun hf

theorem Traces.get_bind {f : σ → EStateM ε (σ × List ω) β} {g : σ → EStateM ε σ β}
    (hf : Traces (f s) (g s) s vs) : Traces (Program.silent get >>= f) (get >>= g) s vs :=
  Traces.silent_bind rfl hf

-- What follows records nothing, if it is reached.
theorem Traces.bind_silent (h : Traces m n s ws) (hf : ∀ a t, Traces (f a) (g a) t []) :
    Traces (m >>= f) (n >>= g) s ws := by
  cases hrun : n.run s with
  | ok a t =>
      have hbind := h.bind hrun (hf a t)
      rwa [List.append_nil] at hbind
  | error e t => exact h.bind_error hrun

theorem Traces.ite {c : Prop} [Decidable c] {m' : EStateM ε (σ × List ω) α} {n' : EStateM ε σ α}
    (h : c → Traces m n s ws) (h' : ¬c → Traces m' n' s ws) :
    Traces (if c then m else m') (if c then n else n') s ws := by
  by_cases hc : c
  · rw [if_pos hc, if_pos hc]
    exact h hc
  · rw [if_neg hc, if_neg hc]
    exact h' hc

theorem Traces.map (h : Traces m n s ws) (f : α → β) :
    Traces (f <$> m) (f <$> n) s ws := fun log => by
  rw [run_map, run_map, h log]
  cases n.run s <;> rfl

end Traces

section Erases

variable {m : EStateM ε (σ × List ω) α} {n : EStateM ε σ α} {f : α → EStateM ε (σ × List ω) β}
  {g : α → EStateM ε σ β}

theorem Erases.pure (a : α) : Erases (pure a : EStateM ε (σ × List ω) α) (pure a) :=
  fun _ => ⟨[], Traces.pure a⟩

theorem Erases.throw (e : ε) : Erases (throw e : EStateM ε (σ × List ω) α) (throw e) :=
  fun _ => ⟨[], Traces.throw e⟩

theorem Erases.liftM (x : Except ε α) : Erases (liftM x : EStateM ε (σ × List ω) α) (liftM x) :=
  fun _ => ⟨[], Traces.liftM x⟩

theorem Erases.silent (m : EStateM ε σ α) : Erases (silent m : EStateM ε (σ × List ω) α) m :=
  fun _ => ⟨[], Traces.silent m⟩

theorem Erases.note_bind (w : ω) (h : Erases m n) : Erases (note w >>= fun _ => m) n := fun s => by
  obtain ⟨ws, hws⟩ := h s
  exact ⟨w :: ws, hws.note_bind w⟩

theorem Erases.bind (hm : Erases m n) (hf : ∀ a, Erases (f a) (g a)) :
    Erases (m >>= f) (n >>= g) := fun s => by
  obtain ⟨ws, hws⟩ := hm s
  cases hrun : n.run s with
  | ok a t =>
      obtain ⟨vs, hvs⟩ := hf a t
      exact ⟨ws ++ vs, hws.bind hrun hvs⟩
  | error e t => exact ⟨ws, hws.bind_error hrun⟩

theorem Erases.map (h : Erases m n) (f : α → β) : Erases (f <$> m) (f <$> n) := fun s => by
  obtain ⟨ws, hws⟩ := h s
  exact ⟨ws, hws.map f⟩

theorem Erases.ite {c : Prop} [Decidable c] {m' : EStateM ε (σ × List ω) α} {n' : EStateM ε σ α}
    (h : c → Erases m n) (h' : ¬c → Erases m' n') :
    Erases (if c then m else m') (if c then n else n') := by
  by_cases hc : c
  · rw [if_pos hc, if_pos hc]
    exact h hc
  · rw [if_neg hc, if_neg hc]
    exact h' hc

end Erases

end Program
