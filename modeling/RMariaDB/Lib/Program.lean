import Mathlib.Data.List.Forall2
import Mathlib.Logic.Relation

-- Programs with a state and exceptions, where an exception leaves the state as
-- it was when it was raised. Nothing is rolled back.

namespace Program

variable {ε σ τ α β : Type}

def finalState : EStateM.Result ε σ α → σ
  | .ok _ s => s
  | .error _ s => s

-- A computation without a state is a program that leaves the state alone.
instance liftExcept : MonadLift (Except ε) (EStateM ε σ) where
  monadLift
    | .ok a => pure a
    | .error e => throw e

-- Run a program on a part of the state.
def zoom (get : σ → τ) (put : τ → σ → σ) (m : EStateM ε τ α) : EStateM ε σ α := fun s =>
  match m.run (get s) with
  | .ok a t => .ok a (put t s)
  | .error e t => .error e (put t s)

section Except

@[simp] theorem pure_eq_ok (a : α) : (pure a : Except ε α) = .ok a := rfl

@[simp] theorem throw_eq_error (e : ε) : (throw e : Except ε α) = .error e := rfl

@[simp] theorem ok_bind (a : α) (f : α → Except ε β) : (Except.ok a >>= f) = f a := rfl

@[simp] theorem error_bind (e : ε) (f : α → Except ε β) : (Except.error e >>= f) = .error e := rfl

@[simp] theorem map_ok (f : α → β) (a : α) : f <$> (Except.ok a : Except ε α) = .ok (f a) := rfl

@[simp] theorem map_error (f : α → β) (e : ε) : f <$> (Except.error e : Except ε α) = .error e := rfl

-- Peel the first step off a computation that succeeded.
theorem of_bind_eq_ok {x : Except ε α} {f : α → Except ε β} {b : β} (h : (x >>= f) = .ok b) :
    ∃ a, x = .ok a ∧ f a = .ok b := by
  cases x with
  | ok a => exact ⟨a, rfl, h⟩
  | error e => cases h

theorem length_of_mapM {f : α → Except ε β} {xs : List α} :
    ∀ {ys : List β}, xs.mapM f = .ok ys → ys.length = xs.length := by
  induction xs with
  | nil =>
      intro ys h
      cases h
      rfl
  | cons x xs ih =>
      intro ys h
      rw [List.mapM_cons] at h
      obtain ⟨y, _, h⟩ := of_bind_eq_ok h
      obtain ⟨rest, hrest, h⟩ := of_bind_eq_ok h
      cases h
      rw [List.length_cons, List.length_cons, ih hrest]

theorem of_mapM_eq_ok {f : α → Except ε β} {xs : List α} :
    ∀ {ys : List β}, xs.mapM f = .ok ys → ∀ c ∈ ys.zip xs, f c.2 = .ok c.1 := by
  induction xs with
  | nil =>
      intro ys _ c hc
      rw [List.zip_nil_right] at hc
      cases hc
  | cons x xs ih =>
      intro ys h c hc
      rw [List.mapM_cons] at h
      obtain ⟨y, hy, h⟩ := of_bind_eq_ok h
      obtain ⟨rest, hrest, h⟩ := of_bind_eq_ok h
      cases h
      rcases List.mem_cons.mp hc with rfl | hc
      · exact hy
      · exact ih hrest c hc

theorem of_mapM_eq_error {f : α → Except ε β} {xs : List α} {e : ε} (h : xs.mapM f = .error e) :
    ∃ x ∈ xs, f x = .error e := by
  induction xs with
  | nil => cases h
  | cons x xs ih =>
      rw [List.mapM_cons] at h
      cases hx : f x with
      | error e' =>
          rw [hx] at h
          cases h
          exact ⟨x, List.mem_cons_self .., hx⟩
      | ok y =>
          rw [hx, ok_bind] at h
          cases hxs : xs.mapM f with
          | ok ys =>
              rw [hxs] at h
              cases h
          | error e' =>
              rw [hxs] at h
              cases h
              obtain ⟨x', hmem, hx'⟩ := ih hxs
              exact ⟨x', List.mem_cons_of_mem _ hmem, hx'⟩

theorem mapM_eq_map {f : α → Except ε β} {g : α → β} (h : ∀ x, f x = .ok (g x)) (xs : List α) :
    xs.mapM f = .ok (xs.map g) := by
  induction xs with
  | nil => rfl
  | cons x xs ih =>
      rw [List.mapM_cons, h, ih]
      rfl

theorem mapM_eq_ok {f : α → Except ε β} {P : α → β → Prop} {xs : List α}
    (h : ∀ x ∈ xs, ∃ y, f x = .ok y ∧ P x y) : ∃ ys, xs.mapM f = .ok ys ∧ List.Forall₂ P xs ys := by
  induction xs with
  | nil => exact ⟨[], rfl, .nil⟩
  | cons x xs ih =>
      obtain ⟨y, hy, hP⟩ := h x List.mem_cons_self
      obtain ⟨ys, hys, hrest⟩ := ih fun x' hx' => h x' (List.mem_cons_of_mem _ hx')
      refine ⟨y :: ys, ?_, .cons hP hrest⟩
      rw [List.mapM_cons, hy, hys]
      rfl

end Except

section Run

theorem liftExcept_bind (x : Except ε α) (f : α → Except ε β) :
    (liftM (x >>= f) : EStateM ε σ β) = liftM x >>= fun a => liftM (f a) := by
  cases x <;> rfl

@[simp] theorem run_throw (e : ε) (s : σ) :
    EStateM.run (throw e : EStateM ε σ α) s = .error e s := rfl

@[simp] theorem run_liftM (x : Except ε α) (s : σ) :
    EStateM.run (liftM x : EStateM ε σ α) s = match x with
      | .ok a => .ok a s
      | .error e => .error e s := by
  cases x <;> rfl

@[simp] theorem run_tryCatch (m : EStateM ε σ α) (h : ε → EStateM ε σ α) (s : σ) :
    EStateM.run (tryCatch m h) s = match m.run s with
      | .ok a t => .ok a t
      | .error e t => (h e).run t := by
  simp only [tryCatch, tryCatchThe, MonadExceptOf.tryCatch, EStateM.tryCatch, EStateM.run]
  cases m s <;> rfl

@[simp] theorem run_zoom (get : σ → τ) (put : τ → σ → σ) (m : EStateM ε τ α) (s : σ) :
    (zoom get put m).run s = match m.run (get s) with
      | .ok a t => .ok a (put t s)
      | .error e t => .error e (put t s) := rfl

@[simp] theorem run_map (f : α → β) (m : EStateM ε σ α) (s : σ) :
    (f <$> m).run s = match m.run s with
      | .ok a t => .ok (f a) t
      | .error e t => .error e t := by
  simp only [Functor.map, EStateM.map, EStateM.run]
  cases m s <;> rfl

@[simp] theorem run_ite (c : Prop) [Decidable c] (m n : EStateM ε σ α) (s : σ) :
    (if c then m else n).run s = if c then m.run s else n.run s := by
  split <;> rfl

theorem run_bind_ok {m : EStateM ε σ α} {f : α → EStateM ε σ β} {s t : σ} {a : α}
    (h : m.run s = .ok a t) : (m >>= f).run s = (f a).run t := by
  simp only [EStateM.run_bind, h]

theorem run_bind_error {m : EStateM ε σ α} {f : α → EStateM ε σ β} {s t : σ} {e : ε}
    (h : m.run s = .error e t) : (m >>= f).run s = .error e t := by
  simp only [EStateM.run_bind, h]

-- Peel the first action off a run that returned.
theorem of_run_bind_ok {m : EStateM ε σ α} {f : α → EStateM ε σ β} {s u : σ} {b : β}
    (h : (m >>= f).run s = .ok b u) : ∃ a t, m.run s = .ok a t ∧ (f a).run t = .ok b u := by
  rw [EStateM.run_bind] at h
  split at h
  · rename_i a t hm
    exact ⟨a, t, hm, h⟩
  · cases h

end Run

section Spec

-- From a state with `P` the program returns with `Q` or raises with `E`.
def Spec (P : σ → Prop) (m : EStateM ε σ α) (Q : α → σ → Prop) (E : ε → σ → Prop) : Prop :=
  ∀ s, P s → match m.run s with
    | .ok a t => Q a t
    | .error e t => E e t

variable {P : σ → Prop} {Q : α → σ → Prop} {R : β → σ → Prop} {E : ε → σ → Prop}

theorem Spec.pure {a : α} (h : ∀ s, P s → Q a s) : Spec P (pure a) Q E := h

theorem Spec.throw {e : ε} (h : ∀ s, P s → E e s) : Spec P (throw e : EStateM ε σ α) Q E := h

theorem Spec.modify {f : σ → σ} {Q : PUnit → σ → Prop} (h : ∀ s, P s → Q ⟨⟩ (f s)) :
    Spec P (modify f) Q E := h

theorem Spec.bind {m : EStateM ε σ α} {f : α → EStateM ε σ β} (hm : Spec P m Q E)
    (hf : ∀ a, Spec (Q a) (f a) R E) : Spec P (m >>= f) R E := by
  intro s hs
  have h := hm s hs
  rw [EStateM.run_bind]
  cases hr : m.run s with
  | ok a t =>
      rw [hr] at h
      exact hf a t h
  | error e t =>
      rw [hr] at h
      exact h

-- The state that is read is the state before the program.
theorem Spec.get_bind {f : σ → EStateM ε σ α} (h : ∀ s, P s → Spec (fun t => t = s) (f s) Q E) :
    Spec P (get >>= f) Q E := fun s hs => h s hs s rfl

theorem Spec.ite {c : Prop} [Decidable c] {m n : EStateM ε σ α} (hm : c → Spec P m Q E)
    (hn : ¬c → Spec P n Q E) : Spec P (if c then m else n) Q E := by
  split
  · exact hm ‹_›
  · exact hn ‹_›

theorem Spec.tryCatch {m : EStateM ε σ α} {h : ε → EStateM ε σ α} {F : ε → σ → Prop}
    (hm : Spec P m Q F) (hh : ∀ e, Spec (F e) (h e) Q E) : Spec P (tryCatch m h) Q E := by
  intro s hs
  have hr := hm s hs
  rw [run_tryCatch]
  split at hr
  · exact hr
  · rename_i e t _
    exact hh e t hr

theorem Spec.mono {P' : σ → Prop} {Q' : α → σ → Prop} {E' : ε → σ → Prop} {m : EStateM ε σ α}
    (h : Spec P m Q E) (hp : ∀ s, P' s → P s) (hq : ∀ a s, Q a s → Q' a s)
    (he : ∀ e s, E e s → E' e s) : Spec P' m Q' E' := by
  intro s hs
  have h := h s (hp s hs)
  split at h
  · exact hq _ _ h
  · exact he _ _ h

-- What does not depend on a part of the state is kept by programs on that part.
theorem Spec.frame {get : σ → τ} {put : τ → σ → σ} {m : EStateM ε τ α}
    (hput : ∀ t s, P s → P (put t s)) : Spec P (Program.zoom get put m) (fun _ => P) fun _ => P := by
  intro s hs
  rw [run_zoom]
  cases m.run (get s) with
  | ok a t => exact hput t s hs
  | error e t => exact hput t s hs

-- A program on a part of the state starts from that part of a state with `P`; the
-- rest of the state stays.
theorem Spec.zoom {get : σ → τ} {put : τ → σ → σ} {m : EStateM ε τ α}
    (h : ∀ s, P s → Spec (fun t => t = get s) m (fun a t => Q a (put t s))
      (fun e t => E e (put t s))) : Spec P (zoom get put m) Q E := by
  intro s hs
  have h := h s hs (get s) rfl
  rw [run_zoom]
  split at h
  · exact h
  · exact h

end Spec

section Safe

-- The program keeps an invariant, also when it raises, and raises nothing but `E`.
def Safe (I : σ → Prop) (E : ε → Prop) (m : EStateM ε σ α) : Prop :=
  Spec I m (fun _ => I) fun e s => I s ∧ E e

variable {I : σ → Prop} {E : ε → Prop}

theorem Safe.pure (a : α) : Safe I E (pure a) := fun _ hs => hs

theorem Safe.throw {e : ε} (h : E e) : Safe I E (throw e : EStateM ε σ α) := fun _ hs => ⟨hs, h⟩

theorem Safe.modify {f : σ → σ} (h : ∀ s, I s → I (f s)) : Safe I E (modify f) := h

theorem Safe.set {t : σ} (h : I t) : Safe I E (set t : EStateM ε σ PUnit) := fun _ _ => h

theorem Safe.modifyGet {f : σ → α × σ} (h : ∀ s, I s → I (f s).2) : Safe I E (modifyGet f) := h

theorem Safe.liftM_bind {x : Except ε α} {f : α → EStateM ε σ β}
    (h : ∀ a, x = .ok a → Safe I E (f a)) (he : ∀ e, x = .error e → E e) :
    Safe I E (liftM x >>= f) := by
  cases x with
  | ok a => exact h a rfl
  | error e => exact fun s hs => ⟨hs, he e rfl⟩

theorem Safe.liftM {x : Except ε α} (h : ∀ e, x = .error e → E e) :
    Safe I E (liftM x : EStateM ε σ α) := by
  cases x with
  | ok a => exact fun _ hs => hs
  | error e => exact fun _ hs => ⟨hs, h e rfl⟩

theorem Safe.bind {m : EStateM ε σ α} {f : α → EStateM ε σ β} (hm : Safe I E m)
    (hf : ∀ a, Safe I E (f a)) : Safe I E (m >>= f) := Spec.bind hm hf

theorem Safe.map {m : EStateM ε σ α} (hm : Safe I E m) (f : α → β) : Safe I E (f <$> m) := by
  intro s hs
  have h := hm s hs
  rw [run_map]
  split at h
  · exact h
  · exact h

-- The invariant is known of the state that is read.
theorem Safe.get_bind {f : σ → EStateM ε σ β} (h : ∀ s, I s → Safe I E (f s)) :
    Safe I E (get >>= f) := fun s hs => h s hs s hs

theorem Safe.ite {c : Prop} [Decidable c] {m n : EStateM ε σ α} (hm : c → Safe I E m)
    (hn : ¬c → Safe I E n) : Safe I E (if c then m else n) := Spec.ite hm hn

theorem Safe.tryCatch {m : EStateM ε σ α} {h : ε → EStateM ε σ α} (hm : Safe I E m)
    (hh : ∀ e, E e → Safe I E (h e)) : Safe I E (tryCatch m h) :=
  Spec.tryCatch hm fun e s hs => hh e hs.2 s hs.1

theorem Safe.spec {m : EStateM ε σ α} (h : Safe I E m) : Spec I m (fun _ => I) fun e _ => E e :=
  Spec.mono h (fun _ => id) (fun _ _ => id) fun _ _ hs => hs.2

theorem Safe.zoom {get : σ → τ} {put : τ → σ → σ} {m : EStateM ε τ α}
    (hput : ∀ s, put (get s) s = s) (h : ∀ s, I s → Safe (fun t => I (put t s)) E m) :
    Safe I E (zoom get put m) := by
  apply Spec.zoom
  intro s hs t ht
  have hstart : I (put t s) := by
    rw [ht, hput]
    exact hs
  exact h s hs t hstart

end Safe

section Cleanup

-- Cleanup when an exception leaves the program, unless nothing can run after it.
def onError (fatal : ε → Bool) (m : EStateM ε σ α) (cleanup : EStateM ε σ Unit) : EStateM ε σ α :=
  tryCatch m fun e =>
    if fatal e then throw e
    else do
      cleanup
      throw e

-- Cleanup in any case.
def onExit (fatal : ε → Bool) (m : EStateM ε σ α) (cleanup : EStateM ε σ Unit) : EStateM ε σ α := do
  let a ← onError fatal m cleanup
  cleanup
  pure a

variable {fatal : ε → Bool} {P : σ → Prop} {Q R : α → σ → Prop} {E F : ε → σ → Prop}

theorem Spec.onError {m : EStateM ε σ α} {cleanup : EStateM ε σ Unit} (hm : Spec P m Q F)
    (hfatal : ∀ e s, fatal e = true → F e s → E e s)
    (hcleanup : ∀ e, fatal e = false → Spec (F e) cleanup (fun _ => E e) E) :
    Spec P (onError fatal m cleanup) Q E := by
  refine Spec.tryCatch hm fun e => Spec.ite (fun he => ?_) fun he => ?_
  · exact Spec.throw fun s hs => hfatal e s he hs
  · exact (hcleanup e (Bool.not_eq_true _ ▸ he)).bind fun _ => Spec.throw fun _ => id

section Runs

variable {m : EStateM ε σ α} {c : EStateM ε σ Unit} {s t u : σ} {a : α} {e : ε}

theorem run_onError_ok (h : m.run s = .ok a t) : (Program.onError fatal m c).run s = .ok a t := by
  unfold Program.onError
  rw [run_tryCatch, h]

theorem run_onError_fatal (h : m.run s = .error e t) (he : fatal e = true) :
    (Program.onError fatal m c).run s = .error e t := by
  unfold Program.onError
  rw [run_tryCatch, h]
  simp only [he, ite_true, run_throw]

theorem run_onError_cleanup (h : m.run s = .error e t) (he : fatal e = false)
    (hc : c.run t = .ok () u) : (Program.onError fatal m c).run s = .error e u := by
  unfold Program.onError
  rw [run_tryCatch, h]
  simp only [he, ite_false, Bool.false_eq_true]
  rw [run_bind_ok hc]
  rfl

-- What is cleaned up after an exception is not a result.
theorem of_run_onError_ok (h : (Program.onError fatal m c).run s = .ok a t) :
    m.run s = .ok a t := by
  unfold Program.onError at h
  rw [run_tryCatch] at h
  split at h
  · rename_i hm
    rw [hm, h]
  · rw [run_ite] at h
    split at h
    · cases h
    · obtain ⟨_, _, _, h⟩ := of_run_bind_ok h
      cases h

end Runs

end Cleanup

section Reaches

variable {A : Type} {next : A → σ → Option σ} {C : A → σ → Prop} {s t u : σ}

-- The states that a system reaches by actions that meet `C`. An action may end it.
def Reaches (next : A → σ → Option σ) (C : A → σ → Prop) : σ → σ → Prop :=
  Relation.ReflTransGen fun s t => ∃ a, C a s ∧ next a s = some t

theorem Reaches.refl (s : σ) : Reaches next C s s := Relation.ReflTransGen.refl

theorem Reaches.tail {a : A} (h : Reaches next C s t) (hc : C a t) (hnext : next a t = some u) :
    Reaches next C s u := Relation.ReflTransGen.tail h ⟨a, hc, hnext⟩

def replay (next : A → σ → Option σ) : List A → σ → Option σ
  | [] => some
  | a :: as => fun s => (next a s).bind (replay next as)

theorem replay_cons (a : A) (as : List A) (s : σ) :
    replay next (a :: as) s = (next a s).bind (replay next as) := rfl

theorem Reaches.replay {as : List A} (hC : ∀ a ∈ as, ∀ v, C a v) :
    ∀ {t : σ}, Reaches next C s t → replay next as t = some u → Reaches next C s u := by
  induction as with
  | nil =>
      intro t h hrun
      cases hrun
      exact h
  | cons a as ih =>
      intro t h hrun
      rw [replay_cons] at hrun
      obtain ⟨v, hv, hrun⟩ := Option.bind_eq_some_iff.mp hrun
      exact ih (fun b hb => hC b (List.mem_cons_of_mem _ hb)) (h.tail (hC a (List.mem_cons_self ..) t) hv)
        hrun

theorem Reaches.invariant {I : σ → Prop} (h : Reaches next C s t) (hstart : I s)
    (hstep : ∀ a s t, I s → C a s → next a s = some t → I t) : I t := by
  induction h with
  | refl => exact hstart
  | tail _ hlast ih =>
      obtain ⟨a, hc, hnext⟩ := hlast
      exact hstep a _ _ ih hc hnext

end Reaches

end Program
