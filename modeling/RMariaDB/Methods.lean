import RMariaDB.DbConnection
import RMariaDB.Libmysql.Binds
import RMariaDB.Libmysql.Effects

-- Methods of one object that work on one statement handle.

namespace RMariaDB

open Program

variable {τ κ α β : Type}

-- The connection object is what it was, the library was only used through open
-- handles, and the object satisfies `J`.
structure Within (b : Bool) (conn : DbConnection) (m₀ : MYSQL) (J : MYSQL → τ → Prop)
    (s : Obj τ) : Prop where
  conn : s.conn = conn
  mysql : Touches b m₀ s.mysql
  self : J s.mysql s.self

-- What is known of an object stays known while the library is used.
def Stable (J : MYSQL → τ → Prop) : Prop := ∀ m m' x, Touches false m m' → J m x → J m' x

-- A method that keeps `J` and faults on a handle only if h is not open.
def Method (b : Bool) (h : Option Nat) (J : MYSQL → τ → Prop) (f : EStateM Exc (Obj τ) α) : Prop :=
  ∀ conn m₀, Safe (Within b conn m₀ J) (fun e => e = .fault .handle → ¬IsOpen m₀ h) f

namespace Method

variable {b : Bool} {h : Option Nat} {J : MYSQL → τ → Prop}

theorem pure (a : α) : Method b h J (pure a) := fun _ _ => Safe.pure a

theorem throw {e : Exc} (he : e ≠ .fault .handle) :
    Method b h J (throw e : EStateM Exc (Obj τ) α) := fun _ _ => Safe.throw fun h => absurd h he

theorem bind {f : EStateM Exc (Obj τ) α} {g : α → EStateM Exc (Obj τ) β} (hf : Method b h J f)
    (hg : ∀ a, Method b h J (g a)) : Method b h J (f >>= g) :=
  fun conn m₀ => (hf conn m₀).bind fun a => hg a conn m₀

theorem map {f : EStateM Exc (Obj τ) α} (hf : Method b h J f) (g : α → β) : Method b h J (g <$> f) :=
  fun conn m₀ => (hf conn m₀).map g

theorem get_bind {f : Obj τ → EStateM Exc (Obj τ) β}
    (hf : ∀ s, J s.mysql s.self → Method b h J (f s)) : Method b h J (get >>= f) :=
  fun conn m₀ => Safe.get_bind fun s hs => hf s hs.self conn m₀

theorem ite {c : Prop} [Decidable c] {f g : EStateM Exc (Obj τ) α} (hf : c → Method b h J f)
    (hg : ¬c → Method b h J g) : Method b h J (if c then f else g) :=
  fun conn m₀ => Safe.ite (fun hc => hf hc conn m₀) fun hc => hg hc conn m₀

theorem plain {x : Except Exc α} (hx : Plain x) :
    Method b h J (liftM x : EStateM Exc (Obj τ) α) :=
  fun _ _ => Safe.liftM fun e he hfault => absurd hfault (hx e he).2

-- The value that is computed is known to what follows.
theorem plain_bind {x : Except Exc α} (hx : Plain x) {f : α → EStateM Exc (Obj τ) β}
    (hf : ∀ a, x = .ok a → Method b h J (f a)) : Method b h J (liftM x >>= f) := by
  cases x with
  | ok a => exact hf a rfl
  | error e => exact fun _ _ _ hs => ⟨hs, fun he => absurd he (hx e rfl).2⟩

theorem modifySelf {f : τ → τ} (hf : ∀ m x, J m x → J m (f x)) : Method b h J (modifySelf f) :=
  fun _ _ => Safe.modify fun s hs => ⟨hs.conn, hs.mysql, hf s.mysql s.self hs.self⟩

theorem warns (f : Shared → List String) :
    Method b h J (onShared (modify fun s => { s with warnings := f s })) :=
  fun _ _ _ hs => ⟨hs.conn, hs.mysql, hs.self⟩

theorem lib (hJ : Stable J) {f : EStateM Exc MYSQL α} (hf : Calls h f) : Method b h J (lib f) := by
  intro conn m₀ s hs
  have hcall := hf s.mysql s.mysql (Touches.refl _)
  rw [lib_run]
  cases hrun : f.run s.mysql with
  | ok a m =>
      rw [hrun] at hcall
      exact ⟨hs.conn, hs.mysql.trans hcall.weaken, hJ _ _ _ hcall hs.self⟩
  | error e m =>
      rw [hrun] at hcall
      obtain ⟨htouches, hclosed⟩ := hcall
      exact ⟨⟨hs.conn, hs.mysql.trans htouches.weaken, hJ _ _ _ htouches hs.self⟩,
        fun he hopen => hclosed he (hs.mysql.isOpen hopen)⟩

-- A method of a member, which keeps what is said of the member.
theorem onMember {get : τ → κ} {put : κ → τ → τ} {f : EStateM Exc (Obj κ) α}
    (hf : ∀ m x, J m x → ∃ J' : MYSQL → κ → Prop, J' m (get x) ∧
      (∀ m' y, Touches false m m' → J' m' y → J m' (put y x)) ∧ Method false h J' f) :
    Method b h J (onMember get put f) := by
  intro conn m₀ s hs
  obtain ⟨J', hstart, hend, hmethod⟩ := hf s.mysql s.self hs.self
  have hmember := hmethod conn s.mysql ⟨s.toShared, get s.self⟩ ⟨hs.conn, Touches.refl _, hstart⟩
  rw [onMember_run]
  cases hrun : f.run ⟨s.toShared, get s.self⟩ with
  | ok a t =>
      rw [hrun] at hmember
      exact ⟨hmember.conn, hs.mysql.trans hmember.mysql.weaken, hend _ _ hmember.mysql hmember.self⟩
  | error e t =>
      rw [hrun] at hmember
      obtain ⟨hwithin, hclosed⟩ := hmember
      exact ⟨⟨hwithin.conn, hs.mysql.trans hwithin.mysql.weaken, hend _ _ hwithin.mysql hwithin.self⟩,
        fun he hopen => hclosed he (hs.mysql.isOpen hopen)⟩

theorem after {f : EStateM Exc (Obj τ) α} {s t : Obj τ} (hf : Method b h J f)
    (hafter : after f s = some t) (hs : J s.mysql s.self) : Within b s.conn s.mysql J t := by
  have h := hf s.conn s.mysql s ⟨rfl, Touches.refl _, hs⟩
  cases hrun : f.run s with
  | ok a u =>
      rw [hrun] at h
      simp only [RMariaDB.after, hrun, Option.some.injEq] at hafter
      rw [← hafter]
      exact h
  | error e u =>
      rw [hrun] at h
      rw [(after_error hrun hafter).2]
      exact h.1

end Method

-- A method that leads from `J` to `J'`.
def Leads (b : Bool) (h : Option Nat) (J J' : MYSQL → τ → Prop) (f : EStateM Exc (Obj τ) α) : Prop :=
  ∀ conn m₀, Spec (Within b conn m₀ J) f (fun _ => Within b conn m₀ J') fun e s =>
    Within b conn m₀ J' s ∧ (e = .fault .handle → ¬IsOpen m₀ h)

section Leads

variable {b : Bool} {h : Option Nat} {J J' : MYSQL → τ → Prop}

theorem Within.mono {conn : DbConnection} {m₀ : MYSQL} {s : Obj τ} (hs : Within b conn m₀ J s)
    (hJ : ∀ m x, J m x → J' m x) : Within b conn m₀ J' s :=
  ⟨hs.conn, hs.mysql, hJ _ _ hs.self⟩

theorem Method.leads {f : EStateM Exc (Obj τ) α} (hf : Method b h J' f)
    (hJ : ∀ m x, J m x → J' m x) : Leads b h J J' f := fun conn m₀ =>
  Spec.mono (hf conn m₀) (fun _ hs => hs.mono hJ) (fun _ _ => id) fun _ _ => id

-- First `J` is kept.
theorem Method.then {f : EStateM Exc (Obj τ) α} {g : α → EStateM Exc (Obj τ) β} (hf : Method b h J f)
    (hJ : ∀ m x, J m x → J' m x) (hg : ∀ a, Leads b h J J' (g a)) : Leads b h J J' (f >>= g) :=
  fun conn m₀ => Spec.bind (Spec.mono (hf conn m₀) (fun _ => id) (fun _ _ => id)
    fun _ _ hs => ⟨hs.1.mono hJ, hs.2⟩) fun a => hg a conn m₀

theorem Leads.bind {f : EStateM Exc (Obj τ) α} {g : α → EStateM Exc (Obj τ) β}
    (hf : Leads b h J J' f) (hg : ∀ a, Method b h J' (g a)) : Leads b h J J' (f >>= g) :=
  fun conn m₀ => Spec.bind (hf conn m₀) fun a => hg a conn m₀

theorem Leads.method {f : EStateM Exc (Obj τ) α} (hf : Leads b h J J f) : Method b h J f := hf

theorem Leads.ite {c : Prop} [Decidable c] {f g : EStateM Exc (Obj τ) α} (hf : c → Leads b h J J' f)
    (hg : ¬c → Leads b h J J' g) : Leads b h J J' (if c then f else g) :=
  fun conn m₀ => Spec.ite (fun hc => hf hc conn m₀) fun hc => hg hc conn m₀

theorem Leads.of {J₀ : MYSQL → τ → Prop} {f : EStateM Exc (Obj τ) α} (hf : Leads b h J J' f)
    (hJ : ∀ m x, J₀ m x → J m x) : Leads b h J₀ J' f := fun conn m₀ =>
  (hf conn m₀).mono (fun _ hs => hs.mono hJ) (fun _ _ => id) fun _ _ => id

-- What is read is known of the object that follows.
theorem Method.read {f : Obj τ → EStateM Exc (Obj τ) β}
    (hf : ∀ s, J s.mysql s.self → Leads b h (fun m x => J m x ∧ x = s.self) J' (f s)) :
    Leads b h J J' (get >>= f) :=
  fun conn m₀ s hs => hf s hs.self conn m₀ s ⟨hs.conn, hs.mysql, hs.self, rfl⟩

end Leads

-- A method that binds no buffers and keeps `J`, whichever handles are open.
def Persists (J : τ → Prop) (f : EStateM Exc (Obj τ) α) : Prop :=
  ∀ m₀, Safe (fun s => SameBinds m₀ s.mysql ∧ J s.self) (fun _ => True) f

namespace Persists

variable {J : τ → Prop}

theorem pure (a : α) : Persists J (pure a) := fun _ => Safe.pure a

theorem throw (e : Exc) : Persists J (throw e : EStateM Exc (Obj τ) α) := fun _ => Safe.throw trivial

theorem bind {f : EStateM Exc (Obj τ) α} {g : α → EStateM Exc (Obj τ) β} (hf : Persists J f)
    (hg : ∀ a, Persists J (g a)) : Persists J (f >>= g) := fun m₀ => (hf m₀).bind fun a => hg a m₀

theorem map {f : EStateM Exc (Obj τ) α} (hf : Persists J f) (g : α → β) : Persists J (g <$> f) :=
  fun m₀ => (hf m₀).map g

theorem get_bind {f : Obj τ → EStateM Exc (Obj τ) α} (hf : ∀ s, J s.self → Persists J (f s)) :
    Persists J (get >>= f) := fun m₀ => Safe.get_bind fun s hs => hf s hs.2 m₀

theorem ite {c : Prop} [Decidable c] {f g : EStateM Exc (Obj τ) α} (hf : c → Persists J f)
    (hg : ¬c → Persists J g) : Persists J (if c then f else g) :=
  fun m₀ => Safe.ite (fun hc => hf hc m₀) fun hc => hg hc m₀

theorem plain (x : Except Exc α) : Persists J (liftM x : EStateM Exc (Obj τ) α) :=
  fun _ => Safe.liftM fun _ _ => trivial

theorem plain_bind {x : Except Exc α} {f : α → EStateM Exc (Obj τ) β}
    (hf : ∀ a, x = .ok a → Persists J (f a)) : Persists J (liftM x >>= f) := by
  cases x with
  | ok a => exact hf a rfl
  | error e => exact fun _ _ hs => ⟨hs, trivial⟩

theorem modifySelf {f : τ → τ} (hf : ∀ x, J x → J (f x)) : Persists J (modifySelf f) :=
  fun _ => Safe.modify fun s hs => ⟨hs.1, hf s.self hs.2⟩

theorem warns (f : Shared → List String) :
    Persists J (onShared (modify fun s => { s with warnings := f s })) := fun _ _ hs => hs

theorem lib {f : EStateM Exc MYSQL α} (hf : LeavesBinds f) : Persists J (lib f) := by
  intro m₀ s hs
  have hcall := hf m₀ s.mysql hs.1
  rw [lib_run]
  cases hrun : f.run s.mysql with
  | ok a m =>
      rw [hrun] at hcall
      exact ⟨hcall, hs.2⟩
  | error e m =>
      rw [hrun] at hcall
      exact ⟨⟨hcall.1, hs.2⟩, trivial⟩

theorem onMember {get : τ → κ} {put : κ → τ → τ} {f : EStateM Exc (Obj κ) α}
    (hf : ∀ x, J x → ∃ J' : κ → Prop, J' (get x) ∧ (∀ y, J' y → J (put y x)) ∧ Persists J' f) :
    Persists J (onMember get put f) := by
  intro m₀ s hs
  obtain ⟨J', hstart, hend, hmember⟩ := hf s.self hs.2
  have h := hmember m₀ ⟨s.toShared, get s.self⟩ ⟨hs.1, hstart⟩
  rw [onMember_run]
  cases hrun : f.run ⟨s.toShared, get s.self⟩ with
  | ok a t =>
      rw [hrun] at h
      exact ⟨h.1, hend _ h.2⟩
  | error e t =>
      rw [hrun] at h
      exact ⟨⟨h.1.1, hend _ h.1.2⟩, trivial⟩

theorem after {f : EStateM Exc (Obj τ) α} {s t : Obj τ} (hf : Persists J f)
    (hafter : after f s = some t) (hs : J s.self) : SameBinds s.mysql t.mysql ∧ J t.self := by
  have h := hf s.mysql s ⟨SameBinds.refl _, hs⟩
  cases hrun : f.run s with
  | ok a u =>
      rw [hrun] at h
      simp only [RMariaDB.after, hrun, Option.some.injEq] at hafter
      rw [← hafter]
      exact h
  | error e u =>
      rw [hrun] at h
      rw [(after_error hrun hafter).2]
      exact h.1

theorem run_ok {f : EStateM Exc (Obj τ) α} {s t : Obj τ} {a : α} (hf : Persists J f)
    (hrun : f.run s = .ok a t) (hs : J s.self) : J t.self := by
  have h := hf s.mysql s ⟨SameBinds.refl _, hs⟩
  rw [hrun] at h
  exact h.2

end Persists

end RMariaDB
