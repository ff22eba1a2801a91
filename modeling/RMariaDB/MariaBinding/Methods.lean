import RMariaDB.MariaBinding.Rows
import RMariaDB.Methods

-- What binding a row or new columns does to a binding, and that it works on the
-- handle of its statement.

namespace RMariaDB.MariaBinding

open Program

variable {h : Option Nat}

-- Rows were bound, and nothing else.
structure Advanced (b b' : MariaBinding) : Prop where
  statement : b'.statement = b.statement
  params : b'.params = b.params
  p : b'.p = b.p
  n_rows : b'.n_rows = b.n_rows
  kinds : b'.kinds = b.kinds
  length : b'.slots.length = b.slots.length
  i : b.i ≤ b'.i

theorem Advanced.refl (b : MariaBinding) : Advanced b b :=
  ⟨rfl, rfl, rfl, rfl, rfl, rfl, Nat.le_refl _⟩

theorem Advanced.trans {a b c : MariaBinding} (h : Advanced a b) (h' : Advanced b c) :
    Advanced a c :=
  ⟨h'.statement.trans h.statement, h'.params.trans h.params, h'.p.trans h.p,
    h'.n_rows.trans h.n_rows, h'.kinds.trans h.kinds, h'.length.trans h.length, h.i.trans h'.i⟩

theorem Advanced.matched {b b' : MariaBinding} (h : Advanced b b') (hb : Matched b) :
    Matched b' := by
  refine ⟨?_, ?_, ?_⟩
  · rw [h.params, hb.params, h.p]
  · rw [h.length, hb.slots, h.p]
  · rw [h.params, hb.kinds, h.kinds]

theorem next_slot_kind {slot slot' : Slot} {col : SEXP} {i : Nat}
    (hnext : next_slot slot col i = .ok slot') : slot'.kind = slot.kind := by
  rcases next_slot_cases slot col i with ⟨e, -, herror⟩ | ⟨slot'', -, hok, hkind⟩
  · rw [hnext] at herror
    cases herror
  · rw [hnext] at hok
    cases hok
    exact hkind

theorem next_slot_plain (slot : Slot) (col : SEXP) (i : Nat) : Plain (next_slot slot col i) := by
  intro e hnext
  rcases next_slot_cases slot col i with ⟨e', hparam, herror⟩ | ⟨slot', -, hok, -⟩
  · rw [hnext] at herror
    cases herror
    exact ((param_value_plain slot.kind.1 col i).bind fun v => Plain.ok _) e hparam
  · rw [hnext] at hok
    cases hok

theorem Advanced.set {b₀ b : MariaBinding} (hb : Advanced b₀ b) {j : Nat} {slot : Slot}
    (hslot : b₀.kinds[j]? = some slot.kind) :
    Advanced b₀ { b with slots := b.slots.set j slot } := by
  refine ⟨hb.statement, hb.params, hb.p, hb.n_rows, ?_, List.length_set.trans hb.length, hb.i⟩
  change (b.slots.set j slot).map Slot.kind = b₀.kinds
  have hmap : b.slots.map Slot.kind = b₀.kinds := hb.kinds
  rw [← hmap] at hslot ⊢
  obtain ⟨hj, heq⟩ := List.getElem?_eq_some_iff.mp hslot
  rw [List.map_set, ← heq, List.set_getElem_self]

section Rows

-- The binding has only advanced since `b₀`.
def Since (b₀ : MariaBinding) (_ : MYSQL) (b : MariaBinding) : Prop := Advanced b₀ b

theorem since_stable (b₀ : MariaBinding) : Stable (Since b₀) := fun _ _ _ _ => id

theorem bind_column_method (b₀ : MariaBinding) (j : Nat) : Method false h (Since b₀) (bind_column j) := by
  apply Method.get_bind
  intro s hs
  refine (Method.plain (index_plain _ _)).bind fun col => ?_
  refine Method.plain_bind (index_plain _ _) fun slot hslot => ?_
  refine Method.plain_bind (next_slot_plain _ _ _) fun slot' hnext => ?_
  have hkind : b₀.kinds[j]? = some slot'.kind := by
    rw [next_slot_kind hnext, ← hs.kinds, kinds, List.getElem?_map, index_eq_ok_iff.mp hslot]
    rfl
  exact Method.modifySelf fun m b hb => hb.set hkind

theorem bind_columns_method (b₀ : MariaBinding) (js : List Nat) :
    Method false h (Since b₀) (bind_columns js) := by
  induction js with
  | nil => exact Method.pure ()
  | cons j js ih => exact (bind_column_method b₀ j).bind fun _ => ih

theorem bind_next_row_method {b₀ : MariaBinding} (hopen : b₀.n_rows ≠ 0 → b₀.statement = h) :
    Method false h (Since b₀) bind_next_row := by
  apply Method.get_bind
  intro s hs
  refine Method.ite (fun _ => Method.pure false) fun hrows => ?_
  have hstatement : b₀.statement = h := by
    refine hopen ?_
    rw [← hs.n_rows]
    omega
  refine (bind_columns_method b₀ _).bind fun _ => Method.get_bind fun t ht => ?_
  rw [ht.statement, hstatement]
  refine (Method.lib (since_stable b₀) (mysql_stmt_bind_param_calls _)).bind fun _ => ?_
  refine (Method.modifySelf fun m b hb => ?_).bind fun _ => Method.pure true
  exact hb.trans ⟨rfl, rfl, rfl, rfl, rfl, rfl, Nat.le_succ _⟩

end Rows

section Columns

-- The binding belongs to the statement.
def Belongs (h : Option Nat) (_ : MYSQL) (b : MariaBinding) : Prop := b.statement = h

theorem belongs_stable : Stable (Belongs h) := fun _ _ _ _ => id

theorem init_column_method (j : Nat) : Method false h (Belongs h) (init_column j) := by
  apply Method.get_bind
  intro s hs
  refine (Method.plain (index_plain _ _)).bind fun col => ?_
  cases htype : variable_type_from_object col with
  | error e => exact Method.throw (variable_type_plain col e htype).2
  | ok type =>
      exact (Method.plain (index_plain _ _)).bind fun slot => Method.modifySelf fun m b hb => hb

theorem init_columns_method (js : List Nat) : Method false h (Belongs h) (init_columns js) := by
  induction js with
  | nil => exact Method.pure ()
  | cons j js ih => exact (init_column_method j).bind fun _ => ih

theorem init_binding_method (params : List SEXP) : Method false h (Belongs h) (init_binding params) := by
  refine Method.bind (Method.modifySelf fun m b hb => hb) fun _ => Method.get_bind fun s _ => ?_
  refine Method.ite (fun _ => Method.throw (by simp)) fun _ => ?_
  refine Method.ite (fun _ => Method.throw (by simp)) fun _ => ?_
  exact Method.bind (Method.modifySelf fun m b hb => hb) fun _ => init_columns_method _

-- Unless it has rows, a binding need not belong to a statement yet.
def Linked (h : Option Nat) (_ : MYSQL) (b : MariaBinding) : Prop := b.n_rows ≠ 0 → b.statement = h

-- The first thing that setup() does is to set the statement.
theorem setup_init_method (params : List SEXP) :
    Method false h (Linked h) (do setup h; init_binding params) := by
  intro conn m₀ s hs
  have hmethod : Method false h (Belongs h) (do setup h; init_binding params) := by
    refine Method.bind ?_ fun _ => init_binding_method params
    refine Method.bind (Method.modifySelf fun m b hb => rfl) fun _ => ?_
    refine (Method.lib belongs_stable mysql_stmt_param_count_calls).bind fun p => ?_
    exact Method.modifySelf fun m b hb => hb
  have hsame : (do setup h; init_binding params : EStateM Exc (Obj MariaBinding) Unit).run s =
      (do setup h; init_binding params : EStateM Exc (Obj MariaBinding) Unit).run
        { s with self.statement := h } := by
    simp [setup]
  have hrun := hmethod conn m₀ { s with self.statement := h } ⟨hs.conn, hs.mysql, rfl⟩
  rw [hsame]
  split at hrun
  · exact ⟨hrun.conn, hrun.mysql, fun _ => hrun.self⟩
  · exact ⟨⟨hrun.1.conn, hrun.1.mysql, fun _ => hrun.1.self⟩, hrun.2⟩

end Columns

section Persists

-- Binding parameters binds no buffers for results.
theorem bind_columns_persists (js : List Nat) : Persists (fun _ => True) (bind_columns js) := by
  induction js with
  | nil => exact Persists.pure ()
  | cons j js ih =>
      refine Persists.bind (Persists.get_bind fun s _ => ?_) fun _ => ih
      refine (Persists.plain _).bind fun col => (Persists.plain _).bind fun slot => ?_
      exact (Persists.plain _).bind fun slot => Persists.modifySelf fun _ => id

theorem bind_next_row_persists : Persists (fun _ => True) bind_next_row := by
  refine Persists.get_bind fun s _ => Persists.ite (fun _ => Persists.pure false) fun _ => ?_
  refine (bind_columns_persists _).bind fun _ => Persists.get_bind fun s _ => ?_
  refine (Persists.lib (mysql_stmt_bind_param_binds _)).bind fun _ => ?_
  exact Persists.bind (Persists.modifySelf fun _ => id) fun _ => Persists.pure true

theorem setup_persists (h : Option Nat) : Persists (fun _ => True) (setup h) := by
  refine Persists.bind (Persists.modifySelf fun _ => id) fun _ => ?_
  exact (Persists.lib mysql_stmt_param_count_binds).bind fun _ => Persists.modifySelf fun _ => id

theorem init_columns_persists (js : List Nat) : Persists (fun _ => True) (init_columns js) := by
  induction js with
  | nil => exact Persists.pure ()
  | cons j js ih =>
      refine Persists.bind (Persists.get_bind fun s _ => ?_) fun _ => ih
      refine (Persists.plain _).bind fun param => ?_
      cases variable_type_from_object param with
      | error e => exact Persists.throw e
      | ok type => exact (Persists.plain _).bind fun slot => Persists.modifySelf fun _ => id

theorem init_binding_persists (params : List SEXP) :
    Persists (fun _ => True) (init_binding params) := by
  refine Persists.bind (Persists.modifySelf fun _ => id) fun _ => Persists.get_bind fun s _ => ?_
  refine Persists.ite (fun _ => Persists.throw _) fun _ => Persists.ite (fun _ => Persists.throw _) fun _ => ?_
  exact Persists.bind (Persists.modifySelf fun _ => id) fun _ => init_columns_persists _

end Persists

end RMariaDB.MariaBinding
