import RMariaDB.Libmysql.Calls
import RMariaDB.MariaResultPrep

-- What the methods of a result leave of the object itself.

namespace RMariaDB.MariaResultPrep

open Program

variable {srv : Server} {α β : Type}

-- What is known of the object stays known, also when an exception is raised.
def Retains (P : MariaResultPrep → Prop) (f : EStateM Exc (Obj MariaResultPrep) α) : Prop :=
  Safe (fun s => P s.self) (fun _ => True) f

section Retains

variable {P : MariaResultPrep → Prop}

theorem Retains.pure (a : α) : Retains P (pure a) := Safe.pure a

theorem Retains.throw (e : Exc) : Retains P (throw e : EStateM Exc _ α) := Safe.throw trivial

theorem Retains.bind {f : EStateM Exc (Obj MariaResultPrep) α}
    {g : α → EStateM Exc (Obj MariaResultPrep) β} (hf : Retains P f) (hg : ∀ a, Retains P (g a)) :
    Retains P (f >>= g) := Safe.bind hf hg

theorem Retains.get_bind {f : Obj MariaResultPrep → EStateM Exc (Obj MariaResultPrep) α}
    (hf : ∀ s, Retains P (f s)) : Retains P (get >>= f) := Safe.get_bind fun s _ => hf s

theorem Retains.ite {c : Prop} [Decidable c] {f g : EStateM Exc (Obj MariaResultPrep) α}
    (hf : Retains P f) (hg : Retains P g) : Retains P (if c then f else g) :=
  Safe.ite (fun _ => hf) fun _ => hg

theorem Retains.modifySelf {f : MariaResultPrep → MariaResultPrep} (hf : ∀ r, P r → P (f r)) :
    Retains P (modifySelf f) := Safe.modify fun s => hf s.self

theorem Retains.shared (f : EStateM Exc Shared α) : Retains P (onShared f) := by
  intro s hs
  rw [onShared_run]
  cases f.run s.toShared with
  | ok a t => exact hs
  | error e t => exact ⟨hs, trivial⟩

theorem Retains.lib (f : EStateM Exc MYSQL α) : Retains P (lib f) := Retains.shared (onMysql f)

theorem Retains.output (hP : ∀ r x, P r → P { r with bindingOutput_ := x })
    (f : EStateM Exc (Obj MariaRow) α) : Retains P (output f) := by
  intro s hs
  rw [MariaResultPrep.output, onMember_run]
  cases f.run ⟨s.toShared, s.self.bindingOutput_⟩ with
  | ok a t => exact hP _ _ hs
  | error e t => exact ⟨hP _ _ hs, trivial⟩

theorem Retains.input (hP : ∀ r x, P r → P { r with bindingInput_ := x })
    (f : EStateM Exc (Obj MariaBinding) α) : Retains P (input f) := by
  intro s hs
  rw [MariaResultPrep.input, onMember_run]
  cases f.run ⟨s.toShared, s.self.bindingInput_⟩ with
  | ok a t => exact hP _ _ hs
  | error e t => exact ⟨hP _ _ hs, trivial⟩

theorem throw_error_run (s : Obj MariaResultPrep) :
    ∃ e, (throw_error : EStateM Exc _ α).run s = .error e s := by
  rcases deref_cases s.self.pStatement_ s.mysql with hderef | ⟨k, st, -, hderef⟩
  · simp [throw_error, mysql_stmt_error, hderef]
  · simp [throw_error, mysql_stmt_error, mysql_stmt_errno, hderef]

theorem throw_error_ne_ok {s t : Obj MariaResultPrep} {a : α} :
    (throw_error : EStateM Exc _ α).run s ≠ .ok a t := by
  obtain ⟨e, hrun⟩ := throw_error_run (α := α) s
  rw [hrun]
  exact fun h => by cases h

theorem throw_error_retains : Retains P (throw_error : EStateM Exc _ α) := by
  intro s hs
  obtain ⟨e, hrun⟩ := throw_error_run (α := α) s
  rw [hrun]
  exact ⟨hs, trivial⟩

theorem set_list_values_retains (hP : ∀ r x, P r → P { r with bindingOutput_ := x }) (i : Nat)
    (js : List Nat) : ∀ out : DataFrame, Retains P (set_list_values srv i js out) := by
  induction js with
  | nil => exact fun out => Retains.pure out
  | cons j js ih =>
      intro out
      refine Retains.bind (Safe.liftM fun _ _ => trivial) fun x => ?_
      exact (Retains.output hP _).bind fun x => ih _

end Retains

section Described

-- The names and the types of all columns are there.
structure Described (r : MariaResultPrep) : Prop where
  names : r.names_.length = r.nCols_
  types : r.types_.length = r.nCols_

theorem column_info_described {r : MariaResultPrep} (hr : Described r) :
    ∃ info, column_info r = .ok info := by
  cases hinfo : column_info r with
  | ok info => exact ⟨info, rfl⟩
  | error e =>
      obtain ⟨i, hi, herror⟩ := of_mapM_eq_error hinfo
      rw [List.mem_range] at hi
      have hname : i < r.names_.length := by rw [hr.names]; exact hi
      have htype : i < r.types_.length := by rw [hr.types]; exact hi
      simp only [index_eq_ok (List.getElem?_eq_getElem hname),
        index_eq_ok (List.getElem?_eq_getElem htype), ok_bind] at herror
      cases herror

-- The state after cache_metadata().
def with_metadata (s : Obj MariaResultPrep) (spec : MYSQL_RES) : Obj MariaResultPrep :=
  { s with
    warnings := s.warnings ++ spec.fields.filterMap fun field => unrecognized_field_type field.type
    self := { s.self with
      nCols_ := spec.fields.length
      names_ := s.self.names_ ++ spec.fields.map MYSQL_FIELD.name
      types_ := s.self.types_ ++ spec.fields.map field_type } }

theorem cache_metadata_run {s : Obj MariaResultPrep} {spec : MYSQL_RES}
    (hspec : spec.id ∈ s.mysql.metas) :
    (cache_metadata spec).run s = .ok () (with_metadata s spec) := by
  simp [cache_metadata, mysql_fetch_fields, hspec, with_metadata]

end Described

end RMariaDB.MariaResultPrep
