import Mathlib.Data.Rat.Floor
import RMariaDB.Lib.Program

-- The R values that cross into the compiled code, and the ways a call can end.

namespace RMariaDB

abbrev Bytes := List UInt8

def NA_INTEGER : ℤ := -2147483648

def NA_LOGICAL : ℤ := NA_INTEGER

def NA_INTEGER64 : ℤ := -9223372036854775808

-- A double: an exact number or one of the special values.
inductive Double where
  | finite (q : ℚ)
  | NA
  | NaN
  | Inf
  | NegInf
deriving DecidableEq, Repr

-- ISNA() is true for NA alone, ISNAN() for NA and NaN.
def ISNA (x : Double) : Bool := x = .NA

def ISNAN (x : Double) : Bool := x = .NA ∨ x = .NaN

-- One cell of a REALSXP. Its eight bytes are read by REAL() as a double and by
-- INTEGER64() as an int64_t.
structure RealCell where
  real : Double
  int64 : ℤ := 0
deriving DecidableEq, Repr

inductive VecElt where
  | RAWSXP (bytes : Bytes)
  | NILSXP
  | other (type : String)
deriving DecidableEq, Repr

-- An R vector with its class attribute.
inductive SEXP where
  | LGLSXP (klass : List String) (x : List ℤ)
  | INTSXP (klass : List String) (x : List ℤ)
  | REALSXP (klass : List String) (x : List RealCell)
  | STRSXP (klass : List String) (x : List (Option Bytes))
  | VECSXP (klass : List String) (x : List VecElt)
  | other (type : String) (klass : List String) (length : Nat)
deriving DecidableEq, Repr

namespace SEXP

def klass : SEXP → List String
  | LGLSXP k _ | INTSXP k _ | REALSXP k _ | STRSXP k _ | VECSXP k _ | other _ k _ => k

def xlength : SEXP → Nat
  | LGLSXP _ x | INTSXP _ x => x.length
  | REALSXP _ x => x.length
  | STRSXP _ x => x.length
  | VECSXP _ x => x.length
  | other _ _ n => n

def typeName : SEXP → String
  | LGLSXP _ _ => "logical"
  | INTSXP _ _ => "integer"
  | REALSXP _ _ => "double"
  | STRSXP _ _ => "character"
  | VECSXP _ _ => "list"
  | other type _ _ => type

end SEXP

-- Undefined behaviour, by its kind: a libmysql call on a handle that is not
-- open, an access outside a vector, an arithmetic result that its C type cannot
-- hold.
inductive Fault where
  | handle
  | memory
  | arithmetic
deriving DecidableEq, Repr

inductive Exc where
  | stop (message : String)
  | unsupportedPS
  | interrupt
  | fault (kind : Fault)
  -- not an outcome of the program: a loop was given too small a bound
  | outOfFuel
deriving DecidableEq, Repr

-- After undefined behaviour there is no next operation.
def Exc.Ends : Exc → Bool
  | fault _ | outOfFuel => true
  | _ => false

-- The state that a call leaves.
def after {σ α : Type} (m : EStateM Exc σ α) (s : σ) : Option σ :=
  match m.run s with
  | .ok _ t => some t
  | .error e t => if e.Ends then none else some t

section After

variable {σ α β : Type} {m : EStateM Exc σ α} {f : α → EStateM Exc σ β} {s t u : σ}

theorem after_bind_ok {a : α} (h : m.run s = .ok a t) : after (m >>= f) s = after (f a) t := by
  simp only [after, Program.run_bind_ok h]

theorem after_error {e : Exc} (h : m.run s = .error e t) (hafter : after m s = some u) :
    e.Ends = false ∧ u = t := by
  simp only [after, h, Option.ite_none_left_eq_some, Option.some.injEq] at hafter
  exact ⟨Bool.not_eq_true _ ▸ hafter.1, hafter.2.symm⟩

end After

-- x[i] on a vector of the compiled code.
def index {α : Type} (x : List α) (i : Nat) : Except Exc α :=
  match x[i]? with
  | some a => pure a
  | none => throw (.fault .memory)

theorem index_eq_ok {α : Type} {x : List α} {i : Nat} {a : α} (h : x[i]? = some a) :
    index x i = .ok a := by
  simp only [index, h]
  rfl

theorem index_eq_ok_iff {α : Type} {x : List α} {i : Nat} {a : α} :
    index x i = .ok a ↔ x[i]? = some a := by
  constructor
  · intro h
    unfold index at h
    split at h
    · cases h
      assumption
    · cases h
  · exact index_eq_ok

def ofOption {α : Type} (kind : Fault) : Option α → Except Exc α
  | some a => pure a
  | none => throw (.fault kind)

section Readers

variable {α : Type}

-- The accessors of R check the type of their argument and raise an R error; the
-- element is then read through the pointer that they return.
def notApplicable (accessor expected actual : String) : Except Exc α :=
  throw (.stop (accessor ++ "() can only be applied to a '" ++ expected ++ "', not a '" ++
    actual ++ "'"))

def LOGICAL (x : SEXP) (i : Nat) : Except Exc ℤ :=
  match x with
  | .LGLSXP _ v | .INTSXP _ v => index v i
  | _ => notApplicable "LOGICAL" "logical" x.typeName

def INTEGER (x : SEXP) (i : Nat) : Except Exc ℤ :=
  match x with
  | .LGLSXP _ v | .INTSXP _ v => index v i
  | _ => notApplicable "INTEGER" "integer" x.typeName

def REAL (x : SEXP) (i : Nat) : Except Exc Double :=
  match x with
  | .REALSXP _ v => RealCell.real <$> index v i
  | _ => notApplicable "REAL" "numeric" x.typeName

def INTEGER64 (x : SEXP) (i : Nat) : Except Exc ℤ :=
  match x with
  | .REALSXP _ v => RealCell.int64 <$> index v i
  | _ => notApplicable "REAL" "numeric" x.typeName

def STRING_ELT (x : SEXP) (i : Nat) : Except Exc (Option Bytes) :=
  match x with
  | .STRSXP _ v => index v i
  | _ => notApplicable "STRING_ELT" "character vector" x.typeName

def VECTOR_ELT (x : SEXP) (i : Nat) : Except Exc VecElt :=
  match x with
  | .VECSXP _ v => index v i
  | _ => notApplicable "VECTOR_ELT" "list" x.typeName

def RAW (x : VecElt) : Except Exc Bytes :=
  match x with
  | .RAWSXP b => pure b
  | .NILSXP => notApplicable "RAW" "raw" "NULL"
  | .other type => notApplicable "RAW" "raw" type

end Readers

section Plain

variable {α β : Type}

-- A computation that has no loop and calls no library.
def Plain (x : Except Exc α) : Prop :=
  ∀ e, x = .error e → e ≠ .outOfFuel ∧ e ≠ .fault .handle

theorem Plain.ok (a : α) : Plain (.ok a) := fun _ h => by cases h

theorem Plain.stop (message : String) : Plain (.error (.stop message) : Except Exc α) := by
  intro e h
  cases h
  exact ⟨by simp, by simp⟩

theorem Plain.memory : Plain (.error (.fault .memory) : Except Exc α) := by
  intro e h
  cases h
  exact ⟨by simp, by simp⟩

theorem Plain.arithmetic : Plain (.error (.fault .arithmetic) : Except Exc α) := by
  intro e h
  cases h
  exact ⟨by simp, by simp⟩

theorem Plain.bind {x : Except Exc α} {f : α → Except Exc β} (hx : Plain x)
    (hf : ∀ a, Plain (f a)) : Plain (x >>= f) := by
  cases x with
  | ok a => exact hf a
  | error e =>
      intro e' h
      cases h
      exact hx e rfl

theorem Plain.map {x : Except Exc α} (hx : Plain x) (f : α → β) : Plain (f <$> x) := by
  cases x with
  | ok a => exact Plain.ok _
  | error e =>
      intro e' h
      cases h
      exact hx e rfl

theorem Plain.mapM {xs : List α} {f : α → Except Exc β} (hf : ∀ x ∈ xs, Plain (f x)) :
    Plain (xs.mapM f) := by
  intro e h
  obtain ⟨x, hmem, hx⟩ := Program.of_mapM_eq_error h
  exact hf x hmem e hx

theorem Plain.ite {c : Prop} [Decidable c] {x y : Except Exc α} (hx : Plain x) (hy : Plain y) :
    Plain (if c then x else y) := by
  split
  · exact hx
  · exact hy

theorem index_plain (x : List α) (i : Nat) : Plain (index x i) := by
  unfold index
  split
  · exact Plain.ok _
  · exact Plain.memory

theorem ofOption_memory_plain (x : Option α) : Plain (ofOption .memory x) := by
  cases x with
  | none => exact Plain.memory
  | some a => exact Plain.ok a

theorem ofOption_arithmetic_plain (x : Option α) : Plain (ofOption .arithmetic x) := by
  cases x with
  | none => exact Plain.arithmetic
  | some a => exact Plain.ok a

theorem readers_plain (x : SEXP) (i : Nat) : Plain (LOGICAL x i) ∧ Plain (INTEGER x i) ∧
    Plain (REAL x i) ∧ Plain (INTEGER64 x i) ∧ Plain (STRING_ELT x i) ∧ Plain (VECTOR_ELT x i) := by
  refine ⟨?_, ?_, ?_, ?_, ?_, ?_⟩ <;> cases x <;>
    first | exact index_plain _ _ | exact (index_plain _ _).map _ | exact Plain.stop _

end Plain

end RMariaDB
