import Mathlib.Algebra.Order.Field.Rat
import Mathlib.Data.Rat.Floor
import RMariaDB.Lib.Rounding

-- C arithmetic on 32-bit int and unsigned int, and on doubles. Every operation gives
-- the mathematical result first and says afterwards what becomes of a result that
-- does not fit its type.

namespace CArith

def InInt (x : ℤ) : Prop := -2147483648 ≤ x ∧ x ≤ 2147483647

def InUnsigned (x : ℤ) : Prop := 0 ≤ x ∧ x ≤ 4294967295

instance : DecidablePred InInt := fun _ => inferInstanceAs (Decidable (_ ∧ _))

instance : DecidablePred InUnsigned := fun _ => inferInstanceAs (Decidable (_ ∧ _))

structure Arith where
  int : ℤ → Option ℤ
  unsigned : ℤ → Option ℤ
  double : ℚ → ℚ

def fits (p : ℤ → Prop) [DecidablePred p] (x : ℤ) : Option ℤ := if p x then some x else none

-- Signed overflow is undefined, unsigned arithmetic wraps, doubles are rounded. They are
-- made integers afterwards, which is undefined long before they overflow.
def machine : Arith :=
  ⟨fits InInt, fun x => some (x % 4294967296), Floating.round Floating.double⟩

-- Neither signed nor unsigned arithmetic may leave its range.
def exact : Arith := ⟨fits InInt, fits InUnsigned, Floating.round Floating.double⟩

-- The doubles are exact numbers.
def ideal : Arith := ⟨fits InInt, fun x => some (x % 4294967296), id⟩

@[simp] theorem fits_of {p : ℤ → Prop} [DecidablePred p] {x : ℤ} (h : p x) : fits p x = some x :=
  if_pos h

theorem machine_unsigned_of {x : ℤ} (h : InUnsigned x) : machine.unsigned x = some x := by
  obtain ⟨h0, h1⟩ := h
  simp only [machine, Option.some.injEq]
  omega

-- The two arithmetics that a translated function may be run in, told apart only
-- by what they do outside the ranges.
def Agrees (c : Arith) : Prop :=
  c.int = fits InInt ∧ ∀ x, InUnsigned x → c.unsigned x = some x

theorem machine_agrees : Agrees machine := ⟨rfl, fun _ => machine_unsigned_of⟩

theorem exact_agrees : Agrees exact := ⟨rfl, fun _ => fits_of⟩

theorem ideal_agrees : Agrees ideal := ⟨rfl, fun _ => machine_unsigned_of⟩

theorem Agrees.int {c : Arith} (h : Agrees c) {x : ℤ} (hx : InInt x) : c.int x = some x := by
  rw [h.1]
  exact fits_of hx

theorem Agrees.unsigned {c : Arith} (h : Agrees c) {x : ℤ} (hx : InUnsigned x) :
    c.unsigned x = some x := h.2 x hx

-- The same with the bounds apart, as a simplification procedure discharges them.
theorem Agrees.int_eq {c : Arith} (h : Agrees c) {x : ℤ} (h0 : -2147483648 ≤ x)
    (h1 : x ≤ 2147483647) : c.int x = some x := h.int ⟨h0, h1⟩

theorem Agrees.unsigned_eq {c : Arith} (h : Agrees c) {x : ℤ} (h0 : 0 ≤ x)
    (h1 : x ≤ 4294967295) : c.unsigned x = some x := h.unsigned ⟨h0, h1⟩

-- One step of a computation that cannot leave its range. As a rewrite rule that is
-- tried before the rest of the computation is looked at, it runs it step by step.
theorem bind_step {α β : Type} {x : Option α} {a : α} (h : x = some a) (f : α → Option β) :
    (x >>= f) = f a := by
  rw [h]
  rfl

-- Truncated division of a shifted negative dividend is flooring division.
theorem tdiv_shift (a b : ℤ) (hb : 0 < b) :
    (if 0 ≤ a then a else a - (b - 1)).tdiv b = a / b := by
  split
  · exact Int.tdiv_eq_ediv_of_nonneg ‹_›
  · rename_i ha
    have hneg : a - (b - 1) = -(b - 1 - a) := by omega
    rw [hneg, Int.neg_tdiv, Int.tdiv_eq_ediv_of_nonneg (by omega)]
    have hq := Int.mul_ediv_add_emod a b
    have hr := Int.emod_nonneg a hb.ne'
    have hl := Int.emod_lt_of_pos a hb
    have hd : b - 1 - a = (b - 1 - a % b) + b * (-(a / b)) := by
      rw [Int.mul_neg]
      omega
    rw [hd, Int.add_mul_ediv_left _ _ hb.ne', Int.ediv_eq_zero_of_lt (by omega) (by omega)]
    omega

-- The C functions floor and trunc on an exact number, as integers.
def floor (x : ℚ) : ℤ := ⌊x⌋

def trunc (x : ℚ) : ℤ := if 0 ≤ x then ⌊x⌋ else ⌈x⌉

@[simp] theorem trunc_intCast (n : ℤ) : trunc (n : ℚ) = n := by
  unfold trunc
  split
  · exact Int.floor_intCast n
  · exact Int.ceil_intCast n

theorem trunc_of_nonneg {x : ℚ} (h : 0 ≤ x) : trunc x = ⌊x⌋ := if_pos h

open Floating

theorem machine_rounds : Rounds 53 machine.double := rounds_round double

theorem exact_rounds : Rounds 53 exact.double := rounds_round double

@[simp] theorem ideal_double (x : ℚ) : ideal.double x = x := rfl

theorem ideal_rounds : Rounds 53 ideal.double := rounds_id 53

end CArith
