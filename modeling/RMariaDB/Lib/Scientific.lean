import Mathlib.Algebra.Order.Field.Rat
import Mathlib.Data.Int.Log
import Mathlib.Data.Rat.Floor
import Mathlib.Tactic.FieldSimp
import RMariaDB.Lib.Decimal

-- Numbers in scientific notation, as printf() writes them for %.kE.

namespace Scientific

open Decimal

section Writing

-- The nearest integer, the even one of two
def round_even (x : ℚ) : ℤ :=
  let r := x - ⌊x⌋
  if r < 1 / 2 ∨ r = 1 / 2 ∧ ⌊x⌋ % 2 = 0 then ⌊x⌋ else ⌊x⌋ + 1

-- The k + 1 leading digits as a number, and the exponent of the first of them
def significand (k : Nat) (q : ℚ) : Nat × ℤ :=
  if q = 0 then (0, 0)
  else
    let e := Int.log 10 |q|
    let m := (round_even (|q| * 10 ^ ((k : ℤ) - e))).toNat
    if m < 10 ^ (k + 1) then (m, e) else (10 ^ k, e + 1)

def point : UInt8 := 46

def E : UInt8 := 69

def exponent (e : ℤ) : List UInt8 := (if e < 0 then 45 else 43) :: padded 2 e.natAbs

def unsigned (k m : Nat) (e : ℤ) : List UInt8 :=
  decimal (m / 10 ^ k) ++ point :: padded k (m % 10 ^ k) ++ E :: exponent e

-- %.kE for a positive k
def format (k : Nat) (q : ℚ) : List UInt8 :=
  let (m, e) := significand k q
  if q < 0 then 45 :: unsigned k m e else unsigned k m e

end Writing

section Reading

def digits (s : List UInt8) : Option Nat :=
  if s ≠ [] ∧ s.all (fun b => IsDigit b) then some (number s) else none

def mantissa (s : List UInt8) : Option ℚ :=
  match s.splitOn point with
  | [a] => (digits a).map fun n : Nat => (n : ℚ)
  | [a, b] => do
      let n ← digits a
      let f ← digits b
      pure ((n : ℚ) + f / 10 ^ b.length)
  | _ => none

def exponent_value : List UInt8 → Option ℤ
  | 45 :: s => (digits s).map fun n : Nat => -(n : ℤ)
  | 43 :: s => (digits s).map fun n : Nat => (n : ℤ)
  | s => (digits s).map fun n : Nat => (n : ℤ)

def positive (s : List UInt8) : Option ℚ :=
  match s.splitOn E with
  | [m] => mantissa m
  | [m, e] => do
      let m ← mantissa m
      let e ← exponent_value e
      pure (m * 10 ^ e)
  | _ => none

def numeral : List UInt8 → Option ℚ
  | 45 :: s => (positive s).map fun x => -x
  | s => positive s

end Reading

section Texts

theorem digits_eq {s : List UInt8} (hne : s ≠ []) (h : ∀ b ∈ s, IsDigit b) :
    digits s = some (number s) :=
  if_pos ⟨hne, List.all_eq_true.mpr fun b hb => decide_eq_true (h b hb)⟩

theorem not_mem_digits {s : List UInt8} {b : UInt8} (h : ∀ c ∈ s, IsDigit c) (hb : ¬IsDigit b) :
    b ∉ s := fun hmem => hb (h b hmem)

theorem splitOn_pair {a : UInt8} {s t : List UInt8} (hs : a ∉ s) (ht : a ∉ t) :
    (s ++ a :: t).splitOn a = [s, t] := by
  rw [List.splitOn_append_cons_self_of_not_mem hs, List.splitOn_eq_singleton ht]

theorem digits_decimal (n : Nat) : digits (decimal n) = some n := by
  rw [digits_eq (decimal_ne_nil n) (isDigit_decimal n), number_decimal]

theorem padded_ne_nil (w n : Nat) : padded w n ≠ [] :=
  List.append_ne_nil_of_right_ne_nil _ (decimal_ne_nil n)

theorem digits_padded (w n : Nat) : digits (padded w n) = some n := by
  rw [digits_eq (padded_ne_nil w n) (isDigit_padded w n), number_padded]

theorem exponent_value_exponent (e : ℤ) : exponent_value (exponent e) = some e := by
  rw [exponent]
  split
  · rw [exponent_value, digits_padded, Option.map_some]
    congr 1
    omega
  · rw [exponent_value, digits_padded, Option.map_some]
    congr 1
    omega

theorem exponent_no_E (e : ℤ) : E ∉ exponent e := by
  intro hmem
  rcases List.mem_cons.mp hmem with hsign | hdigit
  · revert hsign
    split <;> decide
  · exact not_mem_digits (isDigit_padded 2 _) (by decide) hdigit

theorem mantissa_unsigned {k : Nat} (hk : 0 < k) (m : Nat) :
    mantissa (decimal (m / 10 ^ k) ++ point :: padded k (m % 10 ^ k)) =
      some ((m : ℚ) / 10 ^ k) := by
  have hsplit := splitOn_pair (a := point) (not_mem_digits (isDigit_decimal (m / 10 ^ k)) (by decide))
    (not_mem_digits (isDigit_padded k (m % 10 ^ k)) (by decide))
  have hlength : (padded k (m % 10 ^ k)).length = k :=
    length_padded hk (Nat.mod_lt _ (by positivity))
  have hvalue : (((m / 10 ^ k : Nat) : ℚ)) + ((m % 10 ^ k : Nat) : ℚ) / 10 ^ k = (m : ℚ) / 10 ^ k := by
    have hm : (m : ℚ) = 10 ^ k * ((m / 10 ^ k : Nat) : ℚ) + ((m % 10 ^ k : Nat) : ℚ) := by
      exact_mod_cast (Nat.div_add_mod m (10 ^ k)).symm
    rw [hm]
    field_simp
  rw [mantissa, hsplit]
  simp only [digits_decimal, digits_padded, hlength, Option.bind_eq_bind, Option.bind_some,
    Option.pure_def, hvalue]

theorem positive_unsigned {k : Nat} (hk : 0 < k) (m : Nat) (e : ℤ) :
    positive (unsigned k m e) = some ((m : ℚ) / 10 ^ k * 10 ^ e) := by
  have hno : E ∉ decimal (m / 10 ^ k) ++ point :: padded k (m % 10 ^ k) := by
    intro hmem
    rcases List.mem_append.mp hmem with hmem | hmem
    · exact not_mem_digits (isDigit_decimal _) (by decide) hmem
    · rcases List.mem_cons.mp hmem with hpoint | hmem
      · revert hpoint
        decide
      · exact not_mem_digits (isDigit_padded k _) (by decide) hmem
  rw [unsigned, positive, splitOn_pair hno (exponent_no_E e)]
  simp only [mantissa_unsigned hk, exponent_value_exponent, Option.bind_eq_bind, Option.bind_some,
    Option.pure_def]

theorem unsigned_head (k m : Nat) (e : ℤ) : (unsigned k m e).head? ≠ some 45 := by
  obtain ⟨b, s, hbs⟩ := List.exists_cons_of_ne_nil (decimal_ne_nil (m / 10 ^ k))
  have hdigit : IsDigit b := isDigit_decimal (m / 10 ^ k) b (by rw [hbs]; exact List.mem_cons_self)
  rw [unsigned, hbs, List.cons_append, List.cons_append, List.head?_cons, Ne, Option.some.injEq]
  rintro rfl
  revert hdigit
  decide

theorem numeral_of_head {s : List UInt8} (h : s.head? ≠ some 45) : numeral s = positive s := by
  unfold numeral
  split
  · exact absurd rfl h
  · rfl

-- The text denotes its significand.
theorem numeral_format {k : Nat} (hk : 0 < k) (q : ℚ) :
    numeral (format k q) = some ((if q < 0 then -1 else 1) *
      (((significand k q).1 : ℚ) / 10 ^ k * 10 ^ (significand k q).2)) := by
  rw [format]
  obtain ⟨m, e⟩ := significand k q
  dsimp only
  split
  · rw [numeral, positive_unsigned hk, Option.map_some]
    congr 1
    ring
  · rw [numeral_of_head (unsigned_head k m e), positive_unsigned hk, one_mul]

-- Digits without a point and an exponent
theorem numeral_signed (v : ℤ) : numeral (signed v) = some (v : ℚ) := by
  have hplain (n : Nat) : positive (decimal n) = some (n : ℚ) := by
    have hE := not_mem_digits (isDigit_decimal n) (b := E) (by decide)
    have hpoint := not_mem_digits (isDigit_decimal n) (b := point) (by decide)
    rw [positive, List.splitOn_eq_singleton hE]
    simp only [mantissa, List.splitOn_eq_singleton hpoint, digits_decimal, Option.map_some]
  rw [signed]
  split
  · rw [numeral, hplain, Option.map_some]
    congr 1
    have habs : ((v.natAbs : ℤ) : ℚ) = ((-v : ℤ) : ℚ) := by
      congr 1
      omega
    rw [Int.cast_natCast] at habs
    rw [habs]
    push_cast
    ring
  · rw [numeral_of_head (head_ne_sign (isDigit_decimal _)), hplain]
    congr 1
    have habs : ((v.natAbs : ℤ) : ℚ) = ((v : ℤ) : ℚ) := by
      congr 1
      omega
    rwa [Int.cast_natCast] at habs

end Texts

section Rounding

theorem round_even_close (x : ℚ) : |(round_even x : ℚ) - x| ≤ 1 / 2 := by
  have hle := Int.floor_le x
  have hlt := Int.lt_floor_add_one x
  rw [round_even, abs_le]
  split
  · rename_i h
    constructor
    · rcases h with h | h <;> linarith
    · linarith
  · rename_i h
    rw [not_or] at h
    push_cast
    constructor
    · linarith
    · linarith [not_lt.mp h.1]

theorem le_round_even {n : ℤ} {x : ℚ} (h : (n : ℚ) ≤ x) : n ≤ round_even x := by
  have hfloor : n ≤ ⌊x⌋ := Int.le_floor.mpr h
  rw [round_even]
  split <;> omega

theorem round_even_le {n : ℤ} {x : ℚ} (h : x < n) : round_even x ≤ n := by
  have hfloor : ⌊x⌋ < n := Int.floor_lt.mpr h
  rw [round_even]
  split <;> omega

theorem significand_eq (k : Nat) {q : ℚ} (hq : q ≠ 0) :
    ((significand k q).1 : ℚ) / 10 ^ k * 10 ^ (significand k q).2 =
      round_even (|q| * 10 ^ ((k : ℤ) - Int.log 10 |q|)) / 10 ^ k * 10 ^ Int.log 10 |q| := by
  have hpos : 0 < |q| := abs_pos.mpr hq
  have hlow := Int.zpow_log_le_self (R := ℚ) (b := 10) (by decide) hpos
  have hhigh := Int.lt_zpow_succ_log_self (R := ℚ) (b := 10) (by decide) |q|
  rw [significand, if_neg hq]
  dsimp only
  push_cast at hlow hhigh
  generalize Int.log 10 |q| = e at *
  have hscale : (0 : ℚ) < 10 ^ ((k : ℤ) - e) := zpow_pos (by norm_num) _
  have hten : (10 : ℚ) ≠ 0 := by norm_num
  have hx0 : (((10 ^ k : ℤ)) : ℚ) ≤ |q| * 10 ^ ((k : ℤ) - e) := by
    have h := mul_le_mul_of_nonneg_right hlow hscale.le
    rw [← zpow_add₀ hten, add_sub_cancel, zpow_natCast] at h
    exact_mod_cast h
  have hx1 : |q| * 10 ^ ((k : ℤ) - e) < ((10 ^ (k + 1) : ℤ) : ℚ) := by
    have h := mul_lt_mul_of_pos_right hhigh hscale
    have hexp : e + 1 + ((k : ℤ) - e) = ((k + 1 : ℕ) : ℤ) := by push_cast; ring
    rw [← zpow_add₀ hten, hexp, zpow_natCast] at h
    exact_mod_cast h
  have hlo := le_round_even hx0
  have hhi := round_even_le hx1
  generalize round_even (|q| * 10 ^ ((k : ℤ) - e)) = r at *
  have hk : (0 : ℤ) < 10 ^ k := by positivity
  have hcast : ((r.toNat : ℕ) : ℚ) = r := by
    have hr : ((r.toNat : ℕ) : ℤ) = r := Int.toNat_of_nonneg (hk.le.trans hlo)
    exact_mod_cast congrArg (Int.cast : ℤ → ℚ) hr
  split
  · rw [hcast]
  · rename_i hnot
    have hr : r = 10 ^ (k + 1) := by
      have hge : ((10 ^ (k + 1) : ℕ) : ℤ) ≤ r.toNat := by exact_mod_cast not_lt.mp hnot
      rw [Int.toNat_of_nonneg (hk.le.trans hlo)] at hge
      push_cast at hge
      omega
    dsimp only
    rw [hr, zpow_add₀ hten, zpow_one]
    push_cast
    field_simp
    exact (pow_succ 10 k).symm

-- Half a unit of the last digit is the most that is lost.
theorem format_close (k : Nat) {q : ℚ} (hq : q ≠ 0) :
    2 * 10 ^ k * |(if q < 0 then -1 else 1) *
      (((significand k q).1 : ℚ) / 10 ^ k * 10 ^ (significand k q).2) - q| ≤ |q| := by
  have hpos : 0 < |q| := abs_pos.mpr hq
  have hlow := Int.zpow_log_le_self (R := ℚ) (b := 10) (by decide) hpos
  push_cast at hlow
  rw [significand_eq k hq]
  have hclose := round_even_close (|q| * 10 ^ ((k : ℤ) - Int.log 10 |q|))
  generalize Int.log 10 |q| = e at *
  generalize round_even (|q| * 10 ^ ((k : ℤ) - e)) = r at *
  have hten : (10 : ℚ) ≠ 0 := by norm_num
  have he : (0 : ℚ) < 10 ^ e := zpow_pos (by norm_num) e
  have hk : (0 : ℚ) < 10 ^ k := by positivity
  have hscale : (10 : ℚ) ^ ((k : ℤ) - e) = 10 ^ k / 10 ^ e := by
    rw [zpow_sub₀ hten, zpow_natCast]
  rw [hscale] at hclose
  have hsign : |(if q < 0 then -1 else 1) * ((r : ℚ) / 10 ^ k * 10 ^ e) - q| =
      |(r : ℚ) / 10 ^ k * 10 ^ e - (|q|)| := by
    split
    · rename_i hneg
      rw [abs_of_neg hneg, ← abs_neg]
      congr 1
      ring
    · rename_i hnonneg
      rw [abs_of_nonneg (not_lt.mp hnonneg), one_mul]
  have hfactor : (r : ℚ) / 10 ^ k * 10 ^ e - |q| =
      ((r : ℚ) - |q| * (10 ^ k / 10 ^ e)) * (10 ^ e / 10 ^ k) := by
    field_simp
  rw [hsign, hfactor, abs_mul, abs_of_pos (div_pos he hk)]
  calc 2 * 10 ^ k * (|(r : ℚ) - |q| * (10 ^ k / 10 ^ e)| * (10 ^ e / 10 ^ k))
      = 2 * |(r : ℚ) - |q| * (10 ^ k / 10 ^ e)| * 10 ^ e := by field_simp
    _ ≤ 2 * (1 / 2) * 10 ^ e := by
        apply mul_le_mul_of_nonneg_right _ he.le
        linarith
    _ = 10 ^ e := by ring
    _ ≤ |q| := hlow

end Rounding

end Scientific
