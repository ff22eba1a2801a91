import Mathlib.Data.Nat.Digits.Lemmas

-- Decimal numerals in ASCII.

namespace Decimal

def digit (n : Nat) : UInt8 := UInt8.ofNat (48 + n)

def IsDigit (b : UInt8) : Prop := 48 ≤ b.toNat ∧ b.toNat ≤ 57

instance : DecidablePred IsDigit := fun _ => inferInstanceAs (Decidable (_ ∧ _))

def decimal (n : Nat) : List UInt8 :=
  if n = 0 then [digit 0] else (Nat.digits 10 n).reverse.map digit

-- With leading zeros, to at least w digits.
def padded (w n : Nat) : List UInt8 :=
  List.replicate (w - (decimal n).length) (digit 0) ++ decimal n

def number (s : List UInt8) : Nat := Nat.ofDigits 10 (s.reverse.map fun b => b.toNat - 48)

theorem digit_toNat {n : Nat} (h : n < 10) : (digit n).toNat = 48 + n := by
  rw [digit, UInt8.toNat_ofNat']
  omega

theorem digit_value {n : Nat} (h : n < 10) : (digit n).toNat - 48 = n := by
  rw [digit_toNat h]
  omega

theorem isDigit_digit {n : Nat} (h : n < 10) : IsDigit (digit n) := by
  rw [IsDigit, digit_toNat h]
  omega

theorem isDigit_decimal (n : Nat) : ∀ b ∈ decimal n, IsDigit b := by
  intro b hb
  rw [decimal] at hb
  split at hb
  · rw [List.mem_singleton.mp hb]
    exact isDigit_digit (by decide)
  · obtain ⟨d, hd, rfl⟩ := List.mem_map.mp hb
    exact isDigit_digit (Nat.digits_lt_base (by decide) (List.mem_reverse.mp hd))

theorem isDigit_padded (w n : Nat) : ∀ b ∈ padded w n, IsDigit b := by
  intro b hb
  rcases List.mem_append.mp hb with hb | hb
  · rw [List.eq_of_mem_replicate hb]
    exact isDigit_digit (by decide)
  · exact isDigit_decimal n b hb

theorem decimal_ne_nil (n : Nat) : decimal n ≠ [] := by
  rw [decimal]
  split
  · exact List.cons_ne_nil _ _
  · rename_i h
    simp [Nat.digits_ne_nil_iff_ne_zero.mpr h]

theorem number_decimal (n : Nat) : number (decimal n) = n := by
  rw [decimal]
  split
  · rename_i h
    rw [h]
    rfl
  · have hvalues : (Nat.digits 10 n).map (fun d => (digit d).toNat - 48) = Nat.digits 10 n := by
      refine (List.map_congr_left fun d hd => ?_).trans (List.map_id _)
      exact digit_value (Nat.digits_lt_base (by decide) hd)
    rw [number, ← List.map_reverse, List.reverse_reverse, List.map_map, Function.comp_def, hvalues]
    exact Nat.ofDigits_digits 10 n

theorem number_zeros (k : Nat) (s : List UInt8) : number (List.replicate k (digit 0) ++ s) = number s := by
  have hzero : (digit 0).toNat - 48 = 0 := rfl
  rw [number, List.reverse_append, List.map_append, List.reverse_replicate, List.map_replicate, hzero]
  exact Nat.ofDigits_append_replicate_zero _

theorem number_padded (w n : Nat) : number (padded w n) = n := by
  rw [padded, number_zeros, number_decimal]

theorem length_decimal_le {w n : Nat} (hw : 0 < w) : (decimal n).length ≤ w ↔ n < 10 ^ w := by
  rw [decimal]
  split
  · rename_i hzero
    rw [hzero]
    exact iff_of_true hw (by positivity)
  · rw [List.length_map, List.length_reverse]
    exact Nat.digits_length_le_iff (by decide) n

theorem length_padded_iff {w n : Nat} (hw : 0 < w) : (padded w n).length = w ↔ n < 10 ^ w := by
  rw [← length_decimal_le hw, padded, List.length_append, List.length_replicate]
  omega

theorem length_padded {w n : Nat} (hw : 0 < w) (h : n < 10 ^ w) : (padded w n).length = w :=
  (length_padded_iff hw).mpr h

theorem length_padded_long {w k n : Nat} (hw : w ≤ k + 1) (hk : 0 < k) (hlow : 10 ^ k ≤ n)
    (hhigh : n < 10 ^ (k + 1)) : (padded w n).length = k + 1 := by
  have hmore : ¬(decimal n).length ≤ k := by
    rw [length_decimal_le hk]
    omega
  have hless : (decimal n).length ≤ k + 1 := (length_decimal_le (by omega)).mpr hhigh
  rw [padded, List.length_append, List.length_replicate]
  omega

theorem length_padded_le {w k n : Nat} (hw : w ≤ k) (hk : 0 < k) (h : n < 10 ^ k) :
    (padded w n).length ≤ k := by
  have hdecimal := (length_decimal_le hk).mpr h
  rw [padded, List.length_append, List.length_replicate]
  omega

-- A sign in front of the digits.
def signed (v : ℤ) : List UInt8 := if v < 0 then 45 :: decimal v.natAbs else decimal v.natAbs

def integer (s : List UInt8) : ℤ :=
  match s with
  | 45 :: s => -(number s : ℤ)
  | s => number s

theorem head_ne_sign {s : List UInt8} (h : ∀ b ∈ s, IsDigit b) : s.head? ≠ some 45 := by
  cases s with
  | nil => simp
  | cons b s =>
      intro hb
      have hdigit := h b List.mem_cons_self
      rw [List.head?_cons, Option.some.injEq] at hb
      rw [hb] at hdigit
      revert hdigit
      decide

theorem integer_of_digits {s : List UInt8} (h : ∀ b ∈ s, IsDigit b) : integer s = number s := by
  unfold integer
  split
  · exact absurd rfl (head_ne_sign h)
  · rfl

theorem integer_signed (v : ℤ) : integer (signed v) = v := by
  rw [signed]
  split
  · rw [integer, number_decimal]
    omega
  · rw [integer_of_digits (isDigit_decimal _), number_decimal]
    omega

end Decimal
