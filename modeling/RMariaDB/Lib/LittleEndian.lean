import Mathlib.Algebra.Order.Ring.Int
import Mathlib.Tactic.Linarith

-- Integers in a fixed number of bytes, least significant byte first.

namespace LittleEndian

-- v modulo 256^n
def encode : Nat → ℤ → List UInt8
  | 0, _ => []
  | n + 1, v => UInt8.ofNat (v % 256).toNat :: encode n (v / 256)

def decode : List UInt8 → Nat
  | [] => 0
  | b :: bytes => b.toNat + 256 * decode bytes

-- An n-byte number read as two's complement.
def signed (n v : Nat) : ℤ := if 2 * (v : ℤ) < 256 ^ n then v else v - 256 ^ n

@[simp] theorem length_encode (n : Nat) (v : ℤ) : (encode n v).length = n := by
  induction n generalizing v with
  | zero => rfl
  | succ n ih => rw [encode, List.length_cons, ih]

theorem decode_encode (n : Nat) (v : ℤ) : (decode (encode n v) : ℤ) = v % 256 ^ n := by
  induction n generalizing v with
  | zero => simp [encode, decode]
  | succ n ih =>
      have hbyte : ((UInt8.ofNat (v % 256).toNat).toNat : ℤ) = v % 256 := by
        rw [UInt8.toNat_ofNat']
        omega
      have hsplit : v % 256 ^ (n + 1) = v % 256 + 256 * (v / 256 % 256 ^ n) := by
        rw [pow_succ']
        have hq := Int.mul_ediv_add_emod v 256
        have hr := Int.mul_ediv_add_emod (v / 256) (256 ^ n)
        have hd := Int.mul_ediv_add_emod v (256 * 256 ^ n)
        rw [← Int.ediv_ediv_of_nonneg (by decide)] at hd
        linarith
      rw [encode, decode, hsplit, ← ih]
      push_cast
      rw [hbyte]

theorem signed_of_lt {n v : Nat} (h : 2 * (v : ℤ) < 256 ^ n) : signed n v = v := if_pos h

theorem signed_of_le {n v : Nat} (h : (256 : ℤ) ^ n ≤ 2 * v) : signed n v = v - 256 ^ n :=
  if_neg (not_lt.mpr h)

-- Reading back what fits.
theorem signed_decode_encode {n : Nat} {v : ℤ} (h0 : -(256 ^ n) ≤ 2 * v) (h1 : 2 * v < 256 ^ n) :
    signed n (decode (encode n v)) = v := by
  by_cases hneg : v < 0
  · have hmod : v % 256 ^ n = v + 256 ^ n := by
      rw [← Int.add_emod_right]
      exact Int.emod_eq_of_lt (by omega) (by omega)
    rw [signed_of_le (by rw [decode_encode, hmod]; omega), decode_encode, hmod]
    omega
  · have hmod : v % 256 ^ n = v := Int.emod_eq_of_lt (by omega) (by omega)
    rw [signed_of_lt (by rw [decode_encode, hmod]; omega), decode_encode, hmod]

-- A number of n bytes that is too large for a signed one comes back lowered.
theorem signed_decode_encode_wrap {n : Nat} {v : ℤ} (h0 : 256 ^ n ≤ 2 * v) (h1 : v < 256 ^ n) :
    signed n (decode (encode n v)) = v - 256 ^ n := by
  have hpos : (0 : ℤ) < 256 ^ n := pow_pos (by decide) n
  have hmod : v % 256 ^ n = v := Int.emod_eq_of_lt (by omega) h1
  rw [signed_of_le (by rw [decode_encode, hmod]; omega), decode_encode, hmod]

end LittleEndian
