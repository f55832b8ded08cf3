import Mathlib.Algebra.Group.Nat.Defs
import Mathlib.Data.Nat.Notation
import Mathlib.Tactic.SplitIfs

namespace Mcproxy.Numeral

-- The number a row of bytes stands for, most significant byte first.
def decode (bytes : List UInt8) : ℕ := bytes.foldl (fun n b => 256 * n + b.toNat) 0

-- The lowest `count` bytes of a number, most significant byte first.
def encode : (count n : ℕ) → List UInt8
  | 0, _ => []
  | count + 1, n => UInt8.ofNat (n / 256 ^ count) :: encode count n

section Decode

theorem foldl_decode (bytes : List UInt8) (acc : ℕ) :
    bytes.foldl (fun n b => 256 * n + b.toNat) acc = acc * 256 ^ bytes.length + decode bytes := by
  unfold decode
  induction bytes generalizing acc with
  | nil => simp
  | cons b bytes ih =>
    simp only [List.foldl_cons, List.length_cons, Nat.pow_succ]
    rw [ih (256 * acc + b.toNat), ih (256 * 0 + b.toNat)]
    simp only [Nat.mul_zero, Nat.zero_add, Nat.add_mul]
    have hshift : 256 * acc * 256 ^ bytes.length = acc * (256 ^ bytes.length * 256) := by
      rw [Nat.mul_comm 256 acc, Nat.mul_assoc, Nat.mul_comm 256]
    omega

@[simp] theorem decode_nil : decode [] = 0 := rfl

theorem decode_cons (b : UInt8) (bytes : List UInt8) :
    decode (b :: bytes) = b.toNat * 256 ^ bytes.length + decode bytes := by
  rw [decode, List.foldl_cons, Nat.mul_zero, Nat.zero_add]
  exact foldl_decode bytes b.toNat

theorem decode_append (l r : List UInt8) :
    decode (l ++ r) = decode l * 256 ^ r.length + decode r := by
  rw [decode, List.foldl_append]
  exact foldl_decode r _

theorem decode_lt (bytes : List UInt8) : decode bytes < 256 ^ bytes.length := by
  induction bytes with
  | nil => simp
  | cons b bytes ih =>
    have hb := b.toNat_lt
    have hdigit : b.toNat * 256 ^ bytes.length ≤ 255 * 256 ^ bytes.length :=
      Nat.mul_le_mul_right _ (by omega)
    rw [decode_cons, List.length_cons, Nat.pow_succ]
    omega

end Decode

section Encode

@[simp] theorem length_encode (count n : ℕ) : (encode count n).length = count := by
  induction count with
  | zero => rfl
  | succ count ih => rw [encode, List.length_cons, ih]

theorem decode_encode (count n : ℕ) : decode (encode count n) = n % 256 ^ count := by
  induction count with
  | zero => simp [encode, Nat.mod_one]
  | succ count ih =>
    have hbyte : (UInt8.ofNat (n / 256 ^ count)).toNat = n / 256 ^ count % 256 :=
      UInt8.toNat_ofNat'
    rw [encode, decode_cons, length_encode, ih, hbyte, Nat.pow_succ, Nat.mod_mul, Nat.mul_comm,
      Nat.add_comm]

theorem decode_encode_of_lt {count n : ℕ} (h : n < 256 ^ count) : decode (encode count n) = n := by
  rw [decode_encode, Nat.mod_eq_of_lt h]

end Encode

section Order

-- The loop that looks for the first place where two rows of bytes differ.
def lexLt : List UInt8 → List UInt8 → Bool
  | a :: l, b :: r => if b < a then false else if a < b then true else lexLt l r
  | _, _ => false

-- Rows of the same length are ordered like the numbers they stand for.
theorem lexLt_iff {l r : List UInt8} (h : l.length = r.length) :
    lexLt l r = true ↔ decode l < decode r := by
  induction l generalizing r with
  | nil =>
    obtain rfl := List.length_eq_zero_iff.mp h.symm
    simp [lexLt]
  | cons a l ih =>
    cases r with
    | nil => cases h
    | cons b r =>
      have hlen : l.length = r.length := Nat.succ.inj h
      have hl := decode_lt l
      have hr := decode_lt r
      rw [lexLt, decode_cons, decode_cons, hlen]
      rw [hlen] at hl
      generalize 256 ^ r.length = m at *
      -- a larger first byte outweighs whatever follows
      have hmul : ∀ {x y : ℕ}, x < y → x * m + m ≤ y * m := by
        intro x y hxy
        rw [← Nat.succ_mul]
        exact Nat.mul_le_mul_right m hxy
      split_ifs with hba hab
      · have := hmul (UInt8.lt_iff_toNat_lt.mp hba)
        simp only [false_iff]
        omega
      · have := hmul (UInt8.lt_iff_toNat_lt.mp hab)
        simp only [true_iff]
        omega
      · have heq : a.toNat = b.toNat := by
          rw [UInt8.lt_iff_toNat_lt] at hba hab
          omega
        rw [ih hlen, heq]
        omega

end Order

end Mcproxy.Numeral
