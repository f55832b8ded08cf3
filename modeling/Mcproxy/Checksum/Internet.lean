import Mathlib.Algebra.GroupWithZero.Nat
import Mathlib.Data.Nat.Notation

namespace Mcproxy.Checksum

-- The two orders in which a word of 16 bits is read off two bytes.
def highFirst (a b : UInt8) : ℕ := 256 * a.toNat + b.toNat

def lowFirst (a b : UInt8) : ℕ := a.toNat + 256 * b.toNat

-- The words of a row of bytes; a last single byte is filled up with zero.
def words (word : UInt8 → UInt8 → ℕ) : List UInt8 → List ℕ
  | a :: b :: bytes => word a b :: words word bytes
  | [a] => [word a 0]
  | [] => []

-- One's complement addition: the carry is added at the other end.
def onesAdd (a b : ℕ) : ℕ := (a + b) % 65536 + (a + b) / 65536

def onesSum (l : List ℕ) : ℕ := l.foldl onesAdd 0

-- The check a receiver makes: the words, the checksum among them, add up to all ones.
def Verifies (bytes : List UInt8) : Prop := onesSum (words highFirst bytes) = 65535

section Words

variable {word : UInt8 → UInt8 → ℕ}

theorem words_append (word : UInt8 → UInt8 → ℕ) {l : List UInt8} (h : l.length % 2 = 0)
    (r : List UInt8) : words word (l ++ r) = words word l ++ words word r := by
  induction l using words.induct with
  | case1 a b bytes ih =>
    have hlen : bytes.length % 2 = 0 := by
      simp only [List.length_cons] at h
      omega
    rw [List.cons_append, List.cons_append, words, words, ih hlen, List.cons_append]
  | case2 a => simp at h
  | case3 => rfl

theorem forall_words_le {k : ℕ} (hword : ∀ a b, word a b ≤ k) (bytes : List UInt8) :
    ∀ x ∈ words word bytes, x ≤ k := by
  induction bytes using words.induct with
  | case1 a b bytes ih => exact List.forall_mem_cons.mpr ⟨hword a b, ih⟩
  | case2 a => exact List.forall_mem_singleton.mpr (hword a 0)
  | case3 => exact fun _ h => absurd h List.not_mem_nil

theorem length_words (bytes : List UInt8) :
    (words word bytes).length = (bytes.length + 1) / 2 := by
  induction bytes using words.induct with
  | case1 a b bytes ih =>
    simp only [words, List.length_cons, ih]
    omega
  | case2 a => simp [words]
  | case3 => simp [words]

theorem highFirst_le (a b : UInt8) : highFirst a b ≤ 65535 := by
  have ha := a.toNat_lt
  have hb := b.toNat_lt
  unfold highFirst
  omega

theorem lowFirst_le (a b : UInt8) : lowFirst a b ≤ 65535 := by
  have ha := a.toNat_lt
  have hb := b.toNat_lt
  unfold lowFirst
  omega

-- Swapping the bytes of a word multiplies it by 256, and so it does for their sum.
theorem sum_lowFirst_mod (bytes : List UInt8) :
    (words lowFirst bytes).sum % 65535 = 256 * (words highFirst bytes).sum % 65535 := by
  induction bytes using words.induct with
  | case1 a b bytes ih =>
    simp only [words, List.sum_cons, lowFirst, highFirst]
    omega
  | case2 a =>
    simp only [words, List.sum_cons, List.sum_nil, lowFirst, highFirst, UInt8.toNat_zero]
    omega
  | case3 => rfl

end Words

section Sum

theorem onesAdd_mod (a b : ℕ) : onesAdd a b % 65535 = (a + b) % 65535 := by
  unfold onesAdd
  omega

theorem onesAdd_le {a b : ℕ} (ha : a ≤ 65535) (hb : b ≤ 65535) : onesAdd a b ≤ 65535 := by
  unfold onesAdd
  omega

theorem onesAdd_pos_iff {a b : ℕ} : 0 < onesAdd a b ↔ 0 < a + b := by
  unfold onesAdd
  omega

-- A sum of words is one of them again, and differs from the plain sum by a multiple of 65535.
theorem foldl_onesAdd {l : List ℕ} (hl : ∀ x ∈ l, x ≤ 65535) {acc : ℕ} (hacc : acc ≤ 65535) :
    l.foldl onesAdd acc ≤ 65535 ∧ l.foldl onesAdd acc % 65535 = (acc + l.sum) % 65535 ∧
      (0 < l.foldl onesAdd acc ↔ 0 < acc + l.sum) := by
  induction l generalizing acc with
  | nil => simp [hacc]
  | cons x l ih =>
    obtain ⟨hx, hl⟩ := List.forall_mem_cons.mp hl
    obtain ⟨hle, hmod, hpos⟩ := ih hl (onesAdd_le hacc hx)
    have hadd := onesAdd_mod acc x
    have haddpos : 0 < onesAdd acc x ↔ 0 < acc + x := onesAdd_pos_iff
    simp only [List.foldl_cons, List.sum_cons]
    refine ⟨hle, ?_, ?_⟩
    · rw [hmod]
      omega
    · rw [hpos]
      omega

theorem onesSum_eq_iff {l : List ℕ} (hl : ∀ x ∈ l, x ≤ 65535) :
    onesSum l = 65535 ↔ l.sum % 65535 = 0 ∧ 0 < l.sum := by
  obtain ⟨hle, hmod, hpos⟩ := foldl_onesAdd hl (Nat.zero_le 65535)
  unfold onesSum
  rw [Nat.zero_add] at hmod hpos
  omega

theorem verifies_iff (bytes : List UInt8) :
    Verifies bytes ↔
      (words highFirst bytes).sum % 65535 = 0 ∧ 0 < (words highFirst bytes).sum :=
  onesSum_eq_iff (forall_words_le highFirst_le bytes)

-- The check can be made in either order of the bytes.
theorem verifies_of_lowFirst {bytes : List UInt8} (hmod : (words lowFirst bytes).sum % 65535 = 0)
    (hpos : 0 < (words highFirst bytes).sum) : Verifies bytes := by
  have hswap := sum_lowFirst_mod bytes
  rw [verifies_iff]
  refine ⟨?_, hpos⟩
  omega

end Sum

end Mcproxy.Checksum
