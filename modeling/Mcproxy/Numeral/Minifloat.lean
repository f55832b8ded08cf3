import Mathlib.Algebra.Order.Ring.Nat
import Mathlib.Data.List.Basic
import Mathlib.Data.Nat.Bitwise
import Mathlib.Order.Bounds.Basic

namespace Mcproxy.Numeral.Minifloat

-- Codes of a flag bit, `e` bits of exponent and `w` bits of mantissa. With the flag clear a code
-- is the number itself; with the flag set the mantissa has a hidden bit in front of it, and the
-- exponent counts from where the plain numbers end.
def decode (w e c : ℕ) : ℕ :=
  if c < 2 ^ (w + e) then c else (2 ^ w + c % 2 ^ w) * 2 ^ (c / 2 ^ w % 2 ^ e + e)

def pack (w e exp mant : ℕ) : ℕ := 2 ^ (w + e) + exp * 2 ^ w + mant

-- The values codes can stand for.
def Represents (w e v : ℕ) : Prop := ∃ c < 2 ^ (w + e + 1), decode w e c = v

-- The code `c` is the last one whose value does not exceed `n`.
structure RoundsDown (w e n c : ℕ) : Prop where
  code : c < 2 ^ (w + e + 1)
  le : decode w e c ≤ n
  lt_next : c + 1 < 2 ^ (w + e + 1) → n < decode w e (c + 1)

variable {w e : ℕ}

section Decode

theorem decode_of_lt {c : ℕ} (h : c < 2 ^ (w + e)) : decode w e c = c := if_pos h

theorem pack_lt {exp mant : ℕ} (hexp : exp < 2 ^ e) (hmant : mant < 2 ^ w) :
    pack w e exp mant < 2 ^ (w + e + 1) := by
  have h : (exp + 1) * 2 ^ w ≤ 2 ^ e * 2 ^ w := Nat.mul_le_mul_right _ hexp
  rw [Nat.add_mul, Nat.one_mul, ← Nat.pow_add, Nat.add_comm e w] at h
  rw [pack, Nat.pow_succ]
  omega

theorem decode_pack {exp mant : ℕ} (hexp : exp < 2 ^ e) (hmant : mant < 2 ^ w) :
    decode w e (pack w e exp mant) = (2 ^ w + mant) * 2 ^ (exp + e) := by
  have hle : ¬ pack w e exp mant < 2 ^ (w + e) := by
    rw [pack]
    omega
  have hsplit : pack w e exp mant = 2 ^ w * (2 ^ e + exp) + mant := by
    rw [pack, Nat.pow_add, Nat.mul_add, Nat.mul_comm exp]
  have hmod : pack w e exp mant % 2 ^ w = mant := by
    rw [hsplit, Nat.mul_add_mod, Nat.mod_eq_of_lt hmant]
  have hdiv : pack w e exp mant / 2 ^ w = 2 ^ e + exp := by
    rw [hsplit, Nat.mul_add_div (Nat.two_pow_pos w), Nat.div_eq_of_lt hmant, Nat.add_zero]
  rw [decode, if_neg hle, hmod, hdiv, Nat.add_mod_left, Nat.mod_eq_of_lt hexp]

-- Every code with the flag set is packed in one way.
theorem exists_pack {c : ℕ} (hle : 2 ^ (w + e) ≤ c) (hlt : c < 2 ^ (w + e + 1)) :
    ∃ exp mant, exp < 2 ^ e ∧ mant < 2 ^ w ∧ c = pack w e exp mant := by
  have hw := Nat.two_pow_pos w
  refine ⟨(c - 2 ^ (w + e)) / 2 ^ w, (c - 2 ^ (w + e)) % 2 ^ w, ?_, Nat.mod_lt _ hw, ?_⟩
  · rw [Nat.div_lt_iff_lt_mul hw, ← Nat.pow_add, Nat.add_comm e w]
    rw [Nat.pow_succ] at hlt
    omega
  · have hdiv := Nat.div_add_mod' (c - 2 ^ (w + e)) (2 ^ w)
    rw [pack]
    omega

-- A full mantissa carries over into the exponent, which doubles the value of a step.
theorem decode_pack_succ {exp mant : ℕ} (hexp : exp < 2 ^ e) (hmant : mant < 2 ^ w)
    (hnext : pack w e exp mant + 1 < 2 ^ (w + e + 1)) :
    decode w e (pack w e exp mant + 1) = (2 ^ w + mant + 1) * 2 ^ (exp + e) := by
  by_cases hfull : mant + 1 < 2 ^ w
  · exact decode_pack hexp hfull
  · have hcarry : pack w e exp mant + 1 = pack w e (exp + 1) 0 := by
      rw [pack, pack, Nat.add_mul, Nat.one_mul]
      omega
    have hexp' : exp + 1 < 2 ^ e := by
      by_contra hlast
      have hlast : exp + 1 = 2 ^ e := by omega
      rw [hcarry, pack, hlast, ← Nat.pow_add, Nat.add_comm e w, Nat.pow_succ] at hnext
      omega
    rw [hcarry, decode_pack hexp' (Nat.two_pow_pos w)]
    have hsum : 2 ^ w + mant + 1 = 2 ^ w * 2 := by omega
    rw [hsum, Nat.add_zero, Nat.mul_assoc, Nat.add_right_comm, Nat.pow_succ, Nat.mul_comm 2]

theorem decode_lt_succ {c : ℕ} (h : c + 1 < 2 ^ (w + e + 1)) :
    decode w e c < decode w e (c + 1) := by
  by_cases hle : 2 ^ (w + e) ≤ c
  · obtain ⟨exp, mant, hexp, hmant, rfl⟩ := exists_pack hle (by omega)
    rw [decode_pack hexp hmant, decode_pack_succ hexp hmant h]
    exact Nat.mul_lt_mul_of_pos_right (Nat.lt_succ_self _) (Nat.two_pow_pos _)
  · rw [decode_of_lt (by omega)]
    by_cases hlast : c + 1 < 2 ^ (w + e)
    · rw [decode_of_lt hlast]
      exact Nat.lt_succ_self c
    · have hc : c + 1 = pack w e 0 0 := by
        rw [pack]
        omega
      rw [hc, decode_pack (Nat.two_pow_pos e) (Nat.two_pow_pos w), Nat.add_zero, Nat.zero_add,
        ← Nat.pow_add]
      omega

theorem decode_lt_decode {c d : ℕ} (h : c < d) (hd : d < 2 ^ (w + e + 1)) :
    decode w e c < decode w e d := by
  induction d, h using Nat.le_induction with
  | base => exact decode_lt_succ hd
  | succ d hcd ih => exact (ih (by omega)).trans (decode_lt_succ hd)

theorem decode_le_decode_iff {c d : ℕ} (hc : c < 2 ^ (w + e + 1)) (hd : d < 2 ^ (w + e + 1)) :
    decode w e c ≤ decode w e d ↔ c ≤ d := by
  constructor
  · intro h
    by_contra hlt
    have := decode_lt_decode (Nat.lt_of_not_le hlt) hc
    omega
  · intro h
    rcases Nat.lt_or_eq_of_le h with h | rfl
    · exact (decode_lt_decode h hd).le
    · exact le_rfl

end Decode

namespace RoundsDown

variable {n n' c c' : ℕ}

theorem le_of_decode_le (h : RoundsDown w e n c) (hc' : c' < 2 ^ (w + e + 1))
    (hle : decode w e c' ≤ n) : c' ≤ c := by
  by_contra hlt
  have hnext := h.lt_next (by omega)
  have hmono := (decode_le_decode_iff (by omega) hc').mpr (show c + 1 ≤ c' by omega)
  omega

theorem mono (h : RoundsDown w e n c) (h' : RoundsDown w e n' c') (hle : n ≤ n') : c ≤ c' :=
  h'.le_of_decode_le h.code (h.le.trans hle)

theorem unique (h : RoundsDown w e n c) (h' : RoundsDown w e n c') : c = c' :=
  Nat.le_antisymm (h.mono h' le_rfl) (h'.mono h le_rfl)

theorem isGreatest (h : RoundsDown w e n c) :
    IsGreatest {v | Represents w e v ∧ v ≤ n} (decode w e c) := by
  refine ⟨⟨⟨c, h.code, rfl⟩, h.le⟩, ?_⟩
  rintro v ⟨⟨c', hc', rfl⟩, hle⟩
  exact (decode_le_decode_iff hc' h.code).mpr (h.le_of_decode_le hc' hle)

theorem of_isGreatest (hc : c < 2 ^ (w + e + 1))
    (h : IsGreatest {v | Represents w e v ∧ v ≤ n} (decode w e c)) : RoundsDown w e n c := by
  refine ⟨hc, h.1.2, fun hnext => ?_⟩
  by_contra hle
  have hmax := h.2 ⟨⟨c + 1, hnext, rfl⟩, Nat.le_of_not_lt hle⟩
  have hlt := decode_lt_succ hnext
  omega

theorem self (h : n < 2 ^ (w + e)) : RoundsDown w e n n := by
  refine ⟨?_, (decode_of_lt h).le, fun hnext => ?_⟩
  · rw [Nat.pow_succ]
    omega
  · have hlt := decode_lt_succ hnext
    rwa [decode_of_lt h] at hlt

-- The exponent is the place of the highest bit, the mantissa the bits behind it.
theorem of_highest_bit {pos : ℕ} (hexp : pos < w + e + 2 ^ e) (hpos : w + e ≤ pos)
    (hle : 2 ^ pos ≤ n) (hlt : n < 2 ^ (pos + 1)) :
    RoundsDown w e n (pack w e (pos - w - e) (n / 2 ^ (pos - w) % 2 ^ w)) := by
  have hexp' : pos - w - e < 2 ^ e := by omega
  have hmant := Nat.mod_lt (n / 2 ^ (pos - w)) (Nat.two_pow_pos w)
  have hshift : pos - w - e + e = pos - w := by omega
  have hunit := Nat.two_pow_pos (pos - w)
  -- the highest bit is the hidden one
  have hquot : n / 2 ^ (pos - w) = 2 ^ w + n / 2 ^ (pos - w) % 2 ^ w := by
    have hge : 2 ^ w ≤ n / 2 ^ (pos - w) := by
      rw [Nat.le_div_iff_mul_le hunit, ← Nat.pow_add]
      exact (congrArg (2 ^ ·) (show w + (pos - w) = pos by omega)).le.trans hle
    have hbelow : n / 2 ^ (pos - w) < 2 ^ w + 2 ^ w := by
      rw [Nat.div_lt_iff_lt_mul hunit, ← Nat.two_mul, ← Nat.pow_succ', ← Nat.pow_add]
      exact hlt.trans_le (congrArg (2 ^ ·) (show pos + 1 = w + 1 + (pos - w) by omega)).le
    rw [Nat.mod_eq_sub_mod hge, Nat.mod_eq_of_lt (by omega)]
    omega
  refine ⟨pack_lt hexp' hmant, ?_, fun hnext => ?_⟩
  · rw [decode_pack hexp' hmant, hshift, ← hquot]
    exact Nat.div_mul_le_self _ _
  · rw [decode_pack_succ hexp' hmant hnext, hshift, ← hquot]
    exact Nat.lt_mul_of_div_lt (Nat.lt_succ_self _) hunit

-- Everything from the largest value on is rounded to it.
theorem top_iff : RoundsDown w e n (2 ^ (w + e + 1) - 1) ↔
    decode w e (2 ^ (w + e + 1) - 1) ≤ n := by
  refine ⟨RoundsDown.le, fun h => ⟨?_, h, fun hnext => ?_⟩⟩
  · have := Nat.two_pow_pos (w + e + 1)
    omega
  · omega

end RoundsDown

section Bits

-- A field of a code.
theorem field_eq (n w k : ℕ) : (n &&& ((2 ^ k - 1) <<< w)) >>> w = n / 2 ^ w % 2 ^ k := by
  rw [Nat.shiftRight_and_distrib, Nat.shiftLeft_shiftRight, Nat.and_two_pow_sub_one_eq_mod,
    Nat.shiftRight_eq_div_pow]

theorem hidden_or_eq {mant : ℕ} (h : mant < 2 ^ w) : mant ||| 2 ^ w = 2 ^ w + mant := by
  have h1 := Nat.two_pow_add_eq_or_of_lt h 1
  rw [Nat.mul_one] at h1
  rw [Nat.or_comm, h1]

-- The flag of a code.
theorem and_flag_ne_zero_iff {c k : ℕ} (hc : c < 2 ^ (k + 1)) : c &&& 2 ^ k ≠ 0 ↔ ¬ c < 2 ^ k := by
  have hdiv : c / 2 ^ k < 2 := by
    rw [Nat.div_lt_iff_lt_mul (Nat.two_pow_pos _), Nat.mul_comm, ← Nat.pow_succ]
    exact hc
  have hzero : c / 2 ^ k = 0 ↔ c < 2 ^ k := Nat.div_eq_zero_iff_lt (Nat.two_pow_pos _)
  rw [Nat.and_two_pow, Nat.testBit_eq_decide_div_mod_eq, ← hzero]
  rcases Nat.le_one_iff_eq_zero_or_eq_one.mp (Nat.lt_succ_iff.mp hdiv) with h | h
  · simp [h]
  · simp [h]

-- Taking a code apart field by field decodes it.
theorem decode_fields {c : ℕ} (hc : c < 2 ^ (w + e + 1)) :
    (if c &&& 2 ^ (w + e) ≠ 0 then
      ((c &&& 2 ^ w - 1) ||| 2 ^ w) <<< ((c &&& ((2 ^ e - 1) <<< w)) >>> w + e)
    else c) = decode w e c := by
  have hflag := and_flag_ne_zero_iff hc
  rw [field_eq, Nat.and_two_pow_sub_one_eq_mod, hidden_or_eq (Nat.mod_lt _ (Nat.two_pow_pos w)),
    Nat.shiftLeft_eq, decode]
  by_cases h : c < 2 ^ (w + e)
  · rw [if_neg (hflag.not.mpr (not_not.mpr h)), if_pos h]
  · rw [if_pos (hflag.mpr h), if_neg h]

-- An exponent that is too large for its field runs into the flag, which is set already.
theorem flag_or_mod (exp : ℕ) : (2 ^ e ||| exp) % 2 ^ (e + 1) = 2 ^ e + exp % 2 ^ e := by
  have hlt := Nat.mod_lt exp (Nat.two_pow_pos e)
  have hor : 2 ^ e + exp % 2 ^ e = 2 ^ e ||| exp % 2 ^ e := by
    have h1 := Nat.two_pow_add_eq_or_of_lt hlt 1
    rwa [Nat.mul_one] at h1
  have hpow : 2 ^ e % 2 ^ (e + 1) = 2 ^ e :=
    Nat.mod_eq_of_lt (Nat.pow_lt_pow_right (by omega) (Nat.lt_succ_self e))
  rw [Nat.or_mod_two_pow, hpow, Nat.mod_pow_succ]
  rcases Nat.mod_two_eq_zero_or_one (exp / 2 ^ e) with h | h
  · rw [h, Nat.mul_zero, Nat.add_zero, hor]
  · rw [h, Nat.mul_one, Nat.add_comm (exp % 2 ^ e), hor, ← Nat.or_assoc, Nat.or_self]

theorem pack_or_mod {exp mant : ℕ} (h : mant < 2 ^ w) :
    ((1 <<< (w + e)) ||| (exp <<< w) ||| mant) % 2 ^ (w + e + 1) = pack w e (exp % 2 ^ e) mant := by
  have hfields : (1 <<< (w + e)) ||| (exp <<< w) = (2 ^ e ||| exp) <<< w := by
    rw [Nat.shiftLeft_or_distrib, Nat.shiftLeft_eq, Nat.one_mul, Nat.shiftLeft_eq (2 ^ e),
      ← Nat.pow_add, Nat.add_comm e w]
  have hsplit : (2 ^ e ||| exp) <<< w + mant = mant + 2 ^ w * (2 ^ e ||| exp) := by
    rw [Nat.shiftLeft_eq, Nat.mul_comm, Nat.add_comm]
  rw [hfields, ← Nat.shiftLeft_add_eq_or_of_lt h, hsplit, Nat.add_assoc w e 1, Nat.pow_add 2 w,
    Nat.mod_mul, Nat.add_mul_mod_self_left, Nat.mod_eq_of_lt h,
    Nat.add_mul_div_left _ _ (Nat.two_pow_pos w), Nat.div_eq_of_lt h, Nat.zero_add, flag_or_mod,
    pack, Nat.pow_add, Nat.mul_add, Nat.mul_comm (exp % 2 ^ e)]
  omega

-- A search downwards stops at the first place that answers.
theorem find?_eq_of_first {l : List ℕ} {p : ℕ → Bool} {pos : ℕ} (hl : l.Pairwise (· > ·))
    (hmem : pos ∈ l) (hpos : p pos = true) (hbefore : ∀ i ∈ l, pos < i → p i = false) :
    l.find? p = some pos := by
  induction l with
  | nil => exact absurd hmem List.not_mem_nil
  | cons i l ih =>
    obtain ⟨hi, hl⟩ := List.pairwise_cons.mp hl
    rcases List.mem_cons.mp hmem with rfl | hmem
    · exact List.find?_cons_of_pos hpos
    · rw [List.find?_cons_of_neg (by simp [hbefore i List.mem_cons_self (hi pos hmem)])]
      exact ih hl hmem fun j hj => hbefore j (List.mem_cons_of_mem i hj)

theorem exists_highest_bit {n : ℕ} (h : n ≠ 0) : ∃ pos, 2 ^ pos ≤ n ∧ n < 2 ^ (pos + 1) :=
  ⟨n.log2, Nat.log2_self_le h, Nat.lt_log2_self⟩

theorem highest_bit_lt {n pos k : ℕ} (hle : 2 ^ pos ≤ n) (h : n < 2 ^ k) : pos < k :=
  (Nat.pow_lt_pow_iff_right (by decide)).mp (hle.trans_lt h)

theorem le_highest_bit {n pos k : ℕ} (hlt : n < 2 ^ (pos + 1)) (h : 2 ^ k ≤ n) : k ≤ pos :=
  Nat.le_of_lt_succ (highest_bit_lt h hlt)

theorem testBit_of_highest {n pos : ℕ} (hle : 2 ^ pos ≤ n) (hlt : n < 2 ^ (pos + 1)) :
    n.testBit pos = true := by
  have hdiv : n / 2 ^ pos = 1 := by
    rw [Nat.div_eq_iff (Nat.two_pow_pos pos)]
    rw [Nat.pow_succ] at hlt
    omega
  rw [Nat.testBit_eq_decide_div_mod_eq, hdiv]
  rfl

end Bits

end Mcproxy.Numeral.Minifloat
