import Mathlib.Algebra.Group.Int.Defs
import Mcproxy.AddrStorage

namespace Mcproxy.AddrStorage

open AddrFamily In6Addr

section ByteOrder

-- The bytes of a word the other way round.
def htonl (w : BitVec 32) : BitVec 32 :=
  w.extractLsb' 0 8 ++ w.extractLsb' 8 8 ++ w.extractLsb' 16 8 ++ w.extractLsb' 24 8

theorem htonl_htonl (w : BitVec 32) : htonl (htonl w) = w := by
  apply BitVec.eq_of_getLsbD_eq
  intro i hi
  simp only [htonl, BitVec.getLsbD_append, BitVec.getLsbD_extractLsb']
  grind

theorem htonl_eq_iff {w v : BitVec 32} (hv : htonl v = v) : htonl w = v ↔ w = v := by
  constructor
  · intro h
    rw [← htonl_htonl w, h, hv]
  · rintro rfl
    exact hv

end ByteOrder

section Words

-- The loop over the words of an IPv6 address, from the last to the first: a word is changed, and
-- the next one only if the changed one, as it is stored, is the one at which the loop goes on.
def step_words (step : BitVec 32 → BitVec 32) (go_on : BitVec 32) :
    List (BitVec 32) → List (BitVec 32)
  | [] => []
  | w :: words =>
    let tmp := step w
    if htonl tmp ≠ go_on then tmp :: words else tmp :: step_words step go_on words

@[simp]
theorem length_step_words (step : BitVec 32 → BitVec 32) (go_on : BitVec 32)
    (words : List (BitVec 32)) : (step_words step go_on words).length = words.length := by
  induction words with
  | nil => rfl
  | cons w words ih =>
    rw [step_words]
    split_ifs
    · rfl
    · rw [List.length_cons, ih, List.length_cons]

theorem words_value_lt (words : List (BitVec 32)) :
    words_value words < 2 ^ (32 * words.length) := by
  induction words with
  | nil => simp [words_value]
  | cons w words ih =>
    have hw := w.isLt
    rw [words_value, List.length_cons, Nat.mul_succ, Nat.pow_add]
    omega

-- A word changes by `delta` up to a carry of `delta` that it leaves to the next word.
theorem step_words_value {step : BitVec 32 → BitVec 32} {go_on : BitVec 32} {delta : ℤ}
    (hstop : ∀ w, htonl (step w) ≠ go_on → ((step w).toNat : ℤ) = w.toNat + delta)
    (hcarry : ∀ w, htonl (step w) = go_on →
      ((step w).toNat : ℤ) + 2 ^ 32 * delta = w.toNat + delta)
    (words : List (BitVec 32)) :
    (words_value (step_words step go_on words) : ℤ) =
      (words_value words + delta) % 2 ^ (32 * words.length) := by
  induction words with
  | nil => simp [step_words, words_value]
  | cons w words ih =>
    -- the new value is in range and differs from the sum by a multiple of the modulus
    suffices hquot : ∃ q, (words_value (w :: words) : ℤ) + delta =
        words_value (step_words step go_on (w :: words)) + 2 ^ (32 * (w :: words).length) * q by
      obtain ⟨q, hq⟩ := hquot
      have hlt := words_value_lt (step_words step go_on (w :: words))
      rw [length_step_words] at hlt
      rw [hq, Int.add_mul_emod_self_left, Int.emod_eq_of_lt (by omega) (by exact_mod_cast hlt)]
    by_cases hgo : htonl (step w) = go_on
    · refine ⟨(words_value words + delta) / 2 ^ (32 * words.length), ?_⟩
      have hdiv := Int.emod_add_mul_ediv (words_value words + delta) (2 ^ (32 * words.length))
      have hw := hcarry w hgo
      rw [← ih] at hdiv
      rw [step_words, if_neg (not_not.mpr hgo), List.length_cons, Nat.mul_succ, Int.pow_add,
        mul_comm (2 ^ (32 * words.length)), mul_assoc, words_value, words_value]
      push_cast
      omega
    · refine ⟨0, ?_⟩
      have hw := hstop w hgo
      rw [step_words, if_pos hgo, words_value, words_value]
      push_cast
      omega

end Words

section Operators

-- `operator++()` and `operator--()`; an address of no known family is left as it is.
def step_addr (step : BitVec 32 → BitVec 32) (go_on : BitVec 32) : AddrStorage → AddrStorage
  | inet s_addr => inet (step s_addr)
  | inet6 a => inet6 (.of_words (step_words step go_on a.words))
  | unspec => unspec

def pre_increment (a : AddrStorage) : AddrStorage := step_addr (· + 1) 0 a

def pre_decrement (a : AddrStorage) : AddrStorage := step_addr (· - 1) (BitVec.allOnes 32) a

inductive StepOperator
  | pre_increment
  | post_increment
  | pre_decrement
  | post_decrement
  deriving DecidableEq, Repr

-- What the operator returns, and the object afterwards. Both postfix forms return `++(*this)`.
def StepOperator.apply : StepOperator → AddrStorage → AddrStorage × AddrStorage
  | pre_increment, a => (a.pre_increment, a.pre_increment)
  | post_increment, a => (a.pre_increment, a.pre_increment)
  | pre_decrement, a => (a.pre_decrement, a.pre_decrement)
  | post_decrement, a => (a.pre_increment, a.pre_increment)

end Operators

section Arithmetic

-- What the operator is to add.
def StepOperator.delta : StepOperator → ℤ
  | pre_increment | post_increment => 1
  | pre_decrement | post_decrement => -1

def StepOperator.is_pre : StepOperator → Bool
  | pre_increment | pre_decrement => true
  | post_increment | post_decrement => false

-- The object is changed by one, modulo the number of addresses of its family; a prefix form
-- returns it, a postfix form what it was.
structure StepExact (op : StepOperator) (a : AddrStorage) : Prop where
  family : (op.apply a).2.get_addr_family = a.get_addr_family
  after : ((op.apply a).2.value : ℤ) = (a.value + op.delta) % 2 ^ width a.get_addr_family
  returned : (op.apply a).1 = if op.is_pre then (op.apply a).2 else a

@[simp]
theorem get_addr_family_step_addr (step : BitVec 32 → BitVec 32) (go_on : BitVec 32)
    (a : AddrStorage) : (step_addr step go_on a).get_addr_family = a.get_addr_family := by
  cases a <;> rfl

theorem step_addr_value {step : BitVec 32 → BitVec 32} {go_on : BitVec 32} {delta : ℤ}
    (hstop : ∀ w, htonl (step w) ≠ go_on → ((step w).toNat : ℤ) = w.toNat + delta)
    (hcarry : ∀ w, htonl (step w) = go_on →
      ((step w).toNat : ℤ) + 2 ^ 32 * delta = w.toNat + delta) (a : AddrStorage) :
    ((step_addr step go_on a).value : ℤ) = (a.value + delta) % 2 ^ width a.get_addr_family := by
  cases a with
  | unspec => simp [step_addr, value, width, get_addr_family]
  | inet s_addr =>
    -- one word, whose carry is lost
    have hword := step_words_value hstop hcarry [s_addr]
    have hone : step_words step go_on [s_addr] = [step s_addr] := by simp [step_words]
    rw [hone] at hword
    simpa [words_value, step_addr, value, get_addr_family, width] using hword
  | inet6 a =>
    have hlen : (step_words step go_on a.words).length = 4 := length_step_words step go_on a.words
    rw [step_addr, value, In6Addr.value, words_of_words hlen]
    exact step_words_value hstop hcarry a.words

theorem pre_increment_value (a : AddrStorage) :
    (a.pre_increment.value : ℤ) = (a.value + 1) % 2 ^ width a.get_addr_family := by
  have hsum : ∀ w : BitVec 32, (w + 1).toNat = (w.toNat + 1) % 2 ^ 32 := fun w => rfl
  have hzero : ∀ w : BitVec 32, htonl w = 0 ↔ w.toNat = 0 := fun w => by
    rw [htonl_eq_iff (by decide), ← BitVec.toNat_inj]
    rfl
  apply step_addr_value
  · intro w hgo
    have hw := w.isLt
    rw [Ne, hzero, hsum] at hgo
    rw [hsum]
    omega
  · intro w hgo
    have hw := w.isLt
    rw [hzero, hsum] at hgo
    rw [hsum]
    omega

theorem pre_decrement_value (a : AddrStorage) :
    (a.pre_decrement.value : ℤ) = (a.value + -1) % 2 ^ width a.get_addr_family := by
  have hdiff : ∀ w : BitVec 32, (w - 1).toNat = (w.toNat + (2 ^ 32 - 1)) % 2 ^ 32 := fun w => by
    rw [BitVec.toNat_sub, Nat.add_comm]
    rfl
  have hones : ∀ w : BitVec 32, htonl w = BitVec.allOnes 32 ↔ w.toNat = 2 ^ 32 - 1 := fun w => by
    rw [htonl_eq_iff (by decide), ← BitVec.toNat_inj, BitVec.toNat_allOnes]
  apply step_addr_value
  · intro w hgo
    have hw := w.isLt
    rw [Ne, hones, hdiff] at hgo
    rw [hdiff]
    omega
  · intro w hgo
    have hw := w.isLt
    rw [hones, hdiff] at hgo
    rw [hdiff]
    omega

-- What is added and taken away again leaves an address as it was.
theorem step_undone {f g : AddrStorage → AddrStorage} {k l : ℤ} (hkl : k + l = 0)
    (hffamily : ∀ a, (f a).get_addr_family = a.get_addr_family)
    (hgfamily : ∀ a, (g a).get_addr_family = a.get_addr_family)
    (hf : ∀ a, ((f a).value : ℤ) = (a.value + k) % 2 ^ width a.get_addr_family)
    (hg : ∀ a, ((g a).value : ℤ) = (a.value + l) % 2 ^ width a.get_addr_family)
    (a : AddrStorage) : g (f a) = a := by
  apply eq_of_value_eq
  · rw [hgfamily, hffamily]
  · have hlt : (a.value : ℤ) < 2 ^ width a.get_addr_family := by exact_mod_cast a.value_lt
    have hvalue := hg (f a)
    rw [hffamily, hf, Int.emod_add_emod, add_assoc, hkl, add_zero,
      Int.emod_eq_of_lt (by omega) hlt] at hvalue
    exact_mod_cast hvalue

theorem pre_decrement_pre_increment (a : AddrStorage) : a.pre_increment.pre_decrement = a :=
  step_undone (by decide) (get_addr_family_step_addr _ _) (get_addr_family_step_addr _ _)
    pre_increment_value pre_decrement_value a

theorem pre_increment_pre_decrement (a : AddrStorage) : a.pre_decrement.pre_increment = a :=
  step_undone (by decide) (get_addr_family_step_addr _ _) (get_addr_family_step_addr _ _)
    pre_decrement_value pre_increment_value a

theorem one_lt_two_pow_width {a : AddrStorage} (hv : a.is_valid = true) :
    (1 : ℤ) < 2 ^ width a.get_addr_family := by
  cases a with
  | unspec => cases hv
  | inet | inet6 =>
    simp only [get_addr_family, width]
    decide

theorem pre_increment_ne {a : AddrStorage} (hv : a.is_valid = true) : a.pre_increment ≠ a := by
  intro h
  have hvalue := a.pre_increment_value
  have hone := one_lt_two_pow_width hv
  have hlt : (a.value : ℤ) < 2 ^ width a.get_addr_family := by exact_mod_cast a.value_lt
  rw [h] at hvalue
  generalize (2 : ℤ) ^ width a.get_addr_family = m at *
  rcases eq_or_ne (a.value + 1 : ℤ) m with hm | hm
  · rw [hm, Int.emod_self] at hvalue
    omega
  · rw [Int.emod_eq_of_lt (by omega) (by omega)] at hvalue
    omega

-- The prefix forms do what they are to do, the postfix forms never: what they return is the
-- changed object.
theorem step_operators_exact_iff {a : AddrStorage} (hv : a.is_valid = true) :
    (∀ op, StepExact op a ↔ op.is_pre = true) ∧
      a.pre_increment.pre_decrement = a ∧ a.pre_decrement.pre_increment = a := by
  refine ⟨fun op => ?_, a.pre_decrement_pre_increment, a.pre_increment_pre_decrement⟩
  cases op with
  | pre_increment =>
    exact iff_of_true ⟨get_addr_family_step_addr _ _ a, a.pre_increment_value, rfl⟩ rfl
  | pre_decrement =>
    exact iff_of_true ⟨get_addr_family_step_addr _ _ a, a.pre_decrement_value, rfl⟩ rfl
  | post_increment | post_decrement =>
    exact iff_of_false (fun h => pre_increment_ne hv h.returned) Bool.false_ne_true

theorem step_operators_exact_last_addr :
    StepExact .pre_increment (inet6 ⟨0, 0, 0xFFFFFFFF, 0xFFFFFFFF⟩) ∧
      (StepOperator.pre_increment.apply (inet6 ⟨0, 0, 0xFFFFFFFF, 0xFFFFFFFF⟩)).2 =
        inet6 ⟨0, 1, 0, 0⟩ :=
  ⟨((step_operators_exact_iff rfl).1 .pre_increment).mpr rfl, by decide⟩

-- The postfix decrement of 10.0.0.5 leaves 10.0.0.6, and returns it.
theorem post_decrement_increments :
    StepOperator.post_decrement.apply (inet 0x0A000005) = (inet 0x0A000006, inet 0x0A000006) ∧
      ¬StepExact .post_decrement (inet 0x0A000005) := by
  refine ⟨by decide, fun h => ?_⟩
  exact absurd h.returned (by decide)

end Arithmetic

end Mcproxy.AddrStorage
