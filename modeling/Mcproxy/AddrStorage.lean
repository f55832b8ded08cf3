import Mcproxy.Def
import Mcproxy.Numeral.BigEndian
import Mathlib.Tactic.Ring

namespace Mcproxy

open Numeral

inductive AddrFamily
  | AF_UNSPEC
  | AF_INET
  | AF_INET6
  deriving DecidableEq, Repr

open AddrFamily

def get_addr_family (gmp : GroupMemProtocol) : AddrFamily :=
  if is_IPv4 gmp then AF_INET else if is_IPv6 gmp then AF_INET6 else AF_UNSPEC

-- `s6_addr32[0]` to `s6_addr32[3]`, each as the number `ntohl` makes of it.
structure In6Addr where
  w0 : BitVec 32
  w1 : BitVec 32
  w2 : BitVec 32
  w3 : BitVec 32
  deriving DecidableEq, Repr

-- An `addr_storage` without port and flow; an IPv4 address as the number `ntohl` makes of it.
inductive AddrStorage
  | unspec
  | inet (s_addr : BitVec 32)
  | inet6 (s6_addr32 : In6Addr)
  deriving DecidableEq, Repr

namespace In6Addr

def s6_addr (a : In6Addr) : List UInt8 :=
  encode 4 a.w0.toNat ++ encode 4 a.w1.toNat ++ encode 4 a.w2.toNat ++ encode 4 a.w3.toNat

-- The words in the order the loops visit them, from the last to the first, and back.
def words (a : In6Addr) : List (BitVec 32) := [a.w3, a.w2, a.w1, a.w0]

def of_words : List (BitVec 32) → In6Addr
  | [w3, w2, w1, w0] => ⟨w0, w1, w2, w3⟩
  | _ => ⟨0, 0, 0, 0⟩

-- The number words stand for that are listed from the last to the first.
def words_value : List (BitVec 32) → ℕ
  | [] => 0
  | w :: words => w.toNat + 2 ^ 32 * words_value words

def value (a : In6Addr) : ℕ := words_value a.words

theorem words_of_words {words : List (BitVec 32)} (h : words.length = 4) :
    (of_words words).words = words := by
  match words, h with
  | [w3, w2, w1, w0], _ => rfl

@[simp]
theorem length_s6_addr (a : In6Addr) : a.s6_addr.length = 16 := by
  simp [s6_addr]

theorem decode_s6_addr (a : In6Addr) : decode a.s6_addr = a.value := by
  have word : ∀ w : BitVec 32, decode (encode 4 w.toNat) = w.toNat := fun w =>
    decode_encode_of_lt w.isLt
  simp only [s6_addr, decode_append, word, length_encode, value, words, words_value]
  omega

theorem value_lt (a : In6Addr) : a.value < 2 ^ 128 := by
  have h0 := a.w0.isLt
  have h1 := a.w1.isLt
  have h2 := a.w2.isLt
  have h3 := a.w3.isLt
  simp only [value, words, words_value]
  omega

theorem value_inj {a b : In6Addr} : a.value = b.value ↔ a = b := by
  refine ⟨fun h => ?_, fun h => h ▸ rfl⟩
  obtain ⟨a0, a1, a2, a3⟩ := a
  obtain ⟨b0, b1, b2, b3⟩ := b
  have ha := a1.isLt
  have ha' := a2.isLt
  have ha'' := a3.isLt
  have hb := b1.isLt
  have hb' := b2.isLt
  have hb'' := b3.isLt
  simp only [value, words, words_value] at h
  simp only [mk.injEq, ← BitVec.toNat_inj]
  omega

end In6Addr

namespace AddrStorage

section Operators

def get_addr_family : AddrStorage → AddrFamily
  | unspec => AF_UNSPEC
  | inet _ => AF_INET
  | inet6 _ => AF_INET6

def is_valid (a : AddrStorage) : Bool := a.get_addr_family != AF_UNSPEC

-- `addr_storage(addr_family)`
def zero : AddrFamily → AddrStorage
  | AF_UNSPEC => unspec
  | AF_INET => inet 0
  | AF_INET6 => inet6 ⟨0, 0, 0, 0⟩

-- `operator==`
def eq : AddrStorage → AddrStorage → Bool
  | inet a, inet b => a == b
  | inet6 a, inet6 b => a == b
  | _, _ => false

-- `operator<`: numbers for IPv4, byte after byte for IPv6.
def lt : AddrStorage → AddrStorage → Bool
  | inet a, inet b => a.toNat < b.toNat
  | inet6 a, inet6 b => lexLt a.s6_addr b.s6_addr
  | _, _ => false

def le (a b : AddrStorage) : Bool := a.lt b || a.eq b

def ge (a b : AddrStorage) : Bool := !a.lt b

end Operators

section Mask

-- `static_cast<unsigned int>(-1) >> suffix`; a shift by 32 or more is undefined.
def ones_shifted (suffix : ℕ) : Option (BitVec 32) :=
  if suffix < 32 then some (BitVec.allOnes 32 >>> suffix) else none

-- The loop over the words of an IPv6 address, from the last to the first: the words behind the
-- prefix are overwritten, the one it ends in is changed by `part`, and at the first word that
-- lies in the prefix the loop ends. The index of a word is the number of words before it.
def for_words (behind : BitVec 32) (part : BitVec 32 → BitVec 32 → BitVec 32) (suffix : ℕ) :
    List (BitVec 32) → Option (List (BitVec 32))
  | [] => some []
  | tmp_addr :: words =>
    let tmp_suffix : ℤ := suffix - words.length * 32
    if tmp_suffix ≤ 0 then (for_words behind part suffix words).map (behind :: ·)
    else if tmp_suffix < 32 then
      (ones_shifted suffix).bind fun m =>
        (for_words behind part suffix words).map (part tmp_addr m :: ·)
    else some (tmp_addr :: words)

def prefix_change (behind : BitVec 32) (part : BitVec 32 → BitVec 32 → BitVec 32) (suffix : ℕ) :
    AddrStorage → Option AddrStorage
  | inet s_addr => (ones_shifted suffix).map fun m => inet (part s_addr m)
  | inet6 a => (for_words behind part suffix a.words).map fun words => inet6 (.of_words words)
  | unspec => some unspec

def mask (suffix : ℕ) (a : AddrStorage) : Option AddrStorage :=
  prefix_change 0 (fun w m => w &&& ~~~m) suffix a

def broadcast_addr (suffix : ℕ) (a : AddrStorage) : Option AddrStorage :=
  prefix_change (BitVec.allOnes 32) (fun w m => w ||| m) suffix a

end Mask

section Order

-- The number an address stands for, and the number of bits the addresses of a family have.
def value : AddrStorage → ℕ
  | unspec => 0
  | inet a => a.toNat
  | inet6 a => a.value

def width : AddrFamily → ℕ
  | AF_UNSPEC => 0
  | AF_INET => 32
  | AF_INET6 => 128

theorem value_lt (a : AddrStorage) : a.value < 2 ^ width a.get_addr_family := by
  cases a with
  | unspec => simp [value, get_addr_family, width]
  | inet a => exact a.isLt
  | inet6 a => exact a.value_lt

theorem lt_iff {a b : AddrStorage} (h : a.get_addr_family = b.get_addr_family) :
    a.lt b = true ↔ a.value < b.value := by
  cases a <;> cases b <;> simp [get_addr_family] at h
  case unspec.unspec => simp [lt, value]
  case inet.inet a b => simp [lt, value]
  case inet6.inet6 a b =>
    have hlen : a.s6_addr.length = b.s6_addr.length := by simp
    simp only [lt, lexLt_iff hlen, In6Addr.decode_s6_addr, value]

theorem eq_iff {a b : AddrStorage} (h : a.get_addr_family = b.get_addr_family)
    (hv : a.is_valid = true) : a.eq b = true ↔ a.value = b.value := by
  cases a <;> cases b <;> simp [get_addr_family, is_valid] at h hv
  case inet.inet a b => simp [eq, value, BitVec.toNat_inj]
  case inet6.inet6 a b => simp [eq, value, In6Addr.value_inj]

theorem eq_of_value_eq {a b : AddrStorage} (hfamily : a.get_addr_family = b.get_addr_family)
    (h : a.value = b.value) : a = b := by
  cases a <;> cases b <;> simp only [get_addr_family, reduceCtorEq] at hfamily
  case unspec.unspec => rfl
  case inet.inet a b => rw [BitVec.eq_of_toNat_eq h]
  case inet6.inet6 a b => rw [In6Addr.value_inj.mp h]

theorem eq_true_iff {x a : AddrStorage} (hv : x.is_valid = true) : x.eq a = true ↔ x = a := by
  cases x <;> cases a <;> simp [eq, is_valid, get_addr_family] at hv ⊢

theorem le_iff {a b : AddrStorage} (h : a.get_addr_family = b.get_addr_family)
    (hv : a.is_valid = true) : a.le b = true ↔ a.value ≤ b.value := by
  rw [le, Bool.or_eq_true, lt_iff h, eq_iff h hv, Nat.le_iff_lt_or_eq]

theorem ge_iff {a b : AddrStorage} (h : a.get_addr_family = b.get_addr_family) :
    a.ge b = true ↔ b.value ≤ a.value := by
  rw [ge, Bool.not_eq_true', ← Bool.not_eq_true, lt_iff h, Nat.not_lt]

@[simp]
theorem get_addr_family_zero (family : AddrFamily) : (zero family).get_addr_family = family := by
  cases family <;> rfl

@[simp]
theorem value_zero (family : AddrFamily) : (zero family).value = 0 := by
  cases family <;> rfl

theorem eq_zero_iff {a : AddrStorage} (hv : a.is_valid = true) :
    a.eq (zero a.get_addr_family) = true ↔ a.value = 0 := by
  rw [eq_iff (get_addr_family_zero _).symm hv, value_zero]

end Order

section Prefix

open In6Addr

-- The lengths at which `mask` and `broadcast_addr` are defined: an IPv6 prefix that ends inside
-- a word is shifted by its whole length, which is too far behind the first word.
def maskable (family : AddrFamily) (suffix : ℕ) : Prop :=
  suffix < 32 ∨ family = AF_INET6 ∧ suffix % 32 = 0

theorem toNat_and_not_ones (w : BitVec 32) {suffix : ℕ} (h : suffix ≤ 32) :
    (w &&& ~~~(BitVec.allOnes 32 >>> suffix)).toNat =
      w.toNat / 2 ^ (32 - suffix) * 2 ^ (32 - suffix) := by
  apply Nat.eq_of_testBit_eq
  intro i
  rw [Nat.testBit_mul_two_pow, Nat.testBit_div_two_pow]
  simp only [BitVec.testBit_toNat, BitVec.getLsbD_and, BitVec.getLsbD_not,
    BitVec.getLsbD_ushiftRight, BitVec.getLsbD_allOnes]
  by_cases hi : 32 - suffix ≤ i
  · rw [Nat.sub_add_cancel hi]
    by_cases hw : i < 32
    · simp [hi, hw, show 32 ≤ suffix + i by omega]
    · simp [BitVec.getLsbD_of_ge w i (by omega)]
  · simp [hi, show suffix + i < 32 by omega]

theorem toNat_or_ones (w : BitVec 32) {suffix : ℕ} (h : suffix ≤ 32) :
    (w ||| BitVec.allOnes 32 >>> suffix).toNat =
      w.toNat / 2 ^ (32 - suffix) * 2 ^ (32 - suffix) + (2 ^ (32 - suffix) - 1) := by
  have hlow : 2 ^ (32 - suffix) - 1 < 2 ^ (32 - suffix) := by
    have := Nat.two_pow_pos (32 - suffix)
    omega
  rw [Nat.mul_comm, Nat.two_pow_add_eq_or_of_lt hlow, Nat.mul_comm]
  apply Nat.eq_of_testBit_eq
  intro i
  rw [Nat.testBit_or, Nat.testBit_mul_two_pow, Nat.testBit_div_two_pow, Nat.testBit_two_pow_sub_one]
  simp only [BitVec.testBit_toNat, BitVec.getLsbD_or, BitVec.getLsbD_ushiftRight,
    BitVec.getLsbD_allOnes]
  by_cases hi : 32 - suffix ≤ i
  · rw [Nat.sub_add_cancel hi]
    simp [hi, show ¬i < 32 - suffix by omega, show ¬suffix + i < 32 by omega]
  · simp [show i < 32 - suffix by omega, show suffix + i < 32 by omega]

section Words

variable (behind : BitVec 32) (part : BitVec 32 → BitVec 32 → BitVec 32) {suffix : ℕ}

-- One round of the loop, by where the word lies.
theorem for_words_behind (w : BitVec 32) {words : List (BitVec 32)}
    (h : suffix ≤ 32 * words.length) : for_words behind part suffix (w :: words) =
      (for_words behind part suffix words).map (behind :: ·) := by
  have hle : (suffix : ℤ) - words.length * 32 ≤ 0 := by omega
  simp only [for_words, if_pos hle]

theorem for_words_part (w : BitVec 32) {words : List (BitVec 32)}
    (hlo : 32 * words.length < suffix) (hhi : suffix < 32 * words.length + 32) :
    for_words behind part suffix (w :: words) = (ones_shifted suffix).bind fun m =>
      (for_words behind part suffix words).map (part w m :: ·) := by
  have hpos : ¬(suffix : ℤ) - words.length * 32 ≤ 0 := by omega
  have hlt : (suffix : ℤ) - words.length * 32 < 32 := by omega
  simp only [for_words, if_neg hpos, if_pos hlt]

theorem for_words_keep (w : BitVec 32) {words : List (BitVec 32)}
    (h : 32 * words.length + 32 ≤ suffix) :
    for_words behind part suffix (w :: words) = some (w :: words) := by
  have hpos : ¬(suffix : ℤ) - words.length * 32 ≤ 0 := by omega
  have hge : ¬(suffix : ℤ) - words.length * 32 < 32 := by omega
  simp only [for_words, if_neg hpos, if_neg hge]

-- The word in which the prefix ends is not the first one: the shift is undefined.
theorem for_words_eq_none (hmod : ¬suffix % 32 = 0) (hge : 32 ≤ suffix)
    {words : List (BitVec 32)} (hlen : suffix < 32 * words.length) :
    for_words behind part suffix words = none := by
  induction words with
  | nil => simp at hlen
  | cons w words ih =>
    simp only [List.length_cons] at hlen
    by_cases h : suffix ≤ 32 * words.length
    · rw [for_words_behind behind part w h, ih (by omega), Option.map_none]
    · have hshift : ones_shifted suffix = none := if_neg (by omega)
      rw [for_words_part behind part w (by omega) (by omega), hshift, Option.bind_none]

-- `low k` is what the `k` bits behind the prefix become.
theorem for_words_value {behind : BitVec 32} {part : BitVec 32 → BitVec 32 → BitVec 32}
    (low : ℕ → ℕ) (hlow : low 0 = 0) (hbehind : ∀ k, behind.toNat + 2 ^ 32 * low k = low (k + 32))
    (hpart : ∀ w p, p ≤ 32 → (part w (BitVec.allOnes 32 >>> p)).toNat =
      w.toNat / 2 ^ (32 - p) * 2 ^ (32 - p) + low (32 - p))
    (hm : suffix < 32 ∨ suffix % 32 = 0) {words : List (BitVec 32)}
    (hle : suffix ≤ 32 * words.length) :
    ∃ words', for_words behind part suffix words = some words' ∧ words'.length = words.length ∧
      words_value words' = words_value words / 2 ^ (32 * words.length - suffix) *
        2 ^ (32 * words.length - suffix) + low (32 * words.length - suffix) := by
  induction words with
  | nil => exact ⟨[], rfl, rfl, by simp [words_value, hlow]⟩
  | cons w words ih =>
    simp only [List.length_cons] at hle ⊢
    by_cases hbe : suffix ≤ 32 * words.length
    · obtain ⟨words', heq, hlen, hval⟩ := ih hbe
      have hwidth : 32 * (words.length + 1) - suffix = 32 * words.length - suffix + 32 := by omega
      have hdiv : (w.toNat + 2 ^ 32 * words_value words) / 2 ^ 32 = words_value words := by
        have := w.isLt
        omega
      refine ⟨behind :: words', by rw [for_words_behind behind part w hbe, heq, Option.map_some],
        by simp [hlen], ?_⟩
      rw [hwidth, words_value, words_value, hval, ← hbehind, Nat.pow_add,
        Nat.mul_comm (2 ^ (32 * words.length - suffix)), ← Nat.div_div_eq_div_mul, hdiv]
      ring
    · by_cases hpa : suffix < 32 * words.length + 32
      · -- The prefix ends inside this word, so it is the first one.
        have hnil : words = [] := List.length_eq_zero_iff.mp (by omega)
        subst hnil
        have hlt : suffix < 32 := by simpa using hpa
        have hshift : ones_shifted suffix = some (BitVec.allOnes 32 >>> suffix) := if_pos hlt
        refine ⟨[part w (BitVec.allOnes 32 >>> suffix)], ?_, rfl, ?_⟩
        · rw [for_words_part behind part w (by omega) hpa, hshift]
          rfl
        · simpa [words_value] using hpart w suffix hlt.le
      · have hend : 32 * (words.length + 1) - suffix = 0 := by omega
        refine ⟨w :: words, for_words_keep behind part w (by omega), rfl, ?_⟩
        rw [hend, hlow]
        simp

end Words

theorem prefix_change_eq_none (behind : BitVec 32) (part : BitVec 32 → BitVec 32 → BitVec 32)
    {a : AddrStorage} {suffix : ℕ} (hm : ¬maskable a.get_addr_family suffix)
    (hv : a.is_valid = true) (hle : suffix ≤ 128) : prefix_change behind part suffix a = none := by
  cases a with
  | unspec => simp [is_valid, get_addr_family] at hv
  | inet a =>
    have hshift : ones_shifted suffix = none := if_neg fun h => hm (Or.inl h)
    rw [prefix_change, hshift, Option.map_none]
  | inet6 a =>
    simp only [maskable, get_addr_family, true_and] at hm
    have hlen : suffix < 32 * a.words.length := by
      simp only [In6Addr.words, List.length_cons, List.length_nil]
      omega
    rw [prefix_change, for_words_eq_none behind part (by omega) (by omega) hlen, Option.map_none]

theorem prefix_change_value {behind : BitVec 32} {part : BitVec 32 → BitVec 32 → BitVec 32}
    (low : ℕ → ℕ) (hlow : low 0 = 0) (hbehind : ∀ k, behind.toNat + 2 ^ 32 * low k = low (k + 32))
    (hpart : ∀ w p, p ≤ 32 → (part w (BitVec.allOnes 32 >>> p)).toNat =
      w.toNat / 2 ^ (32 - p) * 2 ^ (32 - p) + low (32 - p))
    {a : AddrStorage} {suffix : ℕ} (hm : maskable a.get_addr_family suffix)
    (hle : suffix ≤ width a.get_addr_family) :
    ∃ m, prefix_change behind part suffix a = some m ∧ m.get_addr_family = a.get_addr_family ∧
      m.value = a.value / 2 ^ (width a.get_addr_family - suffix) *
        2 ^ (width a.get_addr_family - suffix) + low (width a.get_addr_family - suffix) := by
  cases a with
  | unspec => exact ⟨unspec, rfl, rfl, by simp [value, get_addr_family, width, hlow]⟩
  | inet a =>
    have h : suffix < 32 := by simpa [maskable, get_addr_family] using hm
    have hshift : ones_shifted suffix = some (BitVec.allOnes 32 >>> suffix) := if_pos h
    refine ⟨inet (part a (BitVec.allOnes 32 >>> suffix)), ?_, rfl, hpart a suffix h.le⟩
    rw [prefix_change, hshift, Option.map_some]
  | inet6 a =>
    simp only [maskable, get_addr_family, true_and] at hm
    have hle' : suffix ≤ 32 * a.words.length := hle
    obtain ⟨words, heq, hlen, hval⟩ := for_words_value low hlow hbehind hpart hm hle'
    refine ⟨inet6 (.of_words words), by rw [prefix_change, heq, Option.map_some], rfl, ?_⟩
    rw [value, In6Addr.value, words_of_words hlen, hval]
    rfl

theorem prefix_change_family {behind : BitVec 32} {part : BitVec 32 → BitVec 32 → BitVec 32}
    {suffix : ℕ} {a m : AddrStorage} (h : prefix_change behind part suffix a = some m) :
    m.get_addr_family = a.get_addr_family := by
  cases a with
  | unspec => exact Option.some.inj h ▸ rfl
  | inet a =>
    obtain ⟨w, -, rfl⟩ := Option.map_eq_some_iff.mp h
    rfl
  | inet6 a =>
    obtain ⟨w, -, rfl⟩ := Option.map_eq_some_iff.mp h
    rfl

theorem mask_value {a : AddrStorage} {suffix : ℕ} (hm : maskable a.get_addr_family suffix)
    (hle : suffix ≤ width a.get_addr_family) :
    ∃ m, a.mask suffix = some m ∧ m.get_addr_family = a.get_addr_family ∧
      m.value = a.value / 2 ^ (width a.get_addr_family - suffix) *
        2 ^ (width a.get_addr_family - suffix) :=
  prefix_change_value (fun _ => 0) rfl (fun _ => rfl) (fun w _ h => toNat_and_not_ones w h)
    hm hle

theorem broadcast_addr_value {a : AddrStorage} {suffix : ℕ}
    (hm : maskable a.get_addr_family suffix) (hle : suffix ≤ width a.get_addr_family) :
    ∃ m, a.broadcast_addr suffix = some m ∧ m.get_addr_family = a.get_addr_family ∧
      m.value = a.value / 2 ^ (width a.get_addr_family - suffix) *
        2 ^ (width a.get_addr_family - suffix) +
          (2 ^ (width a.get_addr_family - suffix) - 1) := by
  refine prefix_change_value (fun k => 2 ^ k - 1) rfl (fun k => ?_)
    (fun w _ h => toNat_or_ones w h) hm hle
  have hpos := Nat.two_pow_pos k
  rw [BitVec.toNat_allOnes, Nat.pow_add]
  omega

end Prefix

end AddrStorage

end Mcproxy
