import Mcproxy.Parser.Parser

namespace Mcproxy

open TokenType AddrFamily AddrStorage

section Bits

-- The bits of an address from the first one on.
def AddrStorage.bit (a : AddrStorage) (k : ℕ) : Bool :=
  a.value.testBit (width a.get_addr_family - 1 - k)

def same_prefix_bits (len : ℕ) (a x : AddrStorage) : Prop := ∀ k < len, x.bit k = a.bit k

theorem same_prefix_bits_iff {a x : AddrStorage} {len : ℕ}
    (hfam : x.get_addr_family = a.get_addr_family) (hle : len ≤ width a.get_addr_family) :
    same_prefix_bits len a x ↔ x.value / 2 ^ (width a.get_addr_family - len) =
      a.value / 2 ^ (width a.get_addr_family - len) := by
  simp only [same_prefix_bits, AddrStorage.bit, hfam]
  constructor
  · intro h
    apply Nat.eq_of_testBit_eq
    intro i
    rw [Nat.testBit_div_two_pow, Nat.testBit_div_two_pow]
    by_cases hi : i < len
    · have hk := h (len - 1 - i) (by omega)
      have hpos : width a.get_addr_family - 1 - (len - 1 - i) =
          i + (width a.get_addr_family - len) := by omega
      rwa [hpos] at hk
    · -- Both numbers have no bit there.
      have hbound : ∀ y : AddrStorage, y.get_addr_family = a.get_addr_family →
          y.value < 2 ^ (i + (width a.get_addr_family - len)) := fun y hy =>
        (hy ▸ y.value_lt).trans_le (Nat.pow_le_pow_right (by omega) (by omega))
      rw [Nat.testBit_lt_two_pow (hbound x hfam), Nat.testBit_lt_two_pow (hbound a rfl)]
  · intro h k hk
    have hbit := congrArg (fun n => n.testBit (len - 1 - k)) h
    simp only [Nat.testBit_div_two_pow] at hbit
    have hpos :
        len - 1 - k + (width a.get_addr_family - len) = width a.get_addr_family - 1 - k := by
      omega
    rwa [hpos] at hbit

end Bits

section Range

-- The wildcards make no difference, as long as the largest address of the range is not zero.
theorem addr_range_match_iff {lo hi x : AddrStorage} (hlo : x.get_addr_family = lo.get_addr_family)
    (hhi : x.get_addr_family = hi.get_addr_family) (hv : x.is_valid = true) :
    (AddrMatch.addr_range lo hi).match x = true ↔
      lo.value ≤ x.value ∧ (x.value ≤ hi.value ∨ hi.value = 0) := by
  have hlov : lo.is_valid = true := by rwa [is_valid, ← hlo]
  have hhiv : hi.is_valid = true := by rwa [is_valid, ← hhi]
  have hwlo : is_wildcard lo x.get_addr_family = true ↔ lo.value = 0 := by
    rw [is_wildcard, hlo, eq_zero_iff hlov]
  have hwhi : is_wildcard hi x.get_addr_family = true ↔ hi.value = 0 := by
    rw [is_wildcard, hhi, eq_zero_iff hhiv]
  rw [AddrMatch.match, Bool.and_eq_true, Bool.or_eq_true, Bool.or_eq_true, ge_iff hlo,
    le_iff hhi hv, hwlo, hwhi]
  omega

end Range

section Cidr

variable {pton : InetPton} {gmp : GroupMemProtocol}

theorem get_addr_family_ne_unspec (gmp : GroupMemProtocol) : get_addr_family gmp ≠ AF_UNSPEC := by
  cases gmp <;> decide

theorem valid_of_family {x : AddrStorage} (hx : x.get_addr_family = get_addr_family gmp) :
    x.is_valid = true := by
  rw [is_valid, hx]
  simpa using get_addr_family_ne_unspec gmp

-- The tokens of an address of the configured family.
structure Spells (pton : InetPton) (gmp : GroupMemProtocol) (addr : List Token) (a : AddrStorage) :
    Prop where
  first : current addr = TT_STRING
  tokens : ∀ tok ∈ addr, is_addr_token tok = true
  value : pton.addr_storage (addr_text addr) = a
  family : a.get_addr_family = get_addr_family gmp

theorem Spells.is_valid {addr : List Token} {a : AddrStorage} (h : Spells pton gmp addr a) :
    a.is_valid = true :=
  valid_of_family h.family

theorem current_append {addr rest : List Token} (h : current addr ≠ TT_NIL) :
    current (addr ++ rest) = current addr := by
  cases addr with
  | nil => exact absurd rfl h
  | cons tok addr => rfl

theorem get_addr_append {addr rest : List Token} {a : AddrStorage} (h : Spells pton gmp addr a)
    (hrest : ∀ tok ∈ rest.head?, is_addr_token tok = false) :
    get_addr pton gmp (addr ++ rest) = .ok (a, rest) := by
  have htake : rest.takeWhile is_addr_token = [] ∧ rest.dropWhile is_addr_token = rest := by
    cases rest with
    | nil => exact ⟨rfl, rfl⟩
    | cons tok rest =>
      have htok : is_addr_token tok = false := hrest tok rfl
      simp [htok]
  rw [get_addr, List.takeWhile_append_of_pos h.tokens, List.dropWhile_append_of_pos h.tokens,
    htake.1, htake.2, List.append_nil, h.value, if_pos h.is_valid, if_pos h.family]

theorem parse_bound_append {addr rest : List Token} {a : AddrStorage} (h : Spells pton gmp addr a)
    (hrest : ∀ tok ∈ rest.head?, is_addr_token tok = false) :
    parse_bound pton gmp (addr ++ rest) = .ok (a, rest) := by
  have hcur : current (addr ++ rest) = TT_STRING := by
    rw [current_append (by simp [h.first]), h.first]
  rw [parse_bound, hcur]
  exact get_addr_append h hrest

theorem stoi_bounds {s : String} {number : ℤ} (h : stoi s = some number) :
    -2 ^ 31 ≤ number ∧ number < 2 ^ 31 := by
  unfold stoi at h
  extract_lets text negative signed digits value at h
  split_ifs at h with _ hb
  exact Option.some.inj h ▸ hb

-- The smallest and the largest address of a prefix.
structure PrefixRange (len : ℕ) (a lo hi : AddrStorage) : Prop where
  lo_family : lo.get_addr_family = a.get_addr_family
  hi_family : hi.get_addr_family = a.get_addr_family
  lo_mem : same_prefix_bits len a lo
  hi_mem : same_prefix_bits len a hi
  bounds : ∀ x, x.get_addr_family = a.get_addr_family → same_prefix_bits len a x →
    lo.value ≤ x.value ∧ x.value ≤ hi.value

-- Either the rule is turned down, or the length fits the address, the masks are defined and
-- give the ends of the prefix, and the rule matches the addresses of the prefix.
def CidrExact (a : AddrStorage) (number : ℤ) :
    Except ParserFault (AddrMatch × List Token) → Prop
  | .error (.thrown _) | .error .terminate => True
  | .error .undefined_shift | .error .out_of_fuel => False
  | .ok (m, _) =>
    0 ≤ number ∧ number ≤ width a.get_addr_family ∧
      (∃ lo hi, a.mask number.toNat = some lo ∧ a.broadcast_addr number.toNat = some hi ∧
        PrefixRange number.toNat a lo hi) ∧
      ∀ x, x.get_addr_family = a.get_addr_family →
        (m.match x = true ↔ same_prefix_bits number.toNat a x)

theorem div_eq_iff_bounds {k : ℕ} (x v : ℕ) : x / 2 ^ k = v / 2 ^ k ↔
    v / 2 ^ k * 2 ^ k ≤ x ∧ x ≤ v / 2 ^ k * 2 ^ k + (2 ^ k - 1) := by
  have hpos := Nat.two_pow_pos k
  rw [Nat.div_eq_iff hpos, Nat.add_sub_assoc hpos]

-- Where they are defined, the two functions give the ends of the prefix.
theorem exists_prefix_range {a : AddrStorage} {len : ℕ} (hm : maskable a.get_addr_family len)
    (hle : len ≤ width a.get_addr_family) :
    ∃ lo hi, a.mask len = some lo ∧ a.broadcast_addr len = some hi ∧ PrefixRange len a lo hi ∧
      (∀ x, x.get_addr_family = a.get_addr_family →
        (same_prefix_bits len a x ↔ lo.value ≤ x.value ∧ x.value ≤ hi.value)) ∧
      (hi.value = 0 ↔ len = width a.get_addr_family ∧ a.value = 0) := by
  obtain ⟨lo, hmask, hlof, hlov⟩ := mask_value hm hle
  obtain ⟨hi, hbroad, hhif, hhiv⟩ := broadcast_addr_value hm hle
  have hmem : ∀ x, x.get_addr_family = a.get_addr_family →
      (same_prefix_bits len a x ↔ lo.value ≤ x.value ∧ x.value ≤ hi.value) := by
    intro x hx
    rw [same_prefix_bits_iff hx hle, div_eq_iff_bounds, hlov, hhiv]
  have horder : lo.value ≤ hi.value := by
    rw [hlov, hhiv]
    exact Nat.le_add_right _ _
  refine ⟨lo, hi, hmask, hbroad, ⟨hlof, hhif, (hmem lo hlof).mpr ⟨le_rfl, horder⟩,
    (hmem hi hhif).mpr ⟨horder, le_rfl⟩, fun x hx h => (hmem x hx).mp h⟩, hmem, ?_⟩
  rw [hhiv]
  by_cases hk : width a.get_addr_family - len = 0
  · rw [hk]
    simp
    omega
  · have hpow := Nat.one_lt_two_pow hk
    omega

theorem parse_rule_part_cidr {addr rest : List Token} {a : AddrStorage} {slash : Token}
    (h : Spells pton gmp addr a) (hs : slash.m_type = TT_SLASH) :
    parse_rule_part pton gmp (addr ++ slash :: rest) = parse_prefix_len a rest := by
  have hslash : ∀ tok ∈ (slash :: rest).head?, is_addr_token tok = false := by
    simp [is_addr_token, hs]
  have hcur : current (slash :: rest) = TT_SLASH := hs
  rw [parse_rule_part, parse_bound_append h hslash]
  simp only [if_pos hcur, List.tail_cons]

-- What becomes of a length that `stoi` reads.
theorem parse_prefix_len_eq {a : AddrStorage} {len : Token} {rest : List Token} {number : ℤ}
    (hl : len.m_type = TT_STRING) (hn : stoi len.m_string = some number) (hend : ends_part rest) :
    parse_prefix_len a (len :: rest) =
      if number < 0 ∨ 128 < number then .error .terminate
      else
        match a.mask number.toNat, a.broadcast_addr number.toNat with
        | some m_from, some m_to => .ok (.addr_range m_from m_to, rest)
        | _, _ => .error .undefined_shift := by
  have hb := stoi_bounds hn
  have hcur : current (len :: rest) = TT_STRING := hl
  have hstr : current_string (len :: rest) = len.m_string := rfl
  rw [parse_prefix_len, if_pos hcur, hstr, hn]
  by_cases hrange : number < 0 ∨ 128 < number
  · have hbig : (number % 2 ^ 32).toNat > 128 := by omega
    simp only [if_pos hrange, if_pos hbig]
  · have hmod : (number % 2 ^ 32).toNat = number.toNat := by omega
    have hsmall : ¬number.toNat > 128 := by omega
    simp only [if_neg hrange, hmod, if_neg hsmall, List.tail_cons]
    cases a.mask number.toNat <;> cases a.broadcast_addr number.toNat <;> simp [hend]

theorem Spells.family_cases {addr : List Token} {a : AddrStorage} (h : Spells pton gmp addr a) :
    a.get_addr_family = AF_INET ∨ a.get_addr_family = AF_INET6 := by
  rw [h.family]
  cases gmp <;> decide

-- The two addresses a host route for the zero address confuses.
theorem exists_ne_zero {family : AddrFamily} (h : family = AF_INET ∨ family = AF_INET6) :
    ∃ x : AddrStorage, x.get_addr_family = family ∧ x.value = 1 := by
  obtain rfl | rfl := h
  · exact ⟨inet 1, rfl, rfl⟩
  · exact ⟨inet6 ⟨0, 0, 0, 1⟩, rfl, rfl⟩

theorem le_width_of_maskable {family : AddrFamily} (hfam : family = AF_INET ∨ family = AF_INET6)
    {len : ℕ} (hlen : len ≤ 128) (hm : maskable family len) : len ≤ width family := by
  obtain rfl | rfl := hfam
  · simp only [maskable, reduceCtorEq, false_and, or_false] at hm
    simp only [width]
    omega
  · exact hlen

-- Where the masks are defined, the rule is exact unless the largest address is zero, which is
-- taken for an open end.
theorem masked_rule_exact_iff {a : AddrStorage} {number : ℤ} (rest : List Token)
    (hfam : a.get_addr_family = AF_INET ∨ a.get_addr_family = AF_INET6)
    (hvalid : a.is_valid = true) (hnum : 0 ≤ number)
    (hm : maskable a.get_addr_family number.toNat)
    (hle : number.toNat ≤ width a.get_addr_family) :
    CidrExact a number
        (match a.mask number.toNat, a.broadcast_addr number.toNat with
        | some m_from, some m_to => .ok (.addr_range m_from m_to, rest)
        | _, _ => .error .undefined_shift) ↔
      ¬(number.toNat = width a.get_addr_family ∧ a.value = 0) := by
  obtain ⟨lo, hi, hmask, hbroad, hpre, hmem, hzero⟩ := exists_prefix_range hm hle
  have hmatch : ∀ x, x.get_addr_family = a.get_addr_family →
      ((AddrMatch.addr_range lo hi).match x = true ↔
        lo.value ≤ x.value ∧ (x.value ≤ hi.value ∨ hi.value = 0)) := fun x hx =>
    addr_range_match_iff (hx.trans hpre.lo_family.symm) (hx.trans hpre.hi_family.symm)
      (by rw [is_valid, hx]; exact hvalid)
  rw [hmask, hbroad, ← hzero]
  by_cases hhi : hi.value = 0
  · have hlo : lo.value = 0 :=
      Nat.le_zero.mp (hhi ▸ (hpre.bounds lo hpre.lo_family hpre.lo_mem).2)
    obtain ⟨x, hxf, hx⟩ := exists_ne_zero hfam
    refine iff_of_false (fun hex => ?_) (not_not.mpr hhi)
    have hsame := (hex.2.2.2 x hxf).mp ((hmatch x hxf).mpr ⟨by omega, Or.inr hhi⟩)
    have hle := ((hmem x hxf).mp hsame).2
    omega
  · refine iff_of_true ⟨hnum, by omega, ⟨lo, hi, hmask, hbroad, hpre⟩, fun x hx => ?_⟩ hhi
    rw [hmatch x hx, hmem x hx]
    simp only [hhi, or_false]

theorem cidr_rule_exact_iff {addr rest : List Token} {a : AddrStorage} {slash len : Token}
    {number : ℤ} (h : Spells pton gmp addr a) (hs : slash.m_type = TT_SLASH)
    (hl : len.m_type = TT_STRING) (hn : stoi len.m_string = some number)
    (hend : ends_part rest) :
    CidrExact a number (parse_rule_part pton gmp (addr ++ slash :: len :: rest)) ↔
      number < 32 ∨ 128 < number ∨
        a.get_addr_family = AF_INET6 ∧ number % 32 = 0 ∧ ¬(number = 128 ∧ a.value = 0) := by
  rw [parse_rule_part_cidr h hs, parse_prefix_len_eq hl hn hend]
  by_cases hrange : number < 0 ∨ 128 < number
  · rw [if_pos hrange]
    simp only [CidrExact, true_iff]
    omega
  rw [if_neg hrange]
  have hfam := h.family_cases
  by_cases hm : maskable a.get_addr_family number.toNat
  · have hle := le_width_of_maskable hfam (by omega) hm
    rw [masked_rule_exact_iff rest hfam h.is_valid (by omega) hm hle]
    obtain hf | hf := hfam
    · simp only [maskable, hf, reduceCtorEq, false_and, or_false] at hm
      simp only [hf, width]
      omega
    · simp only [maskable, hf, true_and] at hm
      simp only [hf, width, true_and]
      omega
  · have hnone : a.mask number.toNat = none := prefix_change_eq_none _ _ hm h.is_valid (by omega)
    rw [hnone]
    simp only [CidrExact, false_iff]
    rintro (hlt | hgt | ⟨hf, hmod, -⟩)
    · exact hm (Or.inl (by omega))
    · omega
    · exact hm (Or.inr ⟨hf, by omega⟩)

-- An `inet_pton` that knows the given texts.
def known_addrs (inet : List (String × BitVec 32)) (inet6 : List (String × In6Addr)) : InetPton :=
  ⟨fun s => inet.lookup s, fun s => inet6.lookup s⟩

theorem cidr_rule_exact_multicast :
    ∃ addr slash len rest, scanner "224.0.0.0/4)" = .ok (addr ++ slash :: len :: rest) ∧
      CidrExact (inet 0xE0000000) 4 (parse_rule_part
        (known_addrs [("224.0.0.0", 0xE0000000)] []) .IGMPv3 (addr ++ slash :: len :: rest)) := by
  refine ⟨[⟨TT_STRING, "224"⟩, ⟨TT_DOT, ""⟩, ⟨TT_STRING, "0"⟩, ⟨TT_DOT, ""⟩, ⟨TT_STRING, "0"⟩,
    ⟨TT_DOT, ""⟩, ⟨TT_STRING, "0"⟩], ⟨TT_SLASH, ""⟩, ⟨TT_STRING, "4"⟩, [⟨TT_RIGHT_BRACKET, ""⟩],
    by decide +kernel, ?_⟩
  have hspells : Spells (known_addrs [("224.0.0.0", 0xE0000000)] []) .IGMPv3
      [⟨TT_STRING, "224"⟩, ⟨TT_DOT, ""⟩, ⟨TT_STRING, "0"⟩, ⟨TT_DOT, ""⟩, ⟨TT_STRING, "0"⟩,
        ⟨TT_DOT, ""⟩, ⟨TT_STRING, "0"⟩] (inet 0xE0000000) :=
    ⟨by decide, by decide, by decide +kernel, by decide⟩
  exact (cidr_rule_exact_iff hspells rfl rfl (by decide +kernel) (Or.inl rfl)).mpr
    (Or.inl (by decide))

-- The host route of the zero address lets every address through, and of an IPv4 address more
-- bits can be asked for than it has.
theorem zero_host_route_matches_all :
    (∃ toks m rest, scanner "0::/128)" = .ok toks ∧
      parse_rule_part (known_addrs [] [("0::", ⟨0, 0, 0, 0⟩)]) .MLDv2 toks = .ok (m, rest) ∧
      (∀ x, m.match (inet6 x) = true) ∧
      ¬same_prefix_bits 128 (inet6 ⟨0, 0, 0, 0⟩) (inet6 ⟨0, 0, 0, 1⟩)) ∧
    ∃ toks, scanner "10.0.0.1/33)" = .ok toks ∧
      parse_rule_part (known_addrs [("10.0.0.1", 0x0A000001)] []) .IGMPv3 toks =
        .error .undefined_shift := by
  refine ⟨⟨_, .addr_range (inet6 ⟨0, 0, 0, 0⟩) (inet6 ⟨0, 0, 0, 0⟩), _, rfl, rfl, fun x => ?_, ?_⟩,
    _, rfl, rfl⟩
  · have hwild : is_wildcard (inet6 ⟨0, 0, 0, 0⟩) AF_INET6 = true := rfl
    simp only [AddrMatch.match, AddrStorage.get_addr_family, hwild, Bool.or_true, Bool.and_self]
  · intro h
    exact absurd (h 127 (by decide)) (by decide +kernel)

end Cidr

end Mcproxy
