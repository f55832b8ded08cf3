import Mcproxy.Container.Comparator
import Mcproxy.Parser.Prefix

namespace Mcproxy

open AddrFamily Container.Comparator Numeral

namespace AddrStorage

section Operators

-- `operator>`
def gt (a b : AddrStorage) : Bool := !a.lt b && !a.eq b

-- `operator!=`
def ne (a b : AddrStorage) : Bool := !a.eq b

-- The bytes of an address in network order.
def net_bytes : AddrStorage → List UInt8
  | unspec => []
  | inet a => encode 4 a.toNat
  | inet6 a => a.s6_addr

theorem decode_net_bytes (a : AddrStorage) : decode a.net_bytes = a.value := by
  cases a with
  | unspec => rfl
  | inet a => exact decode_encode_of_lt a.isLt
  | inet6 a => exact a.decode_s6_addr

end Operators

section Spec

variable (family : AddrFamily)

-- The operators on the addresses of a family, told by `<` alone.
structure NumericOrder : Prop where
  numeric : ∀ a b : AddrStorage, a.get_addr_family = family → b.get_addr_family = family →
    (a.lt b = true ↔ decode a.net_bytes < decode b.net_bytes)
  irrefl : ∀ a : AddrStorage, a.get_addr_family = family → a.lt a = false
  trans : ∀ a b c : AddrStorage, a.get_addr_family = family → b.get_addr_family = family →
    c.get_addr_family = family → a.lt b = true → b.lt c = true → a.lt c = true
  total : ∀ a b : AddrStorage, a.get_addr_family = family → b.get_addr_family = family →
    a.lt b = true ∨ a = b ∨ b.lt a = true
  equiv : ∀ a b : AddrStorage, a.get_addr_family = family → b.get_addr_family = family →
    a.eq b = equivalent lt a b
  eq : ∀ a b : AddrStorage, a.get_addr_family = family → b.get_addr_family = family →
    (a.eq b = true ↔ a = b)
  gt : ∀ a b : AddrStorage, a.get_addr_family = family → b.get_addr_family = family →
    a.gt b = b.lt a
  le : ∀ a b : AddrStorage, a.get_addr_family = family → b.get_addr_family = family →
    a.le b = !b.lt a
  ge : ∀ a b : AddrStorage, a.get_addr_family = family → b.get_addr_family = family →
    a.ge b = !a.lt b
  ne : ∀ a b : AddrStorage, a.get_addr_family = family → b.get_addr_family = family →
    a.ne b = (a.lt b || b.lt a)

-- What a set or map ordered by `<` holds: equal addresses once, distinct ones all.
structure KeepsApart {τ : Type} (addr : τ → AddrStorage) (cs : List (Call τ AddrStorage)) :
    Prop where
  sorted : (calls lt addr cs).Pairwise fun x y => (addr x).lt (addr y) = true
  nodup : (calls lt addr cs).Pairwise fun x y => (addr x).eq (addr y) = false
  holds : ∀ a : AddrStorage, a.get_addr_family = family →
    ((∃ x ∈ calls lt addr cs, (addr x).eq a = true) ↔ Holds (fun a b => a.eq b = true) addr a cs)

-- What a range matches: both ends and what lies between them. A zero address is no bound.
structure Inclusive (lo hi : AddrStorage) : Prop where
  bounds : ∀ x : AddrStorage, x.get_addr_family = family →
    ((AddrMatch.addr_range lo hi).match x = true ↔
      decode lo.net_bytes ≤ decode x.net_bytes ∧
        (decode x.net_bytes ≤ decode hi.net_bytes ∨ hi = zero family))
  ends : lo.le hi = true → (AddrMatch.addr_range lo hi).match lo = true ∧
    (AddrMatch.addr_range lo hi).match hi = true

end Spec

section Order

variable {family : AddrFamily} {a b : AddrStorage}

theorem is_valid_of_family (hf : family ≠ AF_UNSPEC) (ha : a.get_addr_family = family) :
    a.is_valid = true := by
  rw [is_valid, ha]
  simpa using hf

theorem lt_ranks (family : AddrFamily) :
    Ranks lt value fun a : AddrStorage => a.get_addr_family = family :=
  fun _ _ ha hb => lt_iff (ha.trans hb.symm)

theorem gt_iff (h : a.get_addr_family = b.get_addr_family) (hv : a.is_valid = true) :
    a.gt b = true ↔ b.value < a.value := by
  rw [gt, Bool.and_eq_true, Bool.not_eq_true', Bool.not_eq_true', ← Bool.not_eq_true,
    ← Bool.not_eq_true, lt_iff h, eq_iff h hv]
  omega

theorem ne_iff (h : a.get_addr_family = b.get_addr_family) (hv : a.is_valid = true) :
    a.ne b = true ↔ a.value ≠ b.value := by
  rw [ne, Bool.not_eq_true', ← Bool.not_eq_true, eq_iff h hv]

theorem numericOrder (hf : family ≠ AF_UNSPEC) : NumericOrder family where
  numeric a b ha hb := by
    rw [decode_net_bytes, decode_net_bytes, lt_iff (ha.trans hb.symm)]
  irrefl a _ := by
    rw [← Bool.not_eq_true, lt_iff rfl]
    exact lt_irrefl _
  trans a b c ha hb hc := by
    rw [lt_iff (ha.trans hb.symm), lt_iff (hb.trans hc.symm), lt_iff (ha.trans hc.symm)]
    exact lt_trans
  total a b ha hb := by
    have hv := is_valid_of_family hf ha
    rw [← eq_true_iff hv, eq_iff (ha.trans hb.symm) hv, lt_iff (ha.trans hb.symm),
      lt_iff (hb.trans ha.symm)]
    exact lt_trichotomy _ _
  equiv a b ha hb := by
    rw [Bool.eq_iff_iff, (lt_ranks family).equivalent_iff ha hb,
      eq_iff (ha.trans hb.symm) (is_valid_of_family hf ha)]
  eq a b ha _ := eq_true_iff (is_valid_of_family hf ha)
  gt a b ha hb := by
    rw [Bool.eq_iff_iff, gt_iff (ha.trans hb.symm) (is_valid_of_family hf ha),
      lt_iff (hb.trans ha.symm)]
  le a b ha hb := by
    rw [Bool.eq_iff_iff, le_iff (ha.trans hb.symm) (is_valid_of_family hf ha),
      Bool.not_eq_true', ← Bool.not_eq_true, lt_iff (hb.trans ha.symm), not_lt]
  ge _ _ _ _ := rfl
  ne a b ha hb := by
    rw [Bool.eq_iff_iff, ne_iff (ha.trans hb.symm) (is_valid_of_family hf ha), Bool.or_eq_true,
      lt_iff (ha.trans hb.symm), lt_iff (hb.trans ha.symm), ne_iff_lt_or_gt]

theorem keepsApart (hf : family ≠ AF_UNSPEC) {τ : Type} (addr : τ → AddrStorage)
    (cs : List (Call τ AddrStorage)) (hcs : ∀ c ∈ cs, (c.about addr).get_addr_family = family) :
    KeepsApart family addr cs := by
  have heq : ∀ a b : AddrStorage, a.get_addr_family = family → b.get_addr_family = family →
      (a.eq b = true ↔ a.value = b.value) := fun a b ha hb =>
    eq_iff (ha.trans hb.symm) (is_valid_of_family hf ha)
  obtain ⟨s, hs, hok, hholds⟩ := (lt_ranks family).calls_spec heq cs hcs
  refine ⟨?_, ?_, fun a ha => ?_⟩
  · rw [← hs]
    refine s.sorted.imp_of_mem fun hx hy hlt => ?_
    exact (lt_ranks family _ _ (hok _ hx) (hok _ hy)).mpr hlt
  · rw [← hs]
    refine s.sorted.imp_of_mem fun hx hy hlt => ?_
    rw [← Bool.not_eq_true, heq _ _ (hok _ hx) (hok _ hy)]
    exact hlt.ne
  · have hmem : a.value ∈ s ↔ ∃ x ∈ s.elems, (addr x).value = a.value := List.mem_map
    rw [← hholds a ha, hmem, ← hs]
    exact exists_congr fun x => and_congr_right fun hx => heq _ _ (hok x hx) ha

theorem eq_zero_iff_value (hf : family ≠ AF_UNSPEC) (ha : a.get_addr_family = family) :
    a = zero family ↔ a.value = 0 := by
  have hv := is_valid_of_family hf ha
  rw [← eq_true_iff hv, ← ha, eq_zero_iff hv]

theorem inclusive (hf : family ≠ AF_UNSPEC) {lo hi : AddrStorage}
    (hlo : lo.get_addr_family = family) (hhi : hi.get_addr_family = family) :
    Inclusive family lo hi := by
  have hmatch : ∀ x : AddrStorage, x.get_addr_family = family →
      ((AddrMatch.addr_range lo hi).match x = true ↔
        lo.value ≤ x.value ∧ (x.value ≤ hi.value ∨ hi.value = 0)) := fun x hx =>
    addr_range_match_iff (hx.trans hlo.symm) (hx.trans hhi.symm) (is_valid_of_family hf hx)
  refine ⟨fun x hx => ?_, fun hle => ?_⟩
  · rw [hmatch x hx, decode_net_bytes, decode_net_bytes, decode_net_bytes,
      eq_zero_iff_value hf hhi]
  · rw [le_iff (hlo.trans hhi.symm) (is_valid_of_family hf hlo)] at hle
    rw [hmatch lo hlo, hmatch hi hhi]
    exact ⟨⟨le_rfl, Or.inl hle⟩, hle, Or.inl le_rfl⟩

end Order

section Main

-- What sets, maps and ranges of addresses rely on.
theorem comparison_numeric {family : AddrFamily} (hf : family ≠ AF_UNSPEC) :
    NumericOrder family ∧
    (∀ (τ : Type) (addr : τ → AddrStorage) (cs : List (Call τ AddrStorage)),
      (∀ c ∈ cs, (c.about addr).get_addr_family = family) → KeepsApart family addr cs) ∧
    ∀ lo hi : AddrStorage, lo.get_addr_family = family → hi.get_addr_family = family →
      Inclusive family lo hi :=
  ⟨numericOrder hf, fun _ addr cs hcs => keepsApart hf addr cs hcs,
    fun _ _ hlo hhi => inclusive hf hlo hhi⟩

-- `::1:0:0` and `::1`, put into a set in this order, and the range between them.
theorem comparison_numeric_ipv6 :
    NumericOrder AF_INET6 ∧
    calls lt id [.insert (inet6 ⟨0, 0, 1, 0⟩), .insert (inet6 ⟨0, 0, 0, 1⟩)] =
      [inet6 ⟨0, 0, 0, 1⟩, inet6 ⟨0, 0, 1, 0⟩] ∧
    KeepsApart AF_INET6 id [.insert (inet6 ⟨0, 0, 1, 0⟩), .insert (inet6 ⟨0, 0, 0, 1⟩)] ∧
    Inclusive AF_INET6 (inet6 ⟨0, 0, 0, 1⟩) (inet6 ⟨0, 0, 1, 0⟩) := by
  obtain ⟨horder, hset, hrange⟩ := comparison_numeric (show AF_INET6 ≠ AF_UNSPEC by decide)
  refine ⟨horder, by decide, hset AddrStorage id _ ?_, hrange _ _ rfl rfl⟩
  intro c hc
  simp only [List.mem_cons, List.not_mem_nil, or_false] at hc
  rcases hc with rfl | rfl
  · rfl
  · rfl

end Main

end AddrStorage

end Mcproxy
