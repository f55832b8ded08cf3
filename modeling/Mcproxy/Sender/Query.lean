import Mathlib.Algebra.Order.BigOperators.Group.List
import Mathlib.Algebra.Order.Group.Nat
import Mcproxy.Checksum.Internet
import Mcproxy.IntervalCode
import Mcproxy.Querier.Refinement
import Mcproxy.Report

namespace Mcproxy

open Container Transition Numeral Checksum McastAddrRecordType GroupMemProtocol

section Flags

-- The byte of the bit fields `qrv`, `suppress` and `resv2`.
def query_flags (tv : TimersValues) (s_flag : Bool) : UInt8 :=
  (if tv.robustness_variable ≤ 7 then tv.robustness_variable.toUInt8 else 0) +
    if s_flag then 8 else 0

end Flags

section CalcChecksum

-- The loop of `calc_checksum`, the lower byte of a word first. The sum is an `int`: one that no
-- longer fits is undefined.
def sum_words : (buf : List UInt8) → (sum : ℕ) → Option ℕ
  | a :: b :: buf, sum =>
    if sum + lowFirst a b < 2 ^ 31 then sum_words buf (sum + lowFirst a b) else none
  | [a], sum => if sum + a.toNat < 2 ^ 31 then some (sum + a.toNat) else none
  | [], sum => some sum

def calc_checksum (buf : List UInt8) (buf_size : ℤ) : Option UInt16 :=
  match sum_words (buf.take buf_size.toNat) 0 with
  | none => none
  | some sum =>
    let csum := sum % 65536
    let sum := sum / 65536
    let sum := sum + csum
    let sum := sum + sum / 65536
    some (~~~UInt16.ofNat sum)

-- A 16 bit field as the host stores it.
def host_bytes (x : UInt16) : List UInt8 := [.ofNat (x.toNat % 256), .ofNat (x.toNat / 256)]

def store_word (buf : List UInt8) (offset : ℕ) (x : UInt16) : List UInt8 :=
  buf.take offset ++ host_bytes x ++ buf.drop (offset + 2)

end CalcChecksum

section Packets

-- What is given to `send_packet`.
structure QueryPacket (w : ℕ) where
  dst_addr : InAddr w
  bytes : List UInt8

variable {w : ℕ}

def src_bytes (slist : SourceList (InAddr w)) : List UInt8 := slist.keys.flatMap addr_bytes

def IPV4_ALL_HOST_ADDR : InAddr 4 := 0xE0000001

def IPV6_ALL_NODES_ADDR : InAddr 16 := 0xFF020000000000000000000000000001

-- An IPv4 header that must not be fragmented, with the router alert option.
def query_ip_hdr (size : ℕ) (src dst : InAddr 4) (ip_sum : UInt16) : List UInt8 :=
  [0x46, 0] ++ encode 2 size ++ [0, 0] ++ encode 2 0x4000 ++ [1, 2] ++ host_bytes ip_sum ++
    (addr_bytes src ++ addr_bytes dst ++ [0x94, 4, 0, 0])

def igmpv3_query (tv : TimersValues) (gaddr : InAddr 4) (s_flag : Bool)
    (slist : SourceList (InAddr 4)) (igmp_cksum : UInt16) : List UInt8 :=
  [0x11, maxrespi_to_maxrespc_igmpv3
      (if gaddr = 0 then tv.query_response_interval else tv.get_last_listener_query_time)] ++
    host_bytes igmp_cksum ++
    (addr_bytes gaddr ++ [query_flags tv s_flag, qqi_to_qqic tv.query_interval] ++
      encode 2 slist.elems.length ++ src_bytes slist)

def igmp_dst_addr (gaddr : InAddr 4) : InAddr 4 := if gaddr = 0 then IPV4_ALL_HOST_ADDR else gaddr

def mld_dst_addr (gaddr : InAddr 16) : InAddr 16 :=
  if gaddr = 0 then IPV6_ALL_NODES_ADDR else gaddr

-- The packet of `send_igmpv3_query`. Sizes are an `unsigned int`, and an `int` for the checksum;
-- there is none if a sum overflows or the sources do not fit into the buffer.
def igmpv3_query_packet (tv : TimersValues) (saddr gaddr : InAddr 4) (s_flag : Bool)
    (slist : SourceList (InAddr 4)) : Option (QueryPacket 4) :=
  let size : UInt32 := .ofNat (36 + if slist.isEmpty then 0 else slist.elems.length * 4)
  (calc_checksum (query_ip_hdr size.toNat saddr (igmp_dst_addr gaddr) 0) 24).bind fun ip_sum =>
    (calc_checksum (igmpv3_query tv gaddr s_flag slist 0)
        (to_int (.ofNat (12 + slist.elems.length * 4)))).bind fun igmp_cksum =>
      let packet := query_ip_hdr size.toNat saddr (igmp_dst_addr gaddr) ip_sum ++
        igmpv3_query tv gaddr s_flag slist igmp_cksum
      if packet.length ≤ size.toNat then some ⟨igmp_dst_addr gaddr, packet⟩ else none

-- The packet of `send_mldv2_query`; the kernel fills in the checksum.
def mldv2_query_packet (tv : TimersValues) (gaddr : InAddr 16) (s_flag : Bool)
    (slist : SourceList (InAddr 16)) : Option (QueryPacket 16) :=
  let size : UInt32 := .ofNat (28 + if slist.isEmpty then 0 else slist.elems.length * 16)
  let max_resp_delay := maxrespi_to_maxrespc_mldv2
    (if gaddr = 0 then tv.query_response_interval else tv.get_last_listener_query_time)
  let packet := [130, 0, 0, 0] ++ encode 2 max_resp_delay.toNat ++ [0, 0] ++ addr_bytes gaddr ++
    [query_flags tv s_flag, qqi_to_qqic tv.query_interval] ++ encode 2 slist.elems.length ++
    src_bytes slist
  if packet.length ≤ size.toNat then some ⟨mld_dst_addr gaddr, packet⟩ else none

-- `choose_if` and `send_packet` of the socket, as what they return.
structure QuerySocket (w : ℕ) where
  choose_if : ℕ → Bool
  send_packet : QueryPacket w → Bool

-- The end of both functions: what is returned, and the packet that was sent.
def QuerySocket.send (m_sock : QuerySocket w) (if_index : ℕ) (packet : QueryPacket w) :
    Bool × Option (QueryPacket w) :=
  if m_sock.choose_if if_index then (m_sock.send_packet packet, some packet) else (false, none)

def send_igmpv3_query (get_saddr : ℕ → InAddr 4) (m_sock : QuerySocket 4) (if_index : ℕ)
    (tv : TimersValues) (gaddr : InAddr 4) (s_flag : Bool) (slist : SourceList (InAddr 4)) :
    Option (Bool × Option (QueryPacket 4)) :=
  (igmpv3_query_packet tv (get_saddr if_index) gaddr s_flag slist).map (m_sock.send if_index)

def send_mldv2_query (m_sock : QuerySocket 16) (if_index : ℕ) (tv : TimersValues)
    (gaddr : InAddr 16) (s_flag : Bool) (slist : SourceList (InAddr 16)) :
    Option (Bool × Option (QueryPacket 16)) :=
  (mldv2_query_packet tv gaddr s_flag slist).map (m_sock.send if_index)

end Packets

section ChecksumSpec

theorem sum_words_eq (buf : List UInt8) (sum : ℕ) (hsum : sum < 2 ^ 31) :
    sum_words buf sum =
      if sum + (words lowFirst buf).sum < 2 ^ 31 then some (sum + (words lowFirst buf).sum)
      else none := by
  induction buf, sum using sum_words.induct with
  | case1 a b buf sum hlt ih =>
    rw [sum_words, if_pos hlt, ih hlt, words, List.sum_cons, Nat.add_assoc]
  | case2 a b buf sum hge =>
    rw [sum_words, if_neg hge, if_neg]
    simp only [words, List.sum_cons]
    omega
  | case3 a sum hlt =>
    have hword : (words lowFirst [a]).sum = a.toNat := by simp [words, lowFirst]
    rw [sum_words, if_pos hlt, hword, if_pos hlt]
  | case4 a sum hge =>
    have hword : (words lowFirst [a]).sum = a.toNat := by simp [words, lowFirst]
    rw [sum_words, if_neg hge, hword, if_neg hge]
  | case5 sum => rw [sum_words, words, List.sum_nil, Nat.add_zero, if_pos hsum]

theorem words_lowFirst_host_bytes (x : UInt16) : words lowFirst (host_bytes x) = [x.toNat] := by
  have hx := x.toNat_lt
  have hlow : (UInt8.ofNat (x.toNat % 256)).toNat = x.toNat % 256 := by
    rw [UInt8.toNat_ofNat']
    omega
  have hhigh : (UInt8.ofNat (x.toNat / 256)).toNat = x.toNat / 256 := by
    rw [UInt8.toNat_ofNat']
    omega
  simp only [host_bytes, words, lowFirst, hlow, hhigh]
  congr 1
  omega

-- Two foldings are enough for a sum that fits into an `int`.
theorem fold_twice {s t : ℕ} (hs : s < 2 ^ 31) (ht : t = s / 65536 + s % 65536) :
    (s + (65535 - (t + t / 65536) % 65536)) % 65535 = 0 := by
  have hmod : t % 65535 = s % 65535 := by omega
  have hle : t ≤ 98303 := by omega
  have hpos : t = 0 → s = 0 := by omega
  by_cases hcarry : t < 65536
  · have hfold : (t + t / 65536) % 65536 = t := by omega
    rw [hfold]
    omega
  · have hfold : (t + t / 65536) % 65536 = t - 65535 := by omega
    rw [hfold]
    omega

-- The checksum completes the sum of the words to a multiple of 65535, and never to zero.
theorem calc_checksum_spec {buf : List UInt8} {n : ℤ} (hn : n = buf.length) {c : UInt16}
    (h : calc_checksum buf n = some c) : ((words lowFirst buf).sum + c.toNat) % 65535 = 0 ∧
      0 < (words lowFirst buf).sum + c.toNat := by
  subst hn
  rw [calc_checksum, Int.toNat_natCast, List.take_length, sum_words_eq buf 0 (by decide),
    Nat.zero_add] at h
  split_ifs at h with hlt
  · obtain rfl := Option.some.inj h
    rw [UInt16.toNat_not, UInt16.toNat_ofNat']
    refine ⟨fold_twice hlt rfl, ?_⟩
    by_contra hzero
    obtain ⟨hsum, -⟩ := Nat.add_eq_zero_iff.mp (Nat.eq_zero_of_not_pos hzero)
    simp [hsum] at hzero

theorem calc_checksum_exists {buf : List UInt8} {n : ℤ} (hn : n = buf.length)
    (hlen : buf.length ≤ 65536) : ∃ c, calc_checksum buf n = some c := by
  subst hn
  have hbound : (words lowFirst buf).sum ≤ (words lowFirst buf).length * 65535 :=
    List.sum_le_card_nsmul _ _ (forall_words_le lowFirst_le buf)
  rw [length_words] at hbound
  have hlt : (words lowFirst buf).sum < 2 ^ 31 := by omega
  rw [calc_checksum, Int.toNat_natCast, List.take_length, sum_words_eq buf 0 (by decide),
    Nat.zero_add, if_pos hlt]
  exact ⟨_, rfl⟩

theorem sum_words_filled {l : List UInt8} (heven : l.length % 2 = 0) (x : UInt16)
    (r : List UInt8) : (words lowFirst (l ++ host_bytes x ++ r)).sum =
      (words lowFirst l).sum + x.toNat + (words lowFirst r).sum := by
  have heven' : (l ++ host_bytes x).length % 2 = 0 := by
    simp only [List.length_append, host_bytes, List.length_cons, List.length_nil]
    omega
  rw [words_append _ heven', words_append _ heven, words_lowFirst_host_bytes, List.sum_append,
    List.sum_append, List.sum_singleton]

-- A checksum that is filled in behind an even number of bytes verifies.
theorem verifies_filled {l r : List UInt8} {n : ℤ} {c : UInt16} (heven : l.length % 2 = 0)
    (hn : n = (l ++ host_bytes 0 ++ r).length)
    (h : calc_checksum (l ++ host_bytes 0 ++ r) n = some c)
    (hpos : 0 < (words highFirst l).sum) : Verifies (l ++ host_bytes c ++ r) := by
  obtain ⟨hmod, -⟩ := calc_checksum_spec hn h
  apply verifies_of_lowFirst
  · rw [sum_words_filled heven] at hmod ⊢
    rw [UInt16.toNat_zero] at hmod
    omega
  · rw [List.append_assoc, words_append _ heven, List.sum_append]
    omega

theorem store_word_zero {buf : List UInt8} {offset : ℕ} (hlow : buf[offset]? = some 0)
    (hhigh : buf[offset + 1]? = some 0) : store_word buf offset 0 = buf := by
  obtain ⟨hlt, hlow⟩ := List.getElem?_eq_some_iff.mp hlow
  obtain ⟨hlt', hhigh⟩ := List.getElem?_eq_some_iff.mp hhigh
  have hword : host_bytes 0 = [buf[offset], buf[offset + 1]] := by
    rw [hlow, hhigh]
    rfl
  rw [store_word, hword]
  simp

-- The sum of at most 65535 bytes stays an `int`, and the checksum stored where it was left out
-- completes it to all ones.
theorem calc_checksum_completes {buf : List UInt8} {offset : ℕ} (hlen : buf.length ≤ 65535)
    (heven : offset % 2 = 0) (hlow : buf[offset]? = some 0) (hhigh : buf[offset + 1]? = some 0) :
    ∃ c, calc_checksum buf buf.length = some c ∧
      onesSum (words lowFirst (store_word buf offset c)) = 65535 := by
  obtain ⟨c, hc⟩ := calc_checksum_exists rfl (hlen.trans (by decide))
  refine ⟨c, hc, ?_⟩
  obtain ⟨hmod, hpos⟩ := calc_checksum_spec rfl hc
  have hoffset : (buf.take offset).length % 2 = 0 := by
    have hlt := (List.getElem?_eq_some_iff.mp hlow).1
    rw [List.length_take, Nat.min_eq_left hlt.le, heven]
  rw [← store_word_zero hlow hhigh, store_word, sum_words_filled hoffset, UInt16.toNat_zero]
    at hmod hpos
  rw [onesSum_eq_iff (forall_words_le lowFirst_le _), store_word, sum_words_filled hoffset]
  omega

-- A buffer of three bytes with the checksum in front.
theorem calc_checksum_completes_odd :
    calc_checksum [0, 0, 7] 3 = some 65528 ∧
      onesSum (words lowFirst (store_word [0, 0, 7] 0 65528)) = 65535 := by
  have hsome : calc_checksum [0, 0, 7] 3 = some 65528 := by decide
  obtain ⟨c, hc, hsum⟩ := calc_checksum_completes (show [0, 0, 7].length ≤ 65535 by decide)
    (show 0 % 2 = 0 from rfl) rfl rfl
  obtain rfl : c = 65528 := Option.some.inj (hc.symm.trans hsome)
  exact ⟨hsome, hsum⟩

end ChecksumSpec

section Faithful

variable {w : ℕ}

-- The bytes of a field.
def field (bytes : List UInt8) (offset len : ℕ) : List UInt8 := (bytes.drop offset).take len

-- The number of sources at an offset and the sources behind it.
structure CarriesSources (offset : ℕ) (slist : SourceList (InAddr w)) (bytes : List UInt8) :
    Prop where
  num_of_srcs : decode (field bytes offset 2) = slist.elems.length
  srcs : ∃ addrs : List (InAddr w), addrs.Pairwise (· < ·) ∧ (∀ a, a ∈ addrs ↔ a ∈ slist) ∧
    bytes.drop (offset + 2) = addrs.flatMap addr_bytes

structure IgmpFaithful (slist : SourceList (InAddr 4)) (bytes : List UInt8) : Prop
    extends CarriesSources 34 slist bytes where
  ip_len : decode (field bytes 2 2) = bytes.length
  ip_sum : Verifies (bytes.take 24)
  igmp_cksum : Verifies (bytes.drop 24)

theorem field_append {l x r : List UInt8} {offset len : ℕ} (hl : l.length = offset)
    (hx : x.length = len) : field (l ++ x ++ r) offset len = x := by
  rw [field, List.append_assoc, List.drop_left' hl, List.take_left' hx]

theorem length_src_bytes (slist : SourceList (InAddr w)) :
    (src_bytes slist).length = slist.elems.length * w := by
  rw [src_bytes, length_flatMap_addr_bytes, OrdSet.keys, List.length_map]

theorem carriesSources_iff (slist : SourceList (InAddr w)) {l : List UInt8} {offset : ℕ}
    (hl : l.length = offset) :
    CarriesSources offset slist (l ++ encode 2 slist.elems.length ++ src_bytes slist) ↔
      slist.elems.length < 65536 := by
  have hfield := field_append (r := src_bytes slist) hl (length_encode 2 slist.elems.length)
  have hdecode := decode_encode 2 slist.elems.length
  constructor
  · rintro ⟨hnum, -⟩
    rw [hfield, hdecode] at hnum
    omega
  · intro hlt
    refine ⟨?_, slist.keys, slist.keys_sorted, fun a => Iff.rfl, ?_⟩
    · rw [hfield, hdecode]
      omega
    · apply List.drop_left'
      rw [List.length_append, length_encode, hl]

end Faithful

section Igmp

variable {tv : TimersValues} {saddr gaddr : InAddr 4} {s_flag : Bool}
  {slist : SourceList (InAddr 4)} {packet : QueryPacket 4}

theorem length_query_ip_hdr (size : ℕ) (src dst : InAddr 4) (ip_sum : UInt16) :
    (query_ip_hdr size src dst ip_sum).length = 24 := by
  simp only [query_ip_hdr, host_bytes, List.length_append, List.length_cons, List.length_nil,
    length_encode, length_addr_bytes]

theorem length_igmpv3_query (igmp_cksum : UInt16) :
    (igmpv3_query tv gaddr s_flag slist igmp_cksum).length = 12 + slist.elems.length * 4 := by
  simp only [igmpv3_query, host_bytes, List.length_append, List.length_cons, List.length_nil,
    length_encode, length_addr_bytes, length_src_bytes]
  omega

theorem query_size {w : ℕ} (slist : SourceList (InAddr w)) (k : ℕ) :
    (if slist.isEmpty then 0 else slist.elems.length * k) = slist.elems.length * k := by
  split_ifs with hempty
  · rw [List.isEmpty_iff.mp hempty, List.length_nil, Nat.zero_mul]
  · rfl

-- The sizes that a 32 bit number does not cut off.
theorem toNat_of_fits {n : ℕ} (h : n ≤ (UInt32.ofNat n).toNat) : (UInt32.ofNat n).toNat = n := by
  rw [UInt32.toNat_ofNat'] at h ⊢
  omega

theorem toNat_of_lt {n : ℕ} (h : n < 2 ^ 32) : (UInt32.ofNat n).toNat = n := by
  rw [UInt32.toNat_ofNat', Nat.mod_eq_of_lt h]

theorem to_int_of_lt {n : ℕ} (h : n < 2 ^ 31) : to_int (.ofNat n) = n := by
  have hlt : n < 2 ^ 32 := by omega
  unfold to_int
  rw [toNat_of_lt hlt]
  apply Int.bmod_eq_of_le
  · omega
  · omega

theorem igmpv3_query_packet_cases
    (h : igmpv3_query_packet tv saddr gaddr s_flag slist = some packet) :
    ∃ ip_sum igmp_cksum,
      calc_checksum (query_ip_hdr (36 + slist.elems.length * 4) saddr (igmp_dst_addr gaddr) 0) 24 =
        some ip_sum ∧
      calc_checksum (igmpv3_query tv gaddr s_flag slist 0)
        (to_int (.ofNat (12 + slist.elems.length * 4))) = some igmp_cksum ∧
      packet.bytes =
        query_ip_hdr (36 + slist.elems.length * 4) saddr (igmp_dst_addr gaddr) ip_sum ++
          igmpv3_query tv gaddr s_flag slist igmp_cksum := by
  unfold igmpv3_query_packet at h
  rw [query_size] at h
  obtain ⟨ip_sum, hip, h⟩ := Option.bind_eq_some_iff.mp h
  obtain ⟨igmp_cksum, higmp, h⟩ := Option.bind_eq_some_iff.mp h
  obtain ⟨hfits, h⟩ := Option.ite_none_right_eq_some.mp h
  obtain rfl := Option.some.inj h
  rw [List.length_append, length_query_ip_hdr, length_igmpv3_query, ← Nat.add_assoc] at hfits
  rw [toNat_of_fits hfits] at hip ⊢
  exact ⟨ip_sum, igmp_cksum, hip, higmp, rfl⟩

variable (tv saddr gaddr s_flag slist)

theorem igmpv3_query_packet_exists (h : slist.elems.length ≤ 16381) :
    ∃ packet, igmpv3_query_packet tv saddr gaddr s_flag slist = some packet := by
  have hip_len := length_query_ip_hdr (36 + slist.elems.length * 4) saddr (igmp_dst_addr gaddr)
  have higmp_len : ∀ igmp_cksum, (igmpv3_query tv gaddr s_flag slist igmp_cksum).length = _ :=
    length_igmpv3_query
  have higmp_int : to_int (.ofNat (12 + slist.elems.length * 4)) =
      (igmpv3_query tv gaddr s_flag slist 0).length := by
    rw [higmp_len, to_int_of_lt (by omega)]
  have hip_int : (24 : ℤ) = (query_ip_hdr (36 + slist.elems.length * 4) saddr
      (igmp_dst_addr gaddr) 0).length := by
    rw [hip_len]
    rfl
  obtain ⟨ip_sum, hip⟩ := calc_checksum_exists hip_int (by rw [hip_len]; decide)
  obtain ⟨igmp_cksum, higmp⟩ := calc_checksum_exists higmp_int (by rw [higmp_len]; omega)
  have hsize : (UInt32.ofNat (36 + slist.elems.length * 4)).toNat = 36 + slist.elems.length * 4 :=
    toNat_of_lt (by omega)
  unfold igmpv3_query_packet
  dsimp only
  rw [query_size, hsize, hip, Option.bind_some, higmp, Option.bind_some, if_pos]
  · exact ⟨_, rfl⟩
  · rw [List.length_append, hip_len, higmp_len]
    omega

-- The parts of the packet by their offset.
theorem igmp_packet_fields (size : ℕ) (dst : InAddr 4) (ip_sum igmp_cksum : UInt16) :
    let bytes := query_ip_hdr size saddr dst ip_sum ++ igmpv3_query tv gaddr s_flag slist igmp_cksum
    field bytes 2 2 = encode 2 size ∧ bytes.take 24 = query_ip_hdr size saddr dst ip_sum ∧
      bytes.drop 24 = igmpv3_query tv gaddr s_flag slist igmp_cksum ∧
      (CarriesSources 34 slist bytes ↔ slist.elems.length < 65536) := by
  have hlen := length_query_ip_hdr size saddr dst ip_sum
  refine ⟨?_, List.take_left' hlen, List.drop_left' hlen, ?_⟩
  · simp only [query_ip_hdr, List.append_assoc]
    rw [← List.append_assoc [0x46, 0]]
    exact field_append rfl (length_encode 2 size)
  · simp only [igmpv3_query, ← List.append_assoc]
    refine carriesSources_iff slist ?_
    simp only [List.length_append, hlen, host_bytes, List.length_cons, List.length_nil,
      length_addr_bytes]

variable {saddr} in
theorem igmp_checksums_verify (h : slist.elems.length ≤ 16381) {size : ℕ} {dst : InAddr 4}
    {ip_sum igmp_cksum : UInt16}
    (hip : calc_checksum (query_ip_hdr size saddr dst 0) 24 = some ip_sum)
    (higmp : calc_checksum (igmpv3_query tv gaddr s_flag slist 0)
      (to_int (.ofNat (12 + slist.elems.length * 4))) = some igmp_cksum) :
    Verifies (query_ip_hdr size saddr dst ip_sum) ∧
      Verifies (igmpv3_query tv gaddr s_flag slist igmp_cksum) := by
  constructor
  · refine verifies_filled ?_ ?_ hip ?_
    · simp only [List.length_append, List.length_cons, List.length_nil, length_encode]
    · exact congrArg Nat.cast (length_query_ip_hdr size saddr dst 0).symm
    · have hfirst : ([0x46, 0] : List UInt8).length % 2 = 0 := rfl
      simp only [List.append_assoc]
      rw [words_append _ hfirst, List.sum_append]
      exact Nat.add_pos_left (by decide) _
  · refine verifies_filled ?_ ?_ higmp ?_
    · simp only [List.length_cons, List.length_nil]
    · rw [to_int_of_lt (by omega)]
      exact congrArg Nat.cast (length_igmpv3_query 0).symm
    · simp [words, highFirst]

theorem igmp_packet_faithful_iff :
    (∃ packet, igmpv3_query_packet tv saddr gaddr s_flag slist = some packet ∧
        IgmpFaithful slist packet.bytes) ↔ slist.elems.length ≤ 16374 := by
  constructor
  · rintro ⟨packet, hpacket, hfaithful⟩
    obtain ⟨ip_sum, igmp_cksum, -, -, hbytes⟩ := igmpv3_query_packet_cases hpacket
    obtain ⟨hfield, -, -, -⟩ := igmp_packet_fields tv saddr gaddr s_flag slist
      (36 + slist.elems.length * 4) (igmp_dst_addr gaddr) ip_sum igmp_cksum
    have hlen := hfaithful.ip_len
    rw [hbytes, hfield, decode_encode, List.length_append, length_query_ip_hdr,
      length_igmpv3_query] at hlen
    omega
  · intro h
    obtain ⟨packet, hpacket⟩ := igmpv3_query_packet_exists tv saddr gaddr s_flag slist (by omega)
    obtain ⟨ip_sum, igmp_cksum, hip, higmp, hbytes⟩ := igmpv3_query_packet_cases hpacket
    obtain ⟨hfield, htake, hdrop, hsrcs⟩ := igmp_packet_fields tv saddr gaddr s_flag slist
      (36 + slist.elems.length * 4) (igmp_dst_addr gaddr) ip_sum igmp_cksum
    obtain ⟨hip, higmp⟩ := igmp_checksums_verify tv gaddr s_flag slist (by omega) hip higmp
    refine ⟨packet, hpacket, ?_⟩
    rw [hbytes]
    refine ⟨hsrcs.mpr (by omega), ?_, ?_, ?_⟩
    · rw [hfield, decode_encode, List.length_append, length_query_ip_hdr, length_igmpv3_query]
      omega
    · rw [htake]
      exact hip
    · rw [hdrop]
      exact higmp

end Igmp

section Mld

theorem mld_packet_faithful_iff (tv : TimersValues) (gaddr : InAddr 16) (s_flag : Bool)
    (slist : SourceList (InAddr 16)) :
    (∃ packet, mldv2_query_packet tv gaddr s_flag slist = some packet ∧
        CarriesSources 26 slist packet.bytes) ↔ slist.elems.length ≤ 65535 := by
  have hheader : ∀ delay : UInt16, ([130, 0, 0, 0] ++ encode 2 delay.toNat ++ [0, 0] ++
      addr_bytes gaddr ++ [query_flags tv s_flag, qqi_to_qqic tv.query_interval]).length = 26 := by
    intro delay
    simp only [List.length_append, List.length_cons, List.length_nil, length_encode,
      length_addr_bytes]
  unfold mldv2_query_packet
  rw [query_size]
  constructor
  · rintro ⟨packet, hpacket, hsrcs⟩
    obtain ⟨-, hpacket⟩ := Option.ite_none_right_eq_some.mp hpacket
    obtain rfl := Option.some.inj hpacket
    have hlt := (carriesSources_iff slist (hheader _)).mp hsrcs
    omega
  · intro h
    dsimp only
    rw [if_pos]
    · exact ⟨_, rfl, (carriesSources_iff slist (hheader _)).mpr (by omega)⟩
    · rw [List.length_append, List.length_append, hheader, length_encode, length_src_bytes,
        toNat_of_lt (by omega)]

end Mld

section Sent

variable {w : ℕ}

theorem QuerySocket.exists_sent_iff {m_sock : QuerySocket w} {if_index : ℕ}
    (hchoose : m_sock.choose_if if_index = true) {built : Option (QueryPacket w)}
    {P : QueryPacket w → Prop} :
    (∃ rc packet, built.map (m_sock.send if_index) = some (rc, some packet) ∧ P packet) ↔
      ∃ packet, built = some packet ∧ P packet := by
  cases built with
  | none => simp
  | some packet => simp [QuerySocket.send, hchoose]

-- The sizes up to which nothing wraps: the total length of an IPv4 packet comes first.
theorem query_encoding_iff (tv : TimersValues) (if_index : ℕ) (s_flag : Bool) :
    (∀ (get_saddr : ℕ → InAddr 4) (m_sock : QuerySocket 4) (gaddr : InAddr 4)
        (slist : SourceList (InAddr 4)), m_sock.choose_if if_index = true →
      ((∃ rc packet, send_igmpv3_query get_saddr m_sock if_index tv gaddr s_flag slist =
            some (rc, some packet) ∧ IgmpFaithful slist packet.bytes) ↔
        slist.elems.length ≤ 16374)) ∧
    ∀ (m_sock : QuerySocket 16) (gaddr : InAddr 16) (slist : SourceList (InAddr 16)),
      m_sock.choose_if if_index = true →
      ((∃ rc packet, send_mldv2_query m_sock if_index tv gaddr s_flag slist =
            some (rc, some packet) ∧ CarriesSources 26 slist packet.bytes) ↔
        slist.elems.length ≤ 65535) := by
  constructor
  · intro get_saddr m_sock gaddr slist hchoose
    exact (QuerySocket.exists_sent_iff hchoose).trans
      (igmp_packet_faithful_iff tv (get_saddr if_index) gaddr s_flag slist)
  · intro m_sock gaddr slist hchoose
    exact (QuerySocket.exists_sent_iff hchoose).trans
      (mld_packet_faithful_iff tv gaddr s_flag slist)

theorem query_encoding_two_sources :
    (∃ rc packet, send_igmpv3_query (fun _ => 0x0A000001) ⟨fun _ => true, fun _ => true⟩ 1 {}
        0xE1000001 true (sources [0x0A000002, 0x0A000003]) = some (rc, some packet) ∧
      IgmpFaithful (sources [0x0A000002, 0x0A000003]) packet.bytes) ∧
    ∃ rc packet, send_mldv2_query ⟨fun _ => true, fun _ => true⟩ 1 {} 0xFF3E0001 false
        (sources [2, 3]) = some (rc, some packet) ∧
      CarriesSources 26 (sources [(2 : InAddr 16), 3]) packet.bytes :=
  ⟨((query_encoding_iff {} 1 true).1 _ _ _ _ rfl).mpr (by decide),
    ((query_encoding_iff {} 1 false).2 _ _ _ rfl).mpr (by decide)⟩

end Sent

section Database

variable {α : Type*} [LinearOrder α]

-- Every finite set of sources can be in the database, one report for each source.
theorem exists_database_with (cfg : Config) (gaddr : α) (l : List α) :
    ∃ q, (querier α cfg IGMPv3).Reachable q ∧
      router_state (OrdMap.lookup q.m_db.group_info gaddr) = .INCLUDE { a | a ∈ l } := by
  induction l with
  | nil =>
    refine ⟨new_querier cfg IGMPv3, Machine.reachable_start, ?_⟩
    simp only [List.not_mem_nil, Set.ofPred_false]
    rfl
  | cons a l ih =>
    obtain ⟨q, hq, hstate⟩ := ih
    have hinv := querier_inv hq
    let gr : GroupRecordMsg α := ⟨ALLOW_NEW_SOURCES, gaddr, sources [a], IGMPv3⟩
    have hbuilt : gr.built_by_receiver IGMPv3 :=
      ⟨rfl, Or.inl ⟨rfl, List.forall_mem_singleton.mpr rfl⟩⟩
    obtain ⟨q', h⟩ := receive_record_total hinv cfg gr
    refine ⟨q', hq.step (e := .record gr) hbuilt h, ?_⟩
    rcases receive_record_row hinv h rfl with ⟨-, hblock, -⟩ | ⟨-, hrow⟩
    · cases hblock
    · have hslist : ∀ ginfo, (compatible_slist ginfo gr).addrs = {a} := by
        intro ginfo
        ext b
        simp [compatible_slist, gr]
      have hset : { b | b ∈ l } ∪ {a} = { b | b ∈ a :: l } := by
        ext b
        simp
      rw [hrow.state, hstate, hslist, ← hset]
      rfl

theorem addrs_requested {found : Option (GaddrInfo α)} {A : Set α}
    (h : router_state found = .INCLUDE A) : (requested found).addrs = A := by
  cases found with
  | none =>
    obtain rfl := RouterState.INCLUDE.inj h
    exact SourceList.addrs_empty
  | some ginfo =>
    rw [router_state, GaddrInfo.router_state] at h
    split at h
    · exact RouterState.INCLUDE.inj h
    · cases h

theorem length_of_addrs {slist : SourceList α} {l : List α} (hl : l.Nodup)
    (h : slist.addrs = { a | a ∈ l }) : slist.elems.length = l.length := by
  have hperm : slist.keys.Perm l :=
    (List.perm_ext_iff_of_nodup slist.keys_nodup hl).mpr fun a => Set.ext_iff.mp h a
  rw [← hperm.length_eq, OrdSet.keys, List.length_map]

-- 16375 sources: the packet has 65536 bytes, and its header says zero.
theorem database_outgrows_query :
    ∃ (q : Querier (InAddr 4)) (ginfo : GaddrInfo (InAddr 4)) (packet : QueryPacket 4),
      (querier (InAddr 4) default_config IGMPv3).Reachable q ∧
      OrdMap.lookup q.m_db.group_info 0xE1000001 = some ginfo ∧
      ginfo.include_requested_list.elems.length = 16375 ∧
      igmpv3_query_packet {} 0x0A000001 0xE1000001 false ginfo.include_requested_list =
        some packet ∧
      packet.bytes.length = 65536 ∧ decode (field packet.bytes 2 2) = 0 := by
  obtain ⟨q, hq, hstate⟩ := exists_database_with default_config (0xE1000001 : InAddr 4)
    ((List.finRange (256 ^ 4)).take 16375)
  have hlen : ((List.finRange (256 ^ 4)).take 16375).length = 16375 := by
    rw [List.length_take, List.length_finRange]
    decide
  have hnodup : ((List.finRange (256 ^ 4)).take 16375).Nodup :=
    (List.nodup_finRange _).sublist (List.take_sublist _ _)
  have hsize := (length_of_addrs hnodup (addrs_requested hstate)).trans hlen
  cases hfound : OrdMap.lookup q.m_db.group_info 0xE1000001 with
  | none =>
    rw [hfound] at hsize
    cases hsize
  | some ginfo =>
    rw [hfound] at hsize
    have hsize : ginfo.include_requested_list.elems.length = 16375 := hsize
    obtain ⟨packet, hpacket⟩ := igmpv3_query_packet_exists {} 0x0A000001 0xE1000001 false
      ginfo.include_requested_list (by omega)
    obtain ⟨ip_sum, igmp_cksum, -, -, hbytes⟩ := igmpv3_query_packet_cases hpacket
    obtain ⟨hfield, -, -, -⟩ := igmp_packet_fields {} 0x0A000001 0xE1000001 false
      ginfo.include_requested_list (36 + ginfo.include_requested_list.elems.length * 4)
      (igmp_dst_addr 0xE1000001) ip_sum igmp_cksum
    refine ⟨q, ginfo, packet, hq, hfound, hsize, hpacket, ?_, ?_⟩
    · rw [hbytes, List.length_append, length_query_ip_hdr, length_igmpv3_query, hsize]
    · rw [hbytes, hfield, decode_encode, hsize]
      decide

end Database

end Mcproxy
