import Mcproxy.Memory.Reader
import Mcproxy.Numeral.BigEndian
import Mcproxy.Querier.Handlers

namespace Mcproxy

open Container Memory McastAddrRecordType GroupMemProtocol

-- An address of `w` bytes as the number it stands for in network byte order.
abbrev InAddr (w : ℕ) := Fin (256 ^ w)

-- What a receiver gives to `proxy_instance::add_msg`.
inductive ReceiverMsg (α : Type*) [LinearOrder α]
  | new_source_msg (if_index : ℕ) (gaddr saddr : α)
  | group_record_msg (if_index : ℕ) (record : GroupRecordMsg α)

-- `m_interfaces` and `m_relevant_if_index` as the receiver asks them; 0 is no interface.
structure ReceiverInterfaces (w : ℕ) where
  get_vif_if_index : ℕ → ℕ
  get_saddr_if_index : InAddr w → ℕ
  is_if_index_relevant : ℕ → Bool

-- `static_cast<mcast_addr_record_type>`
def McastAddrRecordType.of_byte (type : UInt8) : McastAddrRecordType :=
  match type.toNat with
  | 1 => MODE_IS_INCLUDE
  | 2 => MODE_IS_EXCLUDE
  | 3 => CHANGE_TO_INCLUDE_MODE
  | 4 => CHANGE_TO_EXCLUDE_MODE
  | 5 => ALLOW_NEW_SOURCES
  | 6 => BLOCK_OLD_SOURCES
  | _ => unknown type

section Fields

-- A 16 bit field in network byte order
def ntohs (offset : ℕ) : Reader UInt8 ℕ := do
  let bytes ← cells offset 2
  return Numeral.decode bytes

def in_addr (w offset : ℕ) : Reader UInt8 (InAddr w) := do
  let bytes ← cells offset w
  return Fin.ofNat (256 ^ w) (Numeral.decode bytes)

end Fields

section Records

-- The inner loop over the sources of a record
def read_sources (w : ℕ) : (nos src : ℕ) → SourceList (InAddr w) →
    Reader UInt8 (SourceList (InAddr w))
  | 0, _, slist => return slist
  | j + 1, src, slist => do
    let saddr ← in_addr w src
    read_sources w j (src + w) (slist.insert { saddr := saddr })

-- The loop over the records of an IGMPv3 or MLDv2 report. A record is its type, the length of
-- the auxiliary data in words, the number of sources, the group and the sources; the
-- auxiliary data is skipped.
def read_records (w if_index : ℕ) (grp_mem_proto : GroupMemProtocol) :
    (num_records offset : ℕ) → Reader UInt8 (List (ReceiverMsg (InAddr w)))
  | 0, _ => return []
  | i + 1, offset => do
    let rec_type ← cell offset
    let aux_data_len ← cell (offset + 1)
    let nos ← ntohs (offset + 2)
    let gaddr ← in_addr w (offset + 4)
    let slist ← read_sources w nos (offset + (4 + w)) ∅
    let rest ← read_records w if_index grp_mem_proto i
      (offset + (4 + w) + nos * w + aux_data_len.toNat * 4)
    return .group_record_msg if_index ⟨.of_byte rec_type, gaddr, slist, grp_mem_proto⟩ :: rest

end Records

section Igmp

variable (ifs : ReceiverInterfaces 4)

def igmp_iov_min_size : ℕ :=
  let size_ip := 20 + 8 + 4 + 10000
  let size_kernel := 20
  if size_ip < size_kernel then size_kernel else size_ip

-- `IGMPMSG_NOCACHE` is the only `igmpmsg` the receiver knows.
def igmp_kernel_msg : Reader UInt8 (List (ReceiverMsg (InAddr 4))) := do
  let im_msgtype ← cell 8
  if im_msgtype = 1 then
    let saddr ← in_addr 4 12
    let gaddr ← in_addr 4 16
    let im_vif ← cell 10
    let if_index := ifs.get_vif_if_index im_vif.toNat
    return if if_index ≠ 0 && ifs.is_if_index_relevant if_index then
      [.new_source_msg if_index gaddr saddr] else []
  else return []

-- Reports (0x16) and leaves (0x17) of version 2, reports (0x22) of version 3.
def igmp_membership_msg (igmp_hdr : ℕ) : Reader UInt8 (List (ReceiverMsg (InAddr 4))) := do
  let igmp_type ← cell igmp_hdr
  if igmp_type = 0x16 ∨ igmp_type = 0x17 then
    let saddr ← in_addr 4 12
    let if_index := ifs.get_saddr_if_index saddr
    if if_index ≠ 0 && ifs.is_if_index_relevant if_index then
      let gaddr ← in_addr 4 (igmp_hdr + 4)
      return [.group_record_msg if_index
        ⟨if igmp_type = 0x16 then MODE_IS_EXCLUDE else CHANGE_TO_INCLUDE_MODE, gaddr, ∅, IGMPv2⟩]
    else return []
  else if igmp_type = 0x22 then
    let num_records ← ntohs (igmp_hdr + 6)
    let saddr ← in_addr 4 12
    let if_index := ifs.get_saddr_if_index saddr
    if if_index ≠ 0 && ifs.is_if_index_relevant if_index then
      read_records 4 if_index IGMPv3 num_records (igmp_hdr + 8)
    else return []
  else return []

-- `igmp_receiver::analyse_packet`. `ip_hl` is the lower half of the first byte.
def igmp_analyse_packet : Reader UInt8 (List (ReceiverMsg (InAddr 4))) := do
  let ip_hl ← cell 0
  let igmp_hdr := ip_hl.toNat % 16 * 4
  let ip_p ← cell 9
  if ip_p = 0 then igmp_kernel_msg ifs
  else if ip_p = 2 then
    let ip_len ← ntohs 2
    if ip_len ≤ igmp_iov_min_size then igmp_membership_msg ifs igmp_hdr else return []
  else return []

end Igmp

section Mld

variable (ifs : ReceiverInterfaces 16)

-- `MRT6MSG_NOCACHE`; `im6_mif` is in the byte order of the host, the lower byte first.
def mld_kernel_msg : Reader UInt8 (List (ReceiverMsg (InAddr 16))) := do
  let im6_msgtype ← cell 1
  if im6_msgtype = 1 then
    let saddr ← in_addr 16 8
    let gaddr ← in_addr 16 24
    let low ← cell 2
    let high ← cell 3
    let im6_mif := 256 * high.toNat + low.toNat
    let if_index := ifs.get_vif_if_index im6_mif
    return if if_index ≠ 0 && ifs.is_if_index_relevant if_index then
      [.new_source_msg if_index gaddr saddr] else []
  else return []

-- `mld_receiver::analyse_packet`. The interface index comes from the control data of the
-- message, if there is an `IPV6_PKTINFO` in it.
def mld_analyse_packet (packet_info : Option ℕ) :
    Reader UInt8 (List (ReceiverMsg (InAddr 16))) := do
  let mld_type ← cell 0
  if mld_type = 0 then mld_kernel_msg ifs
  else if mld_type = 131 ∨ mld_type = 132 then
    match packet_info with
    | none => return []
    | some if_index =>
      if ifs.is_if_index_relevant if_index then
        let gaddr ← in_addr 16 8
        return [.group_record_msg if_index
          ⟨if mld_type = 131 then MODE_IS_EXCLUDE else CHANGE_TO_INCLUDE_MODE, gaddr, ∅, MLDv1⟩]
      else return []
  else if mld_type = 143 then
    match packet_info with
    | none => return []
    | some if_index =>
      let num_records ← ntohs 6
      if ifs.is_if_index_relevant if_index then read_records 16 if_index MLDv2 num_records 8
      else return []
  else return []

end Mld

section Fits

-- The 16 bit field and the address at an offset of a memory
def field_at (m : ℕ → UInt8) (offset : ℕ) : ℕ := (ntohs offset).run m

def addr_at (w : ℕ) (m : ℕ → UInt8) (offset : ℕ) : InAddr w := (in_addr w offset).run m

-- Every record with all its sources ends within the `n` bytes.
def records_fit (w n : ℕ) (m : ℕ → UInt8) : (num_records offset : ℕ) → Prop
  | 0, _ => True
  | i + 1, offset =>
    offset + (4 + w) + field_at m (offset + 2) * w ≤ n ∧
      records_fit w n m i
        (offset + (4 + w) + field_at m (offset + 2) * w + (m (offset + 1)).toNat * 4)

-- The IGMP message behind the IP header is long enough for what its type and its counts say.
def igmp_message_fits (ifs : ReceiverInterfaces 4) (n : ℕ) (m : ℕ → UInt8) (igmp_hdr : ℕ) : Prop :=
  let if_index := ifs.get_saddr_if_index (addr_at 4 m 12)
  let wanted := if_index ≠ 0 ∧ ifs.is_if_index_relevant if_index
  igmp_hdr < n ∧
    if m igmp_hdr = 0x16 ∨ m igmp_hdr = 0x17 then 16 ≤ n ∧ (wanted → igmp_hdr + 8 ≤ n)
    else m igmp_hdr = 0x22 → 16 ≤ n ∧ igmp_hdr + 8 ≤ n ∧
      (wanted → records_fit 4 n m (field_at m (igmp_hdr + 6)) (igmp_hdr + 8))

-- A datagram long enough for its own header fields: the bytes behind it do not matter here, a
-- field that is looked at lies within it by what is asked before.
def igmp_fits (ifs : ReceiverInterfaces 4) (datagram : List UInt8) : Prop :=
  let n := datagram.length
  let m := fill 0 datagram
  10 ≤ n ∧
    if m 9 = 0 then m 8 = 1 → 20 ≤ n
    else m 9 = 2 → field_at m 2 ≤ igmp_iov_min_size →
      igmp_message_fits ifs n m ((m 0).toNat % 16 * 4)

def mld_fits (ifs : ReceiverInterfaces 16) (packet_info : Option ℕ) (datagram : List UInt8) :
    Prop :=
  let n := datagram.length
  let m := fill 0 datagram
  1 ≤ n ∧
    if m 0 = 0 then 2 ≤ n ∧ (m 1 = 1 → 40 ≤ n)
    else if m 0 = 131 ∨ m 0 = 132 then
      ∀ if_index, packet_info = some if_index → ifs.is_if_index_relevant if_index → 24 ≤ n
    else m 0 = 143 → ∀ if_index, packet_info = some if_index → 8 ≤ n ∧
      (ifs.is_if_index_relevant if_index → records_fit 16 n m (field_at m 6) 8)

variable {n : ℕ} {m : ℕ → UInt8}

theorem within_ite {β : Type} (c : Prop) [Decidable c] (p q : Reader UInt8 β) :
    (if c then p else q).Within n m ↔ if c then p.Within n m else q.Within n m := by
  split_ifs <;> rfl

theorem within_ntohs_bind {β : Type} (offset : ℕ) (f : ℕ → Reader UInt8 β) :
    (ntohs offset >>= f).Within n m ↔ offset + 2 ≤ n ∧ (f (field_at m offset)).Within n m := by
  refine (Reader.within_bind ..).trans (and_congr_left' ?_)
  simp [ntohs, Reader.within_bind, within_cells]

theorem within_in_addr_bind {w : ℕ} (hw : 0 < w) {β : Type} (offset : ℕ)
    (f : InAddr w → Reader UInt8 β) :
    (in_addr w offset >>= f).Within n m ↔
      offset + w ≤ n ∧ (f (addr_at w m offset)).Within n m := by
  refine (Reader.within_bind ..).trans (and_congr_left' ?_)
  simp only [in_addr, Reader.within_bind, within_cells, Reader.within_pure, and_true]
  omega

theorem within_read_sources {w : ℕ} (hw : 0 < w) (nos src : ℕ) (slist : SourceList (InAddr w)) :
    (read_sources w nos src slist).Within n m ↔ nos = 0 ∨ src + nos * w ≤ n := by
  induction nos generalizing src slist with
  | zero => simp [read_sources]
  | succ j ih =>
    simp only [read_sources, within_in_addr_bind hw, ih]
    have hmul : (j + 1) * w = j * w + w := Nat.succ_mul j w
    rw [hmul]
    rcases Nat.eq_zero_or_pos j with rfl | hj
    · simp
    · omega

theorem within_read_records {w : ℕ} (hw : 0 < w) (if_index : ℕ) (proto : GroupMemProtocol)
    (num_records offset : ℕ) :
    (read_records w if_index proto num_records offset).Within n m ↔
      records_fit w n m num_records offset := by
  induction num_records generalizing offset with
  | zero => simp [read_records, records_fit]
  | succ i ih =>
    simp only [read_records, within_cell_bind, within_ntohs_bind, within_in_addr_bind hw,
      records_fit]
    generalize field_at m (offset + 2) = nos
    simp only [Reader.within_bind, within_read_sources hw, ih, Reader.within_pure, and_true]
    -- the header of a record without sources, or the last source of one that has some
    have hrecord : (offset < n ∧ offset + 1 < n ∧ offset + 2 + 2 ≤ n ∧ offset + 4 + w ≤ n ∧
        (nos = 0 ∨ offset + (4 + w) + nos * w ≤ n)) ↔ offset + (4 + w) + nos * w ≤ n := by
      rcases Nat.eq_zero_or_pos nos with rfl | hpos
      · omega
      · omega
    refine Iff.trans ?_ (and_congr_left fun _ => hrecord)
    simp only [and_assoc]

theorem within_igmp_kernel_msg (ifs : ReceiverInterfaces 4) (h : 10 ≤ n) :
    (igmp_kernel_msg ifs).Within n m ↔ (m 8 = 1 → 20 ≤ n) := by
  simp only [igmp_kernel_msg, within_cell_bind, within_ite,
    within_in_addr_bind (show 0 < 4 by decide), Reader.within_pure, and_true]
  by_cases hnocache : m 8 = 1
  · simp only [hnocache, if_true, true_imp_iff]
    omega
  · simp only [hnocache, if_false, false_imp_iff, and_true, iff_true]
    omega

theorem within_igmp_membership_msg (ifs : ReceiverInterfaces 4) (igmp_hdr : ℕ) :
    (igmp_membership_msg ifs igmp_hdr).Within n m ↔ igmp_message_fits ifs n m igmp_hdr := by
  simp only [igmp_membership_msg, igmp_message_fits, within_cell_bind, within_ite,
    within_ntohs_bind, within_in_addr_bind (show 0 < 4 by decide),
    within_read_records (show 0 < 4 by decide), Reader.within_pure, and_true]
  refine and_congr_right fun _ => ?_
  simp only [Bool.and_eq_true, decide_eq_true_eq]
  have hv2 : igmp_hdr + 4 + 4 ≤ n ↔ igmp_hdr + 8 ≤ n := by omega
  by_cases htype : m igmp_hdr = 0x16 ∨ m igmp_hdr = 0x17
  · simp only [if_pos htype, Nat.reduceAdd, hv2]
    refine and_congr_right fun _ => ?_
    split_ifs with hwanted
    · simp [hwanted]
    · simp [hwanted]
  · simp only [if_neg htype]
    by_cases hv3 : m igmp_hdr = 0x22
    · simp only [hv3, true_imp_iff]
      rw [and_left_comm]
      refine and_congr (by omega) (and_congr (by omega) ?_)
      split_ifs with hwanted
      · simp [hwanted]
      · simp [hwanted]
    · simp [hv3]

theorem within_mld_kernel_msg (ifs : ReceiverInterfaces 16) :
    (mld_kernel_msg ifs).Within n m ↔ 2 ≤ n ∧ (m 1 = 1 → 40 ≤ n) := by
  simp only [mld_kernel_msg, within_cell_bind, within_ite,
    within_in_addr_bind (show 0 < 16 by decide), Reader.within_pure, and_true]
  by_cases hnocache : m 1 = 1
  · simp only [hnocache, if_true, true_imp_iff]
    omega
  · simp only [hnocache, if_false, false_imp_iff, and_true]
    omega

theorem igmp_contained_iff (ifs : ReceiverInterfaces 4) (datagram : List UInt8) :
    Contained (igmp_analyse_packet ifs) datagram ↔ igmp_fits ifs datagram := by
  rw [contained_iff _ _ 0]
  unfold igmp_fits igmp_analyse_packet
  generalize datagram.length = n
  generalize fill 0 datagram = m
  simp only [within_cell_bind, within_ite, within_ntohs_bind, within_igmp_membership_msg,
    Reader.within_pure]
  by_cases hn : 10 ≤ n
  · simp only [show 0 < n by omega, show 9 < n by omega, show 2 + 2 ≤ n by omega, hn, true_and]
    by_cases hkernel : m 9 = 0
    · simp only [if_pos hkernel]
      exact within_igmp_kernel_msg ifs hn
    · simp only [if_neg hkernel]
      by_cases hproto : m 9 = 2
      · simp only [hproto, true_imp_iff]
        by_cases hlen : field_at m 2 ≤ igmp_iov_min_size
        · simp [hlen]
        · simp [hlen]
      · simp [hproto]
  · simp only [show ¬ 9 < n by omega, hn, false_and, and_false]

theorem mld_contained_iff (ifs : ReceiverInterfaces 16) (packet_info : Option ℕ)
    (datagram : List UInt8) :
    Contained (mld_analyse_packet ifs packet_info) datagram ↔
      mld_fits ifs packet_info datagram := by
  rw [contained_iff _ _ 0]
  unfold mld_fits mld_analyse_packet
  generalize datagram.length = n
  generalize fill 0 datagram = m
  simp only [within_cell_bind, within_ite, within_mld_kernel_msg, Reader.within_pure]
  refine and_congr (by omega) ?_
  by_cases hkernel : m 0 = 0
  · simp [hkernel]
  · simp only [if_neg hkernel]
    by_cases hv1 : m 0 = 131 ∨ m 0 = 132
    · simp only [if_pos hv1]
      cases packet_info with
      | none => simp
      | some if_index =>
        by_cases hrel : ifs.is_if_index_relevant if_index
        · simp [hrel, within_in_addr_bind]
        · simp [hrel]
    · simp only [if_neg hv1]
      by_cases hv2 : m 0 = 143
      · simp only [hv2, if_true, true_imp_iff]
        cases packet_info with
        | none => simp
        | some if_index =>
          by_cases hrel : ifs.is_if_index_relevant if_index
          · simp [hrel, within_ntohs_bind, within_read_records]
          · simp [hrel, within_ntohs_bind]
      · simp [hv2]

-- The parsers stay within the datagram, and what they emit depends on it alone, exactly for the
-- datagrams that are as long as their own fields say.
theorem parsing_contained_iff (datagram : List UInt8) :
    (∀ ifs : ReceiverInterfaces 4,
      Contained (igmp_analyse_packet ifs) datagram ↔ igmp_fits ifs datagram) ∧
    ∀ (ifs : ReceiverInterfaces 16) (packet_info : Option ℕ),
      Contained (mld_analyse_packet ifs packet_info) datagram ↔
        mld_fits ifs packet_info datagram :=
  ⟨fun ifs => igmp_contained_iff ifs datagram, fun ifs info => mld_contained_iff ifs info datagram⟩

-- The groups the emitted messages are about
def ReceiverMsg.gaddr {α : Type*} [LinearOrder α] : ReceiverMsg α → α
  | .new_source_msg _ gaddr _ => gaddr
  | .group_record_msg _ record => record.gaddr

-- An IGMPv3 report that announces one record and ends before it. The record is taken from what an
-- earlier datagram has left in the buffer: nothing there, or a TO_EX({}) for 239.1.1.1.
theorem truncated_report_reads_leftover :
    ∃ (ifs : ReceiverInterfaces 4) (datagram leftover : List UInt8),
      datagram.length = 28 ∧
      28 ∈ (igmp_analyse_packet ifs).reads (fill 0 datagram) ∧
      ((igmp_analyse_packet ifs).run (fill 0 datagram)).map ReceiverMsg.gaddr = [0] ∧
      ((igmp_analyse_packet ifs).run (fill 0 (datagram ++ leftover))).map ReceiverMsg.gaddr =
        [0xEF010101] ∧
      ¬ Contained (igmp_analyse_packet ifs) datagram := by
  refine ⟨⟨fun _ => 0, fun _ => 1, fun _ => true⟩,
    [0x45, 0, 0, 28, 0, 0, 0, 0, 1, 2, 0, 0, 10, 0, 0, 1, 224, 0, 0, 22, 0x22, 0, 0, 0, 0, 0, 0, 1],
    [4, 0, 0, 0, 239, 1, 1, 1], rfl, by decide +kernel, by decide +kernel, by decide +kernel, ?_⟩
  intro h
  have hread := (h _ _ (holds_fill 0 _) (holds_fill 0 _)).1 28 (by decide +kernel)
  exact absurd hread (by decide)

end Fits

end Mcproxy
