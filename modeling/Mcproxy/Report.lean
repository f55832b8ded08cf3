import Mcproxy.Receiver

namespace Mcproxy

open Container Memory Numeral GroupMemProtocol

section Encoding

-- A record as a host writes it: the length of the auxiliary data is in words of four bytes.
structure McRecord (w : ℕ) where
  type : UInt8
  aux_data_len : UInt8
  gaddr : InAddr w
  srcs : List (InAddr w)
  aux_data : List UInt8
  srcs_lt : srcs.length < 256 ^ 2
  aux_size : aux_data.length = aux_data_len.toNat * 4

structure McReport (w : ℕ) where
  reservedA : UInt8
  checksum : UInt16
  reservedB : UInt16
  records : List (McRecord w)
  records_lt : records.length < 256 ^ 2

-- A header of IPv4 with its options.
structure IpHeader where
  ip_tos : UInt8
  ip_len : UInt16
  ip_id : UInt16
  ip_off : UInt16
  ip_ttl : UInt8
  ip_sum : UInt16
  ip_src : InAddr 4
  ip_dst : InAddr 4
  options : List UInt8
  words : 4 ∣ options.length
  size : options.length ≤ 40

variable {w : ℕ}

-- An address in network byte order.
def addr_bytes (a : InAddr w) : List UInt8 := encode w a

def McRecord.bytes (r : McRecord w) : List UInt8 :=
  [r.type, r.aux_data_len] ++ encode 2 r.srcs.length ++ addr_bytes r.gaddr ++
    r.srcs.flatMap addr_bytes ++ r.aux_data

def McReport.bytes (type : UInt8) (report : McReport w) : List UInt8 :=
  [type, report.reservedA] ++ encode 2 report.checksum.toNat ++ encode 2 report.reservedB.toNat ++
    encode 2 report.records.length ++ report.records.flatMap McRecord.bytes

-- The upper half of the first byte is the version.
def IpHeader.bytes (ip : IpHeader) (ip_p : UInt8) : List UInt8 :=
  [UInt8.ofNat (0x40 + (20 + ip.options.length) / 4), ip.ip_tos] ++ encode 2 ip.ip_len.toNat ++
    encode 2 ip.ip_id.toNat ++ encode 2 ip.ip_off.toNat ++ [ip.ip_ttl, ip_p] ++
    encode 2 ip.ip_sum.toNat ++ addr_bytes ip.ip_src ++ addr_bytes ip.ip_dst ++ ip.options

-- What a receiver is to make of it.
def McRecord.msg (if_index : ℕ) (proto : GroupMemProtocol) (r : McRecord w) :
    ReceiverMsg (InAddr w) :=
  .group_record_msg if_index ⟨.of_byte r.type, r.gaddr, sources r.srcs, proto⟩

def McReport.msgs (if_index : ℕ) (proto : GroupMemProtocol) (report : McReport w) :
    List (ReceiverMsg (InAddr w)) :=
  report.records.map (McRecord.msg if_index proto)

end Encoding

section Lengths

variable {w : ℕ}

@[simp] theorem length_addr_bytes (a : InAddr w) : (addr_bytes a).length = w := length_encode w a

theorem length_flatMap_addr_bytes (srcs : List (InAddr w)) :
    (srcs.flatMap addr_bytes).length = srcs.length * w := by
  induction srcs with
  | nil => simp
  | cons saddr srcs ih =>
    rw [List.flatMap_cons, List.length_append, length_addr_bytes, ih, List.length_cons,
      Nat.succ_mul, Nat.add_comm]

theorem McRecord.length_bytes (r : McRecord w) :
    r.bytes.length = 4 + w + r.srcs.length * w + r.aux_data_len.toNat * 4 := by
  simp only [McRecord.bytes, List.length_append, List.length_cons, List.length_nil, length_encode,
    length_addr_bytes, length_flatMap_addr_bytes, r.aux_size]

theorem IpHeader.length_bytes (ip : IpHeader) (ip_p : UInt8) :
    (ip.bytes ip_p).length = 20 + ip.options.length := by
  simp only [IpHeader.bytes, List.length_append, List.length_cons, List.length_nil, length_encode,
    length_addr_bytes]

theorem IpHeader.length_eq (ip : IpHeader) :
    (UInt8.ofNat (0x40 + (20 + ip.options.length) / 4)).toNat % 16 * 4 =
      20 + ip.options.length := by
  have hwords := ip.words
  have hsize := ip.size
  rw [UInt8.toNat_ofNat']
  omega

end Lengths

section Fields

variable {w offset : ℕ} {m : ℕ → UInt8}

theorem run_ntohs {n : ℕ} (hn : n < 256 ^ 2) (h : HoldsAt m offset (encode 2 n)) :
    (ntohs offset).run m = n := by
  have hcells := h.run_cells
  rw [length_encode] at hcells
  simp only [ntohs, Reader.run_bind, Reader.run_pure, hcells]
  exact decode_encode_of_lt hn

theorem run_in_addr {a : InAddr w} (h : HoldsAt m offset (addr_bytes a)) :
    (in_addr w offset).run m = a := by
  have hcells := h.run_cells
  rw [length_addr_bytes] at hcells
  simp only [in_addr, Reader.run_bind, Reader.run_pure, hcells]
  apply Fin.ext
  have hdecode : decode (addr_bytes a) = a.val := decode_encode_of_lt a.isLt
  rw [hdecode, Fin.val_ofNat, Nat.mod_eq_of_lt a.isLt]

theorem run_read_sources {srcs : List (InAddr w)} (slist : SourceList (InAddr w))
    (h : HoldsAt m offset (srcs.flatMap addr_bytes)) :
    (read_sources w srcs.length offset slist).run m =
      slist.insertAll (srcs.map fun saddr => { saddr := saddr }) := by
  induction srcs generalizing offset slist with
  | nil => rfl
  | cons saddr srcs ih =>
    rw [List.flatMap_cons, holdsAt_append, length_addr_bytes] at h
    simp only [List.length_cons, read_sources, Reader.run_bind, run_in_addr h.1]
    exact ih _ h.2

-- The stride over a record is the length of its encoding.
theorem run_read_records (if_index : ℕ) (proto : GroupMemProtocol) {records : List (McRecord w)}
    (h : HoldsAt m offset (records.flatMap McRecord.bytes)) :
    (read_records w if_index proto records.length offset).run m =
      records.map (McRecord.msg if_index proto) := by
  induction records generalizing offset with
  | nil => rfl
  | cons r records ih =>
    rw [List.flatMap_cons, holdsAt_append, McRecord.length_bytes] at h
    obtain ⟨hrecord, hrest⟩ := h
    simp only [McRecord.bytes, holdsAt_append, HoldsAt, List.length_append, List.length_cons,
      List.length_nil, length_encode, length_addr_bytes, and_true] at hrecord
    obtain ⟨⟨⟨⟨⟨htype, haux⟩, hnos⟩, hgaddr⟩, hsrcs⟩, -⟩ := hrecord
    have hnext : offset + (4 + w) + r.srcs.length * w + r.aux_data_len.toNat * 4 =
        offset + (4 + w + r.srcs.length * w + r.aux_data_len.toNat * 4) := by omega
    simp only [List.length_cons, read_records, Reader.run_bind, run_cell, htype, haux,
      run_ntohs r.srcs_lt hnos, run_in_addr hgaddr, Reader.run_pure, List.map_cons, hnext, ih hrest]
    rw [run_read_sources ∅ hsrcs]
    rfl

end Fields

section Reports

theorem run_ite {β : Type} (m : ℕ → UInt8) (c : Prop) [Decidable c] (p q : Reader UInt8 β) :
    (if c then p else q).run m = if c then p.run m else q.run m :=
  apply_ite (Reader.run m) c p q

variable {m : ℕ → UInt8}

-- The number of records and the records, by their offset from the beginning of the report.
theorem McReport.holdsAt_fields {w offset : ℕ} {type : UInt8} {report : McReport w}
    (h : HoldsAt m offset (report.bytes type)) :
    m offset = type ∧ HoldsAt m (offset + 6) (encode 2 report.records.length) ∧
      HoldsAt m (offset + 8) (report.records.flatMap McRecord.bytes) := by
  simp only [McReport.bytes, holdsAt_append, HoldsAt, List.length_append, List.length_cons,
    List.length_nil, length_encode, and_true] at h
  exact ⟨h.1.1.1.1.1, h.1.2, h.2⟩

theorem IpHeader.holdsAt_fields {ip : IpHeader} {ip_p : UInt8} (h : HoldsAt m 0 (ip.bytes ip_p)) :
    (m 0).toNat % 16 * 4 = 20 + ip.options.length ∧ HoldsAt m 2 (encode 2 ip.ip_len.toNat) ∧
      m 9 = ip_p ∧ HoldsAt m 12 (addr_bytes ip.ip_src) := by
  simp only [IpHeader.bytes, holdsAt_append, HoldsAt, List.length_append, List.length_cons,
    List.length_nil, length_encode, length_addr_bytes, and_true] at h
  obtain ⟨⟨⟨⟨⟨⟨⟨⟨⟨hhl, -⟩, hlen⟩, -⟩, -⟩, -, hp⟩, -⟩, hsrc⟩, -⟩, -⟩ := h
  exact ⟨hhl ▸ ip.length_eq, hlen, hp, hsrc⟩

theorem run_igmp_membership_msg (ifs : ReceiverInterfaces 4) {igmp_hdr : ℕ}
    {report : McReport 4} {ip_src : InAddr 4} (hsrc : HoldsAt m 12 (addr_bytes ip_src))
    (h : HoldsAt m igmp_hdr (report.bytes 0x22)) (hfound : ifs.get_saddr_if_index ip_src ≠ 0)
    (hrelevant : ifs.is_if_index_relevant (ifs.get_saddr_if_index ip_src) = true) :
    (igmp_membership_msg ifs igmp_hdr).run m =
      report.msgs (ifs.get_saddr_if_index ip_src) IGMPv3 := by
  obtain ⟨htype, hcount, hrecords⟩ := McReport.holdsAt_fields h
  have hv2 : ¬((0x22 : UInt8) = 0x16 ∨ (0x22 : UInt8) = 0x17) := by decide
  have hwanted : (decide (ifs.get_saddr_if_index ip_src ≠ 0) &&
      ifs.is_if_index_relevant (ifs.get_saddr_if_index ip_src)) = true := by
    simp [hfound, hrelevant]
  simp only [igmp_membership_msg, Reader.run_bind, run_cell, htype, if_neg hv2, if_true,
    run_ntohs report.records_lt hcount, run_in_addr hsrc, if_pos hwanted]
  exact run_read_records _ _ hrecords

theorem run_igmp_analyse_packet (ifs : ReceiverInterfaces 4) {ip : IpHeader} {report : McReport 4}
    {additional : List UInt8} (h : Holds m (ip.bytes 2 ++ report.bytes 0x22 ++ additional))
    (hfound : ifs.get_saddr_if_index ip.ip_src ≠ 0)
    (hrelevant : ifs.is_if_index_relevant (ifs.get_saddr_if_index ip.ip_src) = true) :
    (igmp_analyse_packet ifs).run m =
      if ip.ip_len.toNat ≤ igmp_iov_min_size then
        report.msgs (ifs.get_saddr_if_index ip.ip_src) IGMPv3
      else [] := by
  have hat := h.holdsAt
  simp only [holdsAt_append, IpHeader.length_bytes, Nat.zero_add] at hat
  obtain ⟨⟨hip, hreport⟩, -⟩ := hat
  obtain ⟨hhl, hlen, hp, hsrc⟩ := IpHeader.holdsAt_fields hip
  have hkernel : ¬(2 : UInt8) = 0 := by decide
  simp only [igmp_analyse_packet, Reader.run_bind, run_cell, hp, hhl, if_neg hkernel, if_true,
    run_ntohs ip.ip_len.toNat_lt hlen, run_ite, Reader.run_pure,
    run_igmp_membership_msg ifs hsrc hreport hfound hrelevant]

theorem run_mld_analyse_packet (ifs : ReceiverInterfaces 16) {if_index : ℕ} {report : McReport 16}
    {additional : List UInt8} (h : Holds m (report.bytes 143 ++ additional))
    (hrelevant : ifs.is_if_index_relevant if_index = true) :
    (mld_analyse_packet ifs (some if_index)).run m = report.msgs if_index MLDv2 := by
  have hat := h.holdsAt
  rw [holdsAt_append] at hat
  obtain ⟨htype, hcount, hrecords⟩ := McReport.holdsAt_fields hat.1
  have hkernel : ¬(143 : UInt8) = 0 := by decide
  have hv1 : ¬((143 : UInt8) = 131 ∨ (143 : UInt8) = 132) := by decide
  simp only [mld_analyse_packet, Reader.run_bind, run_cell, htype, if_neg hkernel, if_neg hv1,
    if_true, run_ntohs report.records_lt hcount, if_pos hrelevant]
  exact run_read_records _ _ hrecords

-- A report is decoded to its records, unless it comes in a datagram of IPv4 that is longer than
-- the buffer.
theorem report_decoded_iff (m : ℕ → UInt8) :
    (∀ (ifs : ReceiverInterfaces 4) (ip : IpHeader) (report : McReport 4)
        (additional : List UInt8),
      Holds m (ip.bytes 2 ++ report.bytes 0x22 ++ additional) →
      ifs.get_saddr_if_index ip.ip_src ≠ 0 →
      ifs.is_if_index_relevant (ifs.get_saddr_if_index ip.ip_src) = true →
      ((igmp_analyse_packet ifs).run m = report.msgs (ifs.get_saddr_if_index ip.ip_src) IGMPv3 ↔
        report.records = [] ∨ ip.ip_len.toNat ≤ igmp_iov_min_size)) ∧
    ∀ (ifs : ReceiverInterfaces 16) (if_index : ℕ) (report : McReport 16)
        (additional : List UInt8),
      Holds m (report.bytes 143 ++ additional) →
      ifs.is_if_index_relevant if_index = true →
      (mld_analyse_packet ifs (some if_index)).run m = report.msgs if_index MLDv2 := by
  refine ⟨fun ifs ip report additional h hfound hrelevant => ?_,
    fun ifs if_index report additional h hrelevant => run_mld_analyse_packet ifs h hrelevant⟩
  rw [run_igmp_analyse_packet ifs h hfound hrelevant]
  split_ifs with hlen
  · exact iff_of_true rfl (Or.inr hlen)
  · rw [or_iff_left hlen, eq_comm]
    exact List.map_eq_nil_iff

-- Behind a header with options, a record with a source and auxiliary data and one without.
theorem report_decoded_two_records :
    ∃ (ifs : ReceiverInterfaces 4) (ip : IpHeader) (report : McReport 4),
      ip.options.length = 4 ∧ report.records.length = 2 ∧
      (igmp_analyse_packet ifs).run (fill 0 (ip.bytes 2 ++ report.bytes 0x22 ++ [])) =
        report.msgs 1 IGMPv3 := by
  refine ⟨⟨fun _ => 0, fun _ => 1, fun _ => true⟩,
    { ip_tos := 0, ip_len := 60, ip_id := 0, ip_off := 0, ip_ttl := 1, ip_sum := 0,
      ip_src := 0x0A000001, ip_dst := 0xE0000016, options := [0x94, 4, 0, 0],
      words := by decide, size := by decide },
    { reservedA := 0, checksum := 0, reservedB := 0, records_lt := by decide,
      records := [
        { type := 5, aux_data_len := 1, gaddr := 0xEF010101, srcs := [0x0A000002],
          aux_data := [1, 2, 3, 4], srcs_lt := by decide, aux_size := rfl },
        { type := 4, aux_data_len := 0, gaddr := 0xEF010102, srcs := [], aux_data := [],
          srcs_lt := by decide, aux_size := rfl }] }, rfl, rfl, ?_⟩
  exact ((report_decoded_iff _).1 _ _ _ _ (holds_fill 0 _) (by decide) rfl).mpr
    (Or.inr (by decide))

-- One record and as much additional data behind it as makes the datagram longer than the buffer:
-- the record is in the bytes received, and nothing is emitted.
theorem long_datagram_is_dropped :
    ∃ (ifs : ReceiverInterfaces 4) (ip : IpHeader) (report : McReport 4)
        (additional : List UInt8),
      (ip.bytes 2 ++ report.bytes 0x22 ++ additional).length = 10033 ∧ ip.ip_len = 10033 ∧
      (ip.bytes 2 ++ report.bytes 0x22).length = 36 ∧
      (igmp_analyse_packet ifs).run (fill 0 (ip.bytes 2 ++ report.bytes 0x22 ++ additional)) = [] ∧
      (report.msgs 1 IGMPv3).map ReceiverMsg.gaddr = [0xEF010101] := by
  refine ⟨⟨fun _ => 0, fun _ => 1, fun _ => true⟩,
    { ip_tos := 0, ip_len := 10033, ip_id := 0, ip_off := 0, ip_ttl := 1, ip_sum := 0,
      ip_src := 0x0A000001, ip_dst := 0xE0000016, options := [],
      words := by decide, size := by decide },
    { reservedA := 0, checksum := 0, reservedB := 0, records_lt := by decide,
      records := [
        { type := 4, aux_data_len := 0, gaddr := 0xEF010101, srcs := [], aux_data := [],
          srcs_lt := by decide, aux_size := rfl }] },
    List.replicate 9997 0, ?_, rfl, rfl, ?_, rfl⟩
  · rw [List.length_append, List.length_replicate]
    rfl
  · rw [run_igmp_analyse_packet _ (holds_fill 0 _) (by decide) rfl]
    rfl

end Reports

end Mcproxy
