import Mcproxy.Routing.Aggregation

namespace Mcproxy

open McFilter

section Socket

variable {α : Type*}

-- The calls `send_record` makes at `m_sock`.
inductive SocketOp (α : Type*)
  | leave_group (gaddr : α) (if_index : ℕ)
  | join_group (gaddr : α) (if_index : ℕ)
  | set_source_filter (if_index : ℕ) (gaddr : α) (filter_mode : McFilter) (src_list : List α)
  deriving DecidableEq

-- What a call returns can depend on every call before it.
abbrev MrouteSocket (α : Type*) := (calls : List (SocketOp α)) → SocketOp α → Bool

def MrouteSocket.call (m_sock : MrouteSocket α) (op : SocketOp α) (calls : List (SocketOp α)) :
    Bool × List (SocketOp α) :=
  (m_sock calls op, calls ++ [op])

end Socket

variable {α : Type*} [LinearOrder α]

section Senders

variable (m_sock : MrouteSocket α) (if_index : ℕ) (filter_mode : McFilter) (gaddr : α)
  (slist : SourceList α)

def igmp_send_record (calls : List (SocketOp α)) : Bool × List (SocketOp α) :=
  if filter_mode = INCLUDE_MODE ∧ slist.isEmpty then
    let (_, calls) := m_sock.call (.leave_group gaddr if_index) calls
    (true, calls)
  else if filter_mode = EXCLUDE_MODE ∨ filter_mode = INCLUDE_MODE then
    let (_, calls) := m_sock.call (.join_group gaddr if_index) calls
    m_sock.call (.set_source_filter if_index gaddr filter_mode (slist.elems.map Source.saddr)) calls
  else (false, calls)

-- The second condition names `EXCLUDE_MODE` twice.
def mld_send_record (calls : List (SocketOp α)) : Bool × List (SocketOp α) :=
  if filter_mode = INCLUDE_MODE ∧ slist.isEmpty then
    let (_, calls) := m_sock.call (.leave_group gaddr if_index) calls
    (true, calls)
  else if filter_mode = EXCLUDE_MODE ∨ filter_mode = EXCLUDE_MODE then
    let (_, calls) := m_sock.call (.join_group gaddr if_index) calls
    m_sock.call (.set_source_filter if_index gaddr filter_mode (slist.elems.map Source.saddr)) calls
  else (false, calls)

inductive Sender
  | igmp_sender
  | mld_sender
  deriving DecidableEq

def init_sender (m_group_mem_protocol : GroupMemProtocol) : Option Sender :=
  if is_IPv4 m_group_mem_protocol then some .igmp_sender
  else if is_IPv6 m_group_mem_protocol then some .mld_sender
  else none

def Sender.send_record : Sender → List (SocketOp α) → Bool × List (SocketOp α)
  | igmp_sender => igmp_send_record m_sock if_index filter_mode gaddr slist
  | mld_sender => mld_send_record m_sock if_index filter_mode gaddr slist

-- The records of the aggregation, one after the other; what the sender returns is not read.
def send_memberships (s : Sender) :
    List (SentRecord α) → List (SocketOp α) → List (SocketOp α)
  | [], calls => calls
  | r :: records, calls =>
    send_memberships s records
      (s.send_record m_sock r.if_index r.sstate.m_mc_filter r.gaddr r.sstate.m_source_list calls).2

end Senders

section Transmission

variable (m_sock : MrouteSocket α) (if_index : ℕ) (filter_mode : McFilter) (gaddr : α)
  (slist : SourceList α)

-- The calls by which a membership state reaches the routers upstream.
def record_ops : List (SocketOp α) :=
  if filter_mode = INCLUDE_MODE ∧ slist.isEmpty then [.leave_group gaddr if_index]
  else
    [.join_group gaddr if_index,
      .set_source_filter if_index gaddr filter_mode (slist.elems.map Source.saddr)]

-- A leave succeeds whatever the socket says, otherwise the source filter decides.
def record_result (calls : List (SocketOp α)) : Bool :=
  if filter_mode = INCLUDE_MODE ∧ slist.isEmpty then true
  else
    m_sock (calls ++ [.join_group gaddr if_index])
      (.set_source_filter if_index gaddr filter_mode (slist.elems.map Source.saddr))

def Sender.transmits (filter_mode : McFilter) (slist : SourceList α) : Sender → Prop
  | igmp_sender => True
  | mld_sender => filter_mode = EXCLUDE_MODE ∨ slist.isEmpty = true

instance (s : Sender) : Decidable (s.transmits filter_mode slist) :=
  match s with
  | .igmp_sender => inferInstanceAs (Decidable True)
  | .mld_sender => inferInstanceAs (Decidable (_ ∨ _))

-- A protocol of IPv6 loses the lists of sources to include, one of IPv4 none.
theorem init_sender_transmits_iff {gmp : GroupMemProtocol} {s : Sender}
    (h : init_sender gmp = some s) :
    s.transmits filter_mode slist ↔
      is_IPv4 gmp = true ∨ filter_mode = EXCLUDE_MODE ∨ slist.isEmpty = true := by
  unfold init_sender at h
  split_ifs at h with hv4 hv6
  · obtain rfl := Option.some.inj h
    exact iff_of_true trivial (Or.inl hv4)
  · obtain rfl := Option.some.inj h
    rw [Sender.transmits]
    exact (or_iff_right hv4).symm

theorem igmp_send_record_eq (calls : List (SocketOp α)) :
    igmp_send_record m_sock if_index filter_mode gaddr slist calls =
      (record_result m_sock if_index filter_mode gaddr slist calls,
        calls ++ record_ops if_index filter_mode gaddr slist) := by
  unfold igmp_send_record record_result record_ops
  by_cases hleave : filter_mode = INCLUDE_MODE ∧ slist.isEmpty = true
  · rw [if_pos hleave, if_pos hleave, if_pos hleave]
    rfl
  · have hmode : filter_mode = EXCLUDE_MODE ∨ filter_mode = INCLUDE_MODE := by
      cases filter_mode <;> simp
    rw [if_neg hleave, if_neg hleave, if_neg hleave, if_pos hmode]
    simp [MrouteSocket.call]

-- Both conditions of `mld_send_record` fail on a list of sources to include.
theorem mld_send_record_eq (calls : List (SocketOp α)) :
    mld_send_record m_sock if_index filter_mode gaddr slist calls =
      if Sender.mld_sender.transmits filter_mode slist then
        igmp_send_record m_sock if_index filter_mode gaddr slist calls
      else (false, calls) := by
  cases filter_mode with
  | EXCLUDE_MODE =>
    have htransmits : Sender.mld_sender.transmits EXCLUDE_MODE slist := Or.inl rfl
    rw [if_pos htransmits]
    simp [mld_send_record, igmp_send_record]
  | INCLUDE_MODE =>
    by_cases hempty : slist.isEmpty = true
    · have htransmits : Sender.mld_sender.transmits INCLUDE_MODE slist := Or.inr hempty
      rw [if_pos htransmits]
      simp [mld_send_record, igmp_send_record, hempty]
    · have htransmits : ¬Sender.mld_sender.transmits INCLUDE_MODE slist := by
        simpa [Sender.transmits] using hempty
      rw [if_neg htransmits]
      simp [mld_send_record, hempty]

theorem Sender.send_record_calls (s : Sender) (calls : List (SocketOp α)) :
    (s.send_record m_sock if_index filter_mode gaddr slist calls).2 =
      calls ++ if s.transmits filter_mode slist then record_ops if_index filter_mode gaddr slist
        else [] := by
  cases s with
  | igmp_sender =>
    have htransmits : Sender.igmp_sender.transmits filter_mode slist := trivial
    rw [Sender.send_record, igmp_send_record_eq, if_pos htransmits]
  | mld_sender =>
    rw [Sender.send_record, mld_send_record_eq, igmp_send_record_eq]
    split_ifs <;> simp

-- Of a whole aggregation, the records the sender transmits reach the socket in their order.
theorem send_memberships_calls (s : Sender) (records : List (SentRecord α))
    (calls : List (SocketOp α)) :
    send_memberships m_sock s records calls =
      calls ++ (records.filter fun r =>
          s.transmits r.sstate.m_mc_filter r.sstate.m_source_list).flatMap
        fun r => record_ops r.if_index r.sstate.m_mc_filter r.gaddr r.sstate.m_source_list := by
  induction records generalizing calls with
  | nil => simp [send_memberships]
  | cons r records ih =>
    have hcalls := s.send_record_calls m_sock r.if_index r.sstate.m_mc_filter r.gaddr
      r.sstate.m_source_list calls
    rw [send_memberships, ih, hcalls, List.append_assoc, List.filter_cons]
    split_ifs <;> simp_all

theorem send_record_alike_iff :
    (∀ calls, igmp_send_record m_sock if_index filter_mode gaddr slist calls =
      (record_result m_sock if_index filter_mode gaddr slist calls,
        calls ++ record_ops if_index filter_mode gaddr slist)) ∧
    ((∀ calls, mld_send_record m_sock if_index filter_mode gaddr slist calls =
        igmp_send_record m_sock if_index filter_mode gaddr slist calls) ↔
      filter_mode = EXCLUDE_MODE ∨ slist.isEmpty = true) := by
  refine ⟨igmp_send_record_eq m_sock if_index filter_mode gaddr slist, fun hsame => ?_,
    fun htransmits calls => ?_⟩
  · -- The calls made show a list that is not sent.
    by_contra hnot
    have hnot : ¬Sender.mld_sender.transmits filter_mode slist := hnot
    have hcalls := congrArg Prod.snd (hsame [])
    rw [mld_send_record_eq, if_neg hnot, igmp_send_record_eq, record_ops] at hcalls
    split_ifs at hcalls <;> simp at hcalls
  · rw [mld_send_record_eq]
    exact if_pos htransmits

end Transmission

section Example

-- A host asks for one source: over IPv6 nothing is done, and the call fails.
theorem mld_drops_include_list :
    igmp_send_record (fun _ _ => true) 1 INCLUDE_MODE (0xE1000001 : Ipv4Addr)
        (sources [0x0A000001]) [] =
      (true, [.join_group 0xE1000001 1,
        .set_source_filter 1 0xE1000001 INCLUDE_MODE [0x0A000001]]) ∧
      mld_send_record (fun _ _ => true) 1 INCLUDE_MODE (0xFF3E0001 : Fin (2 ^ 128))
        (sources [0x0A000001]) [] = (false, []) := by
  exact ⟨rfl, rfl⟩

end Example

end Mcproxy
