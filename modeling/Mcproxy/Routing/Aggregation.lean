import Mcproxy.Querier.View

namespace Mcproxy

open Container Transition McFilter McastAddrRecordType GroupMemProtocol

section Instance

inductive RbRuleMatchingType
  | RMT_ALL
  | RMT_FIRST
  | RMT_MUTEX
  | RMT_UNDEFINED
  deriving DecidableEq, Repr

open RbRuleMatchingType

-- The answer of a bound filter's `match` to an interface name and two addresses.
abbrev InterfaceFilter (α : Type*) := String → α → α → Bool

structure Interface (α : Type*) where
  m_output_filter : Option (InterfaceFilter α) := none
  m_input_filter : Option (InterfaceFilter α) := none

variable {α : Type*}

-- An interface without a filter lets everything through.
def match_filter (input_if_name : String) (saddr gaddr : α) :
    Option (InterfaceFilter α) → Bool
  | none => true
  | some filter => filter input_if_name saddr gaddr

def Interface.match_output_filter (i : Interface α) (input_if_name : String) (saddr gaddr : α) :
    Bool :=
  match_filter input_if_name saddr gaddr i.m_output_filter

def Interface.match_input_filter (i : Interface α) (input_if_name : String) (saddr gaddr : α) :
    Bool :=
  match_filter input_if_name saddr gaddr i.m_input_filter

structure UpstreamInfos (α : Type*) where
  m_if_index : ℕ
  m_interface : Interface α
  m_priority : ℕ

variable [LinearOrder α]

structure DownstreamInfos (α : Type*) [LinearOrder α] where
  m_querier : Querier α
  m_interface : Interface α

-- Upstreams are compared by their priority only; the smallest number comes first.
structure ProxyInstance (α : Type*) [LinearOrder α] where
  m_upstreams : OrdSet (UpstreamInfos.m_priority : UpstreamInfos α → ℕ)
  m_downstreams : OrdMap ℕ (DownstreamInfos α)

def ProxyInstance.is_upstream (pi : ProxyInstance α) (if_index : ℕ) : Bool :=
  pi.m_upstreams.elems.any (fun e => e.m_if_index == if_index)

-- The known sources of a group and the interface each of them is received on.
structure SrDataValue (α : Type*) [LinearOrder α] where
  m_source_list : SourceList α
  m_if_map : OrdMap α ℕ

structure SimpleRoutingData (α : Type*) [LinearOrder α] where
  m_data : OrdMap α (SrDataValue α)

def SimpleRoutingData.get_interface_map (routing_data : SimpleRoutingData α) (gaddr : α) :
    OrdMap α ℕ :=
  match OrdMap.lookup routing_data.m_data gaddr with
  | some value => value.m_if_map
  | none => ∅

structure SourceState (α : Type*) [LinearOrder α] where
  m_mc_filter : McFilter := INCLUDE_MODE
  m_source_list : SourceList α := ∅

def SourceState.of_infos (sstate : McFilter × SourceList α) : SourceState α :=
  ⟨sstate.1, sstate.2⟩

abbrev StateList (α : Type*) [LinearOrder α] := List (SourceState α × Interface α)

-- The states kept for each upstream, in the order of the upstreams.
abbrev MembershipData (α : Type*) [LinearOrder α] := List (ℕ × List (SourceState α))

-- The arguments of a call of the sender's `send_record`.
structure SentRecord (α : Type*) [LinearOrder α] where
  if_index : ℕ
  gaddr : α
  sstate : SourceState α

end Instance

open RbRuleMatchingType

variable {α : Type*} [LinearOrder α]

section Memberships

variable (get_if_name : ℕ → String)

def merge_membership_infos (merge_to merge_from : SourceState α) : SourceState α :=
  match merge_to.m_mc_filter, merge_from.m_mc_filter with
  | INCLUDE_MODE, INCLUDE_MODE =>
    { merge_to with m_source_list := merge_to.m_source_list + merge_from.m_source_list }
  | INCLUDE_MODE, EXCLUDE_MODE =>
    ⟨EXCLUDE_MODE, merge_from.m_source_list - merge_to.m_source_list⟩
  | EXCLUDE_MODE, INCLUDE_MODE =>
    { merge_to with m_source_list := merge_to.m_source_list - merge_from.m_source_list }
  | EXCLUDE_MODE, EXCLUDE_MODE =>
    { merge_to with m_source_list := merge_to.m_source_list * merge_from.m_source_list }

def init_sstate_list (pi : ProxyInstance α) (gaddr : α) : StateList α :=
  pi.m_downstreams.elems.map fun downs_e =>
    (.of_infos (get_group_membership_infos downs_e.2.m_querier.m_db gaddr), downs_e.2.m_interface)

-- The filters are asked for the group in the place of the source and the other way round,
-- which is what the tables behind them expect.
def downstream_out (gaddr : α) (upstr_e : UpstreamInfos α) (i : Interface α) (s : Source α) :
    Bool :=
  i.match_output_filter (get_if_name upstr_e.m_if_index) gaddr s.saddr

def upstream_in (gaddr : α) (upstr_e : UpstreamInfos α) (s : Source α) : Bool :=
  upstr_e.m_interface.match_input_filter (get_if_name upstr_e.m_if_index) gaddr s.saddr

-- What stays in a state for the upstream: both filters match.
def kept_sstate (gaddr : α) (upstr_e : UpstreamInfos α) (cs : SourceState α × Interface α) :
    SourceState α :=
  { cs.1 with m_source_list := cs.1.m_source_list.filter fun s =>
      downstream_out get_if_name gaddr upstr_e cs.2 s && upstream_in get_if_name gaddr upstr_e s }

-- What the next upstream gets to see of it: only the upstream's filter does not match.
def tmp_sstate (gaddr : α) (upstr_e : UpstreamInfos α) (cs : SourceState α × Interface α) :
    SourceState α :=
  { cs.1 with m_source_list := cs.1.m_source_list.filter fun s =>
      downstream_out get_if_name gaddr upstr_e cs.2 s && !upstream_in get_if_name gaddr upstr_e s }

def tmp_sstate_list (gaddr : α) (upstr_e : UpstreamInfos α) (init : StateList α) : StateList α :=
  (init.map fun cs => (tmp_sstate get_if_name gaddr upstr_e cs, cs.2)).filter fun cs =>
    !cs.1.m_source_list.isEmpty

def process_upstream_in_first (gaddr : α) :
    List (UpstreamInfos α) → StateList α → MembershipData α
  | [], _ => []
  | upstr_e :: rest, init =>
    (upstr_e.m_if_index, init.map (kept_sstate get_if_name gaddr upstr_e)) ::
      process_upstream_in_first gaddr rest (tmp_sstate_list get_if_name gaddr upstr_e init)

-- `clean this->m_data`: the source goes, and with it every state that has no source left.
def clean_data (saddr : α) (m_data : MembershipData α) : MembershipData α :=
  m_data.map fun data_e =>
    (data_e.1, (data_e.2.map fun sstate =>
      { sstate with m_source_list := sstate.m_source_list.erase saddr }).filter fun sstate =>
        !sstate.m_source_list.isEmpty)

-- The lists one pass over a downstream's sources works on.
structure MutexWalk (α : Type*) [LinearOrder α] where
  m_source_list : SourceList α
  tmp : SourceList α
  m_data : MembershipData α

def mutex_source (pi : ProxyInstance α) (available_sources : OrdMap α ℕ) (gaddr : α)
    (upstr_e : UpstreamInfos α) (i : Interface α) (w : MutexWalk α) (s : Source α) :
    MutexWalk α :=
  if !downstream_out get_if_name gaddr upstr_e i s then w
  else if !upstream_in get_if_name gaddr upstr_e s then w
  else
    match OrdMap.lookup available_sources s.saddr with
    | some if_index =>
      ⟨w.m_source_list.erase s.saddr, if pi.is_upstream if_index then w.tmp.insert s else w.tmp,
        clean_data s.saddr w.m_data⟩
    | none => { w with tmp := w.tmp.insert s }

-- One upstream: the states left for the next one, those of this one, and the states of the
-- upstreams before it. A state without sources is dropped from either list.
def mutex_states (pi : ProxyInstance α) (available_sources : OrdMap α ℕ) (gaddr : α)
    (upstr_e : UpstreamInfos α) :
    StateList α → MembershipData α → StateList α × List (SourceState α) × MembershipData α
  | [], m_data => ([], [], m_data)
  | cs :: rest, m_data =>
    let w := cs.1.m_source_list.elems.foldl
      (mutex_source get_if_name pi available_sources gaddr upstr_e cs.2)
      ⟨cs.1.m_source_list, ∅, m_data⟩
    let r := mutex_states pi available_sources gaddr upstr_e rest w.m_data
    (if w.m_source_list.isEmpty then r.1
      else ({ cs.1 with m_source_list := w.m_source_list }, cs.2) :: r.1,
      if w.tmp.isEmpty then r.2.1 else { cs.1 with m_source_list := w.tmp } :: r.2.1, r.2.2)

def process_upstream_in_mutex (pi : ProxyInstance α) (available_sources : OrdMap α ℕ) (gaddr : α) :
    List (UpstreamInfos α) → StateList α → MembershipData α → MembershipData α
  | [], _, m_data => m_data
  | upstr_e :: rest, ref_sstate_list, m_data =>
    let r := mutex_states get_if_name pi available_sources gaddr upstr_e ref_sstate_list m_data
    process_upstream_in_mutex pi available_sources gaddr rest r.1
      (r.2.2 ++ [(upstr_e.m_if_index, r.2.1)])

def interface_memberships (upstream_in_rule_matching_type : RbRuleMatchingType) (gaddr : α)
    (pi : ProxyInstance α) (routing_data : SimpleRoutingData α) : MembershipData α :=
  if upstream_in_rule_matching_type = RMT_FIRST then
    process_upstream_in_first get_if_name gaddr pi.m_upstreams.elems (init_sstate_list pi gaddr)
  else
    process_upstream_in_mutex get_if_name pi (routing_data.get_interface_map gaddr) gaddr
      pi.m_upstreams.elems (init_sstate_list pi gaddr) []

def merge_all (states : List (SourceState α)) : SourceState α :=
  states.foldl merge_membership_infos {}

-- `none` is the read of the front of an empty list.
def get_group_memberships (upstream_if_index : ℕ) :
    MembershipData α → Option (SourceState α × MembershipData α)
  | [] => none
  | data_e :: rest =>
    if data_e.1 ≠ upstream_if_index then some ({}, data_e :: rest)
    else some (merge_all data_e.2, rest)

def send_records (gaddr : α) :
    List (UpstreamInfos α) → MembershipData α → Option (List (SentRecord α))
  | [], _ => some []
  | e :: rest, im => do
    let r ← get_group_memberships e.m_if_index im
    let records ← send_records gaddr rest r.2
    return ⟨e.m_if_index, gaddr, r.1⟩ :: records

-- The records handed to the sender, in the order of the calls.
def process_membership_aggregation (pi : ProxyInstance α) (routing_data : SimpleRoutingData α)
    (rule_matching_type : RbRuleMatchingType) (gaddr : α) : Option (List (SentRecord α)) :=
  if rule_matching_type = RMT_FIRST ∨ rule_matching_type = RMT_MUTEX then
    send_records gaddr pi.m_upstreams.elems
      (interface_memberships get_if_name rule_matching_type gaddr pi routing_data)
  else some []

end Memberships

section Merge

-- The sources a membership state asks for.
def SourceState.accept (sstate : SourceState α) : Set α :=
  Mcproxy.accept (sstate.m_mc_filter, sstate.m_source_list)

theorem accept_of_infos (infos : McFilter × SourceList α) :
    (SourceState.of_infos infos).accept = accept infos := rfl

theorem accept_default : ({} : SourceState α).accept = ∅ := SourceList.addrs_empty

theorem mem_accept_of_include {sstate : SourceState α} (h : sstate.m_mc_filter = INCLUDE_MODE)
    (saddr : α) : saddr ∈ sstate.accept ↔ saddr ∈ sstate.m_source_list := by
  rw [SourceState.accept, accept, h, SourceList.mem_addrs]

theorem mem_accept_of_exclude {sstate : SourceState α} (h : sstate.m_mc_filter = EXCLUDE_MODE)
    (saddr : α) : saddr ∈ sstate.accept ↔ saddr ∉ sstate.m_source_list := by
  rw [SourceState.accept, accept, h, Set.mem_compl_iff, SourceList.mem_addrs]

-- The four combinations of filter modes are one union.
theorem accept_merge (merge_to merge_from : SourceState α) :
    (merge_membership_infos merge_to merge_from).accept = merge_to.accept ∪ merge_from.accept := by
  obtain ⟨to_mode, A⟩ := merge_to
  obtain ⟨from_mode, B⟩ := merge_from
  cases to_mode <;> cases from_mode <;>
    simp only [merge_membership_infos, SourceState.accept, accept, SourceList.addrs_add,
      SourceList.addrs_sub, SourceList.addrs_mul]
  case INCLUDE_MODE.EXCLUDE_MODE => rw [Set.sdiff_eq, Set.compl_inter, compl_compl, Set.union_comm]
  case EXCLUDE_MODE.INCLUDE_MODE => rw [Set.sdiff_eq, Set.compl_inter, compl_compl]
  case EXCLUDE_MODE.EXCLUDE_MODE => rw [Set.compl_inter]

theorem mem_accept_foldl_merge (states : List (SourceState α)) (init : SourceState α) (s : α) :
    s ∈ (states.foldl merge_membership_infos init).accept ↔
      s ∈ init.accept ∨ ∃ sstate ∈ states, s ∈ sstate.accept := by
  induction states generalizing init with
  | nil => simp
  | cons sstate states ih =>
    rw [List.foldl_cons, ih, accept_merge, Set.mem_union, or_assoc]
    simp

theorem mem_accept_merge_all (states : List (SourceState α)) (s : α) :
    s ∈ (merge_all states).accept ↔ ∃ sstate ∈ states, s ∈ sstate.accept := by
  rw [merge_all, mem_accept_foldl_merge, accept_default]
  simp

theorem accept_merge_all_perm {states states' : List (SourceState α)} (h : states.Perm states') :
    (merge_all states).accept = (merge_all states').accept := by
  ext s
  simp only [mem_accept_merge_all, h.mem_iff]

end Merge

section Positions

variable (get_if_name : ℕ → String) (gaddr : α)

-- Every pass over the upstreams leaves one entry for each of them, in their order; the
-- records are paired with the upstreams by that alone.
theorem process_upstream_in_first_indexes (upstreams : List (UpstreamInfos α))
    (init : StateList α) :
    (process_upstream_in_first get_if_name gaddr upstreams init).map Prod.fst =
      upstreams.map UpstreamInfos.m_if_index := by
  induction upstreams generalizing init with
  | nil => rfl
  | cons upstr_e rest ih => simp [process_upstream_in_first, ih]

theorem clean_data_indexes (saddr : α) (m_data : MembershipData α) :
    (clean_data saddr m_data).map Prod.fst = m_data.map Prod.fst := by
  simp [clean_data]

variable (pi : ProxyInstance α) (available_sources : OrdMap α ℕ)

theorem mutex_source_indexes (upstr_e : UpstreamInfos α) (i : Interface α) (w : MutexWalk α)
    (s : Source α) :
    (mutex_source get_if_name pi available_sources gaddr upstr_e i w s).m_data.map Prod.fst =
      w.m_data.map Prod.fst := by
  unfold mutex_source
  split_ifs
  · rfl
  · rfl
  · split
    · exact clean_data_indexes s.saddr w.m_data
    · rfl

theorem mutex_walk_indexes (upstr_e : UpstreamInfos α) (i : Interface α) (l : List (Source α))
    (w : MutexWalk α) :
    (l.foldl (mutex_source get_if_name pi available_sources gaddr upstr_e i) w).m_data.map
      Prod.fst = w.m_data.map Prod.fst := by
  induction l generalizing w with
  | nil => rfl
  | cons s l ih => rw [List.foldl_cons, ih, mutex_source_indexes]

theorem mutex_states_indexes (upstr_e : UpstreamInfos α) (ref : StateList α)
    (m_data : MembershipData α) :
    (mutex_states get_if_name pi available_sources gaddr upstr_e ref m_data).2.2.map Prod.fst =
      m_data.map Prod.fst := by
  induction ref generalizing m_data with
  | nil => rfl
  | cons cs rest ih =>
    simp only [mutex_states]
    rw [ih, mutex_walk_indexes]

theorem process_upstream_in_mutex_indexes (upstreams : List (UpstreamInfos α))
    (ref : StateList α) (m_data : MembershipData α) :
    (process_upstream_in_mutex get_if_name pi available_sources gaddr upstreams ref
      m_data).map Prod.fst = m_data.map Prod.fst ++ upstreams.map UpstreamInfos.m_if_index := by
  induction upstreams generalizing ref m_data with
  | nil => simp [process_upstream_in_mutex]
  | cons upstr_e rest ih =>
    simp only [process_upstream_in_mutex]
    rw [ih, List.map_append, mutex_states_indexes]
    simp

theorem interface_memberships_indexes (rule : RbRuleMatchingType)
    (routing_data : SimpleRoutingData α) :
    (interface_memberships get_if_name rule gaddr pi routing_data).map Prod.fst =
      pi.m_upstreams.elems.map UpstreamInfos.m_if_index := by
  unfold interface_memberships
  split_ifs
  · exact process_upstream_in_first_indexes get_if_name gaddr _ _
  · rw [process_upstream_in_mutex_indexes]
    rfl

theorem send_records_of_indexes (upstreams : List (UpstreamInfos α)) (im : MembershipData α)
    (h : im.map Prod.fst = upstreams.map UpstreamInfos.m_if_index) :
    send_records gaddr upstreams im =
      some (im.map fun data_e => ⟨data_e.1, gaddr, merge_all data_e.2⟩) := by
  induction upstreams generalizing im with
  | nil =>
    rw [List.map_nil, List.map_eq_nil_iff] at h
    rw [h]
    rfl
  | cons e rest ih =>
    cases im with
    | nil => simp at h
    | cons data_e im =>
      simp only [List.map_cons, List.cons.injEq] at h
      simp [send_records, get_group_memberships, h.1, ih im h.2]

-- Neither an empty list is read nor an upstream met that is not expected.
theorem process_membership_aggregation_eq (routing_data : SimpleRoutingData α)
    {rule : RbRuleMatchingType} (hrule : rule = RMT_FIRST ∨ rule = RMT_MUTEX) :
    process_membership_aggregation get_if_name pi routing_data rule gaddr =
      some ((interface_memberships get_if_name rule gaddr pi routing_data).map fun data_e =>
        ⟨data_e.1, gaddr, merge_all data_e.2⟩) := by
  rw [process_membership_aggregation, if_pos hrule]
  exact send_records_of_indexes gaddr _ _
    (interface_memberships_indexes get_if_name gaddr pi rule routing_data)

-- The membership state that is computed for each upstream and sent there.
def computed_memberships (routing_data : SimpleRoutingData α) (rule : RbRuleMatchingType) :
    List (UpstreamInfos α × SourceState α) :=
  pi.m_upstreams.elems.zip
    (((process_membership_aggregation get_if_name pi routing_data rule gaddr).getD []).map
      SentRecord.sstate)

theorem computed_memberships_eq (routing_data : SimpleRoutingData α) {rule : RbRuleMatchingType}
    (hrule : rule = RMT_FIRST ∨ rule = RMT_MUTEX) :
    computed_memberships get_if_name gaddr pi routing_data rule =
      pi.m_upstreams.elems.zip
        ((interface_memberships get_if_name rule gaddr pi routing_data).map fun data_e =>
          merge_all data_e.2) := by
  rw [computed_memberships,
    process_membership_aggregation_eq get_if_name gaddr pi routing_data hrule, Option.getD_some,
    List.map_map]
  rfl

-- For closed runs: what each upstream is sent, with the addresses only.
def computed_views (routing_data : SimpleRoutingData α) (rule : RbRuleMatchingType) :
    List (ℕ × McFilter × List α) :=
  (computed_memberships get_if_name gaddr pi routing_data rule).map fun e =>
    (e.1.m_if_index, view (e.2.m_mc_filter, e.2.m_source_list))

-- For closed runs: source 3 of group 7 is received on an interface.
def received_on (if_index : ℕ) : SimpleRoutingData Ipv4Addr :=
  ⟨OrdSet.insertAll ∅ [(7, ⟨sources [3], OrdSet.insertAll ∅ [(3, if_index)]⟩)]⟩

end Positions

section Unfiltered

variable (get_if_name : ℕ → String) (gaddr : α)

theorem kept_sstate_of_no_filter {upstr_e : UpstreamInfos α} {cs : SourceState α × Interface α}
    (hout : cs.2.m_output_filter = none) (hin : upstr_e.m_interface.m_input_filter = none) :
    kept_sstate get_if_name gaddr upstr_e cs = cs.1 := by
  have hall : ∀ s, (downstream_out get_if_name gaddr upstr_e cs.2 s &&
      upstream_in get_if_name gaddr upstr_e s) = true := by
    intro s
    simp [downstream_out, upstream_in, Interface.match_output_filter,
      Interface.match_input_filter, hout, hin, match_filter]
  simp only [kept_sstate, hall]
  congr 1
  exact OrdSet.elems_injective (List.filter_eq_self.mpr fun _ _ => rfl)

theorem tmp_sstate_list_of_no_filter {upstr_e : UpstreamInfos α} (init : StateList α)
    (hin : upstr_e.m_interface.m_input_filter = none) :
    tmp_sstate_list get_if_name gaddr upstr_e init = [] := by
  have hnone : ∀ s, upstream_in get_if_name gaddr upstr_e s = true := by
    intro s
    simp [upstream_in, Interface.match_input_filter, hin, match_filter]
  refine List.filter_eq_nil_iff.mpr fun cs hcs => ?_
  obtain ⟨cs', -, rfl⟩ := List.mem_map.mp hcs
  simp [tmp_sstate, hnone, OrdSet.filter, OrdSet.isEmpty]

-- Once no state is left, the upstreams that follow get none.
theorem process_upstream_in_first_of_no_states (upstreams : List (UpstreamInfos α)) :
    process_upstream_in_first get_if_name gaddr upstreams [] =
      upstreams.map fun upstr_e => (upstr_e.m_if_index, []) := by
  induction upstreams with
  | nil => rfl
  | cons upstr_e rest ih =>
    simp [process_upstream_in_first, tmp_sstate_list, ih]

-- The first upstream takes every source of every state.
theorem process_upstream_in_first_of_no_filter {upstr_e : UpstreamInfos α}
    (rest : List (UpstreamInfos α)) {init : StateList α}
    (hout : ∀ cs ∈ init, cs.2.m_output_filter = none)
    (hin : upstr_e.m_interface.m_input_filter = none) :
    process_upstream_in_first get_if_name gaddr (upstr_e :: rest) init =
      (upstr_e.m_if_index, init.map Prod.fst) ::
        rest.map fun v => (v.m_if_index, []) := by
  have hkept : init.map (kept_sstate get_if_name gaddr upstr_e) = init.map Prod.fst :=
    List.map_congr_left fun cs hcs => kept_sstate_of_no_filter get_if_name gaddr (hout cs hcs) hin
  rw [process_upstream_in_first, hkept, tmp_sstate_list_of_no_filter get_if_name gaddr init hin,
    process_upstream_in_first_of_no_states]

theorem mem_accept_merge_downstreams (pi : ProxyInstance α) (s : α) :
    s ∈ (merge_all ((init_sstate_list pi gaddr).map Prod.fst)).accept ↔
      ∃ d ∈ pi.m_downstreams.elems,
        s ∈ accept (get_group_membership_infos d.2.m_querier.m_db gaddr) := by
  rw [mem_accept_merge_all]
  simp [init_sstate_list, accept_of_infos]

-- RFC 4605 merging: without filters the record on the first upstream asks for what some
-- downstream asks for, in whatever order the downstreams are merged, and the records on
-- the other upstreams for nothing.
theorem first_upstream_merges_downstreams (pi : ProxyInstance α)
    (routing_data : SimpleRoutingData α)
    (hout : ∀ d ∈ pi.m_downstreams.elems, d.2.m_interface.m_output_filter = none)
    (hin : ∀ u ∈ pi.m_upstreams.elems, u.m_interface.m_input_filter = none)
    (hne : pi.m_upstreams.elems ≠ []) :
    ∃ u others first, pi.m_upstreams.elems = u :: others ∧
      (∀ v ∈ others, u.m_priority < v.m_priority) ∧
      process_membership_aggregation get_if_name pi routing_data RMT_FIRST gaddr =
        some (⟨u.m_if_index, gaddr, first⟩ ::
          others.map fun v => ⟨v.m_if_index, gaddr, ⟨INCLUDE_MODE, ∅⟩⟩) ∧
      (∀ s, s ∈ first.accept ↔ ∃ d ∈ pi.m_downstreams.elems,
        s ∈ accept (get_group_membership_infos d.2.m_querier.m_db gaddr)) ∧
      ∀ order : List (SourceState α), order.Perm ((init_sstate_list pi gaddr).map Prod.fst) →
        (merge_all order).accept = first.accept := by
  obtain ⟨u, others, hups⟩ := List.exists_cons_of_ne_nil hne
  have hlt : ∀ v ∈ others, u.m_priority < v.m_priority :=
    (List.pairwise_cons.mp (hups ▸ pi.m_upstreams.sorted)).1
  have hstates : ∀ cs ∈ init_sstate_list pi gaddr, cs.2.m_output_filter = none := by
    intro cs hcs
    obtain ⟨d, hd, rfl⟩ := List.mem_map.mp hcs
    exact hout d hd
  have hfirst : interface_memberships get_if_name RMT_FIRST gaddr pi routing_data =
      (u.m_if_index, (init_sstate_list pi gaddr).map Prod.fst) ::
        others.map fun v => (v.m_if_index, []) := by
    rw [interface_memberships, if_pos rfl, hups]
    exact process_upstream_in_first_of_no_filter get_if_name gaddr others hstates
      (hin u (hups ▸ List.mem_cons_self))
  refine ⟨u, others, merge_all ((init_sstate_list pi gaddr).map Prod.fst), hups, hlt, ?_,
    mem_accept_merge_downstreams gaddr pi, fun order horder => accept_merge_all_perm horder⟩
  rw [process_membership_aggregation_eq get_if_name gaddr pi routing_data (Or.inl rfl), hfirst]
  simp [merge_all]

-- An any-source join but for 9 on one downstream, and joins of 3 and 9 on the other: the
-- first upstream gets a record that asks for every source.
theorem first_upstream_merges_two_downstreams : ∃ q q' : Querier Ipv4Addr,
    view (get_group_membership_infos q.m_db 7) = (EXCLUDE_MODE, [9]) ∧
      view (get_group_membership_infos q'.m_db 7) = (INCLUDE_MODE, [3, 9]) ∧
      ∃ first : SourceState Ipv4Addr,
        process_membership_aggregation (fun _ => "eth")
            ⟨OrdSet.insertAll ∅ [⟨10, {}, 1⟩, ⟨11, {}, 2⟩],
              OrdSet.insertAll ∅ [(1, ⟨q, {}⟩), (2, ⟨q', {}⟩)]⟩ ⟨∅⟩ RMT_FIRST 7 =
          some [⟨10, 7, first⟩, ⟨11, 7, ⟨INCLUDE_MODE, ∅⟩⟩] ∧
        first.accept = Set.univ := by
  obtain ⟨q, -, hq⟩ := Machine.exists_run_of_exec (querier Ipv4Addr default_config IGMPv3)
    [.record ⟨MODE_IS_EXCLUDE, 7, sources [9], IGMPv3⟩]
    (fun q => view (get_group_membership_infos q.m_db 7) = (EXCLUDE_MODE, [9])) rfl
  obtain ⟨q', -, hq'⟩ := Machine.exists_run_of_exec (querier Ipv4Addr default_config IGMPv3)
    [.record ⟨ALLOW_NEW_SOURCES, 7, sources [3, 9], IGMPv3⟩]
    (fun q => view (get_group_membership_infos q.m_db 7) = (INCLUDE_MODE, [3, 9])) rfl
  rw [decide_eq_true_eq] at hq hq'
  obtain ⟨u, others, first, hups, -, hsent, haccept, -⟩ :=
    first_upstream_merges_downstreams (fun _ => "eth") (7 : Ipv4Addr)
      ⟨OrdSet.insertAll ∅ [⟨10, {}, 1⟩, ⟨11, {}, 2⟩],
        OrdSet.insertAll ∅ [(1, ⟨q, {}⟩), (2, ⟨q', {}⟩)]⟩ ⟨∅⟩
      (List.forall_mem_cons.mpr ⟨rfl, List.forall_mem_singleton.mpr rfl⟩)
      (List.forall_mem_cons.mpr ⟨rfl, List.forall_mem_singleton.mpr rfl⟩)
      (List.cons_ne_nil _ _)
  obtain ⟨rfl, rfl⟩ := List.cons.inj hups
  refine ⟨q, q', hq, hq', first, hsent, Set.eq_univ_of_forall fun s => (haccept s).mpr ?_⟩
  -- 9 is asked for by the second downstream, every other source by the first one.
  by_cases hs : s = 9
  · refine ⟨(2, ⟨q', {}⟩), List.mem_cons_of_mem _ List.mem_cons_self, ?_⟩
    rw [accept_eq_of_view_eq (j := (INCLUDE_MODE, sources [3, 9])) hq']
    simp [accept, sources, OrdSet.insertAll, hs]
  · refine ⟨(1, ⟨q, {}⟩), List.mem_cons_self, ?_⟩
    rw [accept_eq_of_view_eq (j := (EXCLUDE_MODE, sources [9])) hq]
    simp [accept, sources, OrdSet.insertAll, Ne.symm hs]

end Unfiltered

end Mcproxy
