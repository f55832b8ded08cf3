import Mcproxy.Mirror
import Mcproxy.Routing.Mutex
import Mcproxy.Sender.Record

namespace Mcproxy

open Container Transition McFilter GroupMemProtocol RbRuleMatchingType RbInterfaceType
  RbInterfaceDirection

variable {α : Type*} [LinearOrder α]

section Filters

-- The filter a call sets for a group on an interface. To leave the group is to ask for nothing; a
-- join is followed by a filter.
def SocketOp.sets_filter : SocketOp α → Option ((ℕ × α) × McFilter × List α)
  | .leave_group gaddr if_index => some ((if_index, gaddr), INCLUDE_MODE, [])
  | .join_group _ _ => none
  | .set_source_filter if_index gaddr filter_mode src_list =>
    some ((if_index, gaddr), filter_mode, src_list)

-- What the socket was last told about a group on an interface; at first nothing is asked for.
def source_filter (ops : List (SocketOp α)) (if_index : ℕ) (gaddr : α) : McFilter × List α :=
  Journal.replay SocketOp.sets_filter (fun _ => (INCLUDE_MODE, [])) ops (if_index, gaddr)

-- The sources a filter lets in.
def lets_in : McFilter × List α → Set α
  | (INCLUDE_MODE, src_list) => {a | a ∈ src_list}
  | (EXCLUDE_MODE, src_list) => {a | a ∉ src_list}

-- The records the sender is handed.
def sent_records (calls : List (RoutingCall α)) : List (SentRecord α) :=
  calls.filterMap fun
    | .send_record record => some record
    | .add_route _ _ _ _ => none
    | .del_route _ _ _ => none
    | .input_interface_not_found _ => none

-- What the sender makes of them.
def socket_ops (m_sock : MrouteSocket α) (m_sender : Sender) (calls : List (RoutingCall α)) :
    List (SocketOp α) :=
  send_memberships m_sock m_sender (sent_records calls) []

-- The calls and the filter of a record that is sent.
def SentRecord.ops (r : SentRecord α) : List (SocketOp α) :=
  record_ops r.if_index r.sstate.m_mc_filter r.gaddr r.sstate.m_source_list

def SentRecord.filter (r : SentRecord α) : McFilter × List α :=
  (r.sstate.m_mc_filter, r.sstate.m_source_list.keys)

-- The filter of a group on an interface once the records are sent.
def filter_of_records (records : List (SentRecord α)) (if_index : ℕ) (gaddr : α) :
    McFilter × List α :=
  source_filter (records.flatMap SentRecord.ops) if_index gaddr

variable {records records' : List (SentRecord α)} {r : SentRecord α} {i : ℕ} {g : α}

-- Over IPv4 every record is sent.
theorem socket_ops_eq {mode : GroupMemProtocol} {m_sender : Sender}
    (hsender : init_sender mode = some m_sender) (hv4 : is_IPv4 mode = true)
    (m_sock : MrouteSocket α) (calls : List (RoutingCall α)) :
    socket_ops m_sock m_sender calls = (sent_records calls).flatMap SentRecord.ops := by
  rw [socket_ops, send_memberships_calls, List.nil_append, List.filter_eq_self.mpr]
  · rfl
  · intro r _
    exact decide_eq_true ((init_sender_transmits_iff _ _ hsender).mpr (Or.inl hv4))

theorem lets_in_filter (r : SentRecord α) : lets_in r.filter = r.sstate.accept := by
  ext a
  rw [SentRecord.filter]
  cases hmode : r.sstate.m_mc_filter with
  | INCLUDE_MODE =>
    rw [mem_accept_of_include hmode]
    exact OrdSet.mem_keys
  | EXCLUDE_MODE =>
    rw [mem_accept_of_exclude hmode]
    exact not_congr OrdSet.mem_keys

-- One filter is set by the calls of a record, its own.
theorem SentRecord.sets_filter_iff {x : (ℕ × α) × McFilter × List α} :
    (∃ op ∈ r.ops, op.sets_filter = some x) ↔ x = ((r.if_index, r.gaddr), r.filter) := by
  have hops : r.ops.filterMap SocketOp.sets_filter = [((r.if_index, r.gaddr), r.filter)] := by
    unfold SentRecord.ops record_ops
    split_ifs with hleave
    · have hkeys : r.sstate.m_source_list.keys = [] :=
        List.eq_nil_iff_forall_not_mem.mpr (OrdSet.isEmpty_iff.mp hleave.2)
      rw [SentRecord.filter, hleave.1, hkeys]
      rfl
    · rfl
  rw [← List.mem_filterMap, hops, List.mem_singleton]

theorem filter_of_records_other (h : ∀ r ∈ records', ¬ (r.if_index = i ∧ r.gaddr = g)) :
    filter_of_records (records ++ records') i g = filter_of_records records i g := by
  rw [filter_of_records, source_filter, List.flatMap_append, Journal.replay_append]
  refine Journal.replay_other fun op hop f hset => ?_
  obtain ⟨r, hr, hop⟩ := List.mem_flatMap.mp hop
  obtain ⟨hkey, -⟩ := Prod.mk.inj (SentRecord.sets_filter_iff.mp ⟨op, hop, hset⟩)
  obtain ⟨hi, hg⟩ := Prod.mk.inj hkey
  exact h r hr ⟨hi.symm, hg.symm⟩

-- With one record for an interface the order does not matter.
theorem filter_of_records_of_mem (hnodup : (records'.map SentRecord.if_index).Nodup)
    (hr : r ∈ records') :
    filter_of_records (records ++ records') r.if_index r.gaddr = r.filter := by
  obtain ⟨op, hop, hset⟩ :=
    SentRecord.sets_filter_iff.mpr (Eq.refl ((r.if_index, r.gaddr), r.filter))
  rw [filter_of_records, source_filter, List.flatMap_append, Journal.replay_append]
  refine Journal.replay_of_mem (List.mem_flatMap.mpr ⟨r, hr, hop⟩) hset fun op' hop' f hset' => ?_
  obtain ⟨r', hr', hop'⟩ := List.mem_flatMap.mp hop'
  obtain ⟨hkey, rfl⟩ := Prod.mk.inj (SentRecord.sets_filter_iff.mp ⟨op', hop', hset'⟩)
  rw [List.inj_on_of_nodup_map hnodup hr' hr (Prod.mk.inj hkey).1.symm]

theorem sent_records_append (calls calls' : List (RoutingCall α)) :
    sent_records (calls ++ calls') = sent_records calls ++ sent_records calls' :=
  List.filterMap_append

theorem sent_records_map (records : List (SentRecord α)) :
    sent_records (records.map .send_record) = records := by
  rw [sent_records, List.filterMap_map]
  exact List.filterMap_some

-- The calls that concern the routes hand over no record.
theorem sent_records_calculate_routes (get_if_name : ℕ → String) (get_virtual_if_index : ℕ → ℤ)
    (r : SimpleMcProxyRouting α) (gaddr : α) (slist : SourceList α) :
    sent_records (calculate_routes get_if_name get_virtual_if_index r gaddr slist) = [] := by
  refine List.filterMap_eq_nil_iff.mpr fun c hmem => ?_
  rcases List.mem_append.mp hmem with hmem | hmem
  · obtain ⟨s, -, rfl⟩ := Option.map_eq_some_iff.mp (Option.mem_toList.mp hmem)
    rfl
  · obtain ⟨e, -, hmem⟩ := List.mem_flatMap.mp hmem
    unfold set_route at hmem
    split at hmem
    · rw [List.mem_singleton.mp hmem]
    · split_ifs at hmem
      · rw [List.mem_singleton.mp hmem]
      · rw [List.mem_singleton.mp hmem]
      · exact absurd hmem List.not_mem_nil

end Filters

section Asked

variable (get_if_name : ℕ → String)

-- What is to be asked for on an interface, under the rule that takes the first upstream.
def asked (p : ProxyInstanceState α) (gaddr : α) (i : ℕ) : Set α :=
  {saddr | ∃ u sstate, (u, sstate) ∈ computed_memberships get_if_name gaddr p.toProxyInstance ⟨∅⟩
    RMT_FIRST ∧ u.m_if_index = i ∧ saddr ∈ sstate.accept}

variable {get_if_name} {p p' : ProxyInstanceState α} {gaddr saddr : α} {i : ℕ}

-- The rule does not look at the sources.
theorem computed_first_congr (data data' : SimpleRoutingData α) :
    computed_memberships get_if_name gaddr p.toProxyInstance data RMT_FIRST =
      computed_memberships get_if_name gaddr p.toProxyInstance data' RMT_FIRST := by
  rw [computed_memberships_eq get_if_name gaddr _ data (Or.inl rfl),
    computed_memberships_eq get_if_name gaddr _ data' (Or.inl rfl)]
  rfl

theorem mem_asked_iff :
    saddr ∈ asked get_if_name p gaddr i ↔
      ∃ before u after, p.m_upstreams.elems = before ++ u :: after ∧ u.m_if_index = i ∧
        ∃ d ∈ p.m_downstreams.elems,
          (before ≠ [] → ∃ a ∈ (d.2.infos gaddr).2,
            passed_on get_if_name gaddr before d.2.m_interface a = true) ∧
          saddr ∈ (share get_if_name gaddr before u d.2).accept := by
  constructor
  · rintro ⟨u, sstate, hmem, hi, hs⟩
    obtain ⟨before, after, hups, rfl⟩ := (mem_computed_first_iff ..).mp hmem
    exact ⟨before, u, after, hups, hi, (mem_accept_first_iff ..).mp hs⟩
  · rintro ⟨before, u, after, hups, hi, hs⟩
    exact ⟨u, _, (mem_computed_first_iff ..).mpr ⟨before, after, hups, rfl⟩, hi,
      (mem_accept_first_iff ..).mpr hs⟩

-- What a downstream asks for is a matter of its filters and what its querier answers.
theorem mem_accept_share_congr {before : List (UpstreamInfos α)} {u : UpstreamInfos α}
    {d d' : DownstreamInfos α} (h : d'.seen gaddr = d.seen gaddr) :
    saddr ∈ (share get_if_name gaddr before u d').accept ↔
      saddr ∈ (share get_if_name gaddr before u d).accept := by
  obtain ⟨hinterface, hseen⟩ := Prod.mk.inj h
  obtain ⟨hmode, hkeys⟩ := Prod.mk.inj (Prod.mk.inj hseen).2
  have hmem : saddr ∈ (share get_if_name gaddr before u d').m_source_list ↔
      saddr ∈ (share get_if_name gaddr before u d).m_source_list := by
    rw [mem_share_iff, mem_share_iff, ← OrdSet.mem_keys, ← OrdSet.mem_keys, permitted, permitted,
      hinterface, hkeys]
  have hmode' : (share get_if_name gaddr before u d').m_mc_filter =
      (share get_if_name gaddr before u d).m_mc_filter := hmode
  cases hm : (share get_if_name gaddr before u d).m_mc_filter with
  | INCLUDE_MODE => rw [mem_accept_of_include hm, mem_accept_of_include (hmode'.trans hm), hmem]
  | EXCLUDE_MODE => rw [mem_accept_of_exclude hm, mem_accept_of_exclude (hmode'.trans hm), hmem]

theorem SameFor.symm (h : SameFor gaddr p p') : SameFor gaddr p' p :=
  ⟨h.upstreams.symm, h.input_rule.symm, h.output_rule.symm, fun i => (h.downstreams i).symm⟩

theorem SameFor.asked_subset (h : SameFor gaddr p p') :
    Mcproxy.asked get_if_name p gaddr i ⊆ Mcproxy.asked get_if_name p' gaddr i := by
  intro saddr hs
  obtain ⟨before, u, after, hups, hi, ⟨k, d⟩, hd, hreach, hs⟩ := mem_asked_iff.mp hs
  have hk := h.downstreams k
  rw [OrdMap.lookup_eq_some_iff.mpr hd, Option.map_some, Option.map_eq_some_iff] at hk
  obtain ⟨d', hd', hseen⟩ := hk
  obtain ⟨hinterface, hinfos⟩ := Prod.mk.inj hseen
  have hkeys := (Prod.mk.inj (Prod.mk.inj hinfos).2).2
  refine mem_asked_iff.mpr ⟨before, u, after, h.upstreams ▸ hups, hi, (k, d'),
    OrdMap.mem_of_lookup hd', fun hne => ?_, (mem_accept_share_congr hseen).mpr hs⟩
  obtain ⟨a, ha, hpass⟩ := hreach hne
  refine ⟨a, ?_, ?_⟩
  · rw [← OrdSet.mem_keys, hkeys]
    exact ha
  · rw [hinterface]
    exact hpass

theorem SameFor.asked (h : SameFor gaddr p p') (i : ℕ) :
    Mcproxy.asked get_if_name p' gaddr i = Mcproxy.asked get_if_name p gaddr i :=
  h.symm.asked_subset.antisymm h.asked_subset

-- Nothing is asked for on an interface that is no upstream.
theorem asked_of_no_upstream (h : ∀ u ∈ p.m_upstreams.elems, u.m_if_index ≠ i) :
    asked get_if_name p gaddr i = ∅ := by
  refine Set.eq_empty_of_forall_notMem fun saddr hs => ?_
  obtain ⟨u, sstate, hmem, hi, -⟩ := hs
  exact h u (List.of_mem_zip hmem).1 hi

-- Nobody listens on any downstream.
def no_members (p : ProxyInstanceState α) : Prop :=
  ∀ d ∈ p.m_downstreams.elems, d.2.m_querier.m_db.group_info.isEmpty = true

instance (p : ProxyInstanceState α) : Decidable (no_members p) :=
  inferInstanceAs (Decidable (∀ d ∈ p.m_downstreams.elems, _))

theorem asked_of_no_members (h : no_members p) : asked get_if_name p gaddr i = ∅ := by
  refine Set.eq_empty_of_forall_notMem fun saddr hs => ?_
  obtain ⟨before, u, after, -, -, d, hd, -, hs⟩ := mem_asked_iff.mp hs
  have hinfos : d.2.infos gaddr = (INCLUDE_MODE, ∅) := by
    have hnone : OrdMap.lookup d.2.m_querier.m_db.group_info gaddr = none :=
      OrdMap.lookup_eq_none_iff.mpr (OrdSet.isEmpty_iff.mp (h d hd) gaddr)
    rw [DownstreamInfos.infos, get_group_membership_infos, hnone]
    rfl
  have hmode : (share get_if_name gaddr before u d.2).m_mc_filter = INCLUDE_MODE :=
    congrArg Prod.fst hinfos
  rw [mem_accept_of_include hmode, mem_share_iff, hinfos] at hs
  exact absurd hs.1 List.not_mem_nil

end Asked

section Steps

variable {get_if_name : ℕ → String} {get_virtual_if_index : ℕ → ℤ} {clk : SteadyClock}
  {p : ProxyInstanceState α} {r r' : RoutingState α} {mroute_stats : MrouteStats α}

def first_rule (p : ProxyInstanceState α) : Bool :=
  p.m_upstream_input_rule.any fun rb => rb.m_rule_matching_type = RMT_FIRST

theorem not_mutex_of_first (h : first_rule p = true) (data : SimpleRoutingData α) :
    is_rule_matching_type ⟨p, data⟩ IT_UPSTREAM ID_IN RMT_MUTEX = false := by
  simp only [first_rule] at h
  simp only [is_rule_matching_type]
  cases hrule : p.m_upstream_input_rule with
  | none => rfl
  | some rb =>
    rw [hrule, Option.any_some, decide_eq_true_eq] at h
    simp [h]

-- The records of an aggregation, one for each upstream.
def first_records (get_if_name : ℕ → String) (p : ProxyInstanceState α) (gaddr : α) :
    List (SentRecord α) :=
  (computed_memberships get_if_name gaddr p.toProxyInstance ⟨∅⟩ RMT_FIRST).map fun e =>
    ⟨e.1.m_if_index, gaddr, e.2⟩

theorem map_records_eq_zip (gaddr : α) {upstreams : List (UpstreamInfos α)}
    {im : MembershipData α} (h : im.map Prod.fst = upstreams.map UpstreamInfos.m_if_index) :
    im.map (fun data_e => (⟨data_e.1, gaddr, merge_all data_e.2⟩ : SentRecord α)) =
      (upstreams.zip (im.map fun data_e => merge_all data_e.2)).map fun e =>
        ⟨e.1.m_if_index, gaddr, e.2⟩ := by
  induction upstreams generalizing im with
  | nil =>
    rw [List.map_nil, List.map_eq_nil_iff] at h
    rw [h]
    rfl
  | cons u upstreams ih =>
    cases im with
    | nil => cases h
    | cons data_e im =>
      obtain ⟨hfst, hrest⟩ := List.cons.inj h
      simp only [List.map_cons, List.zip_cons_cons, ih hrest, hfst]

theorem aggregate_first (data : SimpleRoutingData α) (gaddr : α) (env : RoutingEnv α) :
    aggregate get_if_name ⟨p, data⟩ RMT_FIRST gaddr env =
      .ok (env.call ((first_records get_if_name p gaddr).map .send_record)) := by
  rw [aggregate, process_membership_aggregation_eq get_if_name gaddr _ _ (Or.inl rfl),
    map_records_eq_zip gaddr
      (interface_memberships_indexes get_if_name gaddr p.toProxyInstance RMT_FIRST data),
    ← computed_memberships_eq get_if_name gaddr _ data (Or.inl rfl),
    computed_first_congr data ⟨∅⟩]
  rfl

-- Under the rule only a change of a group is passed on to the upstreams.
theorem sent_records_step (hfirst : first_rule p = true) {event : RoutingEvent α}
    (h : (routing α clk get_if_name get_virtual_if_index).step r ⟨p, mroute_stats, event⟩ =
      .ok r') :
    sent_records r'.env.calls = sent_records r.env.calls ++
      match event with
      | .event_querier_state_change _ gaddr => first_records get_if_name p gaddr
      | .event_new_source _ _ _ => []
      | .timer_triggerd_maintain_routing_table _ _ => [] := by
  cases event with
  | event_new_source if_index gaddr saddr =>
    simp only [routing, routing_step, event_new_source, not_mutex_of_first hfirst,
      Bool.false_eq_true, if_false] at h
    obtain rfl := Except.ok.inj h
    simp only [RoutingEnv.call, sent_records_append, sent_records_calculate_routes]
    rfl
  | event_querier_state_change if_index gaddr =>
    have hrule : is_rule_matching_type ⟨p, r.m_data⟩ IT_UPSTREAM ID_IN RMT_FIRST = true := hfirst
    simp only [routing, routing_step, event_querier_state_change, hrule, if_true,
      aggregate_first] at h
    obtain rfl := Except.ok.inj h
    simp only [RoutingEnv.call, sent_records_append, sent_records_calculate_routes,
      List.append_nil, sent_records_map]
  | timer_triggerd_maintain_routing_table tm unique =>
    rw [List.append_nil]
    simp only [routing, routing_step, timer_triggerd_maintain_routing_table] at h
    cases hcur : !unique && is_current r.m_data tm with
    | false =>
      rw [hcur] at h
      obtain rfl := Except.ok.inj h
      rfl
    | true =>
      simp only [hcur, if_true, source_timer_expired, not_mutex_of_first hfirst,
        Bool.false_eq_true, if_false] at h
      cases hkept : (r.m_data.refresh_source_or_del_it_if_unused mroute_stats tm.m_gaddr
          tm.m_saddr).2 with
      | false =>
        rw [hkept] at h
        obtain rfl := Except.ok.inj h
        simp only [RoutingEnv.call, sent_records_append]
        exact List.append_nil _
      | true =>
        rw [hkept] at h
        obtain rfl := Except.ok.inj h
        rfl

end Steps

section Invariant

variable (get_if_name : ℕ → String)

-- The records set the filter that would be computed now.
def SubscribedAt (p : ProxyInstanceState α) (r : RoutingState α) (i : ℕ) (gaddr : α) : Prop :=
  lets_in (filter_of_records (sent_records r.env.calls) i gaddr) = asked get_if_name p gaddr i

variable {get_if_name} {get_virtual_if_index : ℕ → ℤ} {clk : SteadyClock}
  {p p' : ProxyInstanceState α} {r r' : RoutingState α} {mroute_stats : MrouteStats α} {i : ℕ}
  {g : α}

theorem SubscribedAt.congr (h : SubscribedAt get_if_name p r i g) (hsame : SameFor g p p') :
    SubscribedAt get_if_name p' r i g :=
  Eq.trans h (hsame.asked i).symm

-- There is one computed state for an interface.
theorem computed_first_nodup (hinv : InstanceInv p.toProxyInstance) (gaddr : α) :
    ((computed_memberships get_if_name gaddr p.toProxyInstance ⟨∅⟩ RMT_FIRST).map fun e =>
      e.1.m_if_index).Nodup := by
  have hfst : (computed_memberships get_if_name gaddr p.toProxyInstance ⟨∅⟩ RMT_FIRST).map
      Prod.fst = p.m_upstreams.elems := by
    have hlen := congrArg List.length
      (interface_memberships_indexes get_if_name gaddr p.toProxyInstance RMT_FIRST ⟨∅⟩)
    rw [List.length_map, List.length_map] at hlen
    rw [computed_memberships_eq get_if_name gaddr _ _ (Or.inl rfl)]
    refine List.map_fst_zip ?_
    rw [List.length_map, hlen]
  have hindexes := hinv.indexes
  rwa [← hfst, List.map_map] at hindexes

theorem accept_eq_asked (hinv : InstanceInv p.toProxyInstance) {u : UpstreamInfos α}
    {sstate : SourceState α}
    (h : (u, sstate) ∈ computed_memberships get_if_name g p.toProxyInstance ⟨∅⟩ RMT_FIRST) :
    sstate.accept = asked get_if_name p g u.m_if_index := by
  ext saddr
  constructor
  · exact fun hs => ⟨u, sstate, h, rfl, hs⟩
  · rintro ⟨v, sstate', h', hidx, hs⟩
    have heq := List.inj_on_of_nodup_map (computed_first_nodup hinv g) h' h hidx
    rwa [(Prod.mk.inj heq).2] at hs

-- An aggregation tells every upstream what is computed for it.
theorem lets_in_after_records (hinv : InstanceInv p.toProxyInstance)
    (records : List (SentRecord α)) {u : UpstreamInfos α} (hu : u ∈ p.m_upstreams.elems) :
    lets_in (filter_of_records (records ++ first_records get_if_name p g) u.m_if_index g) =
      asked get_if_name p g u.m_if_index := by
  obtain ⟨before, after, hups⟩ := List.append_of_mem hu
  have hmem := (mem_computed_first_iff get_if_name g p.toProxyInstance ⟨∅⟩ u _).mpr
    ⟨before, after, hups, rfl⟩
  have hnodup : ((first_records get_if_name p g).map SentRecord.if_index).Nodup := by
    rw [first_records, List.map_map]
    exact computed_first_nodup hinv g
  have hrecord : ⟨u.m_if_index, g, _⟩ ∈ first_records get_if_name p g :=
    List.mem_map_of_mem hmem
  rw [← accept_eq_asked hinv hmem, ← lets_in_filter ⟨u.m_if_index, g, _⟩]
  exact congrArg lets_in (filter_of_records_of_mem hnodup hrecord)

-- An event tells the upstreams what the instance it finds is to ask for.
theorem SubscribedAt.event (hinv : InstanceInv p.toProxyInstance) (hfirst : first_rule p = true)
    {event : RoutingEvent α}
    (hstep : (routing α clk get_if_name get_virtual_if_index).step r ⟨p, mroute_stats, event⟩ =
      .ok r')
    (h : ((∀ j, event ≠ .event_querier_state_change j g) ∨
      ∀ u ∈ p.m_upstreams.elems, u.m_if_index ≠ i) → SubscribedAt get_if_name p r i g) :
    SubscribedAt get_if_name p r' i g := by
  rw [SubscribedAt, sent_records_step hfirst hstep]
  cases event with
  | event_new_source =>
    rw [List.append_nil]
    exact h (Or.inl nofun)
  | timer_triggerd_maintain_routing_table =>
    rw [List.append_nil]
    exact h (Or.inl nofun)
  | event_querier_state_change if_index gaddr =>
    by_cases hg : gaddr = g
    · subst hg
      by_cases hu : ∃ u ∈ p.m_upstreams.elems, u.m_if_index = i
      · obtain ⟨u, hu, rfl⟩ := hu
        exact lets_in_after_records hinv _ hu
      · -- the records are for the upstreams only
        have hnot : ∀ u ∈ p.m_upstreams.elems, u.m_if_index ≠ i := fun u hmem heq =>
          hu ⟨u, hmem, heq⟩
        refine Eq.trans (congrArg lets_in ?_) (h (Or.inr hnot))
        refine filter_of_records_other fun record hmem heq => ?_
        obtain ⟨e, he, rfl⟩ := List.mem_map.mp hmem
        exact hnot e.1 (List.of_mem_zip he).1 heq.1
    · have hother : ∀ j, RoutingEvent.event_querier_state_change if_index gaddr ≠
          .event_querier_state_change j g := fun j heq =>
        hg (RoutingEvent.event_querier_state_change.inj heq).2
      refine Eq.trans (congrArg lets_in ?_) (h (Or.inl hother))
      refine filter_of_records_other fun record hmem heq => ?_
      obtain ⟨e, -, rfl⟩ := List.mem_map.mp hmem
      exact hg heq.2

-- The condition on a message: the instance is configured while nobody listens, with the rule that
-- takes the first upstream, and no older host leaves a group without listeners.
def subscribing (s : SystemState α) (input : WorkerInput α) : Prop :=
  match input.msg with
  | .config_msg _ _ => no_members s.m_p
  | .querier_msg if_index e => first_rule s.m_p = true ∧
    ∀ d ∈ OrdMap.lookup s.m_p.m_downstreams if_index, no_stale_leave d.m_querier e
  | .new_source_msg _ _ _ => first_rule s.m_p = true
  | .new_source_timer_msg _ _ => first_rule s.m_p = true

instance (s : SystemState α) (input : WorkerInput α) : Decidable (subscribing s input) :=
  match input with
  | ⟨.config_msg _ _, _⟩ => inferInstanceAs (Decidable (no_members s.m_p))
  | ⟨.querier_msg if_index e, _⟩ =>
    inferInstanceAs (Decidable (first_rule s.m_p = true ∧
      ∀ d ∈ OrdMap.lookup s.m_p.m_downstreams if_index, no_stale_leave d.m_querier e))
  | ⟨.new_source_msg _ _ _, _⟩ => inferInstanceAs (Decidable (first_rule s.m_p = true))
  | ⟨.new_source_timer_msg _ _, _⟩ => inferInstanceAs (Decidable (first_rule s.m_p = true))

-- A new querier has no groups.
theorem no_members_handle_config {mode : GroupMemProtocol} (h : no_members p) (clk' : SteadyClock)
    {msg : ConfigMsg α} (hsent : msg.is_sent = true) :
    no_members (handle_config mode p clk' msg) := by
  cases msg with
  | ADD_DOWNSTREAM if_index interf tv =>
    simp only [handle_config, add_downstream]
    split
    · have hnew : ∀ d ∈ (p.m_downstreams.insert
          (if_index, ⟨new_querier ⟨clk', tv⟩ mode, interf⟩)).elems,
            d.2.m_querier.m_db.group_info.isEmpty = true := by
        intro d hd
        rcases OrdSet.mem_of_mem_insertList _ hd with rfl | hd
        · rfl
        · exact h d hd
      split_ifs <;> exact hnew
    · exact h
  | DEL_DOWNSTREAM if_index => cases hsent
  | ADD_UPSTREAM if_index interf upstream_priority =>
    simp only [handle_config, add_upstream]
    split
    · split_ifs <;> exact h
    · exact h
  | DEL_UPSTREAM if_index => cases hsent
  | SET_GLOBAL_RULE_BINDING rb =>
    simp only [handle_config]
    unfold set_global_rule_binding
    split
    · exact h
    · split_ifs
      · split <;> exact h
      · exact h
      · exact h

variable {mode : GroupMemProtocol} {s s' : SystemState α} {input : WorkerInput α}

theorem set_querier_inv (hinv : InstanceInv p.toProxyInstance) {if_index : ℕ}
    {d : DownstreamInfos α} (hd : OrdMap.lookup p.m_downstreams if_index = some d)
    {q : Querier α} (hrole : q.m_db.is_querier = d.m_querier.m_db.is_querier) :
    InstanceInv (p.set_querier if_index d q).toProxyInstance :=
  (hinv.erase_downstream if_index).insert_downstream
    (hrole.trans (hinv.queriers _ (OrdMap.mem_of_lookup hd)))

theorem subscribed_step (hinv : InstanceInv s.m_p.toProxyInstance)
    (he : system_enabled mode s input) (hsub : subscribing s input)
    (hstep : SystemStep mode clk get_if_name get_virtual_if_index s input s')
    (h : ∀ i g, SubscribedAt get_if_name s.m_p s.m_routing_management i g) (i : ℕ) (g : α) :
    SubscribedAt get_if_name s'.m_p s'.m_routing_management i g := by
  cases hstep with
  | config msg clk' hmsg =>
    rw [subscribing, hmsg] at hsub
    rw [system_enabled, hmsg] at he
    have hbefore := h i g
    rw [SubscribedAt, asked_of_no_members hsub] at hbefore
    rw [SubscribedAt, asked_of_no_members (no_members_handle_config hsub clk' he)]
    exact hbefore
  | dropped => exact h i g
  | silent if_index e hmsg d hd q hrole hview =>
    exact (h i g).congr (.of_set_querier hd hrole (hview g))
  | notified if_index e hmsg d hd q hrole gaddr infos hothers hview r hr =>
    rw [subscribing, hmsg] at hsub
    have hinfos := hview (hsub.2 d hd)
    have hcallback : ∀ g', view (get_group_membership_infos (q.during_callback gaddr infos).m_db
        g') = view (get_group_membership_infos q.m_db g') :=
      fun g' => view_during_callback hinfos g'
    have hduring : SubscribedAt get_if_name
        (s.m_p.set_querier if_index d (q.during_callback gaddr infos)) r i g := by
      refine .event (set_querier_inv hinv hd hrole) hsub.1 hr fun hkept => ?_
      rcases hkept with hevent | hnot
      · have hg : g ≠ gaddr := fun hg => hevent if_index (hg ▸ rfl)
        refine (h i g).congr (.of_set_querier hd hrole ?_)
        rw [hcallback, hothers g hg]
      · have hbefore := h i g
        rw [SubscribedAt, asked_of_no_upstream (p := s.m_p) hnot] at hbefore
        rw [SubscribedAt, asked_of_no_upstream hnot]
        exact hbefore
    exact hduring.congr (.set_querier rfl (hcallback g).symm)
  | new_source if_index gaddr saddr hmsg r hr =>
    rw [subscribing, hmsg] at hsub
    exact .event hinv hsub hr fun _ => h i g
  | new_source_timer tm unique hmsg htm r hr =>
    rw [subscribing, hmsg] at hsub
    exact .event hinv hsub hr fun _ => h i g

theorem system_subscribed
    (hs : ((system α mode clk get_if_name get_virtual_if_index).restrict subscribing).Reachable s)
    (i : ℕ) (g : α) : SubscribedAt get_if_name s.m_p s.m_routing_management i g := by
  refine hs.invariant_of
    (system α mode clk get_if_name get_virtual_if_index).Reachable
    (fun s => ∀ i g, SubscribedAt get_if_name s.m_p s.m_routing_management i g)
    (fun _ => Machine.Reachable.of_restrict) ?_ ?_ i g
  · intro i g
    have hnobody : no_members (proxy_instance α mode).start := fun d hd =>
      absurd hd List.not_mem_nil
    refine Eq.trans ?_ (asked_of_no_members hnobody).symm
    exact Set.eq_empty_of_forall_notMem fun a => List.not_mem_nil
  · intro s input s' hreach h he hstep
    exact subscribed_step (proxy_instance_inv (system_instance_reachable hreach)) he.1 he.2
      (system_step_cases hreach he.1 hstep) h

-- For closed runs: the upstream 10 and the downstreams 1 and 2. Hosts behind both ask for a source
-- of the group, the second one after its source has been seen on the upstream.
def two_members (gaddr saddr saddr' : α) : List (WorkerInput α) :=
  [⟨.config_msg (.ADD_UPSTREAM 10 {} 0) ticking, fun _ _ => none⟩,
    ⟨.config_msg (.ADD_DOWNSTREAM 1 {} {}) ticking, fun _ _ => none⟩,
    ⟨.config_msg (.ADD_DOWNSTREAM 2 {} {}) ticking, fun _ _ => none⟩,
    ⟨.querier_msg 1 (.record ⟨.ALLOW_NEW_SOURCES, gaddr, sources [saddr], IGMPv3⟩),
      fun _ _ => none⟩,
    ⟨.new_source_msg 10 gaddr saddr', fun _ _ => none⟩,
    ⟨.querier_msg 2 (.record ⟨.ALLOW_NEW_SOURCES, gaddr, sources [saddr'], IGMPv3⟩),
      fun _ _ => none⟩]

end Invariant

section Served

-- No interface has a filter.
structure Unfiltered (p : ProxyInstanceState α) : Prop where
  upstreams : ∀ u ∈ p.m_upstreams.elems, u.m_interface.m_input_filter = none
  downstreams : ∀ d ∈ p.m_downstreams.elems, d.2.m_interface.m_output_filter = none

variable {get_if_name : ℕ → String} {get_virtual_if_index : ℕ → ℤ} {p : ProxyInstanceState α}
  {g sa : α} {u : UpstreamInfos α}

theorem mem_asked_of_unfiltered (hinv : InstanceInv p.toProxyInstance) (hplain : Unfiltered p)
    (hu : p.m_upstreams.elems.head? = some u) :
    sa ∈ asked get_if_name p g u.m_if_index ↔
      ∃ d ∈ p.m_downstreams.elems, sa ∈ accept (d.2.infos g) := by
  obtain ⟨rest, hups⟩ := List.head?_eq_some_iff.mp hu
  have hout : ∀ cs ∈ init_sstate_list p.toProxyInstance g, cs.2.m_output_filter = none := by
    intro cs hcs
    obtain ⟨d, hd, rfl⟩ := List.mem_map.mp hcs
    exact hplain.downstreams d hd
  have hin := hplain.upstreams u (hups ▸ List.mem_cons_self)
  have hmem : (u, merge_all ((init_sstate_list p.toProxyInstance g).map Prod.fst)) ∈
      computed_memberships get_if_name g p.toProxyInstance ⟨∅⟩ RMT_FIRST := by
    rw [computed_memberships_eq get_if_name g _ _ (Or.inl rfl), interface_memberships, if_pos rfl,
      hups, process_upstream_in_first_of_no_filter get_if_name g rest hout hin]
    exact List.mem_cons_self
  rw [← accept_eq_asked hinv hmem]
  exact mem_accept_merge_downstreams g p.toProxyInstance sa

-- Data is taken from an upstream without input filter.
theorem use_upstream_of_unfiltered (hinv : InstanceInv p.toProxyInstance)
    (hu : u ∈ p.m_upstreams.elems) (hin : u.m_interface.m_input_filter = none)
    (hname : get_if_name u.m_if_index ≠ "") (data : SimpleRoutingData α) (g sa : α) :
    use_this_interface get_if_name ⟨p, data⟩ u.m_if_index g sa = true := by
  have hfind : p.m_upstreams.elems.find? (fun ui => ui.m_if_index == u.m_if_index) = some u := by
    cases hf : p.m_upstreams.elems.find? fun ui => ui.m_if_index == u.m_if_index with
    | none => exact absurd (List.find?_eq_none.mp hf u hu) (by simp)
    | some v =>
      have hidx : v.m_if_index = u.m_if_index := by simpa using List.find?_some hf
      rw [hinv.upstream_eq (List.mem_of_find?_eq_some hf) hu hidx]
  simp [use_this_interface, is_upstream_of_mem _ hu, check_interface, hfind, hname,
    Interface.match_input_filter, hin, match_filter]

-- For data from an upstream only the members count.
theorem wanted_iff_of_unfiltered (hplain : Unfiltered p) {i : ℕ}
    (hrole : p.is_downstream i = false) (j : ℕ) :
    wanted get_if_name p i g sa j ↔
      ∃ d, OrdMap.lookup p.m_downstreams j = some d ∧ sa ∈ accept (d.infos g) := by
  constructor
  · rintro (⟨d, hd, -, -, haccept⟩ | ⟨hdown, -⟩)
    · exact ⟨d, hd, haccept⟩
    · rw [hrole] at hdown
      cases hdown
  · rintro ⟨d, hd, haccept⟩
    refine Or.inl ⟨d, hd, ?_, ?_, haccept⟩
    · rintro rfl
      rw [ProxyInstance.is_downstream, hd] at hrole
      cases hrole
    · rw [Interface.match_output_filter, hplain.downstreams _ (OrdMap.mem_of_lookup hd)]
      rfl

variable {mode : GroupMemProtocol} {clk : SteadyClock} {s : SystemState α}

-- The two halves of the proxy agree: a source on the first upstream is routed exactly while it is
-- asked for there, and to exactly the downstreams whose members ask for it.
theorem proxy_serves_members {m_sender : Sender} (hsender : init_sender mode = some m_sender)
    (hv4 : is_IPv4 mode = true) (m_sock : MrouteSocket α)
    (hs : ((system α mode clk get_if_name get_virtual_if_index).restrict fun s input =>
      settled s input ∧ subscribing s input).Reachable s) (hplain : Unfiltered s.m_p)
    (hu : s.m_p.m_upstreams.elems.head? = some u)
    (hrole : s.m_p.is_downstream u.m_if_index = false) (hname : get_if_name u.m_if_index ≠ "")
    (hi : s.m_routing_management.m_data.interface g sa = some u.m_if_index) :
    (sa ∈ lets_in (source_filter (socket_ops m_sock m_sender s.m_routing_management.env.calls)
        u.m_if_index g) ↔
      ∃ route, routes s.m_routing_management.env.calls g sa = some route) ∧
    ∀ route, routes s.m_routing_management.env.calls g sa = some route →
      route.input_vif = get_virtual_if_index u.m_if_index ∧
      ∀ v, v ∈ route.output_vif ↔ ∃ j d, OrdMap.lookup s.m_p.m_downstreams j = some d ∧
        sa ∈ accept (d.infos g) ∧ get_virtual_if_index j = v := by
  have hinv := proxy_instance_inv (system_instance_reachable hs.of_restrict)
  have hmem : u ∈ s.m_p.m_upstreams.elems := List.mem_of_head? hu
  have huse := use_upstream_of_unfiltered hinv hmem (hplain.upstreams u hmem) hname
    s.m_routing_management.m_data g sa
  have hsettled := hs.restrict_mono (D := settled) fun _ _ h => h.1
  have hsubscribing := hs.restrict_mono (D := subscribing) fun _ _ h => h.2
  have hsub : sa ∈ lets_in (source_filter (socket_ops m_sock m_sender
      s.m_routing_management.env.calls) u.m_if_index g) ↔
      ∃ d ∈ s.m_p.m_downstreams.elems, sa ∈ accept (d.2.infos g) := by
    rw [socket_ops_eq hsender hv4, ← mem_asked_of_unfiltered hinv hplain hu]
    exact iff_of_eq (congrArg (sa ∈ ·) (system_subscribed hsubscribing u.m_if_index g))
  obtain ⟨outputs, -, hwanted, hserves⟩ := route_of_reachable hsettled hi hname huse
  have hout : ∀ j, j ∈ outputs ↔
      ∃ d, OrdMap.lookup s.m_p.m_downstreams j = some d ∧ sa ∈ accept (d.infos g) := fun j =>
    (hwanted j).trans (wanted_iff_of_unfiltered hplain hrole j)
  rw [hserves]
  constructor
  · rw [hsub, ← Option.ne_none_iff_exists', Ne, serving_route_eq_none_iff,
      List.eq_nil_iff_forall_not_mem, not_forall_not]
    constructor
    · rintro ⟨⟨j, d⟩, hd, haccept⟩
      exact ⟨j, (hout j).mpr ⟨d, OrdMap.lookup_eq_some_iff.mpr hd, haccept⟩⟩
    · rintro ⟨j, hj⟩
      obtain ⟨d, hd, haccept⟩ := (hout j).mp hj
      exact ⟨(j, d), OrdMap.mem_of_lookup hd, haccept⟩
  · intro route hroute
    obtain rfl := serving_route_eq_some hroute
    refine ⟨rfl, fun v => ?_⟩
    rw [List.mem_map]
    constructor
    · rintro ⟨j, hj, hv⟩
      obtain ⟨d, hd, haccept⟩ := (hout j).mp hj
      exact ⟨j, d, hd, haccept, hv⟩
    · rintro ⟨j, d, hd, haccept, hv⟩
      exact ⟨j, (hout j).mpr ⟨d, hd, haccept⟩, hv⟩

theorem proxy_serves_second_member :
    ∃ (s : SystemState Ipv4Addr) (route : Route),
      ((system Ipv4Addr IGMPv3 ticking example_a_names (fun i => i)).restrict fun s input =>
        settled s input ∧ subscribing s input).Reachable s ∧
      routes s.m_routing_management.env.calls 7 3 = some route ∧
      3 ∈ lets_in (source_filter (socket_ops (fun _ _ => true) .igmp_sender
        s.m_routing_management.env.calls) 10 7) ∧ route.input_vif = 10 ∧
      ∀ v, v ∈ route.output_vif ↔ ∃ j d, OrdMap.lookup s.m_p.m_downstreams j = some d ∧
        3 ∈ accept (d.infos 7) ∧ j = v := by
  obtain ⟨s, run, hs⟩ := Machine.exists_run_of_exec
    ((system Ipv4Addr IGMPv3 ticking example_a_names (fun i => i)).restrict fun s input =>
      settled s input ∧ subscribing s input) (two_members 7 4 3)
    (fun s => decide (s.m_p.m_upstreams.elems.map UpstreamInfos.m_if_index = [10]) &&
      s.m_p.m_upstreams.elems.all (fun u => u.m_interface.m_input_filter.isNone) &&
      s.m_p.m_downstreams.elems.all (fun d => d.2.m_interface.m_output_filter.isNone) &&
      !s.m_p.is_downstream 10 &&
      decide (s.m_routing_management.m_data.interface 7 3 = some 10) &&
      (routes s.m_routing_management.env.calls 7 3).isSome) rfl
  simp only [Bool.and_eq_true, decide_eq_true_eq, List.all_eq_true, Bool.not_eq_true',
    Option.isNone_iff_eq_none] at hs
  obtain ⟨⟨⟨⟨⟨hups, hin⟩, hout⟩, hrole⟩, hi⟩, hentry⟩ := hs
  obtain ⟨route, hroute⟩ := Option.isSome_iff_exists.mp hentry
  obtain ⟨u, hu, hten⟩ : ∃ u, s.m_p.m_upstreams.elems.head? = some u ∧ u.m_if_index = 10 := by
    have hhead := congrArg List.head? hups
    rw [List.head?_map] at hhead
    exact Option.map_eq_some_iff.mp hhead
  rw [← hten] at hrole hi
  have hsender : init_sender IGMPv3 = some .igmp_sender := rfl
  obtain ⟨hsub, hserved⟩ := proxy_serves_members hsender rfl (fun _ _ => true) run.reachable
    ⟨hin, hout⟩ hu hrole (by rw [hten]; decide) hi
  obtain ⟨hinput, houtput⟩ := hserved route hroute
  rw [hten] at hsub hinput
  exact ⟨s, route, run.reachable, hroute, hsub.mpr ⟨route, hroute⟩, hinput, houtput⟩

end Served

end Mcproxy
