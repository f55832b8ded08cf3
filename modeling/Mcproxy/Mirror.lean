import Mcproxy.System

namespace Mcproxy

open Container Transition McFilter GroupMemProtocol AddrFamily RbRuleMatchingType RbInterfaceType
  RbInterfaceDirection

variable {α : Type*} [LinearOrder α]

section Agreement

-- What the routing management reads of a downstream when it looks at a group.
def DownstreamInfos.seen (gaddr : α) (d : DownstreamInfos α) :
    Interface α × Bool × McFilter × List α :=
  (d.m_interface, d.m_querier.m_db.is_querier, view (d.infos gaddr))

-- Two instances that look the same to the routing management, as far as a group goes.
structure SameFor (gaddr : α) (p p' : ProxyInstanceState α) : Prop where
  upstreams : p'.m_upstreams = p.m_upstreams
  input_rule : p'.m_upstream_input_rule = p.m_upstream_input_rule
  output_rule : p'.m_upstream_output_rule = p.m_upstream_output_rule
  downstreams : ∀ i, (OrdMap.lookup p'.m_downstreams i).map (DownstreamInfos.seen gaddr) =
    (OrdMap.lookup p.m_downstreams i).map (DownstreamInfos.seen gaddr)

variable {gaddr : α} {p p' : ProxyInstanceState α}

-- Only one querier is replaced.
theorem SameFor.set_querier {if_index : ℕ} {d : DownstreamInfos α} {q q' : Querier α}
    (hrole : q'.m_db.is_querier = q.m_db.is_querier)
    (hview : view (get_group_membership_infos q'.m_db gaddr) =
      view (get_group_membership_infos q.m_db gaddr)) :
    SameFor gaddr (p.set_querier if_index d q) (p.set_querier if_index d q') := by
  refine ⟨rfl, rfl, rfl, fun i => ?_⟩
  simp only [ProxyInstanceState.set_querier, OrdMap.lookup_assign]
  split_ifs
  · simp only [Option.map_some, DownstreamInfos.seen, DownstreamInfos.infos, hrole, hview]
  · rfl

theorem set_querier_self {if_index : ℕ} {d : DownstreamInfos α}
    (hd : OrdMap.lookup p.m_downstreams if_index = some d) :
    p.set_querier if_index d d.m_querier = p := by
  rw [ProxyInstanceState.set_querier]
  exact congrArg (fun m => { p with m_downstreams := m }) (OrdMap.assign_of_lookup hd)

theorem SameFor.of_set_querier {if_index : ℕ} {d : DownstreamInfos α} {q : Querier α}
    (hd : OrdMap.lookup p.m_downstreams if_index = some d)
    (hrole : q.m_db.is_querier = d.m_querier.m_db.is_querier)
    (hview : view (get_group_membership_infos q.m_db gaddr) =
      view (get_group_membership_infos d.m_querier.m_db gaddr)) :
    SameFor gaddr p (p.set_querier if_index d q) := by
  have h : SameFor gaddr (p.set_querier if_index d d.m_querier) (p.set_querier if_index d q) :=
    .set_querier hrole hview
  rwa [set_querier_self hd] at h

section Reads

variable {get_if_name : ℕ → String} {data data' : SimpleRoutingData α} (h : SameFor gaddr p p')
include h

theorem SameFor.is_downstream (i : ℕ) : p'.is_downstream i = p.is_downstream i := by
  have hi := congrArg Option.isSome (h.downstreams i)
  rwa [Option.isSome_map, Option.isSome_map] at hi

theorem SameFor.is_upstream (i : ℕ) : p'.is_upstream i = p.is_upstream i := by
  rw [ProxyInstance.is_upstream, h.upstreams]
  rfl

theorem SameFor.is_rule_matching_type (data data' : SimpleRoutingData α)
    (interface_type : RbInterfaceType) (direction : RbInterfaceDirection)
    (rule : RbRuleMatchingType) :
    Mcproxy.is_rule_matching_type ⟨p', data'⟩ interface_type direction rule =
      Mcproxy.is_rule_matching_type ⟨p, data⟩ interface_type direction rule := by
  simp only [Mcproxy.is_rule_matching_type, h.input_rule, h.output_rule]

theorem SameFor.check_interface (data data' : SimpleRoutingData α)
    (interface_type : RbInterfaceType) (direction : RbInterfaceDirection)
    (checking_if_index input_if_index : ℕ) (g saddr : α) :
    Mcproxy.check_interface get_if_name ⟨p', data'⟩ interface_type direction checking_if_index
        input_if_index g saddr =
      Mcproxy.check_interface get_if_name ⟨p, data⟩ interface_type direction checking_if_index
        input_if_index g saddr := by
  have hdown : (OrdMap.lookup p'.m_downstreams checking_if_index).map
      DownstreamInfos.m_interface =
        (OrdMap.lookup p.m_downstreams checking_if_index).map DownstreamInfos.m_interface := by
    have hi := congrArg (Option.map Prod.fst) (h.downstreams checking_if_index)
    rwa [Option.map_map, Option.map_map] at hi
  simp only [Mcproxy.check_interface, h.upstreams, hdown]

theorem SameFor.up_if_list (data data' : SimpleRoutingData α) (i : ℕ) (saddr : α)
    (l : List (UpstreamInfos α)) :
    Mcproxy.up_if_list get_if_name ⟨p', data'⟩ gaddr i saddr l =
      Mcproxy.up_if_list get_if_name ⟨p, data⟩ gaddr i saddr l := by
  induction l with
  | nil => rfl
  | cons ui rest ih =>
    simp only [Mcproxy.up_if_list, ih, h.check_interface data data',
      h.is_rule_matching_type data data']

-- A querier asks for a source by its role and what it answers.
theorem SameFor.forwards {i : ℕ} {d d' : DownstreamInfos α}
    (hd : OrdMap.lookup p.m_downstreams i = some d)
    (hd' : OrdMap.lookup p'.m_downstreams i = some d') (saddr : α) :
    Mcproxy.forwards d'.m_querier.m_db gaddr saddr =
      Mcproxy.forwards d.m_querier.m_db gaddr saddr := by
  have hi := h.downstreams i
  rw [hd, hd', Option.map_some, Option.map_some] at hi
  obtain ⟨-, hseen⟩ := Prod.mk.inj (Option.some.inj hi)
  obtain ⟨hrole, hview⟩ := Prod.mk.inj hseen
  cases hq : d.m_querier.m_db.is_querier with
  | false => simp only [Mcproxy.forwards, hq, hrole.trans hq, Bool.false_and]
  | true =>
    rw [Bool.eq_iff_iff, forwards_iff (hrole.trans hq), forwards_iff hq]
    exact iff_of_eq (congrArg (saddr ∈ ·) (accept_eq_of_view_eq hview))

theorem SameFor.filter_fun {saddr : α}
    (hi : data'.interface gaddr saddr = data.interface gaddr saddr) (j : ℕ) :
    Mcproxy.filter_fun get_if_name ⟨p', data'⟩ gaddr j saddr =
      Mcproxy.filter_fun get_if_name ⟨p, data⟩ gaddr j saddr := by
  have hlook : OrdMap.lookup (data'.get_interface_map gaddr) saddr =
      OrdMap.lookup (data.get_interface_map gaddr) saddr := hi
  simp only [Mcproxy.filter_fun, hlook, h.check_interface data data']

theorem SameFor.downstream_part {saddr : α}
    (hi : data'.interface gaddr saddr = data.interface gaddr saddr) :
    Mcproxy.downstream_part get_if_name ⟨p', data'⟩ gaddr saddr =
      Mcproxy.downstream_part get_if_name ⟨p, data⟩ gaddr saddr := by
  have hkeys : p'.m_downstreams.keys = p.m_downstreams.keys := by
    refine OrdSet.keys_eq_of_mem_iff fun k => ?_
    rw [← not_iff_not, ← OrdMap.lookup_eq_none_iff, ← OrdMap.lookup_eq_none_iff,
      ← Option.map_eq_none_iff (f := DownstreamInfos.seen gaddr), h.downstreams k,
      Option.map_eq_none_iff]
  unfold Mcproxy.downstream_part
  rw [OrdMap.map_fst_filter p'.m_downstreams fun k d =>
      Mcproxy.forwards d.m_querier.m_db gaddr saddr &&
        Mcproxy.filter_fun get_if_name ⟨p', data'⟩ gaddr k saddr,
    OrdMap.map_fst_filter p.m_downstreams fun k d =>
      Mcproxy.forwards d.m_querier.m_db gaddr saddr &&
        Mcproxy.filter_fun get_if_name ⟨p, data⟩ gaddr k saddr, hkeys]
  refine List.filter_congr fun k _ => ?_
  have hk := h.downstreams k
  cases hd : OrdMap.lookup p.m_downstreams k with
  | none =>
    rw [hd, Option.map_none, Option.map_eq_none_iff] at hk
    rw [hk, Option.any_none, Option.any_none]
  | some d =>
    rw [hd, Option.map_some, Option.map_eq_some_iff] at hk
    obtain ⟨d', hd', -⟩ := hk
    rw [hd', Option.any_some, Option.any_some, h.forwards hd hd', h.filter_fun hi]

theorem SameFor.output_if_list {saddr : α}
    (hi : data'.interface gaddr saddr = data.interface gaddr saddr) (i : ℕ) :
    Mcproxy.output_if_list get_if_name ⟨p', data'⟩ gaddr saddr i =
      Mcproxy.output_if_list get_if_name ⟨p, data⟩ gaddr saddr i := by
  rw [Mcproxy.output_if_list, Mcproxy.output_if_list, h.downstream_part hi]
  refine congrArg (· ++ _) ?_
  simp only [upstream_part, h.is_downstream, h.upstreams, h.up_if_list data data']

theorem SameFor.use_this_interface (data data' : SimpleRoutingData α) (i : ℕ) (saddr : α) :
    Mcproxy.use_this_interface get_if_name ⟨p', data'⟩ i gaddr saddr =
      Mcproxy.use_this_interface get_if_name ⟨p, data⟩ i gaddr saddr := by
  simp only [Mcproxy.use_this_interface, h.is_upstream, h.is_downstream,
    h.check_interface data data']

end Reads

end Agreement

section Invariant

-- The route that serves the interfaces of a list.
def serving_route (get_virtual_if_index : ℕ → ℤ) (i : ℕ) (outputs : List ℕ) : Option Route :=
  if outputs.isEmpty then none
  else some ⟨get_virtual_if_index i, outputs.map get_virtual_if_index⟩

variable (get_if_name : ℕ → String) (get_virtual_if_index : ℕ → ℤ)

-- The route of a source is the one a calculation would make now. Nothing is said of sources that
-- come in where they are not to be taken from.
def MirrorsAt (p : ProxyInstanceState α) (r : RoutingState α) (gaddr saddr : α) : Prop :=
  ∀ i, r.m_data.interface gaddr saddr = some i →
    use_this_interface get_if_name ⟨p, r.m_data⟩ i gaddr saddr = true →
    routes r.env.calls gaddr saddr = serving_route get_virtual_if_index i
      (output_if_list get_if_name ⟨p, r.m_data⟩ gaddr saddr i)

variable {get_if_name get_virtual_if_index} {p p' : ProxyInstanceState α} {r r' : RoutingState α}
  {g sa : α}

theorem MirrorsAt.congr (h : MirrorsAt get_if_name get_virtual_if_index p r g sa)
    (hsame : SameFor g p p')
    (hinterface : r'.m_data.interface g sa = r.m_data.interface g sa)
    (hroute : routes r'.env.calls g sa = routes r.env.calls g sa) :
    MirrorsAt get_if_name get_virtual_if_index p' r' g sa := by
  intro i hi huse
  rw [hsame.use_this_interface r.m_data r'.m_data] at huse
  rw [hsame.output_if_list hinterface, hroute]
  exact h i (hinterface ▸ hi) huse

theorem calculated_route_of_used {x : SimpleMcProxyRouting α} {i : ℕ}
    (huse : use_this_interface get_if_name x i g sa = true) (old : Option Route) :
    calculated_route get_if_name get_virtual_if_index x g sa i old =
      serving_route get_virtual_if_index i (output_if_list get_if_name x g sa i) := by
  simp only [calculated_route, serving_route, huse, if_true]

-- An event with the instance as it is keeps the mirror, and the one about a group sets it up for
-- that group.
theorem MirrorsAt.event {clk : SteadyClock} {mroute_stats : MrouteStats α}
    {event : RoutingEvent α} (hinv : RoutingInv r)
    (hstep : (routing α clk get_if_name get_virtual_if_index).step r ⟨p, mroute_stats, event⟩ =
      .ok r')
    (h : (∀ i, event = .event_querier_state_change i g → r.m_data.interface g sa = none) →
      MirrorsAt get_if_name get_virtual_if_index p r g sa) :
    MirrorsAt get_if_name get_virtual_if_index p r' g sa := by
  obtain ⟨t, ht, hcases⟩ := routing_step_cases clk get_if_name get_virtual_if_index r
    ⟨p, mroute_stats, event⟩
  obtain rfl := Except.ok.inj (ht.symm.trans hstep)
  cases route_step hinv hcases g sa with
  | kept hevent hinterface hroute =>
    exact (h hevent).congr ⟨rfl, rfl, rfl, fun _ => rfl⟩ hinterface hroute
  | calculated i hinterface hroute =>
    intro j hj huse
    obtain rfl : i = j := Option.some.inj (hinterface.symm.trans hj)
    rw [hroute, calculated_route_of_used huse]
  | deleted hinterface hroute =>
    intro i hi
    rw [hinterface] at hi
    cases hi

-- The condition on a message: the instance is configured while no source is recorded, and no
-- older host leaves a group without listeners.
def settled (s : SystemState α) (input : WorkerInput α) : Prop :=
  match input.msg with
  | .config_msg _ _ => s.m_routing_management.m_data.m_data.isEmpty = true
  | .querier_msg if_index e =>
    ∀ d ∈ OrdMap.lookup s.m_p.m_downstreams if_index, no_stale_leave d.m_querier e
  | .new_source_msg _ _ _ => True
  | .new_source_timer_msg _ _ => True

instance (s : SystemState α) (input : WorkerInput α) : Decidable (settled s input) :=
  match input with
  | ⟨.config_msg _ _, _⟩ =>
    inferInstanceAs (Decidable (s.m_routing_management.m_data.m_data.isEmpty = true))
  | ⟨.querier_msg if_index e, _⟩ =>
    inferInstanceAs (Decidable (∀ d ∈ OrdMap.lookup s.m_p.m_downstreams if_index,
      no_stale_leave d.m_querier e))
  | ⟨.new_source_msg _ _ _, _⟩ => inferInstanceAs (Decidable True)
  | ⟨.new_source_timer_msg _ _, _⟩ => inferInstanceAs (Decidable True)

theorem interface_of_empty {d : SimpleRoutingData α} (h : d.m_data.isEmpty = true) (g sa : α) :
    d.interface g sa = none :=
  d.interface_of_none (OrdMap.lookup_eq_none_iff.mpr (OrdSet.isEmpty_iff.mp h g)) sa

variable {mode : GroupMemProtocol} {clk : SteadyClock} {s s' : SystemState α}
  {input : WorkerInput α}

theorem mirrors_step (hinv : RoutingInv s.m_routing_management) (hsettled : settled s input)
    (hstep : SystemStep mode clk get_if_name get_virtual_if_index s input s')
    (h : ∀ g sa, MirrorsAt get_if_name get_virtual_if_index s.m_p
      s.m_routing_management g sa) (g sa : α) :
    MirrorsAt get_if_name get_virtual_if_index s'.m_p s'.m_routing_management g
      sa := by
  cases hstep with
  | config msg clk' hmsg =>
    rw [settled, hmsg] at hsettled
    intro i hi
    rw [interface_of_empty hsettled] at hi
    cases hi
  | dropped => exact h g sa
  | silent if_index e hmsg d hd q hrole hview =>
    exact (h g sa).congr (.of_set_querier hd hrole (hview g)) rfl rfl
  | notified if_index e hmsg d hd q hrole gaddr infos hothers hview r hr =>
    rw [settled, hmsg] at hsettled
    have hinfos := hview (hsettled d hd)
    have hcallback : ∀ g', view (get_group_membership_infos (q.during_callback gaddr infos).m_db
        g') = view (get_group_membership_infos q.m_db g') :=
      fun g' => view_during_callback hinfos g'
    have hduring : MirrorsAt get_if_name get_virtual_if_index
        (s.m_p.set_querier if_index d (q.during_callback gaddr infos)) r g sa := by
      refine .event hinv hr fun hevent => ?_
      by_cases hg : g = gaddr
      · intro i hi
        rw [hevent if_index (hg ▸ rfl)] at hi
        cases hi
      · refine (h g sa).congr (.of_set_querier hd hrole ?_) rfl rfl
        rw [hcallback, hothers g hg]
    exact hduring.congr (.set_querier rfl (hcallback g).symm) rfl rfl
  | new_source if_index gaddr saddr hmsg r hr => exact .event hinv hr fun _ => h g sa
  | new_source_timer tm unique hmsg htm r hr => exact .event hinv hr fun _ => h g sa

theorem system_mirrors
    (hs : ((system α mode clk get_if_name get_virtual_if_index).restrict settled).Reachable s)
    (g sa : α) :
    MirrorsAt get_if_name get_virtual_if_index s.m_p s.m_routing_management g sa := by
  refine hs.invariant_of
    (system α mode clk get_if_name get_virtual_if_index).Reachable
    (fun s => ∀ g sa, MirrorsAt get_if_name get_virtual_if_index s.m_p
      s.m_routing_management g sa) (fun _ => Machine.Reachable.of_restrict) ?_ ?_ g sa
  · intro g sa i hi
    cases hi
  · intro s input s' hreach h he hstep
    exact mirrors_step (routing_inv (system_routing_reachable hreach)) he.2
      (system_step_cases hreach he.1 hstep) h

end Invariant

section Forwarded

-- Data of a source that comes in on `i` is wanted on an interface by the members behind it, or
-- it comes from a downstream and the rule for the upstreams picks the interface.
def wanted (get_if_name : ℕ → String) (p : ProxyInstanceState α) (i : ℕ) (gaddr saddr : α)
    (j : ℕ) : Prop :=
  (∃ d, OrdMap.lookup p.m_downstreams j = some d ∧ j ≠ i ∧
    d.m_interface.match_output_filter (get_if_name i) gaddr saddr = true ∧
    saddr ∈ accept (d.infos gaddr)) ∨
  p.is_downstream i = true ∧ ∃ u ∈ p.m_upstreams.elems, u.m_if_index = j ∧
    u.m_interface.match_output_filter (get_if_name i) gaddr saddr = true ∧
    (p.m_upstream_output_rule.any (fun rb => rb.m_rule_matching_type = RMT_ALL) = true ∨
      p.m_upstream_output_rule.any (fun rb => rb.m_rule_matching_type = RMT_FIRST) = true ∧
        ∀ v ∈ p.m_upstreams.elems, v.m_priority < u.m_priority →
          v.m_interface.match_output_filter (get_if_name i) gaddr saddr = false)

-- The vifs of the interfaces are different numbers below the limit, which is not exceeded by the
-- interfaces either; one in both roles counts twice.
structure VifsFit (addr_family : AddrFamily) (get_virtual_if_index : ℕ → ℤ)
    (p : ProxyInstanceState α) : Prop where
  in_range : ∀ j, p.is_upstream j = true ∨ p.is_downstream j = true →
    0 ≤ get_virtual_if_index j ∧ get_virtual_if_index j < vifs_elements addr_family
  distinct : ∀ j k, p.is_upstream j = true ∨ p.is_downstream j = true →
    p.is_upstream k = true ∨ p.is_downstream k = true →
    get_virtual_if_index j = get_virtual_if_index k → j = k
  roles : p.m_upstreams.elems.length + p.m_downstreams.elems.length ≤ vifs_elements addr_family

variable {get_if_name : ℕ → String} {get_virtual_if_index : ℕ → ℤ} {p : ProxyInstanceState α}
  {data : SimpleRoutingData α} {g sa : α} {i j : ℕ}

theorem mem_output_if_list_iff (hinv : InstanceInv p.toProxyInstance)
    (hi : data.interface g sa = some i) (hname : get_if_name i ≠ "") :
    j ∈ output_if_list get_if_name ⟨p, data⟩ g sa i ↔ wanted get_if_name p i g sa j := by
  have hup : ∀ u ∈ p.m_upstreams.elems, upstream_out get_if_name ⟨p, data⟩ g i sa u =
      u.m_interface.match_output_filter (get_if_name i) g sa := fun u hu =>
    upstream_out_eq (r := ⟨p, data⟩) hinv hname hu sa
  rw [output_if_list, List.mem_append, or_comm, wanted]
  refine or_congr (mem_downstream_part_iff (r := ⟨p, data⟩) hinv hi hname j) ?_
  rw [upstream_part]
  split_ifs with hd
  · rw [mem_up_if_list_iff]
    refine Iff.trans ?_ (and_iff_right hd).symm
    refine exists_congr fun u => and_congr_right fun hu => and_congr_right fun _ => ?_
    rw [hup u hu]
    refine and_congr_right fun _ => or_congr Iff.rfl (and_congr_right fun _ => ?_)
    refine forall₂_congr fun v hv => ?_
    rw [hup v hv]
  · exact iff_of_false List.not_mem_nil fun h => hd h.1

theorem has_interface_of_wanted (h : wanted get_if_name p i g sa j) :
    p.is_upstream j = true ∨ p.is_downstream j = true := by
  rcases h with ⟨d, hd, -⟩ | ⟨-, u, hu, hj, -⟩
  · right
    rw [ProxyInstance.is_downstream, hd]
    rfl
  · left
    exact List.any_eq_true.mpr ⟨u, hu, beq_iff_eq.mpr hj⟩

theorem length_up_if_list_le (x : SimpleMcProxyRouting α) (l : List (UpstreamInfos α)) :
    (up_if_list get_if_name x g i sa l).length ≤ l.length := by
  induction l with
  | nil => exact Nat.le_refl _
  | cons ui rest ih =>
    rw [up_if_list]
    split_ifs <;> simp only [List.length_cons, List.length_nil] <;> omega

theorem length_output_if_list_le (get_if_name : ℕ → String) (x : SimpleMcProxyRouting α)
    (g sa : α) (i : ℕ) :
    (output_if_list get_if_name x g sa i).length ≤
      x.m_p.m_upstreams.elems.length + x.m_p.m_downstreams.elems.length := by
  rw [output_if_list, List.length_append]
  apply Nat.add_le_add
  · rw [upstream_part]
    split_ifs
    · exact length_up_if_list_le x _
    · exact Nat.zero_le _
  · rw [downstream_part, List.length_map]
    exact List.length_filter_le _ _

theorem has_interface_of_use {x : SimpleMcProxyRouting α}
    (h : use_this_interface get_if_name x i g sa = true) :
    x.m_p.is_upstream i = true ∨ x.m_p.is_downstream i = true := by
  rw [use_this_interface, Bool.or_eq_true, Bool.and_eq_true, Bool.and_eq_true] at h
  exact h.imp And.left And.left

theorem serving_route_eq_none_iff {outputs : List ℕ} :
    serving_route get_virtual_if_index i outputs = none ↔ outputs = [] := by
  unfold serving_route
  cases outputs <;> simp

theorem serving_route_eq_some {outputs : List ℕ} {route : Route}
    (h : serving_route get_virtual_if_index i outputs = some route) :
    route = ⟨get_virtual_if_index i, outputs.map get_virtual_if_index⟩ := by
  unfold serving_route at h
  split_ifs at h
  exact (Option.some.inj h).symm

-- With vifs that fit the route reaches `setsockopt`, with a flag for each of its interfaces.
theorem add_route_of_fit {m_mrt_sock : MrtSock α} (hvalid : m_mrt_sock.is_udp_valid = true)
    {mode : GroupMemProtocol} (hfit : VifsFit (get_addr_family mode) get_virtual_if_index p)
    {outputs : List ℕ}
    (hhas : ∀ k ∈ outputs, p.is_upstream k = true ∨ p.is_downstream k = true)
    (hlen : outputs.length ≤ p.m_upstreams.elems.length + p.m_downstreams.elems.length)
    (hi : p.is_upstream i = true ∨ p.is_downstream i = true) :
    ∃ mc, add_route m_mrt_sock (get_addr_family mode) (get_virtual_if_index i) g sa
        (outputs.map get_virtual_if_index) = .ok (m_mrt_sock.setsockopt mc, some mc) ∧
      mc.origin = sa ∧ mc.mcastgrp = g ∧ mc.parent = get_virtual_if_index i ∧
      ∀ j, p.is_upstream j = true ∨ p.is_downstream j = true →
        (mc.sends_to (get_virtual_if_index j) ↔ j ∈ outputs) := by
  have hfamily : get_addr_family mode ≠ AF_UNSPEC := by cases mode <;> decide
  have hrange : ∀ v ∈ outputs.map get_virtual_if_index,
      0 ≤ v ∧ v < vifs_elements (get_addr_family mode) := by
    intro v hv
    obtain ⟨k, hk, rfl⟩ := List.mem_map.mp hv
    exact hfit.in_range k (hhas k hk)
  have hlen' : (outputs.map get_virtual_if_index).length ≤
      vifs_elements (get_addr_family mode) := by
    rw [List.length_map]
    exact hlen.trans hfit.roles
  obtain ⟨mc, hadd, horigin, hgroup, hparent, hsends⟩ :=
    add_route_of_range hvalid hfamily hlen' hrange (get_virtual_if_index i) g sa
  refine ⟨mc, hadd, horigin, hgroup, ?_, fun j hj => ?_⟩
  · have hvif := hfit.in_range i hi
    have hmax : vifs_elements (get_addr_family mode) ≤ 32 := by cases mode <;> decide
    rw [hparent]
    omega
  · rw [hsends _ (hfit.in_range j hj).1 (hfit.in_range j hj).2]
    constructor
    · intro hv
      obtain ⟨k, hk, heq⟩ := List.mem_map.mp hv
      exact hfit.distinct k j (hhas k hk) hj heq ▸ hk
    · exact List.mem_map_of_mem

variable {mode : GroupMemProtocol} {clk : SteadyClock} {s : SystemState α}

-- The route of a source serves a list of the interfaces it is wanted on.
theorem route_of_reachable
    (hs : ((system α mode clk get_if_name get_virtual_if_index).restrict settled).Reachable s)
    (hi : s.m_routing_management.m_data.interface g sa = some i) (hname : get_if_name i ≠ "")
    (huse : use_this_interface get_if_name ⟨s.m_p, s.m_routing_management.m_data⟩ i g sa = true) :
    ∃ outputs : List ℕ,
      outputs.length ≤ s.m_p.m_upstreams.elems.length + s.m_p.m_downstreams.elems.length ∧
      (∀ j, j ∈ outputs ↔ wanted get_if_name s.m_p i g sa j) ∧
      routes s.m_routing_management.env.calls g sa =
        serving_route get_virtual_if_index i outputs := by
  have hinv := proxy_instance_inv (system_instance_reachable hs.of_restrict)
  exact ⟨_, length_output_if_list_le get_if_name ⟨s.m_p, s.m_routing_management.m_data⟩ g sa i,
    fun j => mem_output_if_list_iff hinv hi hname, system_mirrors hs g sa i hi huse⟩

-- Whatever the order of reports, timers and data, the last call about a recorded source routes it
-- to the interfaces it is wanted on and to no others. If the vifs fit, that is what the kernel is
-- asked for.
theorem routed_to_wanted
    (hs : ((system α mode clk get_if_name get_virtual_if_index).restrict settled).Reachable s)
    (hi : s.m_routing_management.m_data.interface g sa = some i) (hname : get_if_name i ≠ "")
    (huse : use_this_interface get_if_name ⟨s.m_p, s.m_routing_management.m_data⟩ i g sa = true) :
    (routes s.m_routing_management.env.calls g sa = none ↔
      ∀ j, ¬ wanted get_if_name s.m_p i g sa j) ∧
    ∀ route, routes s.m_routing_management.env.calls g sa = some route →
      route.input_vif = get_virtual_if_index i ∧
      (∀ v, v ∈ route.output_vif ↔
        ∃ j, wanted get_if_name s.m_p i g sa j ∧ get_virtual_if_index j = v) ∧
      ∀ m_mrt_sock : MrtSock α, m_mrt_sock.is_udp_valid = true →
        VifsFit (get_addr_family mode) get_virtual_if_index s.m_p →
        ∃ mc, add_route m_mrt_sock (get_addr_family mode) route.input_vif g sa route.output_vif =
            .ok (m_mrt_sock.setsockopt mc, some mc) ∧
          mc.origin = sa ∧ mc.mcastgrp = g ∧ mc.parent = get_virtual_if_index i ∧
          ∀ j, s.m_p.is_upstream j = true ∨ s.m_p.is_downstream j = true →
            (mc.sends_to (get_virtual_if_index j) ↔ wanted get_if_name s.m_p i g sa j) := by
  obtain ⟨outputs, hlen, hmem, hserves⟩ := route_of_reachable hs hi hname huse
  rw [hserves]
  constructor
  · rw [serving_route_eq_none_iff, List.eq_nil_iff_forall_not_mem]
    exact forall_congr' fun j => not_congr (hmem j)
  · intro route hroute
    obtain rfl := serving_route_eq_some hroute
    refine ⟨rfl, fun v => ?_, fun m_mrt_sock hvalid hfit => ?_⟩
    · rw [List.mem_map]
      exact exists_congr fun j => and_congr_left fun _ => hmem j
    · have hhas : ∀ k ∈ outputs, s.m_p.is_upstream k = true ∨ s.m_p.is_downstream k = true :=
        fun k hk => has_interface_of_wanted ((hmem k).mp hk)
      obtain ⟨mc, hadd, horigin, hgroup, hparent, hsends⟩ :=
        add_route_of_fit hvalid hfit hhas hlen (has_interface_of_use huse)
      exact ⟨mc, hadd, horigin, hgroup, hparent, fun j hj => (hsends j hj).trans (hmem j)⟩

-- For closed runs: the upstream 10 and the downstreams 1 and 2, with their indexes as vifs.
theorem vifsFit_of_indexes {p : ProxyInstanceState Ipv4Addr}
    (hups : p.m_upstreams.elems.map UpstreamInfos.m_if_index = [10])
    (hdowns : p.m_downstreams.elems.map Prod.fst = [1, 2]) :
    VifsFit AF_INET (fun i => (i : ℤ)) p := by
  have hsmall : ∀ j, p.is_upstream j = true ∨ p.is_downstream j = true → j ≤ 10 := by
    rintro j (hj | hj)
    · obtain ⟨u, hu, hj⟩ := List.any_eq_true.mp hj
      have hmem := List.mem_map_of_mem (f := UpstreamInfos.m_if_index) hu
      rw [hups, List.mem_singleton, beq_iff_eq.mp hj] at hmem
      omega
    · obtain ⟨d, hd⟩ := Option.isSome_iff_exists.mp hj
      have hmem := List.mem_map_of_mem (f := Prod.fst) (OrdMap.mem_of_lookup hd)
      rw [hdowns] at hmem
      simp only [List.mem_cons, List.not_mem_nil, or_false] at hmem
      omega
  refine ⟨fun j hj => ?_, fun j k _ _ h => Int.ofNat.inj h, ?_⟩
  · have hle := hsmall j hj
    have hvifs : vifs_elements AF_INET = 32 := rfl
    omega
  · have hup := congrArg List.length hups
    have hdown := congrArg List.length hdowns
    rw [List.length_map] at hup hdown
    rw [hup, hdown]
    decide

-- Source 3 of group 7 sends on the downstream 1; then a host behind the downstream 2 asks for it.
theorem routed_to_late_member :
    ∃ (s : SystemState Ipv4Addr) (route : Route),
      ((system Ipv4Addr IGMPv3 ticking example_a_names (fun i => i)).restrict settled).Reachable s ∧
        routes s.m_routing_management.env.calls 7 3 = some route ∧
        route.input_vif = 1 ∧ 2 ∈ route.output_vif ∧
        ∃ mc : Mfcctl Ipv4Addr,
          add_route ⟨true, fun _ => true⟩ AF_INET route.input_vif 7 3 route.output_vif =
            .ok (true, some mc) ∧
          mc.parent = 1 ∧
          ∀ j, s.m_p.is_upstream j = true ∨ s.m_p.is_downstream j = true →
            (mc.sends_to j ↔ wanted example_a_names s.m_p 1 7 3 j) := by
  obtain ⟨s, run, hs⟩ := Machine.exists_run_of_exec
    ((system Ipv4Addr IGMPv3 ticking example_a_names (fun i => i)).restrict settled)
    [⟨.config_msg (.ADD_UPSTREAM 10 {} 0) ticking, fun _ _ => none⟩,
      ⟨.config_msg (.ADD_DOWNSTREAM 1 {} {}) ticking, fun _ _ => none⟩,
      ⟨.config_msg (.ADD_DOWNSTREAM 2 {} {}) ticking, fun _ _ => none⟩,
      ⟨.new_source_msg 1 7 3, fun _ _ => none⟩,
      ⟨.querier_msg 2 (.record ⟨.ALLOW_NEW_SOURCES, 7, sources [3], IGMPv3⟩), fun _ _ => none⟩]
    (fun s => decide (s.m_p.m_upstreams.elems.map UpstreamInfos.m_if_index = [10]) &&
      decide (s.m_p.m_downstreams.elems.map Prod.fst = [1, 2]) &&
      decide (s.m_routing_management.m_data.interface 7 3 = some 1) &&
      use_this_interface example_a_names ⟨s.m_p, s.m_routing_management.m_data⟩ 1 7 3 &&
      (routes s.m_routing_management.env.calls 7 3).any
        fun route : Route => decide (2 ∈ route.output_vif)) rfl
  simp only [Bool.and_eq_true, decide_eq_true_eq] at hs
  obtain ⟨⟨⟨⟨hups, hdowns⟩, hi⟩, huse⟩, hentry⟩ := hs
  obtain ⟨route, hroute, htwo⟩ := (Option.any_eq_true _ _).mp hentry
  obtain ⟨hinput, -, hkernel⟩ := (routed_to_wanted run.reachable hi (by decide) huse).2 route hroute
  obtain ⟨mc, hadd, -, -, hparent, hsends⟩ :=
    hkernel ⟨true, fun _ => true⟩ rfl (vifsFit_of_indexes hups hdowns)
  exact ⟨s, route, run.reachable, hroute, hinput, of_decide_eq_true htwo, mc, hadd,
    Int.ofNat.inj hparent, hsends⟩

end Forwarded

end Mcproxy
