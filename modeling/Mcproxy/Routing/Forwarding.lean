import Mcproxy.ProxyInstance
import Mcproxy.Routing.First

namespace Mcproxy

open Container Transition McFilter McastAddrRecordType GroupMemProtocol RbRuleMatchingType
  RbInterfaceType RbInterfaceDirection

variable {α : Type*} [LinearOrder α]

-- The routing management with the instance it reads.
structure SimpleMcProxyRouting (α : Type*) [LinearOrder α] where
  m_p : ProxyInstanceState α
  m_data : SimpleRoutingData α

section Collect

variable (get_if_name : ℕ → String) (r : SimpleMcProxyRouting α)

def is_rule_matching_type (interface_type : RbInterfaceType)
    (interface_direction : RbInterfaceDirection) (rule_matching_type : RbRuleMatchingType) :
    Bool :=
  match interface_type, interface_direction with
  | IT_UPSTREAM, ID_IN =>
    r.m_p.m_upstream_input_rule.any (fun rb => rb.m_rule_matching_type = rule_matching_type)
  | IT_UPSTREAM, ID_OUT =>
    r.m_p.m_upstream_output_rule.any (fun rb => rb.m_rule_matching_type = rule_matching_type)
  | _, _ => false

def check_interface (interface_type : RbInterfaceType)
    (interface_direction : RbInterfaceDirection) (checking_if_index input_if_index : ℕ)
    (gaddr saddr : α) : Bool :=
  let interf :=
    match interface_type with
    | IT_UPSTREAM =>
      (r.m_p.m_upstreams.elems.find? fun ui : UpstreamInfos α =>
        ui.m_if_index == checking_if_index).map UpstreamInfos.m_interface
    | IT_DOWNSTREAM =>
      (OrdMap.lookup r.m_p.m_downstreams checking_if_index).map DownstreamInfos.m_interface
  match interf with
  | none => false
  | some interf =>
    let input_if_index_name := get_if_name input_if_index
    if input_if_index_name ≠ "" then
      match interface_direction with
      | ID_IN => interf.match_input_filter input_if_index_name gaddr saddr
      | ID_OUT => interf.match_output_filter input_if_index_name gaddr saddr
      | ID_WILDCARD => false
    else false

-- The part of a querier in the forwarding: its interface is added to the sources it wants.
def suggest_to_forward_traffic (db : MembershipDb α) (m_if_index : ℕ) (gaddr : α)
    (rt_slist : List (Source α × List ℕ)) (interface_filter_fun : α → Bool) :
    List (Source α × List ℕ) :=
  let push := fun e : Source α × List ℕ =>
    if interface_filter_fun e.1.saddr then (e.1, e.2 ++ [m_if_index]) else e
  if db.is_querier then
    match OrdMap.lookup db.group_info gaddr with
    | none => rt_slist
    | some ginfo =>
      if ginfo.is_under_bakcward_compatibility_effects then rt_slist.map push
      else
        match ginfo.filter_mode with
        | INCLUDE_MODE =>
          rt_slist.map fun e => if e.1.saddr ∈ ginfo.include_requested_list then push e else e
        | EXCLUDE_MODE =>
          rt_slist.map fun e => if e.1.saddr ∈ ginfo.exclude_list then e else push e
  else rt_slist

variable (gaddr : α)

-- The loop over the upstreams for one source that comes from a downstream.
def up_if_list (input_if_index : ℕ) (saddr : α) : List (UpstreamInfos α) → List ℕ
  | [] => []
  | ui :: rest =>
    if check_interface get_if_name r IT_UPSTREAM ID_OUT ui.m_if_index input_if_index gaddr
        saddr then
      if is_rule_matching_type r IT_UPSTREAM ID_OUT RMT_ALL then
        ui.m_if_index :: up_if_list input_if_index saddr rest
      else if is_rule_matching_type r IT_UPSTREAM ID_OUT RMT_FIRST then [ui.m_if_index]
      else up_if_list input_if_index saddr rest
    else up_if_list input_if_index saddr rest

-- Data from an upstream are not forwarded to another upstream.
def upstream_part (input_if_index : ℕ) (saddr : α) : List ℕ :=
  if r.m_p.is_downstream input_if_index then
    up_if_list get_if_name r gaddr input_if_index saddr r.m_p.m_upstreams.elems
  else []

-- The first loop of `collect_interested_interfaces`; `false` if it was left by the return.
def add_upstream_interfaces : List (Source α) → List (Source α × List ℕ) × Bool
  | [] => ([], true)
  | s :: rest =>
    match OrdMap.lookup (r.m_data.get_interface_map gaddr) s.saddr with
    | none => ([], false)
    | some input_if_index =>
      let rt := add_upstream_interfaces rest
      ((s, upstream_part get_if_name r gaddr input_if_index s.saddr) :: rt.1, rt.2)

def filter_fun (output_if_index : ℕ) (saddr : α) : Bool :=
  match OrdMap.lookup (r.m_data.get_interface_map gaddr) saddr with
  | none => false
  | some input_if_index =>
    if output_if_index ≠ input_if_index then
      check_interface get_if_name r IT_DOWNSTREAM ID_OUT output_if_index input_if_index gaddr saddr
    else false

def collect_interested_interfaces (slist : SourceList α) : List (Source α × List ℕ) :=
  let rt := add_upstream_interfaces get_if_name r gaddr slist.elems
  if rt.2 then
    r.m_p.m_downstreams.elems.foldl (fun rt_list dif =>
      suggest_to_forward_traffic dif.2.m_querier.m_db dif.1 gaddr rt_list
        (filter_fun get_if_name r gaddr dif.1)) rt.1
  else rt.1

end Collect

section Querier

-- Whether a querier asks for the source.
def forwards (db : MembershipDb α) (gaddr saddr : α) : Bool :=
  db.is_querier &&
    match OrdMap.lookup db.group_info gaddr with
    | none => false
    | some ginfo =>
      ginfo.is_under_bakcward_compatibility_effects ||
        match ginfo.filter_mode with
        | INCLUDE_MODE => decide (saddr ∈ ginfo.include_requested_list)
        | EXCLUDE_MODE => decide (saddr ∉ ginfo.exclude_list)

-- The case analysis of the forwarding is that of the answer to the aggregation.
theorem forwards_iff {db : MembershipDb α} (h : db.is_querier = true) (gaddr saddr : α) :
    forwards db gaddr saddr = true ↔ saddr ∈ accept (get_group_membership_infos db gaddr) := by
  rw [forwards, h, Bool.true_and, get_group_membership_infos]
  cases OrdMap.lookup db.group_info gaddr with
  | none => simp [accept_none]
  | some ginfo =>
    cases hold : ginfo.is_under_bakcward_compatibility_effects with
    | true => simp [membership_infos, hold, accept, SourceList.addrs_empty]
    | false =>
      cases hmode : ginfo.filter_mode <;> simp [membership_infos, hold, hmode, accept]

theorem suggest_to_forward_traffic_eq (db : MembershipDb α) (m_if_index : ℕ) (gaddr : α)
    (rt_slist : List (Source α × List ℕ)) (interface_filter_fun : α → Bool) :
    suggest_to_forward_traffic db m_if_index gaddr rt_slist interface_filter_fun =
      rt_slist.map fun e =>
        (e.1, e.2 ++ if forwards db gaddr e.1.saddr && interface_filter_fun e.1.saddr then
          [m_if_index] else []) := by
  have hpush : ∀ e : Source α × List ℕ,
      (if interface_filter_fun e.1.saddr then (e.1, e.2 ++ [m_if_index]) else e) =
        (e.1, e.2 ++ if interface_filter_fun e.1.saddr then [m_if_index] else []) := by
    intro e
    split_ifs <;> simp
  unfold suggest_to_forward_traffic forwards
  cases db.is_querier with
  | false => simp
  | true =>
    cases OrdMap.lookup db.group_info gaddr with
    | none => simp
    | some ginfo =>
      cases hold : ginfo.is_under_bakcward_compatibility_effects with
      | true => simp [hpush, hold]
      | false =>
        cases hmode : ginfo.filter_mode with
        | INCLUDE_MODE =>
          simp only [hold, hmode, if_true, hpush, Bool.false_or, Bool.true_and,
            Bool.false_eq_true, if_false]
          refine List.map_congr_left fun e _ => ?_
          by_cases he : e.1.saddr ∈ ginfo.include_requested_list <;> simp [he]
        | EXCLUDE_MODE =>
          simp only [hold, hmode, if_true, hpush, Bool.false_or, Bool.true_and,
            Bool.false_eq_true, if_false]
          refine List.map_congr_left fun e _ => ?_
          by_cases he : e.1.saddr ∈ ginfo.exclude_list <;> simp [he]

end Querier

section Entries

variable (get_if_name : ℕ → String) (r : SimpleMcProxyRouting α) (gaddr : α)

-- The downstreams whose querier and filter let the source through, in the order of the map.
def downstream_part (saddr : α) : List ℕ :=
  (r.m_p.m_downstreams.elems.filter fun dif =>
    forwards dif.2.m_querier.m_db gaddr saddr && filter_fun get_if_name r gaddr dif.1 saddr).map
      Prod.fst

theorem foldl_suggest_eq (l : List (ℕ × DownstreamInfos α)) (rt_list : List (Source α × List ℕ)) :
    l.foldl (fun rt_list dif => suggest_to_forward_traffic dif.2.m_querier.m_db dif.1 gaddr rt_list
        (filter_fun get_if_name r gaddr dif.1)) rt_list =
      rt_list.map fun e => (e.1, e.2 ++ (l.filter fun dif =>
        forwards dif.2.m_querier.m_db gaddr e.1.saddr &&
          filter_fun get_if_name r gaddr dif.1 e.1.saddr).map Prod.fst) := by
  induction l generalizing rt_list with
  | nil => simp
  | cons dif l ih =>
    rw [List.foldl_cons, ih, suggest_to_forward_traffic_eq, List.map_map]
    refine List.map_congr_left fun e _ => ?_
    simp only [Function.comp_apply, List.append_assoc, List.filter_cons]
    split_ifs <;> rfl

theorem mem_add_upstream_interfaces {l : List (Source α)} {e : Source α × List ℕ}
    (he : e ∈ (add_upstream_interfaces get_if_name r gaddr l).1) :
    ∃ i, OrdMap.lookup (r.m_data.get_interface_map gaddr) e.1.saddr = some i ∧
      e.2 = upstream_part get_if_name r gaddr i e.1.saddr := by
  induction l with
  | nil => exact absurd he List.not_mem_nil
  | cons s rest ih =>
    unfold add_upstream_interfaces at he
    cases hs : OrdMap.lookup (r.m_data.get_interface_map gaddr) s.saddr with
    | none => simp [hs] at he
    | some i =>
      simp only [hs, List.mem_cons] at he
      rcases he with rfl | he
      · exact ⟨i, hs, rfl⟩
      · exact ih he

-- The loop gets to its end if every source has an input interface.
theorem add_upstream_interfaces_of_recorded {l : List (Source α)}
    (hrec : ∀ s ∈ l, (OrdMap.lookup (r.m_data.get_interface_map gaddr) s.saddr).isSome = true) :
    (add_upstream_interfaces get_if_name r gaddr l).2 = true ∧
      (add_upstream_interfaces get_if_name r gaddr l).1.map Prod.fst = l := by
  induction l with
  | nil => exact ⟨rfl, rfl⟩
  | cons s rest ih =>
    obtain ⟨hdone, hfst⟩ := ih fun s' hs' => hrec s' (List.mem_cons_of_mem _ hs')
    obtain ⟨i, hi⟩ := Option.isSome_iff_exists.mp (hrec s List.mem_cons_self)
    simp only [add_upstream_interfaces, hi, List.map_cons, hfst]
    exact ⟨hdone, trivial⟩

theorem mem_collect_interested_interfaces {slist : SourceList α} {e : Source α × List ℕ}
    (he : e ∈ collect_interested_interfaces get_if_name r gaddr slist) :
    ∃ i, OrdMap.lookup (r.m_data.get_interface_map gaddr) e.1.saddr = some i ∧
      (e.2 = upstream_part get_if_name r gaddr i e.1.saddr ∨
        e.2 = upstream_part get_if_name r gaddr i e.1.saddr ++
          downstream_part get_if_name r gaddr e.1.saddr) := by
  unfold collect_interested_interfaces at he
  simp only [foldl_suggest_eq] at he
  split_ifs at he
  · obtain ⟨e', he', rfl⟩ := List.mem_map.mp he
    obtain ⟨i, hi, hup⟩ := mem_add_upstream_interfaces get_if_name r gaddr he'
    refine ⟨i, hi, Or.inr ?_⟩
    rw [hup]
    rfl
  · obtain ⟨i, hi, hup⟩ := mem_add_upstream_interfaces get_if_name r gaddr he
    exact ⟨i, hi, Or.inl hup⟩

theorem collect_interested_interfaces_of_recorded {slist : SourceList α}
    (hrec : ∀ s ∈ slist.elems,
      (OrdMap.lookup (r.m_data.get_interface_map gaddr) s.saddr).isSome = true) :
    (collect_interested_interfaces get_if_name r gaddr slist).map Prod.fst = slist.elems ∧
      ∀ e ∈ collect_interested_interfaces get_if_name r gaddr slist,
        ∃ i, OrdMap.lookup (r.m_data.get_interface_map gaddr) e.1.saddr = some i ∧
          e.2 = upstream_part get_if_name r gaddr i e.1.saddr ++
            downstream_part get_if_name r gaddr e.1.saddr := by
  obtain ⟨hdone, hfst⟩ := add_upstream_interfaces_of_recorded get_if_name r gaddr hrec
  have hcollect : collect_interested_interfaces get_if_name r gaddr slist =
      (add_upstream_interfaces get_if_name r gaddr slist.elems).1.map fun e =>
        (e.1, e.2 ++ downstream_part get_if_name r gaddr e.1.saddr) := by
    rw [collect_interested_interfaces, if_pos hdone, foldl_suggest_eq]
    rfl
  rw [hcollect]
  constructor
  · rw [List.map_map]
    exact hfst
  · intro e he
    obtain ⟨e', he', rfl⟩ := List.mem_map.mp he
    obtain ⟨i, hi, hup⟩ := mem_add_upstream_interfaces get_if_name r gaddr he'
    refine ⟨i, hi, ?_⟩
    rw [hup]

theorem filter_fun_iff {saddr : α} {i : ℕ}
    (hi : OrdMap.lookup (r.m_data.get_interface_map gaddr) saddr = some i) (d : ℕ) :
    filter_fun get_if_name r gaddr d saddr = true ↔
      d ≠ i ∧ check_interface get_if_name r IT_DOWNSTREAM ID_OUT d i gaddr saddr = true := by
  rw [filter_fun, hi]
  by_cases hd : d = i <;> simp [hd]

-- The downstream part leaves the input interface out.
theorem notMem_downstream_part {saddr : α} {i : ℕ}
    (hi : OrdMap.lookup (r.m_data.get_interface_map gaddr) saddr = some i) :
    i ∉ downstream_part get_if_name r gaddr saddr := by
  intro hmem
  obtain ⟨dif, hdif, rfl⟩ := List.mem_map.mp hmem
  have hpass := (Bool.and_eq_true _ _).mp (List.mem_filter.mp hdif).2
  exact ((filter_fun_iff get_if_name r gaddr hi dif.1).mp hpass.2).1 rfl

end Entries

section Upstreams

variable (get_if_name : ℕ → String) (r : SimpleMcProxyRouting α) (gaddr : α)

-- The output filter of the upstream lets the data through.
def upstream_out (i : ℕ) (saddr : α) (u : UpstreamInfos α) : Bool :=
  check_interface get_if_name r IT_UPSTREAM ID_OUT u.m_if_index i gaddr saddr

variable {r}

theorem not_first_of_all (h : is_rule_matching_type r IT_UPSTREAM ID_OUT RMT_ALL = true) :
    is_rule_matching_type r IT_UPSTREAM ID_OUT RMT_FIRST = false := by
  simp only [is_rule_matching_type] at h ⊢
  cases hrule : r.m_p.m_upstream_output_rule with
  | none => rfl
  | some rb =>
    rw [hrule, Option.any_some, decide_eq_true_eq] at h
    simp [h]

theorem up_if_list_of_all (h : is_rule_matching_type r IT_UPSTREAM ID_OUT RMT_ALL = true) (i : ℕ)
    (saddr : α) (l : List (UpstreamInfos α)) :
    up_if_list get_if_name r gaddr i saddr l =
      (l.filter (upstream_out get_if_name r gaddr i saddr)).map UpstreamInfos.m_if_index := by
  induction l with
  | nil => rfl
  | cons ui rest ih =>
    rw [up_if_list, if_pos h, ih, List.filter_cons, upstream_out]
    split_ifs <;> rfl

theorem up_if_list_of_first (h : is_rule_matching_type r IT_UPSTREAM ID_OUT RMT_FIRST = true)
    (i : ℕ) (saddr : α) (l : List (UpstreamInfos α)) :
    up_if_list get_if_name r gaddr i saddr l =
      ((l.find? (upstream_out get_if_name r gaddr i saddr)).map
        UpstreamInfos.m_if_index).toList := by
  have hall : ¬ is_rule_matching_type r IT_UPSTREAM ID_OUT RMT_ALL = true := by
    intro hall
    rw [not_first_of_all hall] at h
    exact Bool.false_ne_true h
  induction l with
  | nil => rfl
  | cons ui rest ih =>
    rw [up_if_list, if_neg hall, if_pos h, ih, List.find?_cons, upstream_out]
    cases check_interface get_if_name r IT_UPSTREAM ID_OUT ui.m_if_index i gaddr saddr <;> rfl

theorem up_if_list_of_other (hall : ¬ is_rule_matching_type r IT_UPSTREAM ID_OUT RMT_ALL = true)
    (hfirst : ¬ is_rule_matching_type r IT_UPSTREAM ID_OUT RMT_FIRST = true) (i : ℕ) (saddr : α)
    (l : List (UpstreamInfos α)) : up_if_list get_if_name r gaddr i saddr l = [] := by
  induction l with
  | nil => rfl
  | cons ui rest ih => rw [up_if_list, if_neg hall, if_neg hfirst, ih, ite_self]

variable (r)

-- The upstreams data from a downstream is sent to: all that let it through, or the first one.
theorem mem_up_if_list_iff (i j : ℕ) (saddr : α) :
    j ∈ up_if_list get_if_name r gaddr i saddr r.m_p.m_upstreams.elems ↔
      ∃ u ∈ r.m_p.m_upstreams.elems, u.m_if_index = j ∧
        upstream_out get_if_name r gaddr i saddr u = true ∧
        (is_rule_matching_type r IT_UPSTREAM ID_OUT RMT_ALL = true ∨
          is_rule_matching_type r IT_UPSTREAM ID_OUT RMT_FIRST = true ∧
            ∀ v ∈ r.m_p.m_upstreams.elems, v.m_priority < u.m_priority →
              upstream_out get_if_name r gaddr i saddr v = false) := by
  by_cases hall : is_rule_matching_type r IT_UPSTREAM ID_OUT RMT_ALL = true
  · rw [up_if_list_of_all get_if_name gaddr hall]
    simp only [List.mem_map, List.mem_filter, hall, true_or, and_true]
    exact exists_congr fun u => by rw [and_assoc, and_comm (a := u.m_if_index = j)]
  by_cases hfirst : is_rule_matching_type r IT_UPSTREAM ID_OUT RMT_FIRST = true
  · rw [up_if_list_of_first get_if_name gaddr hfirst]
    simp only [Option.mem_toList, Option.map_eq_some_iff, List.find?_eq_some_iff_append, hall,
      hfirst, false_or, true_and, Bool.false_eq_true]
    constructor
    · rintro ⟨u, ⟨hu, before, after, hups, hbefore⟩, rfl⟩
      refine ⟨u, by simp [hups], rfl, hu, fun v hv hlt => ?_⟩
      simpa using hbefore v ((mem_before_iff r.m_p.toProxyInstance hups v).mpr ⟨hv, hlt⟩)
    · rintro ⟨u, hmem, rfl, hu, hlt⟩
      obtain ⟨before, after, hups⟩ := List.append_of_mem hmem
      refine ⟨u, ⟨hu, before, after, hups, fun v hv => ?_⟩, rfl⟩
      obtain ⟨hv, hprio⟩ := (mem_before_iff r.m_p.toProxyInstance hups v).mp hv
      simp [hlt v hv hprio]
  · rw [up_if_list_of_other get_if_name gaddr hall hfirst]
    simp [hall, hfirst]

-- The interface is a downstream and at the same time an upstream the data is sent to.
def sent_back (i : ℕ) (saddr : α) : Prop :=
  r.m_p.is_downstream i = true ∧ ∃ u ∈ r.m_p.m_upstreams.elems, u.m_if_index = i ∧
    upstream_out get_if_name r gaddr i saddr u = true ∧
    (is_rule_matching_type r IT_UPSTREAM ID_OUT RMT_ALL = true ∨
      is_rule_matching_type r IT_UPSTREAM ID_OUT RMT_FIRST = true ∧
        ∀ v ∈ r.m_p.m_upstreams.elems, v.m_priority < u.m_priority →
          upstream_out get_if_name r gaddr i saddr v = false)

-- Only the loop over the downstreams leaves out the interface the data came in on.
theorem not_sent_back_iff {slist : SourceList α} {e : Source α × List ℕ} {i : ℕ}
    (he : e ∈ collect_interested_interfaces get_if_name r gaddr slist)
    (hi : OrdMap.lookup (r.m_data.get_interface_map gaddr) e.1.saddr = some i) :
    i ∉ e.2 ↔ ¬ sent_back get_if_name r gaddr i e.1.saddr := by
  have hup : i ∈ e.2 ↔ i ∈ upstream_part get_if_name r gaddr i e.1.saddr := by
    obtain ⟨j, hj, hout⟩ := mem_collect_interested_interfaces get_if_name r gaddr he
    obtain rfl : i = j := Option.some.inj (hi.symm.trans hj)
    have hdown := notMem_downstream_part get_if_name r gaddr hi
    rcases hout with hout | hout
    · rw [hout]
    · rw [hout, List.mem_append]
      simp [hdown]
  rw [hup, sent_back, ← mem_up_if_list_iff, upstream_part]
  split_ifs with hd <;> simp [hd]

-- One interface in both roles, as in a peering: what comes in on it goes out on it.
theorem peering_sends_back : ∃ p : ProxyInstanceState Ipv4Addr,
    (proxy_instance Ipv4Addr IGMPv3).Reachable p ∧
      OrdMap.lookup ((received_on 1).get_interface_map 7) 3 = some 1 ∧
      (collect_interested_interfaces example_a_names ⟨p, received_on 1⟩ 7 (sources [3])).map
        (fun e => (e.1.saddr, e.2)) = [(3, [1])] := by
  obtain ⟨p, run, hp⟩ := Machine.exists_run_of_exec (proxy_instance Ipv4Addr IGMPv3)
    [.config (.ADD_UPSTREAM 1 {} 0) ticking, .config (.ADD_DOWNSTREAM 1 {} {}) ticking]
    (fun p => (collect_interested_interfaces example_a_names ⟨p, received_on 1⟩ 7
      (sources [3])).map (fun e => (e.1.saddr, e.2)) = [(3, [1])]) rfl
  rw [decide_eq_true_eq] at hp
  exact ⟨p, run.reachable, rfl, hp⟩

-- For closed runs: the upstream 10, the downstreams 1 and 2, and a source wanted on 2.
def wanted_on_two (gaddr saddr : α) : List (InstanceMsg α) :=
  [.config (.ADD_UPSTREAM 10 {} 0) ticking, .config (.ADD_DOWNSTREAM 1 {} {}) ticking,
    .config (.ADD_DOWNSTREAM 2 {} {}) ticking,
    .querier 2 (.record ⟨ALLOW_NEW_SOURCES, gaddr, sources [saddr], IGMPv3⟩)]

theorem wanted_on_two_not_sent_back : ∃ (p : ProxyInstanceState Ipv4Addr)
    (e : Source Ipv4Addr × List ℕ), (proxy_instance Ipv4Addr IGMPv3).Reachable p ∧
      e ∈ collect_interested_interfaces example_a_names ⟨p, received_on 1⟩ 7 (sources [3]) ∧
      e.1.saddr = 3 ∧ e.2 = [10, 2] ∧
      ¬ sent_back example_a_names ⟨p, received_on 1⟩ 7 1 e.1.saddr := by
  obtain ⟨p, run, hp⟩ := Machine.exists_run_of_exec (proxy_instance Ipv4Addr IGMPv3)
    (wanted_on_two 7 3)
    (fun p => (collect_interested_interfaces example_a_names ⟨p, received_on 1⟩ 7
      (sources [3])).map (fun e => (e.1.saddr, e.2)) = [(3, [10, 2])]) rfl
  rw [decide_eq_true_eq] at hp
  obtain ⟨e, he, heq⟩ := List.mem_map.mp (hp ▸ List.mem_singleton_self _)
  obtain ⟨hs, hout⟩ := Prod.mk.inj heq
  refine ⟨p, e, run.reachable, he, hs, hout, ?_⟩
  refine (not_sent_back_iff example_a_names ⟨p, received_on 1⟩ 7 he ?_).mp ?_
  · rw [hs]
    rfl
  · rw [hout]
    decide

end Upstreams

section Agreement

variable {get_if_name : ℕ → String} {r : SimpleMcProxyRouting α} {gaddr : α}

theorem check_downstream_out {i : ℕ} (hname : get_if_name i ≠ "") {d : ℕ}
    {info : DownstreamInfos α} (hd : OrdMap.lookup r.m_p.m_downstreams d = some info) (saddr : α) :
    check_interface get_if_name r IT_DOWNSTREAM ID_OUT d i gaddr saddr =
      info.m_interface.match_output_filter (get_if_name i) gaddr saddr := by
  simp [check_interface, hd, hname]

-- The search by index finds the upstream it is made for.
theorem upstream_out_eq (hinv : InstanceInv r.m_p.toProxyInstance) {i : ℕ}
    (hname : get_if_name i ≠ "") {u : UpstreamInfos α} (hu : u ∈ r.m_p.m_upstreams.elems)
    (saddr : α) :
    upstream_out get_if_name r gaddr i saddr u =
      u.m_interface.match_output_filter (get_if_name i) gaddr saddr := by
  have hfind : r.m_p.m_upstreams.elems.find? (fun ui => ui.m_if_index == u.m_if_index) =
      some u := by
    cases hf : r.m_p.m_upstreams.elems.find? fun ui => ui.m_if_index == u.m_if_index with
    | none => exact absurd (List.find?_eq_none.mp hf u hu) (by simp)
    | some v =>
      have hidx : v.m_if_index = u.m_if_index := by simpa using List.find?_some hf
      rw [hinv.upstream_eq (List.mem_of_find?_eq_some hf) hu hidx]
  simp [upstream_out, check_interface, hfind, hname]

theorem mem_downstream_part_iff (hinv : InstanceInv r.m_p.toProxyInstance) {saddr : α} {i : ℕ}
    (hi : OrdMap.lookup (r.m_data.get_interface_map gaddr) saddr = some i)
    (hname : get_if_name i ≠ "") (d : ℕ) :
    d ∈ downstream_part get_if_name r gaddr saddr ↔
      ∃ info, OrdMap.lookup r.m_p.m_downstreams d = some info ∧ d ≠ i ∧
        info.m_interface.match_output_filter (get_if_name i) gaddr saddr = true ∧
        saddr ∈ accept (info.infos gaddr) := by
  simp only [downstream_part, List.mem_map, List.mem_filter, Bool.and_eq_true]
  constructor
  · rintro ⟨⟨d, info⟩, ⟨hmem, hquerier, hfilter⟩, rfl⟩
    have hd : OrdMap.lookup r.m_p.m_downstreams d = some info :=
      congrArg (Option.map Prod.snd) (OrdSet.find_eq_some_iff.mpr ⟨hmem, rfl⟩)
    rw [filter_fun_iff get_if_name r gaddr hi, check_downstream_out hname hd] at hfilter
    rw [forwards_iff (hinv.queriers _ hmem)] at hquerier
    exact ⟨info, hd, hfilter.1, hfilter.2, hquerier⟩
  · rintro ⟨info, hd, hne, hout, haccept⟩
    have hmem := OrdMap.mem_of_lookup hd
    refine ⟨(d, info), ⟨hmem, ?_, ?_⟩, rfl⟩
    · exact (forwards_iff (hinv.queriers _ hmem) gaddr saddr).mpr haccept
    · rw [filter_fun_iff get_if_name r gaddr hi, check_downstream_out hname hd]
      exact ⟨hne, hout⟩

-- An interface that is no upstream is in the list for its members only.
theorem notMem_upstream_part {i d : ℕ} (saddr : α)
    (h : ∀ u ∈ r.m_p.m_upstreams.elems, u.m_if_index ≠ d) :
    d ∉ upstream_part get_if_name r gaddr i saddr := by
  unfold upstream_part
  split_ifs
  · rw [mem_up_if_list_iff]
    rintro ⟨u, hu, hd, -⟩
    exact h u hu hd
  · exact List.not_mem_nil

-- The output list is one part for the upstreams, which serves data of a downstream only, and one
-- for the downstreams whose membership asks for the source. An interface in both roles can be in
-- the first part.
theorem forwarding_agrees {mode : GroupMemProtocol}
    (hp : (proxy_instance α mode).Reachable r.m_p) {slist : SourceList α}
    (hrec : ∀ s ∈ slist.elems,
      (OrdMap.lookup (r.m_data.get_interface_map gaddr) s.saddr).isSome = true)
    (hname : ∀ saddr i, OrdMap.lookup (r.m_data.get_interface_map gaddr) saddr = some i →
      get_if_name i ≠ "") :
    (collect_interested_interfaces get_if_name r gaddr slist).map Prod.fst = slist.elems ∧
      ∀ e ∈ collect_interested_interfaces get_if_name r gaddr slist,
        ∃ i ups downs, OrdMap.lookup (r.m_data.get_interface_map gaddr) e.1.saddr = some i ∧
          e.2 = ups ++ downs ∧
          (∀ d, d ∈ downs ↔ ∃ info, OrdMap.lookup r.m_p.m_downstreams d = some info ∧ d ≠ i ∧
            info.m_interface.match_output_filter (get_if_name i) gaddr e.1.saddr = true ∧
            e.1.saddr ∈ accept (info.infos gaddr)) ∧
          (r.m_p.is_downstream i = false → ups = []) ∧
          (r.m_p.is_downstream i = true →
            is_rule_matching_type r IT_UPSTREAM ID_OUT RMT_ALL = true →
              ups = (r.m_p.m_upstreams.elems.filter fun u =>
                u.m_interface.match_output_filter (get_if_name i) gaddr e.1.saddr).map
                  UpstreamInfos.m_if_index) ∧
          (r.m_p.is_downstream i = true →
            is_rule_matching_type r IT_UPSTREAM ID_OUT RMT_FIRST = true →
              ups = ((r.m_p.m_upstreams.elems.find? fun u =>
                u.m_interface.match_output_filter (get_if_name i) gaddr e.1.saddr).map
                  UpstreamInfos.m_if_index).toList) ∧
          (is_rule_matching_type r IT_UPSTREAM ID_OUT RMT_ALL = false →
            is_rule_matching_type r IT_UPSTREAM ID_OUT RMT_FIRST = false → ups = []) ∧
          ∀ d, (∀ u ∈ r.m_p.m_upstreams.elems, u.m_if_index ≠ d) →
            (d ∈ e.2 ↔ ∃ info, OrdMap.lookup r.m_p.m_downstreams d = some info ∧ d ≠ i ∧
              info.m_interface.match_output_filter (get_if_name i) gaddr e.1.saddr = true ∧
              e.1.saddr ∈ accept (info.infos gaddr)) := by
  have hinv := proxy_instance_inv hp
  obtain ⟨hfst, hentries⟩ :=
    collect_interested_interfaces_of_recorded get_if_name r gaddr hrec
  refine ⟨hfst, fun e he => ?_⟩
  obtain ⟨i, hi, hout⟩ := hentries e he
  have hname := hname e.1.saddr i hi
  have hdowns := mem_downstream_part_iff hinv hi hname
  have hups : ∀ u ∈ r.m_p.m_upstreams.elems,
      upstream_out get_if_name r gaddr i e.1.saddr u =
        u.m_interface.match_output_filter (get_if_name i) gaddr e.1.saddr :=
    fun u hu => upstream_out_eq hinv hname hu e.1.saddr
  refine ⟨i, _, _, hi, hout, hdowns, ?_, ?_, ?_, ?_, ?_⟩
  · intro hd
    simp [upstream_part, hd]
  · intro hd hall
    rw [upstream_part, if_pos hd, up_if_list_of_all get_if_name gaddr hall]
    exact congrArg _ (List.filter_congr hups)
  · intro hd hfirst
    rw [upstream_part, if_pos hd, up_if_list_of_first get_if_name gaddr hfirst,
      ← List.head?_filter, ← List.head?_filter, List.filter_congr hups]
  · intro hall hfirst
    rw [upstream_part, up_if_list_of_other get_if_name gaddr (Bool.not_eq_true _ ▸ hall)
      (Bool.not_eq_true _ ▸ hfirst), ite_self]
  · intro d hd
    rw [hout, List.mem_append, or_iff_right (notMem_upstream_part e.1.saddr hd)]
    exact hdowns d

theorem forwarding_agrees_wanted_on_two : ∃ p : ProxyInstanceState Ipv4Addr,
    (proxy_instance Ipv4Addr IGMPv3).Reachable p ∧
      ∃ e ∈ collect_interested_interfaces example_a_names ⟨p, received_on 1⟩ 7 (sources [3]),
        e.2 = [10, 2] ∧ ∃ i ups downs,
          OrdMap.lookup ((received_on 1).get_interface_map 7) e.1.saddr = some i ∧
          e.2 = ups ++ downs ∧
          ∀ d, d ∈ downs ↔ ∃ info, OrdMap.lookup p.m_downstreams d = some info ∧ d ≠ i ∧
            info.m_interface.match_output_filter (example_a_names i) 7 e.1.saddr = true ∧
            e.1.saddr ∈ accept (info.infos 7) := by
  obtain ⟨p, run, hp⟩ := Machine.exists_run_of_exec (proxy_instance Ipv4Addr IGMPv3)
    (wanted_on_two 7 3)
    (fun p => (collect_interested_interfaces example_a_names ⟨p, received_on 1⟩ 7
      (sources [3])).map (fun e => e.2) = [[10, 2]]) rfl
  rw [decide_eq_true_eq] at hp
  obtain ⟨e, he, hout⟩ := List.mem_map.mp (hp ▸ List.mem_singleton_self _)
  have hmap : ((received_on 1).get_interface_map 7).elems = [(3, 1)] := rfl
  obtain ⟨-, hentries⟩ := @forwarding_agrees Ipv4Addr _ example_a_names
    ⟨p, received_on 1⟩ 7 IGMPv3 run.reachable (sources [3])
    (List.forall_mem_singleton.mpr rfl) (by
      intro saddr i hi
      have hmem := OrdMap.mem_of_lookup hi
      rw [hmap, List.mem_singleton] at hmem
      rw [(Prod.mk.inj hmem).2]
      decide)
  obtain ⟨i, ups, downs, hi, hsplit, hdowns, -⟩ := hentries e he
  exact ⟨p, run.reachable, e, he, hout, i, ups, downs, hi, hsplit, hdowns⟩

-- The interface 1 in both roles and the downstream 2: what comes in on 2 goes out on 1, where
-- nobody wants it.
theorem both_roles_served_unasked : ∃ p : ProxyInstanceState Ipv4Addr,
    (proxy_instance Ipv4Addr IGMPv3).Reachable p ∧
      OrdMap.lookup ((received_on 2).get_interface_map 7) 3 = some 2 ∧
      (collect_interested_interfaces example_a_names ⟨p, received_on 2⟩ 7 (sources [3])).map
        (fun e => (e.1.saddr, e.2)) = [(3, [1])] ∧
      p.is_downstream 1 = true ∧
      ∀ info, OrdMap.lookup p.m_downstreams 1 = some info → 3 ∉ accept (info.infos 7) := by
  obtain ⟨p, run, hp⟩ := Machine.exists_run_of_exec (proxy_instance Ipv4Addr IGMPv3)
    [.config (.ADD_UPSTREAM 1 {} 0) ticking, .config (.ADD_DOWNSTREAM 1 {} {}) ticking,
      .config (.ADD_DOWNSTREAM 2 {} {}) ticking]
    (fun p => decide ((collect_interested_interfaces example_a_names ⟨p, received_on 2⟩ 7
        (sources [3])).map (fun e => (e.1.saddr, e.2)) = [(3, [1])]) && p.is_downstream 1 &&
      (OrdMap.lookup p.m_downstreams 1).all fun info : DownstreamInfos Ipv4Addr =>
        decide (view (info.infos 7) = (INCLUDE_MODE, []))) rfl
  simp only [Bool.and_eq_true, decide_eq_true_eq] at hp
  obtain ⟨⟨hout, hdown⟩, hview⟩ := hp
  refine ⟨p, run.reachable, rfl, hout, hdown, fun info hinfo haccept => ?_⟩
  rw [hinfo, Option.all_some, decide_eq_true_eq] at hview
  obtain ⟨hmode, hkeys⟩ := Prod.mk.inj hview
  rw [accept, hmode] at haccept
  have hmem : (3 : Ipv4Addr) ∈ (info.infos 7).2.keys := haccept
  rw [hkeys] at hmem
  exact List.not_mem_nil hmem

end Agreement

end Mcproxy
