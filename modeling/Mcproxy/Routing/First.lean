import Mathlib.Data.List.Induction
import Mcproxy.Routing.Aggregation

namespace Mcproxy

open Container Transition McFilter McastAddrRecordType GroupMemProtocol RbRuleMatchingType

variable {α : Type*} [LinearOrder α]

section Carry

variable (get_if_name : ℕ → String) (gaddr : α)

-- The states that reach an upstream with the given upstreams in front of it.
def carried (before : List (UpstreamInfos α)) (init : StateList α) : StateList α :=
  before.foldl (fun init upstr_e => tmp_sstate_list get_if_name gaddr upstr_e init) init

theorem process_upstream_in_first_iff (upstreams : List (UpstreamInfos α)) (init : StateList α)
    (u : UpstreamInfos α) (sstate : SourceState α) :
    (u, sstate) ∈ upstreams.zip ((process_upstream_in_first get_if_name gaddr upstreams init).map
        fun data_e => merge_all data_e.2) ↔
      ∃ before after, upstreams = before ++ u :: after ∧
        sstate = merge_all ((carried get_if_name gaddr before init).map
          (kept_sstate get_if_name gaddr u)) := by
  induction upstreams generalizing init with
  | nil => simp
  | cons v rest ih =>
    simp only [process_upstream_in_first, List.map_cons, List.zip_cons_cons, List.mem_cons, ih]
    constructor
    · rintro (heq | ⟨before, after, rfl, hst⟩)
      · obtain ⟨rfl, rfl⟩ := Prod.mk.inj heq
        exact ⟨[], rest, rfl, rfl⟩
      · exact ⟨v :: before, after, rfl, hst⟩
    · rintro ⟨before, after, hups, hst⟩
      cases before with
      | nil =>
        obtain ⟨rfl, rfl⟩ := List.cons.inj hups
        exact Or.inl (Prod.ext rfl hst)
      | cons w before =>
        obtain ⟨rfl, rfl⟩ := List.cons.inj hups
        exact Or.inr ⟨before, after, rfl, hst⟩

-- Whether a source is passed on by every upstream in front: the downstream may send it there,
-- but the upstream does not take it.
def passed_on (before : List (UpstreamInfos α)) (i : Interface α) (saddr : α) : Bool :=
  before.all fun v =>
    i.match_output_filter (get_if_name v.m_if_index) gaddr saddr &&
      !v.m_interface.match_input_filter (get_if_name v.m_if_index) gaddr saddr

-- What is left of a state after the upstreams in front.
def remainder (before : List (UpstreamInfos α)) (cs : SourceState α × Interface α) :
    SourceState α × Interface α :=
  ({ cs.1 with m_source_list := cs.1.m_source_list.filter fun s =>
      passed_on get_if_name gaddr before cs.2 s.saddr }, cs.2)

theorem remainder_nil (cs : SourceState α × Interface α) :
    remainder get_if_name gaddr [] cs = cs := by
  obtain ⟨⟨mode, l⟩, i⟩ := cs
  have hself : l.filter (fun s => passed_on get_if_name gaddr [] i s.saddr) = l :=
    OrdSet.filter_eq_self fun _ _ => rfl
  simp only [remainder, hself]

theorem remainder_concat (before : List (UpstreamInfos α)) (v : UpstreamInfos α)
    (cs : SourceState α × Interface α) :
    remainder get_if_name gaddr (before ++ [v]) cs =
      (tmp_sstate get_if_name gaddr v (remainder get_if_name gaddr before cs), cs.2) := by
  simp only [remainder, tmp_sstate, OrdSet.filter_filter]
  congr 3
  funext s
  simp [passed_on, downstream_out, upstream_in]

-- A state reaches an upstream further back only with a source left in it.
theorem mem_carried_iff (before : List (UpstreamInfos α)) (init : StateList α)
    (cs' : SourceState α × Interface α) :
    cs' ∈ carried get_if_name gaddr before init ↔
      ∃ cs ∈ init, cs' = remainder get_if_name gaddr before cs ∧
        (before ≠ [] → ∃ a, a ∈ cs'.1.m_source_list) := by
  induction before using List.reverseRecOn generalizing cs' with
  | nil => simp [carried, remainder_nil]
  | append_singleton before v ih =>
    have hstep : carried get_if_name gaddr (before ++ [v]) init =
        tmp_sstate_list get_if_name gaddr v (carried get_if_name gaddr before init) := by
      simp [carried]
    simp only [hstep, tmp_sstate_list, List.mem_filter, List.mem_map, Bool.not_eq_true',
      OrdSet.isEmpty_eq_false_iff]
    constructor
    · rintro ⟨⟨cs₁, hcs₁, rfl⟩, hne⟩
      obtain ⟨cs, hcs, rfl, -⟩ := (ih cs₁).mp hcs₁
      exact ⟨cs, hcs, (remainder_concat get_if_name gaddr before v cs).symm, fun _ => hne⟩
    · rintro ⟨cs, hcs, rfl, hne⟩
      have hne := hne (by simp)
      rw [remainder_concat] at hne ⊢
      refine ⟨⟨remainder get_if_name gaddr before cs, (ih _).mpr ⟨cs, hcs, rfl, fun _ => ?_⟩, rfl⟩,
        hne⟩
      obtain ⟨a, ha⟩ := hne
      have htmp : a ∈ (remainder get_if_name gaddr before cs).1.m_source_list.filter _ := ha
      rw [← OrdSet.isSome_find, OrdSet.find_filter] at htmp
      obtain ⟨s, hs⟩ := Option.isSome_iff_exists.mp htmp
      exact ⟨a, OrdSet.mem_of_find (Option.filter_eq_some_iff.mp hs).1⟩

end Carry

section Assignment

variable (get_if_name : ℕ → String) (gaddr : α)

-- Both filters between a downstream and an upstream let the source through.
def permitted (d : DownstreamInfos α) (u : UpstreamInfos α) (saddr : α) : Prop :=
  d.m_interface.match_output_filter (get_if_name u.m_if_index) gaddr saddr = true ∧
    u.m_interface.match_input_filter (get_if_name u.m_if_index) gaddr saddr = true

def first_permitted (pi : ProxyInstance α) (d : DownstreamInfos α) (u : UpstreamInfos α)
    (saddr : α) : Prop :=
  permitted get_if_name gaddr d u saddr ∧
    ∀ v ∈ pi.m_upstreams.elems, v.m_priority < u.m_priority →
      ¬ permitted get_if_name gaddr d v saddr

-- The answer of a downstream's querier.
def DownstreamInfos.infos (d : DownstreamInfos α) : McFilter × SourceList α :=
  get_group_membership_infos d.m_querier.m_db gaddr

variable (pi : ProxyInstance α) (routing_data : SimpleRoutingData α)

-- The upstreams in front of one are those with a smaller priority value.
theorem mem_before_iff {before after : List (UpstreamInfos α)} {u : UpstreamInfos α}
    (hups : pi.m_upstreams.elems = before ++ u :: after) (v : UpstreamInfos α) :
    v ∈ before ↔ v ∈ pi.m_upstreams.elems ∧ v.m_priority < u.m_priority := by
  have hsorted := pi.m_upstreams.sorted
  rw [hups] at hsorted ⊢
  obtain ⟨-, hafter, hbefore⟩ := List.pairwise_append.mp hsorted
  constructor
  · exact fun hv => ⟨List.mem_append_left _ hv, hbefore v hv u List.mem_cons_self⟩
  · rintro ⟨hv, hlt⟩
    rcases List.mem_append.mp hv with hv | hv
    · exact hv
    · rcases List.mem_cons.mp hv with rfl | hv
      · exact absurd hlt (lt_irrefl _)
      · exact absurd hlt ((List.pairwise_cons.mp hafter).1 v hv).asymm

theorem mem_computed_first_iff (u : UpstreamInfos α) (sstate : SourceState α) :
    (u, sstate) ∈ computed_memberships get_if_name gaddr pi routing_data RMT_FIRST ↔
      ∃ before after, pi.m_upstreams.elems = before ++ u :: after ∧
        sstate = merge_all ((carried get_if_name gaddr before (init_sstate_list pi gaddr)).map
          (kept_sstate get_if_name gaddr u)) := by
  rw [computed_memberships_eq get_if_name gaddr pi routing_data (Or.inl rfl),
    interface_memberships, if_pos rfl]
  exact process_upstream_in_first_iff get_if_name gaddr _ _ u sstate

-- What an upstream keeps of a downstream's state that reaches it.
def share (before : List (UpstreamInfos α)) (u : UpstreamInfos α) (d : DownstreamInfos α) :
    SourceState α :=
  kept_sstate get_if_name gaddr u
    (remainder get_if_name gaddr before (.of_infos (d.infos gaddr), d.m_interface))

theorem mem_share_iff (before : List (UpstreamInfos α)) (u : UpstreamInfos α)
    (d : DownstreamInfos α) (saddr : α) :
    saddr ∈ (share get_if_name gaddr before u d).m_source_list ↔
      saddr ∈ (d.infos gaddr).2 ∧ passed_on get_if_name gaddr before d.m_interface saddr = true ∧
        permitted get_if_name gaddr d u saddr := by
  have hmem := OrdSet.mem_filter_key (d.infos gaddr).2 (fun a =>
    passed_on get_if_name gaddr before d.m_interface a &&
      (d.m_interface.match_output_filter (get_if_name u.m_if_index) gaddr a &&
        u.m_interface.match_input_filter (get_if_name u.m_if_index) gaddr a)) saddr
  simp only [share, kept_sstate, remainder, OrdSet.filter_filter]
  rw [permitted, ← Bool.and_eq_true, ← Bool.and_eq_true]
  exact hmem

-- The sources an upstream asks for: some downstream's share of them that has reached it.
theorem mem_accept_first_iff (before : List (UpstreamInfos α)) (u : UpstreamInfos α) (saddr : α) :
    saddr ∈ (merge_all ((carried get_if_name gaddr before (init_sstate_list pi gaddr)).map
        (kept_sstate get_if_name gaddr u))).accept ↔
      ∃ d ∈ pi.m_downstreams.elems,
        (before ≠ [] → ∃ a ∈ (d.2.infos gaddr).2,
          passed_on get_if_name gaddr before d.2.m_interface a = true) ∧
        saddr ∈ (share get_if_name gaddr before u d.2).accept := by
  have hleft : ∀ d : DownstreamInfos α, (∃ a, a ∈ (remainder get_if_name gaddr before
      (.of_infos (d.infos gaddr), d.m_interface)).1.m_source_list) ↔
      ∃ a ∈ (d.infos gaddr).2, passed_on get_if_name gaddr before d.m_interface a = true :=
    fun d => exists_congr fun a => OrdSet.mem_filter_key (d.infos gaddr).2
      (passed_on get_if_name gaddr before d.m_interface) a
  rw [mem_accept_merge_all]
  constructor
  · rintro ⟨sstate, hst, hs⟩
    obtain ⟨cs', hcs', rfl⟩ := List.mem_map.mp hst
    obtain ⟨cs, hcs, rfl, hne⟩ := (mem_carried_iff ..).mp hcs'
    obtain ⟨d, hd, rfl⟩ := List.mem_map.mp hcs
    exact ⟨d, hd, fun h => (hleft d.2).mp (hne h), hs⟩
  · rintro ⟨d, hd, hne, hs⟩
    refine ⟨_, List.mem_map_of_mem ((mem_carried_iff ..).mpr ⟨_, List.mem_map_of_mem hd, rfl, ?_⟩),
      hs⟩
    exact fun h => (hleft d.2).mpr (hne h)

theorem passed_on_iff (before : List (UpstreamInfos α)) (d : DownstreamInfos α) (saddr : α) :
    passed_on get_if_name gaddr before d.m_interface saddr = true ↔
      ∀ v ∈ before,
        d.m_interface.match_output_filter (get_if_name v.m_if_index) gaddr saddr = true ∧
          ¬ permitted get_if_name gaddr d v saddr := by
  simp only [passed_on, List.all_eq_true, Bool.and_eq_true, Bool.not_eq_true', permitted]
  refine forall₂_congr fun v _ => and_congr_right fun hout => ?_
  simp [hout]

-- No downstream filter has stopped the source on its way to its first permitted upstream.
def reaches (d : DownstreamInfos α) (u : UpstreamInfos α) (saddr : α) : Prop :=
  first_permitted get_if_name gaddr pi d u saddr ∧
    ∀ v ∈ pi.m_upstreams.elems, v.m_priority < u.m_priority →
      d.m_interface.match_output_filter (get_if_name v.m_if_index) gaddr saddr = true

theorem reaches_iff {before after : List (UpstreamInfos α)} {u : UpstreamInfos α}
    (hups : pi.m_upstreams.elems = before ++ u :: after) (d : DownstreamInfos α) (saddr : α) :
    reaches get_if_name gaddr pi d u saddr ↔
      passed_on get_if_name gaddr before d.m_interface saddr = true ∧
        permitted get_if_name gaddr d u saddr := by
  rw [passed_on_iff]
  constructor
  · rintro ⟨⟨hperm, hfirst⟩, hout⟩
    refine ⟨fun v hv => ?_, hperm⟩
    obtain ⟨hv, hlt⟩ := (mem_before_iff pi hups v).mp hv
    exact ⟨hout v hv hlt, hfirst v hv hlt⟩
  · rintro ⟨hbefore, hperm⟩
    refine ⟨⟨hperm, fun v hv hlt => ?_⟩, fun v hv hlt => ?_⟩
    · exact (hbefore v ((mem_before_iff pi hups v).mpr ⟨hv, hlt⟩)).2
    · exact (hbefore v ((mem_before_iff pi hups v).mpr ⟨hv, hlt⟩)).1

theorem merge_all_include {states : List (SourceState α)}
    (h : ∀ sstate ∈ states, sstate.m_mc_filter = INCLUDE_MODE) :
    (merge_all states).m_mc_filter = INCLUDE_MODE := by
  have hfold : ∀ init : SourceState α, init.m_mc_filter = INCLUDE_MODE →
      (states.foldl merge_membership_infos init).m_mc_filter = INCLUDE_MODE := by
    induction states with
    | nil => exact fun init hinit => hinit
    | cons sstate states ih =>
      intro init hinit
      refine ih (fun st hst => h st (List.mem_cons_of_mem _ hst)) _ ?_
      simp [merge_membership_infos, hinit, h sstate List.mem_cons_self]
  exact hfold {} rfl

theorem computed_first_of_include
    (hinc : ∀ d ∈ pi.m_downstreams.elems, (d.2.infos gaddr).1 = INCLUDE_MODE)
    {u : UpstreamInfos α} {sstate : SourceState α}
    (h : (u, sstate) ∈ computed_memberships get_if_name gaddr pi routing_data RMT_FIRST) :
    sstate.m_mc_filter = INCLUDE_MODE ∧
      ∀ saddr, saddr ∈ sstate.m_source_list ↔ ∃ d ∈ pi.m_downstreams.elems,
        saddr ∈ (d.2.infos gaddr).2 ∧ reaches get_if_name gaddr pi d.2 u saddr := by
  obtain ⟨before, after, hups, rfl⟩ := (mem_computed_first_iff ..).mp h
  have hmode : (merge_all ((carried get_if_name gaddr before (init_sstate_list pi gaddr)).map
      (kept_sstate get_if_name gaddr u))).m_mc_filter = INCLUDE_MODE := by
    refine merge_all_include fun sstate hst => ?_
    obtain ⟨cs', hcs', rfl⟩ := List.mem_map.mp hst
    obtain ⟨cs, hcs, rfl, -⟩ := (mem_carried_iff ..).mp hcs'
    obtain ⟨d, hd, rfl⟩ := List.mem_map.mp hcs
    exact hinc d hd
  refine ⟨hmode, fun saddr => ?_⟩
  rw [← mem_accept_of_include hmode, mem_accept_first_iff]
  refine exists_congr fun d => and_congr_right fun hd => ?_
  have hshare : (share get_if_name gaddr before u d.2).m_mc_filter = INCLUDE_MODE := hinc d hd
  rw [mem_accept_of_include hshare, mem_share_iff, reaches_iff get_if_name gaddr pi hups]
  constructor
  · exact fun hs => hs.2
  · exact fun hs => ⟨fun _ => ⟨saddr, hs.1, hs.2.1⟩, hs⟩

-- The first permitted upstream gets a source unless every downstream that asks for it through
-- that upstream has a filter against it for an upstream in front.
theorem first_rule_assigns_iff
    (hinc : ∀ d ∈ pi.m_downstreams.elems, (d.2.infos gaddr).1 = INCLUDE_MODE) :
    (∀ u sstate,
      (u, sstate) ∈ computed_memberships get_if_name gaddr pi routing_data RMT_FIRST →
        sstate.m_mc_filter = INCLUDE_MODE ∧
        ∀ saddr, saddr ∈ sstate.m_source_list ↔ ∃ d ∈ pi.m_downstreams.elems,
          saddr ∈ (d.2.infos gaddr).2 ∧ first_permitted get_if_name gaddr pi d.2 u saddr) ↔
    ∀ d ∈ pi.m_downstreams.elems, ∀ u ∈ pi.m_upstreams.elems, ∀ saddr ∈ (d.2.infos gaddr).2,
      first_permitted get_if_name gaddr pi d.2 u saddr →
        ∃ d' ∈ pi.m_downstreams.elems,
          saddr ∈ (d'.2.infos gaddr).2 ∧ reaches get_if_name gaddr pi d'.2 u saddr := by
  constructor
  · intro h d hd u hu saddr hs hfirst
    obtain ⟨before, after, hups⟩ := List.append_of_mem hu
    have hmem := (mem_computed_first_iff get_if_name gaddr pi routing_data u _).mpr
      ⟨before, after, hups, rfl⟩
    have hlisted := ((h u _ hmem).2 saddr).mpr ⟨d, hd, hs, hfirst⟩
    exact ((computed_first_of_include get_if_name gaddr pi routing_data hinc hmem).2 saddr).mp
      hlisted
  · intro h u sstate hmem
    obtain ⟨hmode, hlist⟩ :=
      computed_first_of_include get_if_name gaddr pi routing_data hinc hmem
    refine ⟨hmode, fun saddr => (hlist saddr).trans ⟨?_, ?_⟩⟩
    · rintro ⟨d, hd, hs, hreach⟩
      exact ⟨d, hd, hs, hreach.1⟩
    · rintro ⟨d, hd, hs, hfirst⟩
      obtain ⟨before, after, hups, -⟩ := (mem_computed_first_iff ..).mp hmem
      have hu : u ∈ pi.m_upstreams.elems := by simp [hups]
      exact h d hd u hu saddr hs hfirst

end Assignment

section ExampleA

-- A whitelist table with one entry for an interface and any pair of addresses.
def whitelist (name : String) : InterfaceFilter α := fun input_if_name _ _ => input_if_name == name

def example_a_names : ℕ → String
  | 1 => "a2"
  | 2 => "b2"
  | 10 => "a1"
  | _ => "b1"

-- The reference configuration `pinstance A: a1 b1 ==> a2 b2` whose filters are to keep a1 with
-- a2 and b1 with b2.
def example_a (a2 b2 : Querier Ipv4Addr) : ProxyInstance Ipv4Addr :=
  ⟨OrdSet.insertAll ∅ [⟨10, { m_output_filter := some (whitelist "a2") }, 0⟩,
      ⟨11, { m_output_filter := some (whitelist "b2") }, 1⟩],
    OrdSet.insertAll ∅ [(1, ⟨a2, { m_output_filter := some (whitelist "a1") }⟩),
      (2, ⟨b2, { m_output_filter := some (whitelist "b1") }⟩)]⟩

-- Both hosts ask for the source. The filter of b2 throws its request away while a1 is
-- looked at, and nothing of it is left for b1, the only upstream it may go to.
theorem example_a_loses_source : ∃ q : Querier Ipv4Addr,
    view (get_group_membership_infos q.m_db 7) = (INCLUDE_MODE, [3]) ∧
      first_permitted example_a_names 7 (example_a q q)
        ⟨q, { m_output_filter := some (whitelist "b1") }⟩
        ⟨11, { m_output_filter := some (whitelist "b2") }, 1⟩ 3 ∧
      computed_views example_a_names 7 (example_a q q) ⟨∅⟩ RMT_FIRST =
        [(10, INCLUDE_MODE, [3]), (11, INCLUDE_MODE, [])] := by
  obtain ⟨q, -, hq⟩ := Machine.exists_run_of_exec (querier Ipv4Addr default_config IGMPv3)
    [.record ⟨ALLOW_NEW_SOURCES, 7, sources [3], IGMPv3⟩]
    (fun q => view (get_group_membership_infos q.m_db 7) = (INCLUDE_MODE, [3]) ∧
      computed_views example_a_names 7 (example_a q q) ⟨∅⟩ RMT_FIRST =
        [(10, INCLUDE_MODE, [3]), (11, INCLUDE_MODE, [])]) rfl
  rw [decide_eq_true_eq] at hq
  refine ⟨q, hq.1, ⟨⟨rfl, rfl⟩, fun v hv hlt hperm => ?_⟩, hq.2⟩
  -- The only upstream in front of b1 is a1.
  rcases List.mem_cons.mp hv with rfl | hv
  · have hname : ("a1" == "b1") = true := hperm.1
    exact absurd hname (by decide)
  · rw [List.mem_singleton.mp hv] at hlt
    exact absurd hlt (lt_irrefl 1)

-- The upstream a1 takes nothing, no other filter is set.
def closed_a1 (a2 : Querier Ipv4Addr) : ProxyInstance Ipv4Addr :=
  ⟨OrdSet.insertAll ∅ [⟨10, { m_input_filter := some fun _ _ _ => false }, 0⟩, ⟨11, {}, 1⟩],
    OrdSet.insertAll ∅ [(1, ⟨a2, {}⟩)]⟩

-- With the filter on the upstream instead, the source goes to the next one.
theorem first_rule_assigns_to_second : ∃ q : Querier Ipv4Addr,
    view (get_group_membership_infos q.m_db 7) = (INCLUDE_MODE, [3]) ∧
      ∀ u sstate,
        (u, sstate) ∈ computed_memberships example_a_names 7 (closed_a1 q) ⟨∅⟩ RMT_FIRST →
          sstate.m_mc_filter = INCLUDE_MODE ∧
          ∀ saddr, saddr ∈ sstate.m_source_list ↔ ∃ d ∈ (closed_a1 q).m_downstreams.elems,
            saddr ∈ (d.2.infos 7).2 ∧
              first_permitted example_a_names 7 (closed_a1 q) d.2 u saddr := by
  obtain ⟨q, -, hq⟩ := Machine.exists_run_of_exec (querier Ipv4Addr default_config IGMPv3)
    [.record ⟨ALLOW_NEW_SOURCES, 7, sources [3], IGMPv3⟩]
    (fun q => view (get_group_membership_infos q.m_db 7) = (INCLUDE_MODE, [3])) rfl
  rw [decide_eq_true_eq] at hq
  refine ⟨q, hq, (first_rule_assigns_iff example_a_names 7 _ ⟨∅⟩ ?_).mpr ?_⟩
  · exact List.forall_mem_singleton.mpr (congrArg Prod.fst hq)
  · intro d hd u hu saddr hs hfirst
    refine ⟨d, hd, hs, hfirst, fun v hv hlt => ?_⟩
    rw [List.mem_singleton.mp hd]
    rfl

end ExampleA

section Bypass

variable (get_if_name : ℕ → String) (gaddr : α) (pi : ProxyInstance α)
  (routing_data : SimpleRoutingData α)

theorem mem_accept_share_of_include {before : List (UpstreamInfos α)} {u : UpstreamInfos α}
    {d : DownstreamInfos α} (hmode : (d.infos gaddr).1 = INCLUDE_MODE) {saddr : α}
    (hs : saddr ∈ (share get_if_name gaddr before u d).accept) :
    saddr ∈ accept (d.infos gaddr) ∧ permitted get_if_name gaddr d u saddr := by
  have hshare : (share get_if_name gaddr before u d).m_mc_filter = INCLUDE_MODE := hmode
  rw [mem_accept_of_include hshare, mem_share_iff] at hs
  rw [← accept_of_infos]
  exact ⟨(mem_accept_of_include hmode saddr).mpr hs.1, hs.2.2⟩

-- What is filtered out of an EXCLUDE list is asked for; the filters are kept only where they
-- take nothing out of such a list that they should not, and let the rest through.
theorem first_rule_respects_filters_iff :
    (∀ u sstate,
      (u, sstate) ∈ computed_memberships get_if_name gaddr pi routing_data RMT_FIRST →
        ∀ saddr ∈ sstate.accept, ∃ d ∈ pi.m_downstreams.elems,
          saddr ∈ accept (d.2.infos gaddr) ∧ permitted get_if_name gaddr d.2 u saddr) ↔
    ∀ u, pi.m_upstreams.elems.head? = some u →
      ∀ d ∈ pi.m_downstreams.elems, (d.2.infos gaddr).1 = EXCLUDE_MODE → ∀ saddr,
        u.m_interface.match_input_filter (get_if_name u.m_if_index) gaddr saddr = true ∧
        (saddr ∈ (d.2.infos gaddr).2 ∧
            d.2.m_interface.match_output_filter (get_if_name u.m_if_index) gaddr saddr = true ∨
          ∃ d' ∈ pi.m_downstreams.elems, saddr ∈ accept (d'.2.infos gaddr) ∧
            d'.2.m_interface.match_output_filter (get_if_name u.m_if_index) gaddr saddr =
              true) := by
  constructor
  · intro h u hhead d hd hmode saddr
    obtain ⟨after, hups⟩ := List.head?_eq_some_iff.mp hhead
    have hmem := (mem_computed_first_iff get_if_name gaddr pi routing_data u _).mpr
      ⟨[], after, hups, rfl⟩
    have hshare : (share get_if_name gaddr [] u d.2).m_mc_filter = EXCLUDE_MODE := hmode
    by_cases hs : saddr ∈ (share get_if_name gaddr [] u d.2).m_source_list
    · obtain ⟨hs, -, hperm⟩ := (mem_share_iff ..).mp hs
      exact ⟨hperm.2, Or.inl ⟨hs, hperm.1⟩⟩
    · have haccept := (mem_accept_first_iff get_if_name gaddr pi [] u saddr).mpr
        ⟨d, hd, fun hne => absurd rfl hne, (mem_accept_of_exclude hshare saddr).mpr hs⟩
      obtain ⟨d', hd', hs', hperm⟩ := h u _ hmem saddr haccept
      exact ⟨hperm.2, Or.inr ⟨d', hd', hs', hperm.1⟩⟩
  · intro h u sstate hmem saddr hs
    obtain ⟨before, after, hups, rfl⟩ := (mem_computed_first_iff ..).mp hmem
    obtain ⟨d, hd, hleft, hs⟩ := (mem_accept_first_iff ..).mp hs
    cases hmode : (d.2.infos gaddr).1 with
    | INCLUDE_MODE => exact ⟨d, hd, mem_accept_share_of_include get_if_name gaddr hmode hs⟩
    | EXCLUDE_MODE =>
      have hshare : (share get_if_name gaddr before u d.2).m_mc_filter = EXCLUDE_MODE := hmode
      cases before with
      | nil =>
        obtain ⟨hin, ⟨hlisted, hout⟩ | ⟨d', hd', hs', hout⟩⟩ :=
          h u (by rw [hups]; rfl) d hd hmode saddr
        · rw [mem_accept_of_exclude hshare] at hs
          exact absurd ((mem_share_iff ..).mpr ⟨hlisted, rfl, hout, hin⟩) hs
        · exact ⟨d', hd', hs', hout, hin⟩
      | cons v before =>
        -- The first upstream takes every source, so nothing was passed on.
        obtain ⟨a, -, ha⟩ := hleft (List.cons_ne_nil _ _)
        obtain ⟨hout, hnot⟩ := (passed_on_iff ..).mp ha v List.mem_cons_self
        have hin := (h v (by rw [hups]; rfl) d hd hmode a).1
        exact absurd ⟨hout, hin⟩ hnot

-- The blacklisted source is taken out of the EXCLUDE list, so that it is asked for although
-- the only downstream excludes it and its filter does not let it through.
theorem blacklist_widens_exclude : ∃ q : Querier Ipv4Addr,
    view (get_group_membership_infos q.m_db 7) = (EXCLUDE_MODE, [9]) ∧
      computed_views example_a_names 7
          ⟨OrdSet.insertAll ∅ [⟨10, {}, 0⟩],
            OrdSet.insertAll ∅ [(1, ⟨q, { m_output_filter := some fun _ _ saddr => saddr != 9 }⟩)]⟩
          ⟨∅⟩ RMT_FIRST = [(10, EXCLUDE_MODE, [])] := by
  obtain ⟨q, -, hq⟩ := Machine.exists_run_of_exec (querier Ipv4Addr default_config IGMPv3)
    [.record ⟨MODE_IS_EXCLUDE, 7, sources [9], IGMPv3⟩]
    (fun q => view (get_group_membership_infos q.m_db 7) = (EXCLUDE_MODE, [9]) ∧
      computed_views example_a_names 7
          ⟨OrdSet.insertAll ∅ [⟨10, {}, 0⟩],
            OrdSet.insertAll ∅ [(1, ⟨q, { m_output_filter := some fun _ _ saddr => saddr != 9 }⟩)]⟩
          ⟨∅⟩ RMT_FIRST = [(10, EXCLUDE_MODE, [])]) rfl
  rw [decide_eq_true_eq] at hq
  exact ⟨q, hq⟩

end Bypass

end Mcproxy
