import Mcproxy.Routing.First

namespace Mcproxy

open Container Transition McFilter McastAddrRecordType GroupMemProtocol RbRuleMatchingType

variable {α : Type*} [LinearOrder α]

section Unfiltered

variable (pi : ProxyInstance α) (available_sources : OrdMap α ℕ)

-- The source has an input interface.
def recorded (saddr : α) : Bool := (OrdMap.lookup available_sources saddr).isSome

-- If it has one, that is an upstream, though not necessarily the current one.
def subscribed (saddr : α) : Bool := (OrdMap.lookup available_sources saddr).all pi.is_upstream

theorem subscribed_iff (saddr : α) : subscribed pi available_sources saddr = true ↔
    ∀ i, OrdMap.lookup available_sources saddr = some i → pi.is_upstream i = true := by
  rw [subscribed]
  cases OrdMap.lookup available_sources saddr <;> simp

theorem not_recorded_iff (saddr : α) : (!recorded available_sources saddr) = true ↔
    ∀ i, OrdMap.lookup available_sources saddr ≠ some i := by
  rw [recorded]
  cases OrdMap.lookup available_sources saddr <;> simp

theorem subscribed_of_not_recorded {saddr : α} (h : recorded available_sources saddr = false) :
    subscribed pi available_sources saddr = true := by
  rw [recorded, Option.isSome_eq_false_iff, Option.isNone_iff_eq_none] at h
  rw [subscribed, h]
  rfl

-- What the current upstream gets of a state.
def taken (cs : SourceState α × Interface α) : SourceState α :=
  { cs.1 with m_source_list := cs.1.m_source_list.filter fun s =>
      subscribed pi available_sources s.saddr }

-- What the upstreams that follow get to see of it.
def left_over (cs : SourceState α × Interface α) : SourceState α × Interface α :=
  ({ cs.1 with m_source_list := cs.1.m_source_list.filter fun s =>
      !recorded available_sources s.saddr }, cs.2)

def has_sources (sstate : SourceState α) : Bool := !sstate.m_source_list.isEmpty

theorem has_sources_iff {sstate : SourceState α} :
    has_sources sstate = true ↔ ∃ a, a ∈ sstate.m_source_list := by
  rw [has_sources, Bool.not_eq_true', OrdSet.isEmpty_eq_false_iff]

theorem ite_isEmpty {β : Type*} (sstate : SourceState α) (x y : β) :
    (if sstate.m_source_list.isEmpty then x else y) = if has_sources sstate then y else x := by
  rw [has_sources]
  cases sstate.m_source_list.isEmpty <;> rfl

variable (get_if_name : ℕ → String) (gaddr : α) {upstr_e : UpstreamInfos α}
  (hin : upstr_e.m_interface.m_input_filter = none)

include hin

theorem mutex_source_of_no_filter {i : Interface α} (hout : i.m_output_filter = none)
    (w : MutexWalk α) (s : Source α) :
    mutex_source get_if_name pi available_sources gaddr upstr_e i w s =
      ⟨if recorded available_sources s.saddr then w.m_source_list.erase s.saddr
          else w.m_source_list,
        if subscribed pi available_sources s.saddr then w.tmp.insert s else w.tmp,
        if recorded available_sources s.saddr then clean_data s.saddr w.m_data else w.m_data⟩ := by
  have hpass : downstream_out get_if_name gaddr upstr_e i s = true ∧
      upstream_in get_if_name gaddr upstr_e s = true := by
    simp [downstream_out, upstream_in, Interface.match_output_filter,
      Interface.match_input_filter, hout, hin, match_filter]
  rw [mutex_source, hpass.1, hpass.2]
  cases hs : OrdMap.lookup available_sources s.saddr with
  | none => simp [recorded, subscribed, hs]
  | some if_index => simp [recorded, subscribed, hs]

theorem mutex_walk_of_no_filter {i : Interface α} (hout : i.m_output_filter = none)
    (l : List (Source α)) (w : MutexWalk α) :
    l.foldl (mutex_source get_if_name pi available_sources gaddr upstr_e i) w =
      ⟨w.m_source_list.eraseAll
          ((l.filter fun s => recorded available_sources s.saddr).map Source.saddr),
        w.tmp.insertAll (l.filter fun s => subscribed pi available_sources s.saddr),
        ((l.filter fun s => recorded available_sources s.saddr).map Source.saddr).foldl
          (fun m_data saddr => clean_data saddr m_data) w.m_data⟩ := by
  induction l generalizing w with
  | nil => rfl
  | cons s l ih =>
    rw [List.foldl_cons, ih, mutex_source_of_no_filter pi available_sources get_if_name gaddr hin
      hout]
    by_cases hrec : recorded available_sources s.saddr = true <;>
      by_cases hsub : subscribed pi available_sources s.saddr = true <;>
        simp [hrec, hsub, OrdSet.eraseAll, OrdSet.insertAll]

omit hin in
theorem eraseAll_recorded (l : SourceList α) :
    l.eraseAll ((l.elems.filter fun s => recorded available_sources s.saddr).map Source.saddr) =
      l.filter fun s => !recorded available_sources s.saddr := by
  apply OrdSet.ext_find
  intro a
  rw [OrdSet.find_eraseAll, OrdSet.find_filter]
  cases hf : l.find a with
  | none => simp
  | some s =>
    obtain ⟨hs, rfl⟩ := OrdSet.find_eq_some_iff.mp hf
    have hmem : s.saddr ∈ (l.elems.filter fun s =>
        recorded available_sources s.saddr).map Source.saddr ↔
          recorded available_sources s.saddr = true := by
      rw [List.mem_map]
      constructor
      · rintro ⟨s', hs', heq⟩
        rw [← heq]
        exact (List.mem_filter.mp hs').2
      · exact fun hrec => ⟨s, List.mem_filter.mpr ⟨hs, hrec⟩, rfl⟩
    by_cases hrec : recorded available_sources s.saddr = true
    · rw [if_pos (hmem.mpr hrec)]
      simp [Option.filter, hrec]
    · rw [if_neg (mt hmem.mp hrec)]
      simp [Option.filter, hrec]

-- One upstream. The states of the upstreams in front lose every source met that is recorded.
theorem mutex_states_of_no_filter {ref : StateList α}
    (hout : ∀ cs ∈ ref, cs.2.m_output_filter = none) (m_data : MembershipData α) :
    mutex_states get_if_name pi available_sources gaddr upstr_e ref m_data =
      ((ref.map (left_over available_sources)).filter fun cs => has_sources cs.1,
        (ref.map (taken pi available_sources)).filter has_sources,
        (ref.flatMap fun cs => (cs.1.m_source_list.elems.filter fun s =>
          recorded available_sources s.saddr).map Source.saddr).foldl
            (fun m_data saddr => clean_data saddr m_data) m_data) := by
  induction ref generalizing m_data with
  | nil => rfl
  | cons cs rest ih =>
    have htmp : OrdSet.insertAll ∅ (cs.1.m_source_list.elems.filter fun s =>
        subscribed pi available_sources s.saddr) = (taken pi available_sources cs).m_source_list :=
      OrdSet.insertAll_elems (taken pi available_sources cs).m_source_list
    have hcs := mutex_walk_of_no_filter pi available_sources get_if_name gaddr hin
      (hout cs List.mem_cons_self) cs.1.m_source_list.elems ⟨cs.1.m_source_list, ∅, m_data⟩
    rw [eraseAll_recorded, htmp] at hcs
    have ih := ih fun cs' hcs' => hout cs' (List.mem_cons_of_mem _ hcs')
    simp only [mutex_states, hcs, ih, List.map_cons, List.filter_cons, List.flatMap_cons,
      List.foldl_append]
    refine Prod.ext ?_ (Prod.ext ?_ rfl)
    · exact ite_isEmpty (left_over available_sources cs).1 _ _
    · exact ite_isEmpty (taken pi available_sources cs) _ _

-- Nothing in the states is recorded.
def unrecorded (ref : StateList α) : Prop :=
  ∀ cs ∈ ref, ∀ s ∈ cs.1.m_source_list.elems, recorded available_sources s.saddr = false

theorem mutex_states_of_unrecorded {ref : StateList α}
    (hout : ∀ cs ∈ ref, cs.2.m_output_filter = none) (href : unrecorded available_sources ref)
    (m_data : MembershipData α) :
    mutex_states get_if_name pi available_sources gaddr upstr_e ref m_data =
      (ref.filter fun cs => has_sources cs.1, (ref.map Prod.fst).filter has_sources, m_data) := by
  have hleft : ref.map (left_over available_sources) = ref := by
    refine (List.map_congr_left fun cs hcs => ?_).trans (List.map_id ref)
    have hself : cs.1.m_source_list.filter (fun s => !recorded available_sources s.saddr) =
        cs.1.m_source_list := OrdSet.filter_eq_self fun s hs => by rw [href cs hcs s hs]; rfl
    rw [left_over, hself]
    rfl
  have htaken : ref.map (taken pi available_sources) = ref.map Prod.fst := by
    refine List.map_congr_left fun cs hcs => ?_
    have hself : cs.1.m_source_list.filter (fun s => subscribed pi available_sources s.saddr) =
        cs.1.m_source_list :=
      OrdSet.filter_eq_self fun s hs =>
        subscribed_of_not_recorded pi available_sources (href cs hcs s hs)
    rw [taken, hself]
  have hnone : (ref.flatMap fun cs => (cs.1.m_source_list.elems.filter fun s =>
      recorded available_sources s.saddr).map Source.saddr) = [] := by
    refine List.flatMap_eq_nil_iff.mpr fun cs hcs => ?_
    refine List.map_eq_nil_iff.mpr (List.filter_eq_nil_iff.mpr fun s hs => ?_)
    rw [href cs hcs s hs]
    exact Bool.false_ne_true
  rw [mutex_states_of_no_filter pi available_sources get_if_name gaddr hin hout, hleft, htaken,
    hnone, List.foldl_nil]

omit hin in
-- Without recorded sources every upstream gets the same states.
theorem process_upstream_in_mutex_of_unrecorded {upstreams : List (UpstreamInfos α)}
    (hin : ∀ u ∈ upstreams, u.m_interface.m_input_filter = none) {ref : StateList α}
    (hout : ∀ cs ∈ ref, cs.2.m_output_filter = none) (href : unrecorded available_sources ref)
    (m_data : MembershipData α) :
    process_upstream_in_mutex get_if_name pi available_sources gaddr upstreams ref m_data =
      m_data ++ upstreams.map fun u => (u.m_if_index, (ref.map Prod.fst).filter has_sources) := by
  induction upstreams generalizing ref m_data with
  | nil => simp [process_upstream_in_mutex]
  | cons u rest ih =>
    have hsub : ∀ cs ∈ ref.filter fun cs => has_sources cs.1, cs ∈ ref :=
      fun cs hcs => (List.mem_filter.mp hcs).1
    have hrest := ih (fun v hv => hin v (List.mem_cons_of_mem _ hv))
      (fun cs hcs => hout cs (hsub cs hcs)) (fun cs hcs => href cs (hsub cs hcs))
      (m_data ++ [(u.m_if_index, (ref.map Prod.fst).filter has_sources)])
    have hfilter : ((ref.filter fun cs => has_sources cs.1).map Prod.fst).filter has_sources =
        (ref.map Prod.fst).filter has_sources := by
      rw [List.filter_map, List.filter_map, List.filter_filter]
      simp [Function.comp_def]
    rw [process_upstream_in_mutex, mutex_states_of_unrecorded pi available_sources get_if_name
      gaddr (hin u List.mem_cons_self) hout href, hrest, hfilter]
    simp

omit hin in
theorem left_over_unrecorded (ref : StateList α) :
    unrecorded available_sources
      ((ref.map (left_over available_sources)).filter fun cs => has_sources cs.1) := by
  intro cs hcs s hs
  obtain ⟨cs, -, rfl⟩ := List.mem_map.mp (List.mem_filter.mp hcs).1
  simpa using (List.mem_filter.mp hs).2

omit hin in
-- The first upstream meets the recorded sources, and they are gone for the others.
theorem process_upstream_in_mutex_of_no_filter {u : UpstreamInfos α}
    {rest : List (UpstreamInfos α)}
    (hin : ∀ v ∈ u :: rest, v.m_interface.m_input_filter = none) {ref : StateList α}
    (hout : ∀ cs ∈ ref, cs.2.m_output_filter = none) :
    process_upstream_in_mutex get_if_name pi available_sources gaddr (u :: rest) ref [] =
      (u.m_if_index, (ref.map (taken pi available_sources)).filter has_sources) ::
        rest.map fun v => (v.m_if_index,
          (ref.map fun cs => (left_over available_sources cs).1).filter has_sources) := by
  have hclean : ∀ l : List α,
      l.foldl (fun m_data saddr => clean_data saddr m_data) ([] : MembershipData α) = [] := by
    intro l
    induction l with
    | nil => rfl
    | cons a l ih => exact ih
  have hleft : ∀ cs ∈ (ref.map (left_over available_sources)).filter fun cs => has_sources cs.1,
      cs.2.m_output_filter = none := by
    intro cs hcs
    obtain ⟨cs, hmem, rfl⟩ := List.mem_map.mp (List.mem_filter.mp hcs).1
    exact hout cs hmem
  rw [process_upstream_in_mutex, mutex_states_of_no_filter pi available_sources get_if_name gaddr
    (hin u List.mem_cons_self) hout, hclean, process_upstream_in_mutex_of_unrecorded pi
    available_sources get_if_name gaddr (fun v hv => hin v (List.mem_cons_of_mem _ hv)) hleft
    (left_over_unrecorded available_sources ref)]
  simp [List.filter_map, Function.comp_def]

end Unfiltered

section Memberships

variable (get_if_name : ℕ → String) (gaddr : α) (pi : ProxyInstance α)
  (routing_data : SimpleRoutingData α)

variable (hout : ∀ d ∈ pi.m_downstreams.elems, d.2.m_interface.m_output_filter = none)
  (hin : ∀ u ∈ pi.m_upstreams.elems, u.m_interface.m_input_filter = none)

include hout hin

theorem mem_computed_mutex_iff (u : UpstreamInfos α) (sstate : SourceState α) :
    (u, sstate) ∈ computed_memberships get_if_name gaddr pi routing_data RMT_MUTEX ↔
      pi.m_upstreams.elems.head? = some u ∧
          sstate = merge_all (((init_sstate_list pi gaddr).map
            (taken pi (routing_data.get_interface_map gaddr))).filter has_sources) ∨
        u ∈ pi.m_upstreams.elems ∧ pi.m_upstreams.elems.head? ≠ some u ∧
          sstate = merge_all (((init_sstate_list pi gaddr).map fun cs =>
            (left_over (routing_data.get_interface_map gaddr) cs).1).filter has_sources) := by
  have hstates : ∀ cs ∈ init_sstate_list pi gaddr, cs.2.m_output_filter = none := by
    intro cs hcs
    obtain ⟨d, hd, rfl⟩ := List.mem_map.mp hcs
    exact hout d hd
  have hsorted := pi.m_upstreams.sorted
  rw [computed_memberships_eq get_if_name gaddr pi routing_data (Or.inr rfl),
    interface_memberships, if_neg (by decide)]
  cases hups : pi.m_upstreams.elems with
  | nil => simp
  | cons v rest =>
    rw [hups] at hin hsorted
    have hne : u ∈ rest → v ≠ u := by
      rintro hu rfl
      exact lt_irrefl _ ((List.pairwise_cons.mp hsorted).1 v hu)
    rw [process_upstream_in_mutex_of_no_filter pi _ get_if_name gaddr hin hstates, List.map_cons,
      List.zip_cons_cons, List.map_map, ← List.map_prod_left_eq_zip, List.mem_cons, List.mem_map,
      List.head?_cons, List.mem_cons]
    constructor
    · rintro (heq | ⟨w, hw, heq⟩)
      · obtain ⟨rfl, rfl⟩ := Prod.mk.inj heq
        exact Or.inl ⟨rfl, rfl⟩
      · obtain ⟨rfl, rfl⟩ := Prod.mk.inj heq
        exact Or.inr ⟨Or.inr hw, fun h => hne hw (Option.some.inj h), rfl⟩
    · rintro (⟨hu, rfl⟩ | ⟨hu, hfirst, rfl⟩)
      · exact Or.inl (Prod.ext (Option.some.inj hu).symm rfl)
      · have hu := hu.resolve_left fun h => hfirst (congrArg some h.symm)
        exact Or.inr ⟨u, hu, rfl⟩

omit hout hin in
-- The states without sources take no part in the union.
theorem mem_accept_mutex_iff (keep : α → Bool) (saddr : α) :
    saddr ∈ (merge_all (((init_sstate_list pi gaddr).map fun cs =>
        ({ cs.1 with m_source_list := cs.1.m_source_list.filter fun s => keep s.saddr } :
          SourceState α)).filter has_sources)).accept ↔
      ∃ d ∈ pi.m_downstreams.elems, (∃ a ∈ (d.2.infos gaddr).2, keep a = true) ∧
        saddr ∈ accept ((d.2.infos gaddr).1,
          (d.2.infos gaddr).2.filter fun s => keep s.saddr) := by
  have hsources : ∀ d : DownstreamInfos α,
      has_sources ⟨(d.infos gaddr).1, (d.infos gaddr).2.filter fun s => keep s.saddr⟩ = true ↔
        ∃ a ∈ (d.infos gaddr).2, keep a = true := by
    intro d
    rw [has_sources_iff]
    exact exists_congr fun a => OrdSet.mem_filter_key (d.infos gaddr).2 keep a
  rw [mem_accept_merge_all]
  constructor
  · rintro ⟨sstate, hst, hs⟩
    obtain ⟨hst, hne⟩ := List.mem_filter.mp hst
    obtain ⟨cs, hcs, rfl⟩ := List.mem_map.mp hst
    obtain ⟨d, hd, rfl⟩ := List.mem_map.mp hcs
    exact ⟨d, hd, (hsources d.2).mp hne, hs⟩
  · rintro ⟨d, hd, hne, hs⟩
    exact ⟨_, List.mem_filter.mpr ⟨List.mem_map_of_mem (List.mem_map_of_mem hd),
      (hsources d.2).mpr hne⟩, hs⟩

omit hout hin in
theorem merge_kept_of_include
    (hinc : ∀ d ∈ pi.m_downstreams.elems, (d.2.infos gaddr).1 = INCLUDE_MODE)
    (keep : α → Bool) {sstate : SourceState α}
    (h : sstate = merge_all (((init_sstate_list pi gaddr).map fun cs =>
      ({ cs.1 with m_source_list := cs.1.m_source_list.filter fun s => keep s.saddr } :
        SourceState α)).filter has_sources)) (saddr : α) :
    saddr ∈ sstate.m_source_list ↔
      ∃ d ∈ pi.m_downstreams.elems, saddr ∈ (d.2.infos gaddr).2 ∧ keep saddr = true := by
  have hmode : sstate.m_mc_filter = INCLUDE_MODE := by
    rw [h]
    refine merge_all_include fun sstate hst => ?_
    obtain ⟨cs, hcs, rfl⟩ := List.mem_map.mp (List.mem_filter.mp hst).1
    obtain ⟨d, hd, rfl⟩ := List.mem_map.mp hcs
    exact hinc d hd
  rw [← mem_accept_of_include hmode, h, mem_accept_mutex_iff]
  refine exists_congr fun d => and_congr_right fun hd => ?_
  rw [accept, hinc d hd, SourceList.mem_addrs,
    OrdSet.mem_filter_key (d.2.infos gaddr).2 keep saddr]
  exact ⟨fun hs => hs.2, fun hs => ⟨⟨saddr, hs⟩, hs⟩⟩

-- Where a wanted source is subscribed: at every upstream while it is not received, else at
-- the first upstream as long as it is received on some upstream.
theorem mem_computed_mutex_of_include
    (hinc : ∀ d ∈ pi.m_downstreams.elems, (d.2.infos gaddr).1 = INCLUDE_MODE)
    {u : UpstreamInfos α} {sstate : SourceState α}
    (h : (u, sstate) ∈ computed_memberships get_if_name gaddr pi routing_data RMT_MUTEX)
    (saddr : α) :
    saddr ∈ sstate.m_source_list ↔
      ∃ d ∈ pi.m_downstreams.elems, saddr ∈ (d.2.infos gaddr).2 ∧
        ∀ i, OrdMap.lookup (routing_data.get_interface_map gaddr) saddr = some i →
          pi.m_upstreams.elems.head? = some u ∧ pi.is_upstream i = true := by
  rcases (mem_computed_mutex_iff get_if_name gaddr pi routing_data hout hin u sstate).mp h with
    ⟨hfirst, hst⟩ | ⟨-, hfirst, hst⟩
  · have hkept := merge_kept_of_include gaddr pi hinc
      (subscribed pi (routing_data.get_interface_map gaddr)) hst saddr
    rw [hkept, subscribed_iff]
    simp only [hfirst, true_and]
  · have hkept := merge_kept_of_include gaddr pi hinc
      (fun a => !recorded (routing_data.get_interface_map gaddr) a) hst saddr
    rw [hkept, not_recorded_iff]
    simp only [hfirst, false_and, ne_eq, imp_false]

omit hout hin in
theorem is_upstream_of_mem {u : UpstreamInfos α} (hu : u ∈ pi.m_upstreams.elems) :
    pi.is_upstream u.m_if_index = true :=
  List.any_eq_true.mpr ⟨u, hu, beq_self_eq_true _⟩

-- A source that is received stays subscribed at the first upstream instead of the one it is
-- received on.
theorem mutex_rule_follows_input_iff
    (hinc : ∀ d ∈ pi.m_downstreams.elems, (d.2.infos gaddr).1 = INCLUDE_MODE) :
    (∀ u sstate,
      (u, sstate) ∈ computed_memberships get_if_name gaddr pi routing_data RMT_MUTEX →
        ∀ saddr, saddr ∈ sstate.m_source_list ↔ ∃ d ∈ pi.m_downstreams.elems,
          saddr ∈ (d.2.infos gaddr).2 ∧
            (OrdMap.lookup (routing_data.get_interface_map gaddr) saddr = none ∨
              OrdMap.lookup (routing_data.get_interface_map gaddr) saddr = some u.m_if_index)) ↔
    ∀ d ∈ pi.m_downstreams.elems, ∀ saddr ∈ (d.2.infos gaddr).2, ∀ i,
      OrdMap.lookup (routing_data.get_interface_map gaddr) saddr = some i →
        pi.is_upstream i = true →
          ∀ u ∈ pi.m_upstreams.elems,
            u.m_if_index = i ↔ pi.m_upstreams.elems.head? = some u := by
  constructor
  · intro h d hd saddr hs i hi hup u hu
    obtain ⟨sstate, hmem⟩ : ∃ sstate,
        (u, sstate) ∈ computed_memberships get_if_name gaddr pi routing_data RMT_MUTEX := by
      simp only [mem_computed_mutex_iff get_if_name gaddr pi routing_data hout hin]
      by_cases hfirst : pi.m_upstreams.elems.head? = some u
      · exact ⟨_, Or.inl ⟨hfirst, rfl⟩⟩
      · exact ⟨_, Or.inr ⟨hu, hfirst, rfl⟩⟩
    have hlist := (mem_computed_mutex_of_include get_if_name gaddr pi routing_data hout hin hinc
      hmem saddr).symm.trans (h u sstate hmem saddr)
    simp only [hi, Option.some.injEq, reduceCtorEq, false_or, forall_eq', hup, and_true] at hlist
    constructor
    · intro hidx
      obtain ⟨d', -, -, hfirst⟩ := hlist.mpr ⟨d, hd, hs, hidx.symm⟩
      exact hfirst
    · intro hfirst
      obtain ⟨d', -, -, hidx⟩ := hlist.mp ⟨d, hd, hs, hfirst⟩
      exact hidx.symm
  · intro h u sstate hmem saddr
    have hu : u ∈ pi.m_upstreams.elems := (List.of_mem_zip hmem).1
    rw [mem_computed_mutex_of_include get_if_name gaddr pi routing_data hout hin hinc hmem]
    refine exists_congr fun d => and_congr_right fun hd => and_congr_right fun hs => ?_
    cases hi : OrdMap.lookup (routing_data.get_interface_map gaddr) saddr with
    | none => simp
    | some i =>
      simp only [Option.some.injEq, forall_eq', reduceCtorEq, false_or]
      constructor
      · rintro ⟨hfirst, hup⟩
        exact ((h d hd saddr hs i hi hup u hu).mpr hfirst).symm
      · rintro rfl
        have hup := is_upstream_of_mem pi hu
        exact ⟨(h d hd saddr hs _ hi hup u hu).mp rfl, hup⟩

end Memberships

section Received

-- The upstreams 10 and 11 in this order, and one downstream.
def two_upstreams (q : Querier Ipv4Addr) : ProxyInstance Ipv4Addr :=
  ⟨OrdSet.insertAll ∅ [⟨10, {}, 0⟩, ⟨11, {}, 1⟩], OrdSet.insertAll ∅ [(1, ⟨q, {}⟩)]⟩

-- The source is received on 11; it is unsubscribed there and stays subscribed at 10.
theorem mutex_unsubscribes_input : ∃ q : Querier Ipv4Addr,
    view (get_group_membership_infos q.m_db 7) = (INCLUDE_MODE, [3]) ∧
      OrdMap.lookup ((received_on 11).get_interface_map 7) 3 = some 11 ∧
      computed_views example_a_names 7 (two_upstreams q) (received_on 11) RMT_MUTEX =
        [(10, INCLUDE_MODE, [3]), (11, INCLUDE_MODE, [])] := by
  obtain ⟨q, -, hq⟩ := Machine.exists_run_of_exec (querier Ipv4Addr default_config IGMPv3)
    [.record ⟨ALLOW_NEW_SOURCES, 7, sources [3], IGMPv3⟩]
    (fun q => view (get_group_membership_infos q.m_db 7) = (INCLUDE_MODE, [3]) ∧
      computed_views example_a_names 7 (two_upstreams q) (received_on 11) RMT_MUTEX =
        [(10, INCLUDE_MODE, [3]), (11, INCLUDE_MODE, [])]) rfl
  rw [decide_eq_true_eq] at hq
  exact ⟨q, hq.1, rfl, hq.2⟩

-- Received on the first upstream it is subscribed only there.
theorem mutex_rule_follows_first_upstream : ∃ q : Querier Ipv4Addr,
    view (get_group_membership_infos q.m_db 7) = (INCLUDE_MODE, [3]) ∧
      ∀ u sstate, (u, sstate) ∈ computed_memberships example_a_names 7 (two_upstreams q)
          (received_on 10) RMT_MUTEX →
        ∀ saddr, saddr ∈ sstate.m_source_list ↔ ∃ d ∈ (two_upstreams q).m_downstreams.elems,
          saddr ∈ (d.2.infos 7).2 ∧
            (OrdMap.lookup ((received_on 10).get_interface_map 7) saddr = none ∨
              OrdMap.lookup ((received_on 10).get_interface_map 7) saddr =
                some u.m_if_index) := by
  obtain ⟨q, -, hq⟩ := Machine.exists_run_of_exec (querier Ipv4Addr default_config IGMPv3)
    [.record ⟨ALLOW_NEW_SOURCES, 7, sources [3], IGMPv3⟩]
    (fun q => view (get_group_membership_infos q.m_db 7) = (INCLUDE_MODE, [3])) rfl
  rw [decide_eq_true_eq] at hq
  have hups : (two_upstreams q).m_upstreams.elems = [⟨10, {}, 0⟩, ⟨11, {}, 1⟩] := rfl
  refine ⟨q, hq, (mutex_rule_follows_input_iff example_a_names 7 (two_upstreams q) (received_on 10)
    (List.forall_mem_singleton.mpr rfl)
    (List.forall_mem_cons.mpr ⟨rfl, List.forall_mem_singleton.mpr rfl⟩)
    (List.forall_mem_singleton.mpr (congrArg Prod.fst hq))).mpr ?_⟩
  intro d hd saddr hs i hi hup u hu
  obtain rfl : i = 10 := by
    have hmem := OrdMap.mem_of_lookup hi
    exact (Prod.mk.inj (List.mem_singleton.mp hmem)).2
  rw [hups, List.head?_cons]
  rw [hups] at hu
  rcases List.mem_cons.mp hu with rfl | hu
  · exact ⟨fun _ => rfl, fun _ => rfl⟩
  · obtain rfl := List.mem_singleton.mp hu
    constructor
    · exact fun h => absurd h (by decide)
    · exact fun h => absurd (congrArg UpstreamInfos.m_if_index (Option.some.inj h)) (by decide)

end Received

section Joins

variable (get_if_name : ℕ → String) (gaddr : α) (pi : ProxyInstance α)
  (routing_data : SimpleRoutingData α)
  (hout : ∀ d ∈ pi.m_downstreams.elems, d.2.m_interface.m_output_filter = none)
  (hin : ∀ u ∈ pi.m_upstreams.elems, u.m_interface.m_input_filter = none)
  (hnone : ∀ saddr, OrdMap.lookup (routing_data.get_interface_map gaddr) saddr = none)

theorem mem_accept_mutex_of_keep_all (keep : α → Bool) (hkeep : ∀ a, keep a = true)
    {sstate : SourceState α}
    (h : sstate = merge_all (((init_sstate_list pi gaddr).map fun cs =>
      ({ cs.1 with m_source_list := cs.1.m_source_list.filter fun s => keep s.saddr } :
        SourceState α)).filter has_sources)) (saddr : α) :
    saddr ∈ sstate.accept ↔ ∃ d ∈ pi.m_downstreams.elems,
      (∃ a, a ∈ (d.2.infos gaddr).2) ∧ saddr ∈ accept (d.2.infos gaddr) := by
  rw [h, mem_accept_mutex_iff]
  refine exists_congr fun d => and_congr_right fun _ => ?_
  have hself : (d.2.infos gaddr).2.filter (fun s => keep s.saddr) = (d.2.infos gaddr).2 :=
    OrdSet.filter_eq_self fun s _ => hkeep s.saddr
  rw [hself]
  simp only [hkeep, and_true]

include hout hin hnone

theorem mem_accept_mutex_of_none {u : UpstreamInfos α} {sstate : SourceState α}
    (h : (u, sstate) ∈ computed_memberships get_if_name gaddr pi routing_data RMT_MUTEX)
    (saddr : α) :
    saddr ∈ sstate.accept ↔ ∃ d ∈ pi.m_downstreams.elems,
      (∃ a, a ∈ (d.2.infos gaddr).2) ∧ saddr ∈ accept (d.2.infos gaddr) := by
  rcases (mem_computed_mutex_iff get_if_name gaddr pi routing_data hout hin u sstate).mp h with
    ⟨-, hst⟩ | ⟨-, -, hst⟩
  · refine mem_accept_mutex_of_keep_all gaddr pi
      (subscribed pi (routing_data.get_interface_map gaddr)) (fun a => ?_) hst saddr
    rw [subscribed_iff]
    simp [hnone]
  · refine mem_accept_mutex_of_keep_all gaddr pi
      (fun a => !recorded (routing_data.get_interface_map gaddr) a) (fun a => ?_) hst saddr
    rw [not_recorded_iff]
    simp [hnone]

-- A state with an empty list is thrown away, which is right for INCLUDE only.
theorem mutex_rule_keeps_joins_iff :
    (∀ u sstate,
      (u, sstate) ∈ computed_memberships get_if_name gaddr pi routing_data RMT_MUTEX →
        ∀ saddr, saddr ∈ sstate.accept ↔
          ∃ d ∈ pi.m_downstreams.elems, saddr ∈ accept (d.2.infos gaddr)) ↔
    (pi.m_upstreams.elems ≠ [] → ∀ d ∈ pi.m_downstreams.elems,
      (d.2.infos gaddr).1 = EXCLUDE_MODE → (∀ a, a ∉ (d.2.infos gaddr).2) →
        ∀ saddr, ∃ d' ∈ pi.m_downstreams.elems,
          (∃ a, a ∈ (d'.2.infos gaddr).2) ∧ saddr ∈ accept (d'.2.infos gaddr)) := by
  constructor
  · intro h hne d hd hmode hempty saddr
    obtain ⟨u, rest, hups⟩ := List.exists_cons_of_ne_nil hne
    have hmem := (mem_computed_mutex_iff get_if_name gaddr pi routing_data hout hin u _).mpr
      (Or.inl ⟨by rw [hups]; rfl, rfl⟩)
    have haccept : saddr ∈ accept (d.2.infos gaddr) := by
      rw [accept, hmode]
      exact hempty saddr
    have hjoined := (h u _ hmem saddr).mpr ⟨d, hd, haccept⟩
    exact (mem_accept_mutex_of_none get_if_name gaddr pi routing_data hout hin hnone hmem
      saddr).mp hjoined
  · intro h u sstate hmem saddr
    rw [mem_accept_mutex_of_none get_if_name gaddr pi routing_data hout hin hnone hmem]
    have hne := List.ne_nil_of_mem (List.of_mem_zip hmem).1
    constructor
    · rintro ⟨d, hd, -, hs⟩
      exact ⟨d, hd, hs⟩
    · rintro ⟨d, hd, hs⟩
      by_cases hlist : ∃ a, a ∈ (d.2.infos gaddr).2
      · exact ⟨d, hd, hlist, hs⟩
      · rw [not_exists] at hlist
        cases hmode : (d.2.infos gaddr).1 with
        | INCLUDE_MODE =>
          rw [accept, hmode] at hs
          exact absurd hs (hlist saddr)
        | EXCLUDE_MODE => exact h hne d hd hmode hlist saddr

omit hout hin hnone in
theorem mutex_rule_keeps_join_but_nine : ∃ q : Querier Ipv4Addr,
    view (get_group_membership_infos q.m_db 7) = (EXCLUDE_MODE, [9]) ∧
      ∀ u sstate,
        (u, sstate) ∈ computed_memberships example_a_names 7 (two_upstreams q) ⟨∅⟩ RMT_MUTEX →
          ∀ saddr, saddr ∈ sstate.accept ↔
            ∃ d ∈ (two_upstreams q).m_downstreams.elems, saddr ∈ accept (d.2.infos 7) := by
  obtain ⟨q, -, hq⟩ := Machine.exists_run_of_exec (querier Ipv4Addr default_config IGMPv3)
    [.record ⟨MODE_IS_EXCLUDE, 7, sources [9], IGMPv3⟩]
    (fun q => view (get_group_membership_infos q.m_db 7) = (EXCLUDE_MODE, [9])) rfl
  rw [decide_eq_true_eq] at hq
  refine ⟨q, hq, (mutex_rule_keeps_joins_iff example_a_names 7 (two_upstreams q) ⟨∅⟩
    (List.forall_mem_singleton.mpr rfl)
    (List.forall_mem_cons.mpr ⟨rfl, List.forall_mem_singleton.mpr rfl⟩) (fun _ => rfl)).mpr ?_⟩
  intro _ d hd _ hempty
  obtain rfl := List.mem_singleton.mp hd
  have hkeys : (get_group_membership_infos q.m_db 7).2.keys = [9] := congrArg Prod.snd hq
  have hnine : 9 ∈ (get_group_membership_infos q.m_db 7).2.keys := by
    rw [hkeys]
    exact List.mem_singleton_self 9
  exact absurd hnine (hempty 9)

omit hout hin hnone in
-- The any-source join of the only downstream reaches no upstream.
theorem mutex_drops_any_source_join : ∃ q : Querier Ipv4Addr,
    view (get_group_membership_infos q.m_db 7) = (EXCLUDE_MODE, []) ∧
      computed_views example_a_names 7 (two_upstreams q) ⟨∅⟩ RMT_MUTEX =
        [(10, INCLUDE_MODE, []), (11, INCLUDE_MODE, [])] := by
  obtain ⟨q, -, hq⟩ := Machine.exists_run_of_exec (querier Ipv4Addr default_config IGMPv3)
    [.record ⟨MODE_IS_EXCLUDE, 7, sources [], IGMPv3⟩]
    (fun q => view (get_group_membership_infos q.m_db 7) = (EXCLUDE_MODE, []) ∧
      computed_views example_a_names 7 (two_upstreams q) ⟨∅⟩ RMT_MUTEX =
        [(10, INCLUDE_MODE, []), (11, INCLUDE_MODE, [])]) rfl
  rw [decide_eq_true_eq] at hq
  exact ⟨q, hq⟩

end Joins

end Mcproxy
