import Mathlib.Data.List.GetD
import Mcproxy.Container.Journal
import Mcproxy.Interfaces
import Mcproxy.Routing.Lookup

namespace Mcproxy

open Container Transition AddrFamily

section Socket

variable {α : Type*}

-- `mfcctl` or `mf6cctl`: the input vif is an unsigned short, and there is a flag for every output
-- vif, in `mfcc_ttls` or in `mf6cc_ifset`.
structure Mfcctl (α : Type*) where
  origin : α
  mcastgrp : α
  parent : ℕ
  ifset : List Bool

-- The block sends to a vif.
def Mfcctl.sends_to (mc : Mfcctl α) (vif : ℤ) : Prop := mc.ifset.getD vif.toNat false = true

def IF_SETSIZE : ℕ := 256

def ifset_elements : AddrFamily → ℕ
  | AF_INET => MAXVIFS
  | AF_INET6 => IF_SETSIZE
  | AF_UNSPEC => 0

-- The socket of the multicast routing: whether it is open, and what `setsockopt` answers.
structure MrtSock (α : Type*) where
  is_udp_valid : Bool
  setsockopt : Mfcctl α → Bool

-- Undefined behaviour: a flag outside of the array is written.
inductive MrouteFault
  | out_of_bounds
  deriving DecidableEq, Repr

-- The loop over the output vifs.
def set_outputs : (output_vif : List ℤ) → List Bool → Except MrouteFault (List Bool)
  | [], ifset => .ok ifset
  | e :: output_vif, ifset =>
    if 0 ≤ e ∧ e < ifset.length then set_outputs output_vif (ifset.set e.toNat true)
    else .error .out_of_bounds

variable (m_mrt_sock : MrtSock α) (m_addr_family : AddrFamily)

-- What is returned, and the block that `setsockopt` is called with.
def add_mroute (vif_index : ℤ) (source_addr group_addr : α) (output_vif : List ℤ) :
    Except MrouteFault (Bool × Option (Mfcctl α)) :=
  if m_mrt_sock.is_udp_valid = false then .ok (false, none)
  else if m_addr_family = AF_UNSPEC then .ok (false, none)
  else if output_vif.length > vifs_elements m_addr_family then .ok (false, none)
  else
    match set_outputs output_vif (List.replicate (ifset_elements m_addr_family) false) with
    | .error fault => .error fault
    | .ok ifset =>
      let mc : Mfcctl α := ⟨source_addr, group_addr, (vif_index % 2 ^ 16).toNat, ifset⟩
      .ok (m_mrt_sock.setsockopt mc, some mc)

def add_route (input_vif : ℤ) (g_addr src_addr : α) (output_vif : List ℤ) :
    Except MrouteFault (Bool × Option (Mfcctl α)) :=
  if m_addr_family = AF_UNSPEC then .ok (false, none)
  else if output_vif.length > vifs_elements m_addr_family then .ok (false, none)
  else add_mroute m_mrt_sock m_addr_family input_vif src_addr g_addr output_vif

variable {m_mrt_sock m_addr_family} {output_vif : List ℤ}

theorem vifs_elements_le (m_addr_family : AddrFamily) :
    vifs_elements m_addr_family ≤ ifset_elements m_addr_family := by
  cases m_addr_family <;> decide

theorem set_outputs_of_range {ifset : List Bool}
    (hrange : ∀ v ∈ output_vif, 0 ≤ v ∧ v < ifset.length) :
    ∃ ifset', set_outputs output_vif ifset = .ok ifset' ∧
      ∀ n < ifset.length, ifset'.getD n false = true ↔
        ifset.getD n false = true ∨ (n : ℤ) ∈ output_vif := by
  induction output_vif generalizing ifset with
  | nil => exact ⟨ifset, rfl, fun n _ => by simp⟩
  | cons e output_vif ih =>
    obtain ⟨he, hrest⟩ := List.forall_mem_cons.mp hrange
    have hrange' : ∀ v ∈ output_vif, 0 ≤ v ∧ v < (ifset.set e.toNat true).length := by
      simpa using hrest
    obtain ⟨ifset', hset, hflags⟩ := ih hrange'
    refine ⟨ifset', by rw [set_outputs, if_pos he, hset], fun n hn => ?_⟩
    rw [hflags n (by simpa using hn), List.mem_cons, ← or_assoc]
    refine or_congr_left ?_
    by_cases heq : e.toNat = n
    · have hnat : (n : ℤ) = e := by omega
      simp [heq, hnat, List.getD_eq_getElem?_getD, hn]
    · have hnat : (n : ℤ) ≠ e := by omega
      simp [hnat, List.getD_eq_getElem?_getD, List.getElem?_set_ne heq]

-- With vifs below the limit, and not more of them than it, `setsockopt` is called with their flags.
theorem add_route_of_range (hvalid : m_mrt_sock.is_udp_valid = true)
    (hfamily : m_addr_family ≠ AF_UNSPEC) (hlen : output_vif.length ≤ vifs_elements m_addr_family)
    (hrange : ∀ v ∈ output_vif, 0 ≤ v ∧ v < vifs_elements m_addr_family) (input_vif : ℤ)
    (g_addr src_addr : α) :
    ∃ mc, add_route m_mrt_sock m_addr_family input_vif g_addr src_addr output_vif =
        .ok (m_mrt_sock.setsockopt mc, some mc) ∧
      mc.origin = src_addr ∧ mc.mcastgrp = g_addr ∧ mc.parent = (input_vif % 2 ^ 16).toNat ∧
      ∀ v : ℤ, 0 ≤ v → v < vifs_elements m_addr_family → (mc.sends_to v ↔ v ∈ output_vif) := by
  have hle := vifs_elements_le m_addr_family
  have hrange' : ∀ v ∈ output_vif,
      0 ≤ v ∧ v < (List.replicate (ifset_elements m_addr_family) false).length := by
    intro v hv
    have hv := hrange v hv
    rw [List.length_replicate]
    omega
  obtain ⟨ifset, hset, hflags⟩ := set_outputs_of_range hrange'
  refine ⟨⟨src_addr, g_addr, (input_vif % 2 ^ 16).toNat, ifset⟩, ?_, rfl, rfl, rfl, ?_⟩
  · have hnot : ¬output_vif.length > vifs_elements m_addr_family := by omega
    rw [add_route, if_neg hfamily, if_neg hnot, add_mroute, if_neg (by simp [hvalid]),
      if_neg hfamily, if_neg hnot, hset]
  · intro v hlo hhi
    have hlt : v.toNat < ifset_elements m_addr_family := by omega
    rw [Mfcctl.sends_to, hflags v.toNat (by rwa [List.length_replicate]), List.getD_replicate _ hlt,
      Int.toNat_of_nonneg hlo]
    exact or_iff_right Bool.false_ne_true

end Socket

variable {α : Type*} [LinearOrder α]

section Calls

-- What `add_route` is called with about a group and a source.
structure Route where
  input_vif : ℤ
  output_vif : List ℤ
  deriving DecidableEq, Repr

-- The route a call sets or, with none, takes away.
def RoutingCall.sets_route : RoutingCall α → Option ((α × α) × Option Route)
  | .add_route input_vif gaddr saddr output_vif =>
    some ((gaddr, saddr), some ⟨input_vif, output_vif⟩)
  | .del_route _ gaddr saddr => some ((gaddr, saddr), none)
  | .send_record _ => none
  | .input_interface_not_found _ => none

-- The last call about a group and a source: the route of an `add_route`, none if it was a
-- `del_route` or if there was no call. What a call returns is not read by its callers.
def routes (calls : List (RoutingCall α)) (gaddr saddr : α) : Option Route :=
  Journal.replay RoutingCall.sets_route (fun _ => none) calls (gaddr, saddr)

variable {calls calls' : List (RoutingCall α)} {gaddr saddr : α}

theorem routes_append_other
    (h : ∀ c ∈ calls', ∀ route, c.sets_route ≠ some ((gaddr, saddr), route)) :
    routes (calls ++ calls') gaddr saddr = routes calls gaddr saddr := by
  rw [routes, Journal.replay_append]
  exact Journal.replay_other h

-- The only one of some calls about a group and a source.
theorem routes_append_of_only {c : RoutingCall α} (hc : c ∈ calls') {route : Option Route}
    (hset : c.sets_route = some ((gaddr, saddr), route))
    (honly : ∀ c' ∈ calls', ∀ route', c'.sets_route = some ((gaddr, saddr), route') → c' = c) :
    routes (calls ++ calls') gaddr saddr = route := by
  rw [routes, Journal.replay_append]
  refine Journal.replay_of_mem hc hset fun c' hc' route' hset' => ?_
  rw [honly c' hc' route' hset', hset] at hset'
  exact (Prod.mk.inj (Option.some.inj hset')).2.symm

theorem routes_append_singleton {c : RoutingCall α} {route : Option Route}
    (hset : c.sets_route = some ((gaddr, saddr), route)) :
    routes (calls ++ [c]) gaddr saddr = route :=
  routes_append_of_only (List.mem_singleton_self c) hset fun _ hc _ _ => List.mem_singleton.mp hc

-- The calls of the sender leave the routes alone.
theorem routes_send_records (env : RoutingEnv α) (records : List (SentRecord α)) :
    routes (env.call (records.map .send_record)).calls = routes env.calls := by
  funext g s
  refine routes_append_other fun c hc route => ?_
  obtain ⟨record, -, rfl⟩ := List.mem_map.mp hc
  exact (Option.some_ne_none _).symm

end Calls

section Routes

variable (get_if_name : ℕ → String) (get_virtual_if_index : ℕ → ℤ) (r : SimpleMcProxyRouting α)

-- The interfaces the data of a source that comes in on `i` is sent to.
def output_if_list (gaddr saddr : α) (i : ℕ) : List ℕ :=
  upstream_part get_if_name r gaddr i saddr ++ downstream_part get_if_name r gaddr saddr

-- The route of a source after it was calculated. Data from an interface that is not to be used
-- leaves the route that was there.
def calculated_route (gaddr saddr : α) (i : ℕ) (old : Option Route) : Option Route :=
  let outputs := output_if_list get_if_name r gaddr saddr i
  if outputs.isEmpty then none
  else if use_this_interface get_if_name r i gaddr saddr then
    some ⟨get_virtual_if_index i, outputs.map get_virtual_if_index⟩
  else old

variable {get_if_name get_virtual_if_index r} {gaddr : α}

theorem route_of_mem_set_route {e : Source α × List ℕ} {c : RoutingCall α}
    (hc : c ∈ set_route get_if_name get_virtual_if_index r gaddr e) {g s : α}
    {route : Option Route} (hset : c.sets_route = some ((g, s), route)) :
    g = gaddr ∧ s = e.1.saddr := by
  unfold set_route at hc
  split at hc
  · rw [List.mem_singleton.mp hc] at hset
    cases hset
  · split_ifs at hc
    · rw [List.mem_singleton.mp hc] at hset
      cases hset
      exact ⟨rfl, rfl⟩
    · rw [List.mem_singleton.mp hc] at hset
      cases hset
      exact ⟨rfl, rfl⟩
    · exact absurd hc List.not_mem_nil

theorem collect_log_of_known {slist : SourceList α}
    (hknown : InterfacesKnown r.m_data gaddr slist) : collect_log r gaddr slist = [] := by
  have hnone : (slist.elems.find? fun s =>
      (OrdMap.lookup (r.m_data.get_interface_map gaddr) s.saddr).isNone) = none := by
    refine List.find?_eq_none.mpr fun s hs => ?_
    rw [Option.isNone_iff_eq_none, ← Ne, ← Option.isSome_iff_ne_none]
    exact hknown s hs
  rw [collect_log, hnone]
  rfl

-- Only the round of a source decides about its route.
theorem routes_set_routes (calls : List (RoutingCall α)) {entries : List (Source α × List ℕ)}
    (hnodup : (entries.map fun e => e.1.saddr).Nodup) {e : Source α × List ℕ} (he : e ∈ entries)
    {i : ℕ} (hi : OrdMap.lookup (r.m_data.get_interface_map gaddr) e.1.saddr = some i) :
    routes (calls ++ set_routes get_if_name get_virtual_if_index r gaddr entries) gaddr
        e.1.saddr =
      if e.2.isEmpty then none
      else if use_this_interface get_if_name r i gaddr e.1.saddr then
        some ⟨get_virtual_if_index i, e.2.map get_virtual_if_index⟩
      else routes calls gaddr e.1.saddr := by
  have hround : ∀ c ∈ set_routes get_if_name get_virtual_if_index r gaddr entries, ∀ route,
      c.sets_route = some ((gaddr, e.1.saddr), route) →
        c ∈ set_route get_if_name get_virtual_if_index r gaddr e := by
    intro c hc route hset
    obtain ⟨e', he', hc⟩ := List.mem_flatMap.mp hc
    have hsaddr := (route_of_mem_set_route hc hset).2
    rwa [List.inj_on_of_nodup_map hnodup he he' hsaddr]
  have hmem : ∀ c ∈ set_route get_if_name get_virtual_if_index r gaddr e,
      c ∈ set_routes get_if_name get_virtual_if_index r gaddr entries := fun c hc =>
    List.mem_flatMap.mpr ⟨e, he, hc⟩
  simp only [set_route, hi] at hround hmem
  split_ifs at hround hmem ⊢
  · exact routes_append_of_only (hmem _ List.mem_cons_self) rfl fun c hc route hset =>
      List.mem_singleton.mp (hround c hc route hset)
  · exact routes_append_of_only (hmem _ List.mem_cons_self) rfl fun c hc route hset =>
      List.mem_singleton.mp (hround c hc route hset)
  · exact routes_append_other fun c hc route hset =>
      absurd (hround c hc route hset) List.not_mem_nil

theorem routes_calculate_routes (calls : List (RoutingCall α)) {slist : SourceList α}
    (hknown : InterfacesKnown r.m_data gaddr slist) {saddr : α} (hmem : saddr ∈ slist) {i : ℕ}
    (hi : OrdMap.lookup (r.m_data.get_interface_map gaddr) saddr = some i) :
    routes (calls ++ calculate_routes get_if_name get_virtual_if_index r gaddr slist) gaddr saddr =
      calculated_route get_if_name get_virtual_if_index r gaddr saddr i
        (routes calls gaddr saddr) := by
  obtain ⟨hfst, hentries⟩ :=
    collect_interested_interfaces_of_recorded get_if_name r gaddr hknown
  have hnodup : ((collect_interested_interfaces get_if_name r gaddr slist).map
      fun e => e.1.saddr).Nodup := by
    have hkeys := slist.keys_nodup
    rw [OrdSet.keys, ← hfst, List.map_map] at hkeys
    exact hkeys
  obtain ⟨s, hs, rfl⟩ := List.mem_map.mp hmem
  obtain ⟨e, he, rfl⟩ := List.mem_map.mp (hfst ▸ hs)
  obtain ⟨j, hj, hout⟩ := hentries e he
  obtain rfl : i = j := Option.some.inj (hi.symm.trans hj)
  rw [calculate_routes, collect_log_of_known hknown, List.nil_append,
    routes_set_routes calls hnodup he hi]
  simp only [calculated_route, output_if_list, ← hout]

-- The other sources keep their routes.
theorem routes_calculate_routes_other (calls : List (RoutingCall α)) {slist : SourceList α}
    (hknown : InterfacesKnown r.m_data gaddr slist) {g saddr : α}
    (hother : g ≠ gaddr ∨ saddr ∉ slist) :
    routes (calls ++ calculate_routes get_if_name get_virtual_if_index r gaddr slist) g saddr =
      routes calls g saddr := by
  obtain ⟨hfst, -⟩ := collect_interested_interfaces_of_recorded get_if_name r gaddr hknown
  refine routes_append_other fun c hc route hset => ?_
  rw [calculate_routes, collect_log_of_known hknown, List.nil_append] at hc
  obtain ⟨e, he, hc⟩ := List.mem_flatMap.mp hc
  obtain ⟨hg, hs⟩ := route_of_mem_set_route hc hset
  have hmem : e.1 ∈ slist.elems := hfst ▸ List.mem_map_of_mem he
  rcases hother with hne | hne
  · exact hne hg
  · exact hne (hs ▸ List.mem_map_of_mem hmem)

end Routes

section RouteSteps

variable (get_if_name : ℕ → String) (get_virtual_if_index : ℕ → ℤ)

-- What an event does to the route of a source: nothing, and then it is not about the group or
-- the source is not recorded; or the route is calculated with the instance the event finds; or
-- the source and its route are taken away.
inductive RouteStep (input : RoutingInput α) (r r' : RoutingState α) (gaddr saddr : α) : Prop
  | kept (hevent : ∀ i, input.event = .event_querier_state_change i gaddr →
        r.m_data.interface gaddr saddr = none)
      (hinterface : r'.m_data.interface gaddr saddr = r.m_data.interface gaddr saddr)
      (hroute : routes r'.env.calls gaddr saddr = routes r.env.calls gaddr saddr)
  | calculated (i : ℕ) (hinterface : r'.m_data.interface gaddr saddr = some i)
      (hroute : routes r'.env.calls gaddr saddr =
        calculated_route get_if_name get_virtual_if_index ⟨input.m_p, r'.m_data⟩ gaddr saddr i
          (routes r.env.calls gaddr saddr))
  | deleted (hinterface : r'.m_data.interface gaddr saddr = none)
      (hroute : routes r'.env.calls gaddr saddr = none)

variable {get_if_name get_virtual_if_index} {clk : SteadyClock}
  {r r' : RoutingState α} {input : RoutingInput α}

theorem source_isSome_of_interface {timers : List (NewSourceTimerMsg α)} {ok : α → Prop}
    {d : SimpleRoutingData α} (h : DataOk timers ok d) {gaddr saddr : α} {i : ℕ}
    (hi : d.interface gaddr saddr = some i) : d.source gaddr saddr ≠ none := by
  intro hnone
  rw [(h.interface_eq_none_iff gaddr saddr).mpr hnone] at hi
  cases hi

theorem route_step (hinv : RoutingInv r)
    (hstep : RoutingStep clk get_if_name get_virtual_if_index r input r') (g sa : α) :
    RouteStep get_if_name get_virtual_if_index input r r' g sa := by
  cases hstep with
  | new_source if_index gaddr saddr records hevent nst hnst d hd =>
    have hcalls : nst.2.calls = r.env.calls := by
      rw [hnst]
      rfl
    have hknown : InterfacesKnown d gaddr ((∅ : SourceList α).insert { saddr := saddr }) := by
      rw [hd]
      exact interfacesKnown_set_source input.mroute_stats r.m_data if_index gaddr _
    by_cases hkey : (g, sa) = (gaddr, saddr)
    · obtain ⟨rfl, rfl⟩ := Prod.mk.inj hkey
      have hinterface : d.interface g sa = some if_index := by
        rw [hd]
        exact interface_set_source input.mroute_stats r.m_data if_index g
          (⟨sa, some nst.1.timer_msg, -1⟩ : Source α)
      have hmem : sa ∈ (∅ : SourceList α).insert { saddr := sa } := List.mem_singleton_self sa
      refine .calculated if_index hinterface ?_
      rw [routes_send_records, RoutingEnv.call, hcalls]
      exact routes_calculate_routes (r := ⟨input.m_p, d⟩) _ hknown hmem hinterface
    · have hsame : SameAt r.m_data d g sa := by
        rw [hd]
        exact sameAt_set_source input.mroute_stats r.m_data if_index
          (⟨saddr, some nst.1.timer_msg, -1⟩ : Source α) hkey
      refine .kept (fun i h => ?_) hsame.interface ?_
      · rw [hevent] at h
        cases h
      · rw [routes_send_records, RoutingEnv.call, hcalls]
        refine routes_calculate_routes_other _ hknown ?_
        by_cases hg : g = gaddr
        · refine Or.inr fun hmem => hkey ?_
          rw [hg, List.mem_singleton.mp hmem]
        · exact Or.inl hg
  | state_change if_index gaddr records hevent =>
    have hknown : InterfacesKnown r.m_data gaddr (r.m_data.get_available_sources gaddr) :=
      hinv.data.interfacesKnown fun _ ha => ha
    by_cases hg : g = gaddr
    · subst hg
      cases hinterface : r.m_data.interface g sa with
      | none =>
        refine .kept (fun _ _ => hinterface) rfl ?_
        have hnot : sa ∉ r.m_data.get_available_sources g :=
          OrdSet.find_eq_none_iff.mp ((hinv.data.interface_eq_none_iff g sa).mp hinterface)
        rw [routes_send_records]
        exact routes_calculate_routes_other _ hknown (Or.inr hnot)
      | some i =>
        have hmem : sa ∈ r.m_data.get_available_sources g := by
          by_contra hnot
          exact source_isSome_of_interface hinv.data hinterface (OrdSet.find_eq_none_iff.mpr hnot)
        refine .calculated i hinterface ?_
        rw [routes_send_records]
        exact routes_calculate_routes (r := ⟨input.m_p, r.m_data⟩) _ hknown hmem hinterface
    · refine .kept (fun i h => absurd ?_ hg) rfl ?_
      · rw [hevent] at h
        exact (RoutingEvent.event_querier_state_change.inj h).2.symm
      · rw [routes_send_records]
        exact routes_calculate_routes_other _ hknown (Or.inl hg)
  | outdated tm unique hevent hold =>
    refine .kept (fun i h => ?_) rfl rfl
    rw [hevent] at h
    cases h
  | deleted tm records hevent hcurrent d hd =>
    obtain ⟨hgone, hothers⟩ := refresh_deletes hinv.data hd
    by_cases hkey : (g, sa) = (tm.m_gaddr, tm.m_saddr)
    · obtain ⟨rfl, rfl⟩ := Prod.mk.inj hkey
      have hdata := hinv.data.refresh input.mroute_stats tm.m_gaddr tm.m_saddr
      rw [hd] at hdata
      refine .deleted ((hdata.interface_eq_none_iff _ _).mpr hgone) ?_
      rw [routes_send_records]
      exact routes_append_singleton rfl
    · refine .kept (fun i h => ?_) (hothers g sa hkey).interface ?_
      · rw [hevent] at h
        cases h
      · rw [routes_send_records]
        refine routes_append_other fun c hc route hset => hkey ?_
        rw [List.mem_singleton.mp hc] at hset
        exact (Prod.mk.inj (Option.some.inj hset)).1.symm
  | refreshed tm hevent hcurrent d hd nst hnst =>
    refine .kept (fun i h => ?_) ?_ ?_
    · rw [hevent] at h
      cases h
    · rw [interface_set_shared_source_timer]
      exact (refresh_keeps hd).1 g sa
    · rw [hnst]
      rfl

end RouteSteps

section Owned

-- The timer an event hands over, and all that were handed over.
def RoutingInput.delivers (input : RoutingInput α) : Option (NewSourceTimerMsg α) :=
  match input.event with
  | .timer_triggerd_maintain_routing_table tm _ => some tm
  | _ => none

def delivered (es : List (RoutingInput α)) : List (NewSourceTimerMsg α) :=
  es.filterMap RoutingInput.delivers

-- `msg.unique()` is not true of a timer that a source still points to.
def counts_uses (s : RoutingState α) (input : RoutingInput α) : Prop :=
  match input.event with
  | .timer_triggerd_maintain_routing_table tm unique =>
    unique = true → is_current s.m_data tm = false
  | _ => True

instance (s : RoutingState α) (input : RoutingInput α) : Decidable (counts_uses s input) :=
  match h : input.event with
  | .event_new_source .. => .isTrue (by simp [counts_uses, h])
  | .event_querier_state_change .. => .isTrue (by simp [counts_uses, h])
  | .timer_triggerd_maintain_routing_table tm unique =>
    decidable_of_iff (unique = true → is_current s.m_data tm = false) (by simp [counts_uses, h])

-- The timers that are still to come.
def undelivered (es : List (RoutingInput α)) (env : RoutingEnv α) : List (NewSourceTimerMsg α) :=
  env.timers.filter fun tm => tm ∉ delivered es

theorem mem_undelivered {es : List (RoutingInput α)} {env : RoutingEnv α}
    {tm : NewSourceTimerMsg α} :
    tm ∈ undelivered es env ↔ tm ∈ env.timers ∧ tm ∉ delivered es := by
  simp [undelivered]

theorem delivered_append (es : List (RoutingInput α)) (input : RoutingInput α) :
    delivered (es ++ [input]) = delivered es ++ input.delivers.toList := by
  unfold delivered
  rw [List.filterMap_append]
  cases h : input.delivers <;> simp [h]

section Delivered

variable {es : List (RoutingInput α)} {input : RoutingInput α} {env env' : RoutingEnv α}
  {tm t : NewSourceTimerMsg α} {unique : Bool}

theorem delivered_of_none (h : input.delivers = none) :
    delivered (es ++ [input]) = delivered es := by
  rw [delivered_append, h]
  exact List.append_nil _

theorem mem_delivered_of_timer
    (hevent : input.event = .timer_triggerd_maintain_routing_table tm unique) :
    t ∈ delivered (es ++ [input]) ↔ t ∈ delivered es ∨ t = tm := by
  rw [delivered_append, RoutingInput.delivers, hevent, List.mem_append]
  exact or_congr_right List.mem_singleton

-- A timer other than the one that is handed over is still to come.
theorem undelivered_of_timer
    (hevent : input.event = .timer_triggerd_maintain_routing_table tm unique)
    (hsub : env.timers ⊆ env'.timers) (ht : t ∈ undelivered es env) (hne : t ≠ tm) :
    t ∈ undelivered (es ++ [input]) env' := by
  obtain ⟨hmem, hnot⟩ := mem_undelivered.mp ht
  refine mem_undelivered.mpr ⟨hsub hmem, fun hdel => ?_⟩
  exact ((mem_delivered_of_timer hevent).mp hdel).elim hnot hne

theorem delivered_subset_of_timer
    (hevent : input.event = .timer_triggerd_maintain_routing_table tm unique)
    (hsub : delivered es ⊆ env.timers) (htm : tm ∈ env.timers) :
    delivered (es ++ [input]) ⊆ env.timers := by
  intro t ht
  rcases (mem_delivered_of_timer hevent).mp ht with ht | rfl
  · exact hsub ht
  · exact htm

end Delivered

-- The timer of a recorded source is current.
theorem is_current_iff (d : SimpleRoutingData α) (tm : NewSourceTimerMsg α) :
    is_current d tm = (d.source tm.m_gaddr tm.m_saddr).any fun s =>
      same_object s.shared_source_timer tm.timer_msg := rfl

-- A timer no source points to can be taken away.
theorem DataOk.without {timers timers' : List (NewSourceTimerMsg α)} {ok : α → Prop}
    {d : SimpleRoutingData α} (h : DataOk timers ok d) {tm : NewSourceTimerMsg α}
    (hold : is_current d tm = false) (hsub : ∀ t ∈ timers, t ≠ tm → t ∈ timers') :
    DataOk timers' ok d := by
  intro gaddr value hvalue
  refine ⟨fun saddr => ?_, (h gaddr value hvalue).2⟩
  have hsource := d.source_of_lookup hvalue saddr
  have hrec := (h gaddr value hvalue).1 saddr
  generalize value.m_source_list.find saddr = src at hrec hsource ⊢
  generalize OrdMap.lookup value.m_if_map saddr = i at hrec ⊢
  cases hrec with
  | absent => exact .absent
  | present src t hmem htimer hgaddr hsaddr =>
    refine .present src t (hsub t hmem ?_) htimer hgaddr hsaddr
    rintro rfl
    rw [is_current_iff, hgaddr, hsaddr, hsource, Option.any_some, htimer] at hold
    simp [same_object] at hold

variable {clk : SteadyClock} {get_if_name : ℕ → String} {get_virtual_if_index : ℕ → ℤ}

-- Every source waits for a timer that is still to come.
structure WaitingInv (es : List (RoutingInput α)) (s : RoutingState α) : Prop where
  handed_over : delivered es ⊆ s.env.timers
  waiting : DataOk (undelivered es s.env) (fun _ => True) s.m_data

-- And every route belongs to a source.
structure OwnedInv (es : List (RoutingInput α)) (s : RoutingState α) : Prop
    extends WaitingInv es s where
  owned : ∀ g sa, s.m_data.source g sa = none → routes s.env.calls g sa = none

-- A timer that was handed over is older than one that is made now.
theorem WaitingInv.fresh {es : List (RoutingInput α)} {s : RoutingState α}
    (h : WaitingInv es s) (hinv : RoutingInv s) (r : SimpleMcProxyRouting α)
    (if_index : ℕ) (gaddr saddr : α) :
    (set_source_timer clk r if_index gaddr saddr s.env).1 ∉ delivered es := by
  intro hmem
  have hlt := hinv.timers.fresh _ (h.handed_over hmem)
  exact absurd hlt (lt_irrefl s.env.next_id)

-- A route goes with its source.
theorem OwnedInv.owned_step {es : List (RoutingInput α)} {s s' : RoutingState α}
    {input : RoutingInput α} (h : OwnedInv es s) (hinv : RoutingInv s) (hinv' : RoutingInv s')
    {g sa : α} (hstep : RouteStep get_if_name get_virtual_if_index input s s' g sa)
    (hsource : s'.m_data.source g sa = none) : routes s'.env.calls g sa = none := by
  cases hstep with
  | kept hevent hinterface hroute =>
    rw [← hinv'.data.interface_eq_none_iff, hinterface, hinv.data.interface_eq_none_iff]
      at hsource
    rw [hroute, h.owned g sa hsource]
  | calculated i hinterface hroute =>
    exact absurd hsource (source_isSome_of_interface hinv'.data hinterface)
  | deleted hinterface hroute => exact hroute

section Steps

variable {es : List (RoutingInput α)} {s : RoutingState α} {input : RoutingInput α}
  {tm : NewSourceTimerMsg α} {d : SimpleRoutingData α} {nst : NewSourceTimerMsg α × RoutingEnv α}

theorem WaitingInv.new_source (h : WaitingInv es s) (hinv : RoutingInv s)
    (hnone : input.delivers = none) (if_index : ℕ) (gaddr saddr : α)
    (hnst : nst = set_source_timer clk ⟨input.m_p, s.m_data⟩ if_index gaddr saddr s.env)
    (hd : d = s.m_data.set_source input.mroute_stats if_index gaddr
      { saddr := saddr, shared_source_timer := some nst.1.timer_msg }) :
    WaitingInv (es ++ [input]) ⟨d, nst.2⟩ := by
  have hes : delivered (es ++ [input]) = delivered es := delivered_of_none hnone
  have htimers : nst.2.timers = s.env.timers ++ [nst.1] := by
    rw [hnst]
    exact timers_set_source_timer _ if_index gaddr saddr s.env
  have hfresh : nst.1 ∉ delivered es := hnst ▸ h.fresh hinv _ if_index gaddr saddr
  have hsub : undelivered es s.env ⊆ undelivered (es ++ [input]) nst.2 := by
    intro t ht
    obtain ⟨hmem, hnot⟩ := mem_undelivered.mp ht
    rw [mem_undelivered, htimers, hes]
    exact ⟨List.mem_append_left _ hmem, hnot⟩
  have hnew : nst.1 ∈ undelivered (es ++ [input]) nst.2 := by
    rw [mem_undelivered, htimers, hes]
    exact ⟨List.mem_append_right _ (List.mem_singleton_self _), hfresh⟩
  constructor
  · intro t ht
    rw [hes] at ht
    exact htimers ▸ List.mem_append_left _ (h.handed_over ht)
  · subst hnst hd
    exact (h.waiting.mono hsub).set_source hnew input.mroute_stats

theorem WaitingInv.state_change (h : WaitingInv es s) (hnone : input.delivers = none) :
    WaitingInv (es ++ [input]) s := by
  have hes : delivered (es ++ [input]) = delivered es := delivered_of_none hnone
  refine ⟨hes ▸ h.handed_over, h.waiting.mono fun t ht => ?_⟩
  obtain ⟨hmem, hnot⟩ := mem_undelivered.mp ht
  exact mem_undelivered.mpr ⟨hmem, hes ▸ hnot⟩

theorem WaitingInv.deleted (h : WaitingInv es s) (hinv : RoutingInv s)
    (htm : tm ∈ s.env.timers)
    (hevent : input.event = .timer_triggerd_maintain_routing_table tm false)
    (hd : s.m_data.refresh_source_or_del_it_if_unused input.mroute_stats tm.m_gaddr tm.m_saddr =
      (d, false)) : WaitingInv (es ++ [input]) ⟨d, s.env⟩ := by
  have hdata := h.waiting.refresh input.mroute_stats tm.m_gaddr tm.m_saddr
  rw [hd] at hdata
  have hold : is_current d tm = false := by
    rw [is_current_iff, (refresh_deletes hinv.data hd).1]
    rfl
  exact ⟨delivered_subset_of_timer hevent h.handed_over htm,
    hdata.without hold fun t ht hne => undelivered_of_timer hevent (fun _ ht => ht) ht hne⟩

theorem WaitingInv.refreshed (h : WaitingInv es s) (hinv : RoutingInv s)
    (htm : tm ∈ s.env.timers)
    (hevent : input.event = .timer_triggerd_maintain_routing_table tm false)
    (hcurrent : is_current s.m_data tm = true)
    (hd : s.m_data.refresh_source_or_del_it_if_unused input.mroute_stats tm.m_gaddr tm.m_saddr =
      (d, true))
    (hnst : nst = set_source_timer clk ⟨input.m_p, d⟩ tm.m_if_index tm.m_gaddr tm.m_saddr
      s.env) :
    WaitingInv (es ++ [input])
      ⟨d.set_shared_source_timer tm.m_gaddr tm.m_saddr nst.1.timer_msg, nst.2⟩ := by
  have htimers : nst.2.timers = s.env.timers ++ [nst.1] := by
    rw [hnst]
    exact timers_set_source_timer _ tm.m_if_index tm.m_gaddr tm.m_saddr s.env
  have hsub : s.env.timers ⊆ nst.2.timers := htimers ▸ List.subset_append_left _ _
  have hfresh : nst.1 ∉ delivered es := hnst ▸ h.fresh hinv _ _ _ _
  have hyounger : tm.id ≠ nst.1.id := by
    rw [hnst]
    exact (hinv.timers.fresh tm htm).ne
  have hinterface := hinv.data.interface_of_current hinv.timers.distinct htm hcurrent
  have hrefreshed := (h.waiting.mono (List.subset_cons_self nst.1 _)).refresh
    input.mroute_stats tm.m_gaddr tm.m_saddr
  rw [hd] at hrefreshed
  have hdata : DataOk (nst.1 :: undelivered es s.env) (fun _ => True)
      (d.set_shared_source_timer tm.m_gaddr tm.m_saddr nst.1.timer_msg) := by
    have hi := ((refresh_keeps hd).1 tm.m_gaddr tm.m_saddr).trans hinterface
    subst hnst
    exact hrefreshed.set_shared_source_timer List.mem_cons_self hi
  -- the source now points to the new timer
  have hold : is_current (d.set_shared_source_timer tm.m_gaddr tm.m_saddr nst.1.timer_msg) tm =
      false := by
    rw [is_current_iff, source_set_shared_source_timer]
    cases d.source tm.m_gaddr tm.m_saddr with
    | none => rfl
    | some src => simp [same_object, NewSourceTimerMsg.timer_msg, Ne.symm hyounger]
  refine ⟨delivered_subset_of_timer hevent (fun t ht => hsub (h.handed_over ht)) (hsub htm),
    hdata.without hold fun t ht hne => ?_⟩
  rcases List.mem_cons.mp ht with rfl | ht
  · refine mem_undelivered.mpr ⟨htimers ▸ List.mem_append_right _ List.mem_cons_self, ?_⟩
    exact fun hdel => ((mem_delivered_of_timer hevent).mp hdel).elim hfresh hne
  · exact undelivered_of_timer hevent hsub ht hne

end Steps

theorem WaitingInv.step {es : List (RoutingInput α)} {s s' : RoutingState α}
    {input : RoutingInput α} (h : WaitingInv es s) (hinv : RoutingInv s)
    (henabled : (routing α clk get_if_name get_virtual_if_index).enabled s input)
    (huses : counts_uses s input)
    (hstep : RoutingStep clk get_if_name get_virtual_if_index s input s') :
    WaitingInv (es ++ [input]) s' := by
  -- the calls about routes and those of the sender leave the timers alone
  cases hstep with
  | new_source if_index gaddr saddr records hevent nst hnst d hd =>
    have hwait := h.new_source hinv (by rw [RoutingInput.delivers, hevent]) if_index gaddr saddr
      hnst hd
    exact ⟨hwait.handed_over, hwait.waiting⟩
  | state_change if_index gaddr records hevent =>
    have hwait := h.state_change (by rw [RoutingInput.delivers, hevent])
    exact ⟨hwait.handed_over, hwait.waiting⟩
  | outdated tm unique hevent hold =>
    have htm : tm ∈ s.env.timers := by simpa [routing, hevent] using henabled
    have hcurrent : is_current s.m_data tm = false := by
      cases unique with
      | false => simpa using hold
      | true => simpa [counts_uses, hevent] using huses
    exact ⟨delivered_subset_of_timer hevent h.handed_over htm,
      h.waiting.without hcurrent fun t ht hne =>
        undelivered_of_timer hevent (fun _ ht => ht) ht hne⟩
  | deleted tm records hevent hcurrent d hd =>
    have htm : tm ∈ s.env.timers := by simpa [routing, hevent] using henabled
    have hwait := h.deleted hinv htm hevent hd
    exact ⟨hwait.handed_over, hwait.waiting⟩
  | refreshed tm hevent hcurrent d hd nst hnst =>
    have htm : tm ∈ s.env.timers := by simpa [routing, hevent] using henabled
    exact h.refreshed hinv htm hevent hcurrent hd hnst

theorem OwnedInv.step {es : List (RoutingInput α)} {s s' : RoutingState α}
    {input : RoutingInput α} (h : OwnedInv es s) (hinv : RoutingInv s)
    (hinv' : RoutingInv s')
    (henabled : (routing α clk get_if_name get_virtual_if_index).enabled s input)
    (huses : counts_uses s input)
    (hstep : RoutingStep clk get_if_name get_virtual_if_index s input s') :
    OwnedInv (es ++ [input]) s' where
  toWaitingInv := h.toWaitingInv.step hinv henabled huses hstep
  owned g sa := h.owned_step hinv hinv' (route_step hinv hstep g sa)

theorem owned_inv {es : List (RoutingInput α)} {s : RoutingState α}
    (run : ((routing α clk get_if_name get_virtual_if_index).restrict counts_uses).Run es s) :
    OwnedInv es s := by
  induction run with
  | nil =>
    refine ⟨⟨List.nil_subset _, fun g v hv => ?_⟩, fun g sa _ => rfl⟩
    simp [Machine.restrict, routing] at hv
  | @snoc es s s' input run henabled hstep ih =>
    have hreach := run.of_restrict.reachable
    have hinv' := routing_inv (hreach.step henabled.1 hstep)
    obtain ⟨t, ht, hcases⟩ := routing_step_cases clk get_if_name get_virtual_if_index s input
    obtain rfl := Except.ok.inj (ht.symm.trans hstep)
    exact ih.step (routing_inv hreach) hinv' henabled.1 henabled.2 hcases

-- The timer of a source that is idle takes the source and its route away.
theorem idle_source_deleted {s s' : RoutingState α} (hinv : RoutingInv s)
    {tm : NewSourceTimerMsg α} (hcurrent : is_current s.m_data tm = true) {src : Source α}
    (hsrc : s.m_data.source tm.m_gaddr tm.m_saddr = some src) {m_p : ProxyInstanceState α}
    {mroute_stats : MrouteStats α}
    (hidle : to_unsigned_long src.retransmission_count =
      get_current_packet_count mroute_stats tm.m_gaddr tm.m_saddr)
    (hstep : routing_step clk get_if_name get_virtual_if_index s
      ⟨m_p, mroute_stats, .timer_triggerd_maintain_routing_table tm false⟩ = .ok s') :
    s'.m_data.source tm.m_gaddr tm.m_saddr = none ∧
      routes s'.env.calls tm.m_gaddr tm.m_saddr = none := by
  have hfalse := refresh_of_idle hsrc hidle
  obtain ⟨t, ht, hcases⟩ := routing_step_cases clk get_if_name get_virtual_if_index s
    ⟨m_p, mroute_stats, .timer_triggerd_maintain_routing_table tm false⟩
  obtain rfl := Except.ok.inj (ht.symm.trans hstep)
  cases hcases with
  | new_source _ _ _ _ hevent => cases hevent
  | state_change _ _ _ hevent => cases hevent
  | outdated _ _ hevent hold =>
    cases hevent
    simp [hcurrent] at hold
  | deleted _ records hevent _ d hd =>
    cases hevent
    refine ⟨(refresh_deletes hinv.data hd).1, ?_⟩
    rw [routes_send_records]
    exact routes_append_singleton rfl
  | refreshed _ hevent _ d hd =>
    cases hevent
    rw [hd] at hfalse
    cases hfalse

-- No route is left behind: it belongs to a recorded source, whose timer is still to come and takes
-- both away unless packets were counted meanwhile.
theorem routes_owned {es : List (RoutingInput α)} {s : RoutingState α}
    (run : ((routing α clk get_if_name get_virtual_if_index).restrict counts_uses).Run es s)
    {gaddr saddr : α} {route : Route} (hroute : routes s.env.calls gaddr saddr = some route) :
    ∃ tm ∈ s.env.timers, tm ∉ delivered es ∧ tm.m_gaddr = gaddr ∧ tm.m_saddr = saddr ∧
      is_current s.m_data tm = true ∧
      ∃ src, s.m_data.source gaddr saddr = some src ∧
        ∀ m_p mroute_stats s', to_unsigned_long src.retransmission_count =
            get_current_packet_count mroute_stats gaddr saddr →
          routing_step clk get_if_name get_virtual_if_index s
              ⟨m_p, mroute_stats, .timer_triggerd_maintain_routing_table tm false⟩ = .ok s' →
            s'.m_data.source gaddr saddr = none ∧ routes s'.env.calls gaddr saddr = none := by
  have hinv := routing_inv run.of_restrict.reachable
  have howned := owned_inv run
  have hrec := howned.waiting.recorded gaddr saddr
  cases hsrc : s.m_data.source gaddr saddr with
  | none =>
    rw [howned.owned gaddr saddr hsrc] at hroute
    cases hroute
  | some src =>
    rw [hsrc] at hrec
    generalize s.m_data.interface gaddr saddr = i at hrec
    cases hrec with
    | present _ tm hmem htimer hgaddr hsaddr =>
      subst hgaddr hsaddr
      obtain ⟨htm, hnot⟩ := mem_undelivered.mp hmem
      have hcurrent : is_current s.m_data tm = true := by
        rw [is_current_iff, hsrc, Option.any_some, htimer]
        exact same_object_self _
      refine ⟨tm, htm, hnot, rfl, rfl, hcurrent, src, rfl, ?_⟩
      intro m_p mroute_stats s' hidle hstep
      exact idle_source_deleted hinv hcurrent hsrc hidle hstep

-- Source 3 sends to group 7 from the downstream; its first timer finds new packets.
theorem route_owned_after_refresh :
    ∃ (es : List (RoutingInput Ipv4Addr)) (s : RoutingState Ipv4Addr) (route : Route),
      ((routing Ipv4Addr ticking example_a_names (fun i => i)).restrict counts_uses).Run es s ∧
        (delivered es).length = 1 ∧ s.env.timers.length = 2 ∧
        routes s.env.calls 7 3 = some route ∧
        ∃ tm ∈ s.env.timers, tm ∉ delivered es ∧ tm.m_gaddr = 7 ∧ tm.m_saddr = 3 ∧
          is_current s.m_data tm = true := by
  obtain ⟨s, run, hs⟩ := Machine.exists_run_of_exec
    ((routing Ipv4Addr ticking example_a_names (fun i => i)).restrict counts_uses)
    [⟨first_rule_state, fun _ _ => none, .event_new_source 1 7 3⟩,
      ⟨first_rule_state, fun _ _ => some 5,
        .timer_triggerd_maintain_routing_table (source_timer 0 1 7 3 0) false⟩]
    (fun s => decide (s.env.timers.length = 2) && (routes s.env.calls 7 3).isSome) rfl
  rw [Bool.and_eq_true, decide_eq_true_eq, Option.isSome_iff_exists] at hs
  obtain ⟨route, hroute⟩ := hs.2
  obtain ⟨tm, htm, hnot, hgaddr, hsaddr, hcurrent, -⟩ := routes_owned run hroute
  exact ⟨_, s, route, run, rfl, hs.1, hroute, tm, htm, hnot, hgaddr, hsaddr, hcurrent⟩

end Owned

end Mcproxy
