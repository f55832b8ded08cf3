import Mcproxy.Querier.View
import Mcproxy.Transition.Simulation

namespace Mcproxy

open Container Transition McFilter McastAddrRecordType MessageType GroupMemProtocol

variable {α : Type*} [LinearOrder α]

section Observed

-- What an event is to the router table of one group. A report is what the compatibility
-- coordination leaves of it; a timer counts for the slot that still refers to it.
def observed_record (cfg : Config) (gr : GroupRecordMsg α) (q : Querier α) :
    List (RouterEvent α) :=
  let ginfo := (note_older_host cfg q.m_db.querier_version_mode gr.grp_mem_proto gr.gaddr
    (q.group gr.gaddr) q.env).1
  if ginfo.is_in_backward_compatibility_mode && gr.record_type = BLOCK_OLD_SOURCES then []
  else [.received gr.record_type (compatible_slist ginfo gr).addrs]

def observed_timer (msg : TimerMsg α) : Option (GaddrInfo α) → List (RouterEvent α)
  | none => []
  | some ginfo =>
    match msg.type with
    | SOURCE_TIMER_MSG => [.source_timer_expired (ginfo.holders msg)]
    | FILTER_TIMER_MSG =>
      if same_object ginfo.shared_filter_timer msg then [.filter_timer_expired] else []
    | _ => []

def observed (cfg : Config) (gaddr : α) (q : Querier α) : Event α → List (RouterEvent α)
  | .record gr => if gr.gaddr = gaddr then observed_record cfg gr q else []
  | .timer msg unique =>
    if !unique && msg.gaddr = some gaddr then
      observed_timer msg (OrdMap.lookup q.m_db.group_info gaddr)
    else []

end Observed

section Step

variable {cfg : Config} {mode : GroupMemProtocol} {gaddr : α} {ginfo ginfo' : GaddrInfo α}
  {q q' : Querier α} {gr : GroupRecordMsg α} {msg : TimerMsg α} {unique : Bool}

theorem receive_record_router_state (hinv : QuerierInv q) (h : receive_record cfg gr q = .ok q') :
    router_state (OrdMap.lookup q'.m_db.group_info gr.gaddr) =
      (observed_record cfg gr q).foldl RouterState.step
        (router_state (OrdMap.lookup q.m_db.group_info gr.gaddr)) := by
  unfold observed_record
  rcases receive_record_row hinv h rfl with ⟨hcompat, htype, hlook⟩ | ⟨hnot, hrow⟩
  · rw [if_pos (by rw [hcompat, htype]; rfl), hlook, router_state, router_state_note_older_host,
      ← router_state_group]
    rfl
  · rw [if_neg (by simpa using hnot)]
    exact hrow.state

theorem addrs_eq_empty {l : SourceList α} (h : l.isEmpty = true) : l.addrs = ∅ := by
  ext a
  simpa using OrdSet.isEmpty_iff.mp h a

theorem source_timer_router_state (gaddr : α) (ginfo : GaddrInfo α) (msg : TimerMsg α)
    (q : Querier α) :
    router_state (OrdMap.lookup
        (timer_triggerd_source_timer gaddr ginfo msg q).m_db.group_info gaddr) =
      ginfo.router_state.source_timer_expired (ginfo.holders msg) := by
  unfold timer_triggerd_source_timer
  have hkept := addrs_kept ginfo msg
  cases hmode : ginfo.filter_mode with
  | INCLUDE_MODE =>
    rw [GaddrInfo.router_state_include hmode, RouterState.source_timer_expired, ← hkept]
    dsimp only
    split_ifs with hempty
    · rw [Querier.lookup_del, if_pos rfl, addrs_eq_empty hempty]
      rfl
    · rw [Querier.lookup_put, if_pos rfl]
      rfl
  | EXCLUDE_MODE =>
    rw [GaddrInfo.router_state_exclude hmode, RouterState.source_timer_expired, ← hkept,
      ← addrs_moved]
    dsimp only
    rw [Querier.lookup_put, if_pos rfl]
    rfl

theorem filter_timer_router_state (hlook : OrdMap.lookup q.m_db.group_info gaddr = some ginfo)
    (hsame : same_object ginfo.shared_filter_timer msg = true) :
    router_state (OrdMap.lookup (filter_timer_expired gaddr ginfo msg q).m_db.group_info gaddr) =
      ginfo.router_state.filter_timer_expired := by
  unfold filter_timer_expired
  rw [hsame]
  cases hmode : ginfo.filter_mode with
  | INCLUDE_MODE =>
    rw [GaddrInfo.router_state_include hmode, RouterState.filter_timer_expired,
      ← GaddrInfo.router_state_include hmode]
    exact congrArg router_state hlook
  | EXCLUDE_MODE =>
    rw [GaddrInfo.router_state_exclude hmode, RouterState.filter_timer_expired]
    simp only [Bool.not_true, Bool.false_eq_true, if_false]
    split_ifs with hempty
    · rw [Querier.lookup_del, if_pos rfl, addrs_eq_empty hempty]
      rfl
    · rw [Querier.lookup_put, if_pos rfl]
      rfl

-- The other timers are about queries and versions.
theorem GroupTimerStep.router_state_eq (h : GroupTimerStep cfg gaddr msg ginfo q q')
    (hlook : OrdMap.lookup q.m_db.group_info gaddr = some ginfo)
    (hsource : msg.type ≠ SOURCE_TIMER_MSG) (hfilter : msg.type ≠ FILTER_TIMER_MSG)
    (hunused : msg.is_used_as_source_timer = false) :
    router_state (OrdMap.lookup q'.m_db.group_info gaddr) = ginfo.router_state := by
  cases h with
  | ignored => exact congrArg router_state hlook
  | erased htype | sources_deleted htype | sources_moved htype =>
    rcases htype with htype | htype
    · exact absurd htype hsource
    · exact absurd htype hfilter
  | filter_expired htype => exact absurd htype hfilter
  | shared hused => cases hused.symm.trans hunused
  | group_queried _ _ hr =>
    obtain ⟨ft, rt, count, hfst⟩ := send_Q_group_frame hr
    rw [Querier.lookup_put, if_pos rfl, hfst]
    rfl
  | sources_queried =>
    rw [Querier.lookup_put, if_pos rfl, router_state, GaddrInfo.router_state,
      GaddrInfo.router_state, send_Q_filter_mode, send_Q_exclude_list, addrs_send_Q]
  | older_host_gone _ _ hginfo' =>
    rw [Querier.lookup_put, if_pos rfl, hginfo']
    rfl
  | newer_host =>
    rw [Querier.lookup_put, if_pos rfl]
    rfl

theorem timer_triggerd_group_router_state
    (hlook : OrdMap.lookup q.m_db.group_info gaddr = some ginfo)
    (hunused : msg.is_used_as_source_timer = false)
    (h : timer_triggerd_group cfg gaddr ginfo msg q = .ok q') :
    router_state (OrdMap.lookup q'.m_db.group_info gaddr) =
      (observed_timer msg (some ginfo)).foldl RouterState.step ginfo.router_state := by
  by_cases hsource : msg.type = SOURCE_TIMER_MSG
  · simp only [timer_triggerd_group, hsource] at h
    obtain rfl := Except.ok.inj h
    simp only [observed_timer, hsource]
    exact source_timer_router_state gaddr ginfo msg q
  by_cases hfilter : msg.type = FILTER_TIMER_MSG
  · simp only [timer_triggerd_group, hfilter, timer_triggerd_filter_timer, hunused,
      Bool.false_eq_true, if_false] at h
    obtain rfl := Except.ok.inj h
    simp only [observed_timer, hfilter]
    split_ifs with hsame
    · exact filter_timer_router_state hlook hsame
    · rw [filter_timer_expired, if_pos (by simpa using hsame)]
      exact congrArg router_state hlook
  · have hnothing : observed_timer msg (some ginfo) = [] := by
      unfold observed_timer
      split <;> simp_all
    rw [hnothing]
    exact (timer_triggerd_group_step h).router_state_eq hlook hsource hfilter hunused

theorem querier_step_router_state {e : Event α} (hinv : QuerierInv q)
    (he : querier_enabled mode q e) (h : querier_step cfg q e = .ok q') (gaddr : α) :
    router_state (OrdMap.lookup q'.m_db.group_info gaddr) =
      (observed cfg gaddr q e).foldl RouterState.step
        (router_state (OrdMap.lookup q.m_db.group_info gaddr)) := by
  cases e with
  | record gr =>
    simp only [observed]
    split_ifs with hg
    · subst hg
      exact receive_record_router_state hinv h
    · exact congrArg router_state (receive_record_lookup_of_ne h (Ne.symm hg))
  | timer msg unique =>
    cases unique with
    | true =>
      obtain rfl := Except.ok.inj h
      rfl
    | false =>
      simp only [observed, Bool.not_false, Bool.true_and, decide_eq_true_eq]
      rcases timer_triggerd_cases h with
        ⟨hu, -⟩ | ⟨htype, rfl⟩ | ⟨hnone, rfl⟩ | ⟨g, ginfo, hg, hl, hs⟩
      · cases hu
      · have hnothing : ∀ found, observed_timer msg found = ([] : List (RouterEvent α)) := by
          intro found
          cases found with
          | none => rfl
          | some ginfo => simp only [observed_timer, htype]
        have hdb : OrdMap.lookup (timer_triggerd_general_query_timer cfg msg
            (q.deliver msg)).m_db.group_info gaddr = OrdMap.lookup q.m_db.group_info gaddr := by
          unfold timer_triggerd_general_query_timer
          split_ifs <;> rfl
        rw [hnothing, ite_self, hdb]
        rfl
      · split_ifs with hgaddr
        · have hlook : OrdMap.lookup q.m_db.group_info gaddr = none := hnone gaddr hgaddr
          rw [hlook]
          exact congrArg router_state hlook
        · rfl
      · split_ifs with hgaddr
        · obtain rfl := Option.some.inj (hg.symm.trans hgaddr)
          have hlook : OrdMap.lookup q.m_db.group_info g = some ginfo := hl
          rw [hlook]
          exact timer_triggerd_group_router_state hl (hinv.pending.unused msg he.1) hs
        · have hne : gaddr ≠ g := fun heq => hgaddr (heq ▸ hg)
          exact congrArg router_state ((timer_triggerd_group_step hs).lookup_of_ne hne)

end Step

section Run

variable {cfg : Config} {mode : GroupMemProtocol} {q : Querier α} {es : List (Event α)}
  {tr : List (RouterEvent α)}

-- Whether an older host keeps the state of the group from being seen.
def Querier.older_host_present (q : Querier α) (gaddr : α) : Bool :=
  (OrdMap.lookup q.m_db.group_info gaddr).any GaddrInfo.is_under_bakcward_compatibility_effects

theorem accept_infos (q : Querier α) (gaddr : α) :
    accept (get_group_membership_infos q.m_db gaddr) =
      if q.older_host_present gaddr then Set.univ
      else (router_state (OrdMap.lookup q.m_db.group_info gaddr)).accept := by
  unfold get_group_membership_infos Querier.older_host_present
  cases OrdMap.lookup q.m_db.group_info gaddr with
  | none => exact accept_none
  | some ginfo =>
    rw [Option.any_some]
    split_ifs with hold
    · exact accept_of_older_host hold
    · exact accept_of_no_older_host (Bool.eq_false_of_not_eq_true hold)

-- Over every run, the record of a group is where the router table ends up with the reports
-- about the group and the timers it still referred to, and nothing else has a say in it.
theorem querier_follows_router_table (gaddr : α)
    (run : (querier α cfg mode).Traced (observed cfg gaddr) es tr q) :
    router_state (OrdMap.lookup q.m_db.group_info gaddr) =
        tr.foldl RouterState.step (.INCLUDE ∅) ∧
      accept (get_group_membership_infos q.m_db gaddr) =
        if q.older_host_present gaddr then Set.univ
        else (tr.foldl RouterState.step (.INCLUDE ∅)).accept := by
  have hstate : router_state (OrdMap.lookup q.m_db.group_info gaddr) =
      tr.foldl RouterState.step (.INCLUDE ∅) := by
    apply run.foldl_eq RouterState.step
      fun q : Querier α => router_state (OrdMap.lookup q.m_db.group_info gaddr)
    intro q e q' hq he hstep
    exact querier_step_router_state (querier_inv hq) he hstep gaddr
  exact ⟨hstate, hstate ▸ accept_infos q gaddr⟩

-- A group that is left for one source while another group is joined.
theorem router_table_of_two_groups : ∃ (q : Querier Ipv4Addr) (tr : List (RouterEvent Ipv4Addr)),
    (querier Ipv4Addr default_config IGMPv3).Traced (observed default_config 7)
        [.record ⟨CHANGE_TO_EXCLUDE_MODE, 7, sources [9], IGMPv3⟩,
          .record ⟨MODE_IS_EXCLUDE, 8, sources [], IGMPv3⟩,
          .record ⟨CHANGE_TO_INCLUDE_MODE, 7, sources [3], IGMPv3⟩,
          .timer ⟨5, FILTER_TIMER_MSG, some 7, 2000000008, false⟩ false] tr q ∧
      (get_group_membership_infos q.m_db 7).2.keys = [3] ∧
      accept (get_group_membership_infos q.m_db 7) =
        (tr.foldl RouterState.step (.INCLUDE ∅)).accept := by
  obtain ⟨q, run, hq⟩ := Machine.exists_run_of_exec (querier Ipv4Addr default_config IGMPv3)
    [.record ⟨CHANGE_TO_EXCLUDE_MODE, 7, sources [9], IGMPv3⟩,
      .record ⟨MODE_IS_EXCLUDE, 8, sources [], IGMPv3⟩,
      .record ⟨CHANGE_TO_INCLUDE_MODE, 7, sources [3], IGMPv3⟩,
      .timer ⟨5, FILTER_TIMER_MSG, some 7, 2000000008, false⟩ false]
    (fun q => decide ((get_group_membership_infos q.m_db 7).2.keys = [3]) &&
      !q.older_host_present 7) (by decide +kernel)
  rw [Bool.and_eq_true, Bool.not_eq_true'] at hq
  obtain ⟨tr, htraced⟩ := run.traced (observed default_config 7)
  obtain ⟨-, haccept⟩ := querier_follows_router_table 7 htraced
  rw [hq.2] at haccept
  exact ⟨q, tr, htraced, of_decide_eq_true hq.1, haccept⟩

end Run

end Mcproxy
