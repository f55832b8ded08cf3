import Mcproxy.Querier.DeadRecords
import Mcproxy.Querier.Invariant

namespace Mcproxy

open Container Transition McFilter McastAddrRecordType MessageType GroupMemProtocol

variable {α : Type*} [LinearOrder α]

section Slots

-- Whether the slot of a record for timers of this type refers to the object.
def GaddrInfo.current (ginfo : GaddrInfo α) (msg : TimerMsg α) : Bool :=
  match msg.type with
  | FILTER_TIMER_MSG => same_object ginfo.shared_filter_timer msg
  | SOURCE_TIMER_MSG =>
    ginfo.include_requested_list.elems.any fun s => same_object s.shared_source_timer msg
  | RET_GROUP_TIMER_MSG => same_object ginfo.group_retransmission_timer msg
  | RET_SOURCE_TIMER_MSG => same_object ginfo.source_retransmission_timer msg
  | OLDER_HOST_PRESENT_TIMER_MSG => same_object ginfo.older_host_present_timer msg
  | _ => false

def MembershipDb.current (db : MembershipDb α) (msg : TimerMsg α) : Bool :=
  if msg.type = GENERAL_QUERY_TIMER_MSG then same_object db.general_query_timer msg
  else (msg.gaddr.bind fun gaddr => OrdMap.lookup db.group_info gaddr).any fun ginfo =>
    ginfo.current msg

def Action.is_query : Action α → Bool
  | .send_general_query => true
  | .send_mc_addr_specific_query _ _ => true
  | .send_mc_addr_and_src_specific_query _ _ _ => true
  | _ => false

-- The database is as before, and nothing was sent.
structure Untouched (q q' : Querier α) : Prop where
  m_db : q'.m_db = q.m_db
  quiet : ∃ acts, q'.env.trace = q.env.trace ++ acts ∧ ∀ a ∈ acts, a.is_query = false

variable {q : Querier α} {gaddr : α} {ginfo : GaddrInfo α} {msg : TimerMsg α}

theorem Untouched.refl (q : Querier α) : Untouched q q :=
  ⟨rfl, [], (List.append_nil _).symm, fun _ h => absurd h List.not_mem_nil⟩

-- Writing the record back as it was found, with a notification.
theorem Untouched.notify (hl : OrdMap.lookup q.m_db.group_info gaddr = some ginfo)
    (found : Option (GaddrInfo α)) :
    Untouched q (q.put gaddr ginfo (q.env.state_change_notification gaddr found)) := by
  refine ⟨?_, [_], rfl, List.forall_mem_singleton.mpr rfl⟩
  have hsame : OrdMap.assign q.m_db.group_info gaddr ginfo = q.m_db.group_info :=
    OrdMap.assign_of_lookup hl
  simp only [Querier.put, hsame]

end Slots

section Handlers

variable {cfg : Config} {q : Querier α} {gaddr : α} {ginfo : GaddrInfo α} {msg : TimerMsg α}

-- Without a source that holds the timer nothing is taken out of the lists.
theorem timer_triggerd_source_timer_of_stale
    (hl : OrdMap.lookup q.m_db.group_info gaddr = some ginfo) (halive : ginfo.alive)
    (hstale : ginfo.include_requested_list.elems.any
      (fun s => same_object s.shared_source_timer msg) = false) :
    Untouched q (timer_triggerd_source_timer gaddr ginfo msg q) := by
  have hnone : ∀ s ∈ ginfo.include_requested_list.elems,
      same_object s.shared_source_timer msg = false := by
    simpa using hstale
  have hkept : ginfo.include_requested_list.filter
      (fun s => !same_object s.shared_source_timer msg) = ginfo.include_requested_list :=
    OrdSet.filter_eq_self fun s hs => by rw [hnone s hs]; rfl
  have hmoved : (ginfo.include_requested_list.filter
      fun s => same_object s.shared_source_timer msg).elems = [] :=
    List.filter_eq_nil_iff.mpr fun s hs => by rw [hnone s hs]; exact Bool.false_ne_true
  unfold timer_triggerd_source_timer
  simp only [hkept]
  cases hmode : ginfo.filter_mode with
  | INCLUDE_MODE =>
    have hne : ginfo.include_requested_list.isEmpty = false := by
      rw [OrdSet.isEmpty_eq_false_iff]
      exact halive.resolve_left fun h => by cases hmode.symm.trans h
    simp only [hne, Bool.false_eq_true, if_false, ← hmode]
    exact Untouched.notify hl _
  | EXCLUDE_MODE =>
    have hempty : (OrdSet.map reset_timer reset_timer_saddr (ginfo.include_requested_list.filter
        fun s => same_object s.shared_source_timer msg)).elems = [] :=
      List.map_eq_nil_iff.mpr hmoved
    simp only [hempty, OrdSet.insertAll, List.foldl_nil, ← hmode]
    exact Untouched.notify hl _

theorem timer_triggerd_group_of_stale (hl : OrdMap.lookup q.m_db.group_info gaddr = some ginfo)
    (halive : ginfo.alive) (hunused : msg.is_used_as_source_timer = false)
    (hstale : ginfo.current msg = false) :
    ∃ q', timer_triggerd_group cfg gaddr ginfo msg q = .ok q' ∧ Untouched q q' := by
  unfold GaddrInfo.current at hstale
  unfold timer_triggerd_group
  cases ht : msg.type <;> simp only [ht] at hstale ⊢
  case FILTER_TIMER_MSG =>
    refine ⟨q, ?_, .refl q⟩
    simp [timer_triggerd_filter_timer, hunused, filter_timer_expired, hstale]
  case SOURCE_TIMER_MSG =>
    exact ⟨_, rfl, timer_triggerd_source_timer_of_stale hl halive hstale⟩
  case RET_GROUP_TIMER_MSG =>
    refine ⟨q, ?_, .refl q⟩
    simp [timer_triggerd_ret_group_timer, hstale]
  case RET_SOURCE_TIMER_MSG =>
    refine ⟨q, ?_, .refl q⟩
    simp [timer_triggerd_ret_source_timer, hstale]
  case OLDER_HOST_PRESENT_TIMER_MSG =>
    refine ⟨q, ?_, .refl q⟩
    simp [timer_triggerd_older_host_present_timer, hstale]
  all_goals exact ⟨q, rfl, .refl q⟩

theorem timer_triggerd_of_stale (halive : q.no_dead_records)
    (hunused : msg.is_used_as_source_timer = false) (hstale : q.m_db.current msg = false)
    (unique : Bool) : ∃ q', timer_triggerd cfg unique msg q = .ok q' ∧ Untouched q q' := by
  unfold timer_triggerd
  split_ifs with hunique hgeneral
  · exact ⟨q, rfl, .refl q⟩
  · refine ⟨q, ?_, .refl q⟩
    rw [MembershipDb.current, if_pos hgeneral] at hstale
    simp [timer_triggerd_general_query_timer, hstale]
  · rw [MembershipDb.current, if_neg hgeneral] at hstale
    cases hg : msg.gaddr with
    | none => exact ⟨q, rfl, .refl q⟩
    | some gaddr =>
      cases hl : OrdMap.lookup q.m_db.group_info gaddr with
      | none =>
        refine ⟨q, ?_, .refl q⟩
        simp only [hl]
      | some ginfo =>
        rw [hg, Option.bind_some, hl, Option.any_some] at hstale
        simp only [hl]
        exact timer_triggerd_group_of_stale hl (halive gaddr ginfo hl) hunused hstale

end Handlers

section Runs

variable {cfg : Config} {mode : GroupMemProtocol} {q : Querier α}

theorem querier_version_mode_eq (hq : (querier α cfg mode).Reachable q) :
    q.m_db.querier_version_mode = mode := by
  refine hq.invariant (fun q => q.m_db.querier_version_mode = mode) rfl ?_
  exact fun q e q' h _ hstep => (querier_step_role hstep).2.trans h

-- The receivers build no BLOCK of an older version.
theorem no_dead_records_of_newest (hmode : is_newest_version mode = true)
    (hq : (querier α cfg mode).Reachable q) : q.no_dead_records := by
  refine hq.invariant_of (fun q => q.m_db.querier_version_mode = mode) Querier.no_dead_records
    (fun q hq => querier_version_mode_eq hq) (new_querier_alive cfg mode) ?_
  intro q e q' hversion h he hstep
  refine (querier_step_alive_iff h hstep).mpr ?_
  cases e with
  | timer msg unique => exact id
  | record gr =>
    rintro ⟨hblock, -, hold | ⟨hold, -⟩⟩
    · rw [hversion, hmode] at hold
      cases hold
    · rw [he.newest_of_block hblock] at hold
      cases hold

-- A timer that is not the one its slot refers to changes nothing, whether or not the use
-- count gives it away.
theorem superseded_timer_harmless (hmode : is_newest_version mode = true)
    (hq : (querier α cfg mode).Reachable q) {msg : TimerMsg α} (hmem : msg ∈ q.env.timing)
    (hstale : q.m_db.current msg = false) (unique : Bool) :
    ∃ q', timer_triggerd cfg unique msg (q.deliver msg) = .ok q' ∧ q'.m_db = q.m_db ∧
      ∃ acts, q'.env.trace = q.env.trace ++ acts ∧ ∀ a ∈ acts, a.is_query = false := by
  have halive := no_dead_records_of_newest hmode hq
  have hunused := (querier_inv hq).pending.unused msg hmem
  obtain ⟨q', hstep, huntouched⟩ :=
    @timer_triggerd_of_stale α _ cfg (q.deliver msg) msg halive hunused hstale unique
  exact ⟨q', hstep, huntouched.m_db, huntouched.quiet⟩

-- The second join gives the source a new timer; the first one still arrives.
theorem superseded_source_timer_harmless : ∃ (q : Querier Ipv4Addr) (msg : TimerMsg Ipv4Addr),
    (querier Ipv4Addr default_config IGMPv3).Reachable q ∧ msg ∈ q.env.timing ∧
      msg.type = SOURCE_TIMER_MSG ∧ q.m_db.current msg = false ∧
      ∃ q', timer_triggerd default_config false msg (q.deliver msg) = .ok q' ∧
        q'.m_db = q.m_db ∧
        ∃ acts, q'.env.trace = q.env.trace ++ acts ∧ ∀ a ∈ acts, a.is_query = false := by
  obtain ⟨q, run, hq⟩ := Machine.exists_run_of_exec (querier Ipv4Addr default_config IGMPv3)
    [.record ⟨ALLOW_NEW_SOURCES, 7, sources [3], IGMPv3⟩,
      .record ⟨ALLOW_NEW_SOURCES, 7, sources [3], IGMPv3⟩]
    (fun q => q.env.timing.any fun msg =>
      msg.type = SOURCE_TIMER_MSG && !q.m_db.current msg) rfl
  obtain ⟨msg, hmem, hmsg⟩ := List.any_eq_true.mp hq
  rw [Bool.and_eq_true, decide_eq_true_eq, Bool.not_eq_true'] at hmsg
  exact ⟨q, msg, run.reachable, hmem, hmsg.1, hmsg.2,
    superseded_timer_harmless rfl run.reachable hmem hmsg.2 false⟩

end Runs

end Mcproxy
