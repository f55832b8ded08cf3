import Mcproxy.Querier.Refinement

namespace Mcproxy

open Container Transition McFilter McastAddrRecordType MessageType GroupMemProtocol

variable {α : Type*} [LinearOrder α]

section Rows

variable {cfg : Config} {gaddr : α} {ginfo : GaddrInfo α} {slist : SourceList α} {env : Env α}

-- What the timer of a source is after a query that asks about it.
def queried_timer (cfg : Config) (gaddr : α) (env : Env α) (s : Source α) :
    Option (TimerMsg α) :=
  if s.retransmission_count < 1 then some (llqt_timer cfg gaddr env) else s.shared_source_timer

theorem send_Q_queried (cfg : Config) (gaddr : α) {ginfo : GaddrInfo α} {tmp : SourceList α}
    (ret : Bool) (env : Env α) {a : α} {s : Source α} (ha : a ∈ tmp)
    (hs : ginfo.include_requested_list.find a = some s) :
    ∃ s', (send_Q cfg gaddr ginfo tmp ret env).1.include_requested_list.find a = some s' ∧
      s'.shared_source_timer = queried_timer cfg gaddr env s := by
  have hmem := (mem_send_Q cfg gaddr ginfo tmp ret env a).mpr (OrdSet.mem_of_find hs)
  obtain ⟨s', hs'⟩ := OrdSet.mem_iff_find.mp hmem
  obtain ⟨s₀, hs₀, ht⟩ := send_Q_timer hs'
  obtain rfl := Option.some.inj (hs.symm.trans hs₀)
  refine ⟨s', hs', ?_⟩
  simpa [queried_timer, ha] using ht

theorem receive_record_in_include_mode_queried (cfg : Config) (record_type : McastAddrRecordType)
    (gaddr : α) (env : Env α) (hmode : ginfo.filter_mode = INCLUDE_MODE) {a : α} {s : Source α}
    (hs : ginfo.include_requested_list.find a = some s)
    (ha : a ∈ ginfo.router_state.query_set record_type slist.addrs) :
    ∃ s', (receive_record_in_include_mode cfg record_type gaddr slist ginfo
        env).1.include_requested_list.find a = some s' ∧
      s'.shared_source_timer = queried_timer cfg gaddr env s := by
  rw [GaddrInfo.router_state_include hmode] at ha
  cases record_type with
  | BLOCK_OLD_SOURCES =>
    have htmp : a ∈ ginfo.include_requested_list * slist := (SourceList.mem_mul ..).mpr ha
    exact send_Q_queried cfg gaddr false env htmp hs
  | CHANGE_TO_EXCLUDE_MODE =>
    have hB : a ∈ slist := ha.2
    have hfind : (ginfo.include_requested_list * slist).find a = some s := by
      rw [SourceList.find_mul, if_pos hB, hs]
    have htmp : a ∈ ginfo.include_requested_list * slist * slist :=
      (SourceList.mem_mul ..).mpr ⟨OrdSet.mem_of_find hfind, hB⟩
    exact send_Q_queried cfg gaddr false env htmp hfind
  | CHANGE_TO_INCLUDE_MODE =>
    have hB : a ∉ slist := ha.2
    have hfind : (ginfo.include_requested_list + slist).find a = some s := by
      rw [SourceList.find_add, hs, Option.some_or]
    have htmp : a ∈ ginfo.include_requested_list + slist - slist :=
      (SourceList.mem_sub ..).mpr ⟨OrdSet.mem_of_find hfind, hB⟩
    simp only [receive_record_in_include_mode]
    rw [find_mali, if_neg hB]
    exact send_Q_queried cfg gaddr false env htmp hfind
  | ALLOW_NEW_SOURCES | MODE_IS_INCLUDE | MODE_IS_EXCLUDE | unknown =>
    exact absurd ha (Set.notMem_empty a)

theorem receive_record_in_exclude_mode_queried {record_type : McastAddrRecordType}
    {r : GaddrInfo α × Env α} (hmode : ginfo.filter_mode = EXCLUDE_MODE)
    (h : receive_record_in_exclude_mode cfg record_type gaddr slist ginfo env = .ok r) {a : α}
    {s : Source α} (hs : ginfo.include_requested_list.find a = some s)
    (ha : a ∈ ginfo.router_state.query_set record_type slist.addrs) :
    ∃ s', r.1.include_requested_list.find a = some s' ∧
      s'.shared_source_timer = queried_timer cfg gaddr env s := by
  rw [GaddrInfo.router_state_exclude hmode] at ha
  cases record_type with
  | BLOCK_OLD_SOURCES =>
    obtain rfl := Except.ok.inj h
    have htmp : a ∈ slist - ginfo.exclude_list := (SourceList.mem_sub ..).mpr ha
    refine send_Q_queried cfg gaddr false env htmp ?_
    exact (SourceList.find_add ..).trans (by rw [hs, Option.some_or])
  | CHANGE_TO_EXCLUDE_MODE =>
    obtain rfl := Except.ok.inj h
    have hA : a ∈ slist := ha.1
    have hfind : (ginfo.include_requested_list * slist +
        (slist - ginfo.exclude_list)).find a = some s := by
      rw [SourceList.find_add, SourceList.find_mul, if_pos hA, hs, Option.some_or]
    exact send_Q_queried cfg gaddr false env (OrdSet.mem_of_find hfind) hfind
  | CHANGE_TO_INCLUDE_MODE =>
    obtain ⟨r', hr', rfl⟩ := exists_of_map_ok h
    obtain ⟨ft, rt, count, hfst⟩ := send_Q_group_frame hr'
    have hA : a ∉ slist := ha.2
    have hfind : (ginfo.include_requested_list + slist).find a = some s := by
      rw [SourceList.find_add, hs, Option.some_or]
    have htmp : a ∈ ginfo.include_requested_list + slist - slist :=
      (SourceList.mem_sub ..).mpr ⟨OrdSet.mem_of_find hfind, hA⟩
    dsimp only
    rw [find_mali, if_neg hA, hfst]
    exact send_Q_queried cfg gaddr false env htmp hfind
  | ALLOW_NEW_SOURCES | MODE_IS_INCLUDE | MODE_IS_EXCLUDE | unknown =>
    exact absurd ha (Set.notMem_empty a)

-- The filter timer is made after the queries for the sources went out.
theorem leave_filter_timer {r : GaddrInfo α × Env α}
    (h : receive_record_in_exclude_mode cfg CHANGE_TO_INCLUDE_MODE gaddr slist ginfo env = .ok r) :
    r.1.shared_filter_timer =
      if ginfo.group_retransmission_timer.isNone then
        some (llqt_filter cfg gaddr (send_Q cfg gaddr
          { ginfo with
            include_requested_list := ginfo.include_requested_list + slist
            exclude_list := ginfo.exclude_list - slist }
          (ginfo.include_requested_list + slist - slist) false env).2)
      else ginfo.shared_filter_timer := by
  obtain ⟨r', hr', rfl⟩ := exists_of_map_ok h
  generalize hsend : send_Q cfg gaddr { ginfo with
    include_requested_list := ginfo.include_requested_list + slist
    exclude_list := ginfo.exclude_list - slist }
    (ginfo.include_requested_list + slist - slist) false env = sq at hr' ⊢
  have hret : sq.1.group_retransmission_timer = ginfo.group_retransmission_timer := by
    rw [← hsend, send_Q_group_retransmission_timer]
  have hft : sq.1.shared_filter_timer = ginfo.shared_filter_timer := by
    rw [← hsend, send_Q_shared_filter_timer]
  have hfilter := send_Q_group_filter hr'
  cases hrt : ginfo.group_retransmission_timer with
  | none =>
    rw [(start_group_queries_of_none (hret.trans hrt)).1] at hfilter
    exact hfilter
  | some t =>
    rw [start_group_queries_of_some (hret.trans hrt), hft] at hfilter
    exact hfilter

end Rows

section Step

-- The record a message is applied to, after the compatibility coordination.
def row_start (cfg : Config) (gr : GroupRecordMsg α) (q : Querier α) : GaddrInfo α × Env α :=
  note_older_host cfg q.m_db.querier_version_mode gr.grp_mem_proto gr.gaddr (q.group gr.gaddr) q.env

-- The surroundings of a leave when it makes the filter timer.
def leave_env (cfg : Config) (gr : GroupRecordMsg α) (q : Querier α) : Env α :=
  let r := row_start cfg gr q
  let A := compatible_slist r.1 gr
  (send_Q cfg gr.gaddr
    { r.1 with
      include_requested_list := r.1.include_requested_list + A
      exclude_list := r.1.exclude_list - A } (r.1.include_requested_list + A - A) false r.2).2

variable {cfg : Config} {mode : GroupMemProtocol} {q q' : Querier α} {gr : GroupRecordMsg α}

theorem row_start_frame (cfg : Config) (gr : GroupRecordMsg α) (q : Querier α) :
    ∃ version timer, (row_start cfg gr q).1 = { q.group gr.gaddr with
      compatibility_mode_variable := version, older_host_present_timer := timer } :=
  note_older_host_frame ..

-- The coordination leaves the sets of the group alone.
theorem router_state_row_start (cfg : Config) (gr : GroupRecordMsg α) (q : Querier α) :
    router_state (OrdMap.lookup q.m_db.group_info gr.gaddr) =
      (row_start cfg gr q).1.router_state := by
  rw [router_state_group, row_start, router_state_note_older_host]

theorem requested_row_start (cfg : Config) (gr : GroupRecordMsg α) (q : Querier α) :
    requested (OrdMap.lookup q.m_db.group_info gr.gaddr) =
      (row_start cfg gr q).1.include_requested_list := by
  obtain ⟨version, timer, hfst⟩ := row_start_frame cfg gr q
  rw [requested_group, hfst]

theorem receive_record_queried (h : receive_record cfg gr q = .ok q')
    (hrow : ¬ ((row_start cfg gr q).1.is_in_backward_compatibility_mode = true ∧
      gr.record_type = BLOCK_OLD_SOURCES)) {a : α} {s : Source α}
    (hs : (requested (OrdMap.lookup q.m_db.group_info gr.gaddr)).find a = some s)
    (ha : a ∈ (router_state (OrdMap.lookup q.m_db.group_info gr.gaddr)).query_set gr.record_type
      (compatible_slist (row_start cfg gr q).1 gr).addrs) :
    ∃ s', (requested (OrdMap.lookup q'.m_db.group_info gr.gaddr)).find a = some s' ∧
      s'.shared_source_timer = queried_timer cfg gr.gaddr (row_start cfg gr q).2 s := by
  obtain ⟨r, hr, hcase⟩ := receive_record_cases h
  obtain rfl : row_start cfg gr q = r := hr.symm
  rw [requested_row_start cfg] at hs
  rw [router_state_row_start cfg] at ha
  rcases hcase with ⟨hcompat, hblock, -⟩ | ⟨-, ⟨r', hmode, rfl, hput⟩ | ⟨r', hmode, hr', rfl⟩⟩
  · exact absurd ⟨hcompat, hblock⟩ hrow
  · obtain ⟨s', hs', ht⟩ :=
      receive_record_in_include_mode_queried cfg gr.record_type gr.gaddr (row_start cfg gr q).2
        hmode hs ha
    rcases hput with ⟨-, hempty, -⟩ | ⟨-, rfl⟩
    · exact absurd (OrdSet.mem_of_find hs') (hempty a)
    · refine ⟨s', ?_, ht⟩
      simpa [requested] using hs'
  · obtain ⟨s', hs', ht⟩ := receive_record_in_exclude_mode_queried hmode hr' hs ha
    refine ⟨s', ?_, ht⟩
    simpa [requested] using hs'

theorem receive_leave_filter (h : receive_record cfg gr q = .ok q')
    (htype : gr.record_type = CHANGE_TO_INCLUDE_MODE) {ginfo : GaddrInfo α}
    (hl : OrdMap.lookup q.m_db.group_info gr.gaddr = some ginfo)
    (hmode : ginfo.filter_mode = EXCLUDE_MODE) :
    ∃ ginfo', OrdMap.lookup q'.m_db.group_info gr.gaddr = some ginfo' ∧
      ginfo'.shared_filter_timer =
        if ginfo.group_retransmission_timer.isNone then
          some (llqt_filter cfg gr.gaddr (leave_env cfg gr q))
        else ginfo.shared_filter_timer := by
  obtain ⟨r, hr, hcase⟩ := receive_record_cases h
  obtain rfl : row_start cfg gr q = r := hr.symm
  obtain ⟨version, timer, hfst⟩ := row_start_frame cfg gr q
  have hgroup : q.group gr.gaddr = ginfo := by rw [Querier.group, hl, Option.getD_some]
  rw [hgroup] at hfst
  have hrmode : (row_start cfg gr q).1.filter_mode = EXCLUDE_MODE := by rw [hfst, hmode]
  rcases hcase with ⟨-, hblock, -⟩ | ⟨-, ⟨r', hinc, -⟩ | ⟨r', -, hr', rfl⟩⟩
  · cases htype.symm.trans hblock
  · cases hrmode.symm.trans hinc
  · rw [htype] at hr'
    refine ⟨r'.1, by simp, ?_⟩
    rw [leave_filter_timer hr', leave_env]
    simp only [hfst]

-- The sources the row asks about, and does not set to MALI, expire no later than before.
def sources_lowered (before after : Option (GaddrInfo α)) (record_type : McastAddrRecordType)
    (B : Set α) : Prop :=
  ∀ a s s' t t', (requested before).find a = some s → (requested after).find a = some s' →
    a ∈ (router_state before).query_set record_type B →
    a ∉ (router_state before).mali_set record_type B →
    s.shared_source_timer = some t → s'.shared_source_timer = some t' →
    t'.end_time ≤ t.end_time

def filter_lowered (before after : Option (GaddrInfo α)) : Prop :=
  ∀ ginfo ginfo' t t', before = some ginfo → after = some ginfo' →
    ginfo.shared_filter_timer = some t → ginfo'.shared_filter_timer = some t' →
    t'.end_time ≤ t.end_time

-- Every source the row asks about that has no retransmission to come has at least LLQT left
-- when the query is made.
def sources_long_enough (cfg : Config) (gr : GroupRecordMsg α) (q : Querier α) : Prop :=
  ∀ a s t, (requested (OrdMap.lookup q.m_db.group_info gr.gaddr)).find a = some s →
    a ∈ (router_state (OrdMap.lookup q.m_db.group_info gr.gaddr)).query_set gr.record_type
      (compatible_slist (row_start cfg gr q).1 gr).addrs →
    s.shared_source_timer = some t → s.retransmission_count < 1 →
    after ((row_start cfg gr q).2.now cfg) cfg.tv.get_last_listener_query_time ≤ t.end_time

def filter_long_enough (cfg : Config) (gr : GroupRecordMsg α) (q : Querier α) : Prop :=
  ∀ ginfo t, OrdMap.lookup q.m_db.group_info gr.gaddr = some ginfo →
    ginfo.shared_filter_timer = some t → ginfo.group_retransmission_timer = none →
    after ((leave_env cfg gr q).now cfg) cfg.tv.get_last_listener_query_time ≤ t.end_time

theorem sources_lowered_of_same {before after : Option (GaddrInfo α)}
    (hsame : requested after = requested before) (record_type : McastAddrRecordType)
    (B : Set α) : sources_lowered before after record_type B := by
  intro a s s' t t' hs hs' _ _ ht ht'
  rw [hsame] at hs'
  obtain rfl := Option.some.inj (hs.symm.trans hs')
  obtain rfl := Option.some.inj (ht.symm.trans ht')
  exact le_refl _

-- A BLOCK in compatibility mode asks about nothing.
theorem requested_of_ignored (h : receive_record cfg gr q = .ok q')
    (hrow : (row_start cfg gr q).1.is_in_backward_compatibility_mode = true ∧
      gr.record_type = BLOCK_OLD_SOURCES) :
    requested (OrdMap.lookup q'.m_db.group_info gr.gaddr) =
      requested (OrdMap.lookup q.m_db.group_info gr.gaddr) := by
  obtain ⟨r, hr, hcase⟩ := receive_record_cases h
  obtain rfl : row_start cfg gr q = r := hr.symm
  rcases hcase with ⟨-, -, rfl⟩ | ⟨hnot, -⟩
  · rw [Querier.lookup_put, if_pos rfl, requested_row_start cfg]
    rfl
  · exact absurd hrow hnot

theorem QuerierInv.exclude_of_filter_timer (hinv : QuerierInv q) {g : α} {ginfo : GaddrInfo α}
    {t : TimerMsg α} (hl : OrdMap.lookup q.m_db.group_info g = some ginfo)
    (ht : ginfo.shared_filter_timer = some t) : ginfo.filter_mode = EXCLUDE_MODE := by
  cases hmode : ginfo.filter_mode with
  | INCLUDE_MODE =>
    have hnone := ((hinv.groups g ginfo hl).1.include_mode hmode).2
    cases ht.symm.trans hnone
  | EXCLUDE_MODE => rfl

-- No row asks about a source that it sets to MALI.
omit [LinearOrder α] in
theorem RouterState.not_mem_mali_set_of_query_set {state : RouterState α}
    {record_type : McastAddrRecordType} {B : Set α} {a : α}
    (ha : a ∈ state.query_set record_type B) : a ∉ state.mali_set record_type B := by
  cases state <;> cases record_type <;>
    simp only [RouterState.query_set, RouterState.mali_set, Set.mem_sdiff,
      Set.mem_empty_iff_false] at ha ⊢ <;>
    tauto

theorem lowered_sources_iff (h : receive_record cfg gr q = .ok q')
    (hrow : ¬ ((row_start cfg gr q).1.is_in_backward_compatibility_mode = true ∧
      gr.record_type = BLOCK_OLD_SOURCES)) :
    sources_lowered (OrdMap.lookup q.m_db.group_info gr.gaddr)
      (OrdMap.lookup q'.m_db.group_info gr.gaddr) gr.record_type
      (compatible_slist (row_start cfg gr q).1 gr).addrs ↔ sources_long_enough cfg gr q := by
  constructor
  · intro hlow a s t hs ha ht hcount
    obtain ⟨s', hs', ht'⟩ := receive_record_queried h hrow hs ha
    rw [queried_timer, if_pos hcount] at ht'
    have hnot := RouterState.not_mem_mali_set_of_query_set ha
    exact hlow a s s' t _ hs hs' ha hnot ht ht'
  · intro hlong a s s' t t' hs hs' ha _ ht ht'
    obtain ⟨s₁, hs₁, ht₁⟩ := receive_record_queried h hrow hs ha
    obtain rfl := Option.some.inj (hs'.symm.trans hs₁)
    rw [ht', queried_timer] at ht₁
    split_ifs at ht₁ with hcount
    · obtain rfl := Option.some.inj ht₁
      exact hlong a s t hs ha ht hcount
    · obtain rfl := Option.some.inj (ht₁.trans ht)
      exact le_refl _

theorem lowered_filter_iff (hinv : QuerierInv q) (h : receive_record cfg gr q = .ok q')
    (htype : gr.record_type = CHANGE_TO_INCLUDE_MODE) :
    filter_lowered (OrdMap.lookup q.m_db.group_info gr.gaddr)
      (OrdMap.lookup q'.m_db.group_info gr.gaddr) ↔ filter_long_enough cfg gr q := by
  constructor
  · intro hlow ginfo t hl ht hret
    have hmode := hinv.exclude_of_filter_timer hl ht
    obtain ⟨ginfo', hl', ht'⟩ := receive_leave_filter h htype hl hmode
    rw [hret] at ht'
    exact hlow ginfo ginfo' t _ hl hl' ht ht'
  · intro hlong ginfo ginfo' t t' hl hl' ht ht'
    have hmode := hinv.exclude_of_filter_timer hl ht
    obtain ⟨ginfo₁, hl₁, ht₁⟩ := receive_leave_filter h htype hl hmode
    obtain rfl := Option.some.inj (hl'.symm.trans hl₁)
    rw [ht'] at ht₁
    cases hret : ginfo.group_retransmission_timer with
    | none =>
      rw [hret] at ht₁
      obtain rfl := Option.some.inj ht₁
      exact hlong ginfo t hl ht hret
    | some rt =>
      rw [hret] at ht₁
      obtain rfl := Option.some.inj (ht₁.trans ht)
      exact le_refl _

-- A query lowers the timers it is for exactly if no timer without a running retransmission
-- has less than LLQT to go: `send_Q` replaces the timer whatever time is left on it.
theorem queries_lower_timers_iff (cfg : Config) (mode : GroupMemProtocol) (q : Querier α)
    (hq : (querier α cfg mode).Reachable q) (gr : GroupRecordMsg α) :
    ∃ q', receive_record cfg gr q = .ok q' ∧
      (sources_lowered (OrdMap.lookup q.m_db.group_info gr.gaddr)
          (OrdMap.lookup q'.m_db.group_info gr.gaddr) gr.record_type
          (compatible_slist (row_start cfg gr q).1 gr).addrs ∧
        (gr.record_type = CHANGE_TO_INCLUDE_MODE →
          filter_lowered (OrdMap.lookup q.m_db.group_info gr.gaddr)
            (OrdMap.lookup q'.m_db.group_info gr.gaddr)) ↔
      (¬ ((row_start cfg gr q).1.is_in_backward_compatibility_mode = true ∧
          gr.record_type = BLOCK_OLD_SOURCES) → sources_long_enough cfg gr q) ∧
        (gr.record_type = CHANGE_TO_INCLUDE_MODE → filter_long_enough cfg gr q)) := by
  have hinv := querier_inv hq
  obtain ⟨q', h⟩ := receive_record_total hinv cfg gr
  refine ⟨q', h, and_congr ?_ (imp_congr_right (lowered_filter_iff hinv h))⟩
  by_cases hrow : (row_start cfg gr q).1.is_in_backward_compatibility_mode = true ∧
      gr.record_type = BLOCK_OLD_SOURCES
  · have hsame := requested_of_ignored h hrow
    exact iff_of_true (sources_lowered_of_same hsame _ _) (absurd hrow)
  · rw [lowered_sources_iff h hrow]
    exact (imp_iff_right hrow).symm

-- A source that was just heard of has MALI left.
theorem block_of_fresh_source_lowers :
    ∃ q q' : Querier Ipv4Addr,
      (querier Ipv4Addr default_config IGMPv3).Run
        [.record ⟨ALLOW_NEW_SOURCES, 7, sources [3], IGMPv3⟩] q ∧
      receive_record default_config ⟨BLOCK_OLD_SOURCES, 7, sources [3], IGMPv3⟩ q = .ok q' ∧
      sources_lowered (OrdMap.lookup q.m_db.group_info 7) (OrdMap.lookup q'.m_db.group_info 7)
        BLOCK_OLD_SOURCES
        (compatible_slist (row_start default_config
          ⟨BLOCK_OLD_SOURCES, 7, sources [3], IGMPv3⟩ q).1
          ⟨BLOCK_OLD_SOURCES, 7, sources [3], IGMPv3⟩).addrs := by
  obtain ⟨q, hrun, hp⟩ := Machine.exists_run_of_exec (querier Ipv4Addr default_config IGMPv3)
    [.record ⟨ALLOW_NEW_SOURCES, 7, sources [3], IGMPv3⟩]
    (fun q => q.env.readings = 4 &&
      (requested (OrdMap.lookup q.m_db.group_info 7)).elems.all fun s =>
        s.shared_source_timer.all fun t => t.end_time = 260000000002) rfl
  simp only [Bool.and_eq_true, decide_eq_true_eq] at hp
  obtain ⟨q', h, hiff⟩ := queries_lower_timers_iff default_config IGMPv3 q hrun.reachable
    ⟨BLOCK_OLD_SOURCES, 7, sources [3], IGMPv3⟩
  refine ⟨q, q', hrun, h, (hiff.mpr ⟨fun _ a s t hs _ ht _ => ?_, fun htype => ?_⟩).1⟩
  · have hmem := List.all_eq_true.mp hp.2 s (OrdSet.find_eq_some_iff.mp hs).1
    rw [ht, Option.all_some, decide_eq_true_eq] at hmem
    have hnow : (row_start default_config ⟨BLOCK_OLD_SOURCES, 7, sources [3], IGMPv3⟩
        q).2.now default_config = 4 := hp.1
    rw [hnow, hmem]
    decide
  · cases htype

-- LLQC is 2: after the one retransmission the counter is down to 0 and the source has a
-- second to live. Another BLOCK starts over.
theorem second_block_extends_source :
    ∃ q q' : Querier Ipv4Addr,
      (querier Ipv4Addr ⟨jumping [9], {}⟩ IGMPv3).Run
        [.record ⟨ALLOW_NEW_SOURCES, 7, sources [3], IGMPv3⟩,
          .record ⟨BLOCK_OLD_SOURCES, 7, sources [3], IGMPv3⟩,
          .timer ⟨3, RET_SOURCE_TIMER_MSG, some 7, 1000000007, false⟩ false] q ∧
      receive_record ⟨jumping [9], {}⟩ ⟨BLOCK_OLD_SOURCES, 7, sources [3], IGMPv3⟩ q = .ok q' ∧
      ¬ sources_lowered (OrdMap.lookup q.m_db.group_info 7) (OrdMap.lookup q'.m_db.group_info 7)
        BLOCK_OLD_SOURCES
        (compatible_slist (row_start ⟨jumping [9], {}⟩
          ⟨BLOCK_OLD_SOURCES, 7, sources [3], IGMPv3⟩ q).1
          ⟨BLOCK_OLD_SOURCES, 7, sources [3], IGMPv3⟩).addrs := by
  obtain ⟨q, hrun, -, hp⟩ := Machine.exists_step_of_exec
    (querier Ipv4Addr ⟨jumping [9], {}⟩ IGMPv3)
    [.record ⟨ALLOW_NEW_SOURCES, 7, sources [3], IGMPv3⟩,
      .record ⟨BLOCK_OLD_SOURCES, 7, sources [3], IGMPv3⟩,
      .timer ⟨3, RET_SOURCE_TIMER_MSG, some 7, 1000000007, false⟩ false]
    (.record ⟨BLOCK_OLD_SOURCES, 7, sources [3], IGMPv3⟩)
    (fun q r => (q.group 7).filter_mode = INCLUDE_MODE &&
      ((requested (OrdMap.lookup q.m_db.group_info 7)).find 3).any (fun s =>
        s.shared_source_timer.any fun t => t.end_time = 2000000004) &&
      r.toOption.any fun q' => ((requested (OrdMap.lookup q'.m_db.group_info 7)).find 3).any
        fun s => s.shared_source_timer.any fun t => t.end_time = 3000000011) (by decide +kernel)
  simp only [Bool.and_eq_true, decide_eq_true_eq] at hp
  obtain ⟨⟨hmode, hbefore⟩, hafter⟩ := hp
  obtain ⟨s, hs, hbefore⟩ := (Option.any_eq_true ..).mp hbefore
  obtain ⟨t, ht, hend⟩ := (Option.any_eq_true ..).mp hbefore
  obtain ⟨q', h, hafter⟩ := exists_ok_of_any hafter
  obtain ⟨s', hs', hafter⟩ := (Option.any_eq_true ..).mp hafter
  obtain ⟨t', ht', hend'⟩ := (Option.any_eq_true ..).mp hafter
  rw [decide_eq_true_eq] at hend hend'
  refine ⟨q, q', hrun, h, fun hlow => ?_⟩
  have hquery : (3 : Ipv4Addr) ∈ (router_state (OrdMap.lookup q.m_db.group_info 7)).query_set
      BLOCK_OLD_SOURCES (compatible_slist (row_start ⟨jumping [9], {}⟩
        ⟨BLOCK_OLD_SOURCES, 7, sources [3], IGMPv3⟩ q).1
        ⟨BLOCK_OLD_SOURCES, 7, sources [3], IGMPv3⟩).addrs := by
    rw [requested_group] at hs
    rw [router_state_group, GaddrInfo.router_state_include hmode]
    refine ⟨OrdSet.mem_of_find hs, ?_⟩
    simp [compatible_slist]
  have hle := hlow 3 s s' t t' hs hs' hquery
    (RouterState.not_mem_mali_set_of_query_set hquery) ht ht'
  omega

end Step

end Mcproxy
