import Mcproxy.Querier.Refinement

namespace Mcproxy

open Container Transition McFilter McastAddrRecordType MessageType GroupMemProtocol

variable {α : Type*} [LinearOrder α]

section GroupQuery

-- The trace grows, but not by a multicast address specific query.
def Env.NoGroupQuery (e e' : Env α) : Prop :=
  ∃ as, e'.trace = e.trace ++ as ∧ ∀ g s_flag, .send_mc_addr_specific_query g s_flag ∉ as

def Env.GroupQuery (gaddr : α) (e e' : Env α) : Prop :=
  ∃ as s_flag, e'.trace = e.trace ++ as ∧ .send_mc_addr_specific_query gaddr s_flag ∈ as

theorem Env.NoGroupQuery.refl (e : Env α) : e.NoGroupQuery e := ⟨[], by simp, by simp⟩

theorem Env.NoGroupQuery.trans {e₁ e₂ e₃ : Env α} (h₁ : e₁.NoGroupQuery e₂)
    (h₂ : e₂.NoGroupQuery e₃) : e₁.NoGroupQuery e₃ := by
  obtain ⟨as, has, hq⟩ := h₁
  obtain ⟨bs, hbs, hq'⟩ := h₂
  refine ⟨as ++ bs, by rw [hbs, has, List.append_assoc], fun g s_flag h => ?_⟩
  rcases List.mem_append.mp h with h | h
  · exact hq g s_flag h
  · exact hq' g s_flag h

-- Where a step sends a query if it does at all.
theorem Env.groupQuery_iff {gaddr : α} {e₁ e₂ e₃ e₄ : Env α} (h₁ : e₁.NoGroupQuery e₂)
    (h₂ : e₂.Extends e₃) (h₃ : e₃.NoGroupQuery e₄) :
    e₁.GroupQuery gaddr e₄ ↔ e₂.GroupQuery gaddr e₃ := by
  obtain ⟨as, has, hno⟩ := h₁
  obtain ⟨bs, hbs, -⟩ := h₂.trace
  obtain ⟨cs, hcs, hno'⟩ := h₃
  constructor
  · rintro ⟨ds, s_flag, hds, hmem⟩
    rw [hcs, hbs, has, List.append_assoc, List.append_assoc] at hds
    obtain rfl := List.append_cancel_left hds
    simp only [List.mem_append, hno, hno', or_false, false_or] at hmem
    exact ⟨bs, s_flag, hbs, hmem⟩
  · rintro ⟨ds, s_flag, hds, hmem⟩
    exact ⟨as ++ ds ++ cs, s_flag, by rw [hcs, hds, has]; simp, by simp [hmem]⟩

theorem Env.NoGroupQuery.arm (cfg : Config) (type : MessageType) (gaddr : Option α)
    (duration delay : ℕ) (e : Env α) :
    e.NoGroupQuery ((e.make_shared cfg type gaddr duration).2.add_time delay
      (e.make_shared cfg type gaddr duration).1) :=
  ⟨[.add_time delay (e.make_shared cfg type gaddr duration).1], rfl, by simp⟩

theorem Env.NoGroupQuery.make_shared (cfg : Config) (type : MessageType) (gaddr : Option α)
    (duration : ℕ) (e : Env α) : e.NoGroupQuery (e.make_shared cfg type gaddr duration).2 :=
  ⟨[], (List.append_nil _).symm, by simp⟩

theorem Env.NoGroupQuery.notify (e : Env α) (gaddr : α) (found : Option (GaddrInfo α)) :
    e.NoGroupQuery (e.state_change_notification gaddr found) :=
  ⟨[.state_change gaddr (membership_infos found)], rfl, by simp⟩

variable (cfg : Config) (gaddr : α) (ginfo : GaddrInfo α) (slist tmp : SourceList α) (env : Env α)

theorem mali_no_group_query : env.NoGroupQuery (mali cfg gaddr slist tmp env).2 := by
  simp only [mali, mali_slist]
  split_ifs
  · exact .make_shared ..
  · exact .arm ..

theorem note_older_host_no_group_query (mode proto : GroupMemProtocol) :
    env.NoGroupQuery (note_older_host cfg mode proto gaddr ginfo env).2 := by
  unfold note_older_host
  split_ifs
  · exact .arm ..
  · exact .refl _

theorem send_Q_no_group_query (ret : Bool) :
    env.NoGroupQuery (send_Q cfg gaddr ginfo tmp ret env).2 := by
  have hloop : env.NoGroupQuery
      (requery_sources cfg gaddr ginfo.include_requested_list tmp env).2 := by
    simp only [requery_sources]
    split_ifs
    · exact .arm ..
    · exact .make_shared ..
  have hq : ∀ (slist : SourceList α) (e : Env α),
      e.NoGroupQuery (send_mc_addr_and_src_specific_query cfg gaddr slist e).2.2 := by
    intro slist e
    obtain ⟨n, as, hn, has⟩ := (send_src_query_spec cfg gaddr slist e).2
    refine ⟨as, by rw [hn], fun g s_flag h => ?_⟩
    obtain ⟨s_flag', sl, he⟩ := has _ h
    cases he
  simp only [send_Q]
  split_ifs
  · exact (hloop.trans (hq _ _)).trans (.arm ..)
  · exact hloop.trans (hq _ _)
  · exact hloop

theorem start_group_queries_no_group_query :
    env.NoGroupQuery (start_group_queries cfg gaddr ginfo env).2 := by
  unfold start_group_queries
  dsimp only
  split_ifs
  · exact .arm ..
  · exact .refl _

end GroupQuery

section Leave

-- Send Q(MA) as the table means it: at the end of the step, at time T, the filter timer
-- has at most LLQT to go and the step has sent the query.
structure Honoured (cfg : Config) (gaddr : α) (T : ℕ) (q q' : Querier α) : Prop where
  lowered : ∃ ginfo t, OrdMap.lookup q'.m_db.group_info gaddr = some ginfo ∧
    ginfo.shared_filter_timer = some t ∧
    t.end_time ≤ after T cfg.tv.get_last_listener_query_time
  queried : q.env.GroupQuery gaddr q'.env

variable {cfg : Config} {gaddr : α} {ginfo : GaddrInfo α} {env : Env α} {r : GaddrInfo α × Env α}

-- `send_Q(gaddr, ginfo)` sends if an episode starts with it or is under way.
theorem send_Q_group_queries_iff (h : send_Q_group cfg gaddr ginfo env = .ok r) :
    env.GroupQuery gaddr r.2 ↔
      0 < (start_group_queries cfg gaddr ginfo env).1.group_retransmission_count := by
  have hstart := start_group_queries_no_group_query cfg gaddr ginfo env
  rcases send_Q_group_cases h with ⟨hpos, -, -, env', s_flag, hext, hr⟩ | ⟨hnot, hr⟩
  · refine iff_of_true ?_ hpos
    obtain ⟨as, has, -⟩ := hstart
    obtain ⟨bs, hbs, -⟩ := hext.trace
    refine ⟨as ++ bs ++ [.send_mc_addr_specific_query gaddr s_flag], s_flag, ?_, by simp⟩
    rw [hr, Env.act, hbs, has]
    simp
  · refine iff_of_false ?_ (not_lt.mpr hnot)
    rintro ⟨as, s_flag, has, hmem⟩
    obtain ⟨bs, hbs, hno⟩ := hstart
    rw [hr] at has
    obtain rfl := List.append_cancel_left (has.symm.trans hbs)
    exact hno gaddr s_flag hmem

-- The row EXCLUDE (X,Y) TO_IN (A), as far as Send Q(MA) goes: what it does depends on whether
-- the record still has a retransmission timer.
theorem receive_leave_of_none {slist : SourceList α}
    (h : receive_record_in_exclude_mode cfg CHANGE_TO_INCLUDE_MODE gaddr slist ginfo env = .ok r)
    (hrt : ginfo.group_retransmission_timer = none) :
    (∃ n < r.2.readings, ∃ t, r.1.shared_filter_timer = some t ∧
      t.end_time = after (cfg.clk.reading n) cfg.tv.get_last_listener_query_time) ∧
    (env.GroupQuery gaddr r.2 ↔ 0 < to_int cfg.tv.last_listener_query_count) := by
  obtain ⟨rg, hrg, rfl⟩ := exists_of_map_ok h
  generalize hsq : send_Q cfg gaddr _ _ false env = sq at hrg
  have hno : env.NoGroupQuery sq.2 := hsq ▸ send_Q_no_group_query ..
  have hrt : sq.1.group_retransmission_timer = none := by
    rw [← hsq, send_Q_group_retransmission_timer, hrt]
  have hfst := (@start_group_queries_of_none α _ cfg gaddr sq.1 sq.2 hrt).1
  have hext := send_Q_group_extends hrg
  have hmali := mali_readings cfg gaddr rg.1.include_requested_list slist rg.2
  refine ⟨⟨sq.2.readings, hext.readings.trans_lt hmali, llqt_filter cfg gaddr sq.2, ?_, rfl⟩, ?_⟩
  · exact (send_Q_group_filter hrg).trans (by rw [hfst])
  · refine (Env.groupQuery_iff hno hext ((mali_no_group_query ..).trans (.notify ..))).trans ?_
    rw [send_Q_group_queries_iff hrg, hfst]

theorem receive_leave_of_some {slist : SourceList α}
    (h : receive_record_in_exclude_mode cfg CHANGE_TO_INCLUDE_MODE gaddr slist ginfo env = .ok r)
    (hrt : ginfo.group_retransmission_timer ≠ none) :
    r.1.shared_filter_timer = ginfo.shared_filter_timer ∧
    (env.GroupQuery gaddr r.2 ↔ 0 < ginfo.group_retransmission_count) := by
  obtain ⟨rg, hrg, rfl⟩ := exists_of_map_ok h
  generalize hsq : send_Q cfg gaddr _ _ false env = sq at hrg
  have hno : env.NoGroupQuery sq.2 := hsq ▸ send_Q_no_group_query ..
  obtain ⟨t, ht⟩ := Option.ne_none_iff_exists'.mp hrt
  have hst : start_group_queries cfg gaddr sq.1 sq.2 = (sq.1, sq.2) :=
    start_group_queries_of_some (by rw [← hsq, send_Q_group_retransmission_timer, ht])
  have hext := send_Q_group_extends hrg
  constructor
  · refine (send_Q_group_filter hrg).trans ?_
    rw [hst, ← hsq, send_Q_shared_filter_timer]
  · refine (Env.groupQuery_iff hno hext ((mali_no_group_query ..).trans (.notify ..))).trans ?_
    rw [send_Q_group_queries_iff hrg, hst, ← hsq, send_Q_group_retransmission_count]

-- A leave of a group in EXCLUDE mode is honoured when it starts an episode, or when one is
-- under way and the filter timer has not been set up again since.
theorem leave_honoured_iff (cfg : Config) (mode : GroupMemProtocol) (q : Querier α)
    (hq : (querier α cfg mode).Reachable q) (gr : GroupRecordMsg α)
    (htype : gr.record_type = CHANGE_TO_INCLUDE_MODE) (ginfo : GaddrInfo α)
    (hlook : OrdMap.lookup q.m_db.group_info gr.gaddr = some ginfo)
    (hmode : ginfo.filter_mode = EXCLUDE_MODE) :
    ∃ q', receive_record cfg gr q = .ok q' ∧
      ∀ T, (∀ n < q'.env.readings, cfg.clk.reading n ≤ T) →
        (Honoured cfg gr.gaddr T q q' ↔
          (ginfo.group_retransmission_timer = none ∧ 0 < to_int cfg.tv.last_listener_query_count) ∨
          (ginfo.group_retransmission_timer ≠ none ∧ 0 < ginfo.group_retransmission_count ∧
            ∃ t, ginfo.shared_filter_timer = some t ∧
              t.end_time ≤ after T cfg.tv.get_last_listener_query_time)) := by
  have hinv := querier_inv hq
  obtain ⟨q', h⟩ := receive_record_total hinv cfg gr
  refine ⟨q', h, fun T hT => ?_⟩
  have hgroup : q.group gr.gaddr = ginfo := by rw [Querier.group, hlook, Option.getD_some]
  obtain ⟨r, hr, hcase⟩ := receive_record_cases h
  have hnote : q.env.NoGroupQuery r.2 := hr ▸ note_older_host_no_group_query ..
  obtain ⟨version, timer, hfst⟩ := note_older_host_frame cfg q.m_db.querier_version_mode
    gr.grp_mem_proto gr.gaddr (q.group gr.gaddr) q.env
  rw [← hr, hgroup] at hfst
  have hrmode : r.1.filter_mode = EXCLUDE_MODE := by rw [hfst, hmode]
  rcases hcase with ⟨-, hblock, -⟩ | ⟨-, ⟨r', hinc, -⟩ | ⟨r', -, hr', rfl⟩⟩
  · rw [htype] at hblock
    cases hblock
  · rw [hrmode] at hinc
    cases hinc
  · rw [htype] at hr'
    have hlook' :
        OrdMap.lookup (q.put gr.gaddr r'.1 r'.2).m_db.group_info gr.gaddr = some r'.1 := by
      simp
    have hquery : q.env.GroupQuery gr.gaddr r'.2 ↔ r.2.GroupQuery gr.gaddr r'.2 := by
      obtain ⟨env', hext, henv⟩ := receive_record_in_exclude_mode_env hr'
      have hquiet : env'.NoGroupQuery r'.2 := henv ▸ .notify ..
      exact (Env.groupQuery_iff hnote hext hquiet).trans
        (Env.groupQuery_iff (.refl _) hext hquiet).symm
    by_cases hrt : ginfo.group_retransmission_timer = none
    · obtain ⟨⟨n, hn, t, ht, hend⟩, hsent⟩ := receive_leave_of_none hr' (by rw [hfst, hrt])
      have hle : t.end_time ≤ after T cfg.tv.get_last_listener_query_time := by
        rw [hend]
        exact Nat.add_le_add_right (hT n hn) _
      simp only [hrt, true_and, not_true, false_and, or_false, ne_eq]
      exact ⟨fun hon => hsent.mp (hquery.mp hon.queried),
        fun hpos => ⟨⟨r'.1, t, hlook', ht, hle⟩, hquery.mpr (hsent.mpr hpos)⟩⟩
    · obtain ⟨hft, hsent⟩ := receive_leave_of_some hr' (by rw [hfst]; exact hrt)
      rw [hfst] at hft hsent
      simp only [hrt, false_and, false_or, not_false_eq_true, true_and, ne_eq]
      constructor
      · rintro ⟨⟨gi, t, hl, ht, hle⟩, hsend⟩
        obtain rfl := Option.some.inj (hlook'.symm.trans hl)
        exact ⟨hsent.mp (hquery.mp hsend), t, hft ▸ ht, hle⟩
      · rintro ⟨hpos, t, ht, hle⟩
        exact ⟨⟨r'.1, t, hlook', hft.trans ht, hle⟩, hquery.mpr (hsent.mpr hpos)⟩

theorem leave_honoured_iff_first_leave :
    ∃ (q q' : Querier Ipv4Addr) (ginfo : GaddrInfo Ipv4Addr),
      (querier Ipv4Addr default_config IGMPv3).Reachable q ∧
      OrdMap.lookup q.m_db.group_info 7 = some ginfo ∧ ginfo.filter_mode = EXCLUDE_MODE ∧
      receive_record default_config ⟨CHANGE_TO_INCLUDE_MODE, 7, ∅, IGMPv3⟩ q = .ok q' ∧
      Honoured default_config 7 (default_config.clk.reading q'.env.readings) q q' := by
  obtain ⟨q, hrun, hp⟩ := Machine.exists_run_of_exec (querier Ipv4Addr default_config IGMPv3)
    [.record ⟨MODE_IS_EXCLUDE, 7, ∅, IGMPv3⟩]
    (fun q => (OrdMap.lookup q.m_db.group_info 7).any fun ginfo =>
      ginfo.filter_mode = EXCLUDE_MODE && ginfo.group_retransmission_timer.isNone) rfl
  obtain ⟨ginfo, hlook, hp⟩ := (Option.any_eq_true ..).mp hp
  simp only [Bool.and_eq_true, decide_eq_true_eq, Option.isNone_iff_eq_none] at hp
  obtain ⟨q', h, hiff⟩ := leave_honoured_iff default_config IGMPv3 q hrun.reachable
    ⟨CHANGE_TO_INCLUDE_MODE, 7, ∅, IGMPv3⟩ rfl ginfo hlook hp.1
  refine ⟨q, q', ginfo, hrun.reachable, hlook, hp.1, h, (hiff _ ?_).mpr (Or.inl ⟨hp.2, by decide⟩)⟩
  exact fun n hn => default_config.clk.mono hn.le

-- LLQC is 2. After the only retransmission the record keeps a retransmission timer that was
-- delivered; a listener answers, and the next leave finds the episode neither over nor
-- under way: no query, and the filter timer stays at MALI.
theorem second_leave_not_honoured :
    ∃ (q q' : Querier Ipv4Addr) (ginfo : GaddrInfo Ipv4Addr),
      (querier Ipv4Addr ⟨jumping [11, 14], {}⟩ IGMPv3).Run
        [.record ⟨MODE_IS_EXCLUDE, 7, ∅, IGMPv3⟩, .record ⟨CHANGE_TO_INCLUDE_MODE, 7, ∅, IGMPv3⟩,
          .timer ⟨4, RET_GROUP_TIMER_MSG, some 7, 1000000007, false⟩ false,
          .record ⟨MODE_IS_EXCLUDE, 7, ∅, IGMPv3⟩] q ∧
      OrdMap.lookup q.m_db.group_info 7 = some ginfo ∧ ginfo.filter_mode = EXCLUDE_MODE ∧
      receive_record ⟨jumping [11, 14], {}⟩ ⟨CHANGE_TO_INCLUDE_MODE, 7, ∅, IGMPv3⟩ q = .ok q' ∧
      ¬ Honoured ⟨jumping [11, 14], {}⟩ 7 ((jumping [11, 14]).reading q'.env.readings) q q' := by
  obtain ⟨q, hrun, -, hp⟩ := Machine.exists_step_of_exec
    (querier Ipv4Addr ⟨jumping [11, 14], {}⟩ IGMPv3)
    [.record ⟨MODE_IS_EXCLUDE, 7, ∅, IGMPv3⟩, .record ⟨CHANGE_TO_INCLUDE_MODE, 7, ∅, IGMPv3⟩,
      .timer ⟨4, RET_GROUP_TIMER_MSG, some 7, 1000000007, false⟩ false,
      .record ⟨MODE_IS_EXCLUDE, 7, ∅, IGMPv3⟩]
    (.record ⟨CHANGE_TO_INCLUDE_MODE, 7, ∅, IGMPv3⟩)
    (fun q r => ((OrdMap.lookup q.m_db.group_info 7).any fun ginfo =>
        ginfo.filter_mode = EXCLUDE_MODE) &&
      r.toOption.any fun q' =>
        q'.env.readings = 17 && (OrdMap.lookup q'.m_db.group_info 7).all fun ginfo =>
          ginfo.shared_filter_timer.all fun t => t.end_time = 261000000013) (by decide +kernel)
  simp only [Bool.and_eq_true] at hp
  obtain ⟨ginfo, hlook, hmode⟩ := (Option.any_eq_true ..).mp hp.1
  obtain ⟨q', h, hp'⟩ := exists_ok_of_any hp.2
  simp only [Bool.and_eq_true, decide_eq_true_eq] at hmode hp'
  refine ⟨q, q', ginfo, hrun, hlook, hmode, h, ?_⟩
  rintro ⟨⟨gi, t, hl, ht, hle⟩, -⟩
  simp only [hl, Option.all_some, ht, decide_eq_true_eq] at hp'
  rw [hp'.1, hp'.2] at hle
  have hT : after ((jumping [11, 14]).reading 17) 2000 = 4000000017 := by
    decide +kernel
  have hllqt : TimersValues.get_last_listener_query_time {} = 2000 := rfl
  rw [hllqt, hT] at hle
  omega

end Leave

end Mcproxy
