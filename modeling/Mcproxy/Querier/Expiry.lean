import Mcproxy.Container.Weight
import Mcproxy.Querier.SourceQuery
import Mcproxy.Querier.View

namespace Mcproxy

open Container Transition McFilter McastAddrRecordType MessageType GroupMemProtocol

variable {α : Type*} [LinearOrder α]

section Rank

-- How often the older host timer of a version is armed again before the version is the newest.
def newer_versions : GroupMemProtocol → ℕ
  | IGMPv1 => 2
  | IGMPv2 | MLDv1 => 1
  | IGMPv3 | MLDv2 => 0

theorem newer_versions_next {version : GroupMemProtocol} (h : is_newest_version version = false) :
    newer_versions (get_next_newer_version version) + 1 = newer_versions version := by
  cases version <;> first | rfl | cases h

-- The queries about a source that are still to be sent.
def Source.queries_left (s : Source α) : ℕ := s.retransmission_count.toNat

-- At most so many timers are armed by the timers of a record.
def GaddrInfo.timers_to_come (ginfo : GaddrInfo α) : ℕ :=
  newer_versions ginfo.compatibility_mode_variable + ginfo.group_retransmission_count.toNat +
    ginfo.include_requested_list.weight Source.queries_left

def TimerMsg.is_for (gaddr : α) (msg : TimerMsg α) : Bool := msg.gaddr = some gaddr

-- The timers a membership rests on.
def TimerMsg.of_member (msg : TimerMsg α) : Bool :=
  msg.type = FILTER_TIMER_MSG || msg.type = SOURCE_TIMER_MSG

omit [LinearOrder α] in
theorem TimerMsg.of_member_iff {msg : TimerMsg α} :
    msg.of_member = true ↔ msg.type = FILTER_TIMER_MSG ∨ msg.type = SOURCE_TIMER_MSG := by
  unfold TimerMsg.of_member
  rw [Bool.or_eq_true, decide_eq_true_iff, decide_eq_true_iff]

-- A timer made for a group.
structure TimerMsg.OfGroup (gaddr : α) (t : TimerMsg α) : Prop where
  gaddr : t.gaddr = some gaddr
  type : t.type ≠ GENERAL_QUERY_TIMER_MSG

theorem Env.make_shared_of_group (cfg : Config) {type : MessageType}
    (h : type ≠ GENERAL_QUERY_TIMER_MSG) (gaddr : α) (duration : ℕ) (e : Env α) :
    (e.make_shared cfg type (some gaddr) duration).1.OfGroup gaddr := ⟨rfl, h⟩

namespace Querier

def timers_to_come (q : Querier α) (gaddr : α) : ℕ :=
  (OrdMap.lookup q.m_db.group_info gaddr).elim 0 GaddrInfo.timers_to_come

-- The timers of the group that are pending, and those they can still lead to.
def timers_left (q : Querier α) (gaddr : α) : ℕ :=
  q.env.timing.countP (TimerMsg.is_for gaddr) + q.timers_to_come gaddr

end Querier

end Rank

section GroupTimers

-- What a timer of a group does: the timers it arms are paid for by those that were to come,
-- and none of them is one a membership rests on.
structure WindsDown (gaddr : α) (q q' : Querier α) : Prop where
  readings : q.env.readings ≤ q'.env.readings
  armed : ∃ ts, q'.env.timing = q.env.timing ++ ts ∧
    (∀ t ∈ ts, t.OfGroup gaddr ∧ t.of_member = false) ∧
    q'.timers_to_come gaddr + ts.length ≤ q.timers_to_come gaddr

-- The same for the part of a handler that has the record in hand.
structure RecordWindsDown (gaddr : α) (ginfo : GaddrInfo α) (env : Env α)
    (r : GaddrInfo α × Env α) : Prop where
  readings : env.readings ≤ r.2.readings
  armed : ∃ ts, r.2.timing = env.timing ++ ts ∧
    (∀ t ∈ ts, t.OfGroup gaddr ∧ t.of_member = false) ∧
    r.1.timers_to_come + ts.length ≤ ginfo.timers_to_come

variable {cfg : Config} {gaddr : α} {ginfo ginfo' : GaddrInfo α} {env : Env α}
  {q q₁ q' : Querier α} {msg : TimerMsg α} {r : GaddrInfo α × Env α}

theorem WindsDown.refl (gaddr : α) (q : Querier α) : WindsDown gaddr q q :=
  ⟨le_rfl, [], (List.append_nil _).symm, by simp, by simp⟩

theorem WindsDown.trans (h : WindsDown gaddr q q₁) (h' : WindsDown gaddr q₁ q') :
    WindsDown gaddr q q' := by
  obtain ⟨ts, hts, hnew, hrank⟩ := h.armed
  obtain ⟨us, hus, hnew', hrank'⟩ := h'.armed
  refine ⟨h.readings.trans h'.readings, ts ++ us, by rw [hus, hts, List.append_assoc], ?_, ?_⟩
  · intro t ht
    rcases List.mem_append.mp ht with ht | ht
    · exact hnew t ht
    · exact hnew' t ht
  · rw [List.length_append]
    omega

-- The record is written back.
theorem RecordWindsDown.put (h : RecordWindsDown gaddr ginfo q.env r)
    (hlook : OrdMap.lookup q.m_db.group_info gaddr = some ginfo) :
    WindsDown gaddr q (q.put gaddr r.1 r.2) := by
  obtain ⟨ts, hts, hnew, hrank⟩ := h.armed
  refine ⟨h.readings, ts, hts, hnew, ?_⟩
  simpa [Querier.timers_to_come, hlook] using hrank

theorem RecordWindsDown.quiet (hreadings : env.readings ≤ r.2.readings)
    (htiming : r.2.timing = env.timing) (hrank : r.1.timers_to_come ≤ ginfo.timers_to_come) :
    RecordWindsDown gaddr ginfo env r :=
  ⟨hreadings, [], by simpa using htiming, by simp, by simpa using hrank⟩

theorem RecordWindsDown.arm {t : TimerMsg α} (hreadings : env.readings ≤ r.2.readings)
    (htiming : r.2.timing = env.timing ++ [t]) (hgroup : t.OfGroup gaddr)
    (hmember : t.of_member = false) (hrank : r.1.timers_to_come < ginfo.timers_to_come) :
    RecordWindsDown gaddr ginfo env r := by
  refine ⟨hreadings, [t], htiming, ?_, hrank⟩
  intro u hu
  rw [List.mem_singleton.mp hu]
  exact ⟨hgroup, hmember⟩

theorem WindsDown.del (hreadings : q.env.readings ≤ env.readings)
    (htiming : env.timing = q.env.timing) : WindsDown gaddr q (q.del gaddr env) := by
  refine ⟨hreadings, [], by simpa using htiming, by simp, ?_⟩
  simp [Querier.timers_to_come]

theorem WindsDown.notify (hlook : OrdMap.lookup q.m_db.group_info gaddr = some ginfo)
    (hrank : ginfo'.timers_to_come ≤ ginfo.timers_to_come) :
    WindsDown gaddr q
      (q.put gaddr ginfo' (q.env.state_change_notification gaddr (some ginfo'))) :=
  RecordWindsDown.put (r := (ginfo', q.env.state_change_notification gaddr (some ginfo')))
    (.quiet le_rfl rfl hrank) hlook

theorem send_group_query_keeps (h : send_group_query cfg gaddr ginfo env = .ok r) :
    r.1 = ginfo ∧ r.2.timing = env.timing ∧ env.readings ≤ r.2.readings := by
  unfold send_group_query at h
  split at h
  · cases h
  · obtain rfl := Except.ok.inj h
    exact ⟨rfl, rfl, Nat.le_succ _⟩

-- A retransmission of the group query lowers the counter, and another one follows only while
-- the counter is positive.
theorem send_Q_group_winds_down {t : TimerMsg α}
    (h : send_Q_group cfg gaddr ginfo env = .ok r)
    (ht : ginfo.group_retransmission_timer = some t) : RecordWindsDown gaddr ginfo env r := by
  simp only [send_Q_group, start_group_queries_of_some ht] at h
  split_ifs at h with hcount
  · obtain ⟨hfst, htiming, hreadings⟩ := send_group_query_keeps h
    simp only [schedule_group_query] at hfst htiming hreadings
    split_ifs at hfst htiming hreadings
    · refine .arm ((Nat.le_add_right _ 2).trans hreadings) htiming
        (Env.make_shared_of_group cfg (by decide) ..) rfl ?_
      rw [hfst]
      simp only [GaddrInfo.timers_to_come]
      omega
    · refine .quiet hreadings htiming ?_
      rw [hfst]
      simp only [GaddrInfo.timers_to_come]
      omega
  · obtain rfl := Except.ok.inj h
    refine .quiet le_rfl rfl ?_
    simp only [GaddrInfo.timers_to_come]
    omega

omit [LinearOrder α] in
theorem lower_count_queries_left (s : Source α) :
    (lower_count s).queries_left ≤ s.queries_left ∧
      (0 < s.retransmission_count → (lower_count s).queries_left < s.queries_left) := by
  unfold Source.queries_left lower_count
  split_ifs with h
  · dsimp only
    omega
  · exact ⟨le_rfl, fun hpos => absurd hpos h⟩

-- The result is true only if some source still has queries to come.
theorem exists_of_send_src_query {slist : SourceList α}
    (h : (send_mc_addr_and_src_specific_query cfg gaddr slist env).1 = true) :
    ∃ s ∈ slist.elems, 1 < s.retransmission_count := by
  by_contra hnone
  have hkeep (q : QueryLists α) (hq : q.rc = false) (s : Source α) (hs : s ∈ slist.elems) :
      (query_source cfg q s).2.rc = false := by
    have hle : ¬ 1 < s.retransmission_count := fun hlt => hnone ⟨s, hs, hlt⟩
    rw [query_source_rc, hq, decide_eq_false hle, Bool.or_false]
  have hwalk : (slist.walk (query_source cfg) (query_source_saddr cfg) { env := env }).2.rc =
      false := by
    rw [OrdSet.walk_snd]
    exact List.foldlRecOn (motive := fun q : QueryLists α => q.rc = false) _ _ rfl hkeep
  simp only [send_mc_addr_and_src_specific_query] at h
  rw [hwalk] at h
  cases h

-- So does a retransmission of the source queries with the counters of the sources.
theorem send_Q_winds_down (cfg : Config) (gaddr : α) (ginfo : GaddrInfo α) (env : Env α) :
    RecordWindsDown gaddr ginfo env (send_Q cfg gaddr ginfo ∅ true env) := by
  have hreadings := (send_Q_extends cfg gaddr ginfo ∅ true env).readings
  -- nothing is asked about anew
  have hrequery : requery_sources cfg gaddr ginfo.include_requested_list ∅ env =
      ((ginfo.include_requested_list, false),
        (env.make_shared cfg SOURCE_TIMER_MSG (some gaddr)
          cfg.tv.get_last_listener_query_time).2) := rfl
  generalize hr : send_Q cfg gaddr ginfo ∅ true env = r at hreadings ⊢
  simp only [send_Q, hrequery, Bool.or_true, if_true] at hr
  obtain ⟨hlist, n, as, henv, -⟩ := send_src_query_spec cfg gaddr ginfo.include_requested_list
    (env.make_shared cfg SOURCE_TIMER_MSG (some gaddr) cfg.tv.get_last_listener_query_time).2
  have hle : ∀ s ∈ ginfo.include_requested_list.elems,
      (lower_count s).queries_left ≤ s.queries_left := fun s _ => (lower_count_queries_left s).1
  split_ifs at hr with hrc
  · obtain ⟨s, hs, hcount⟩ := exists_of_send_src_query hrc
    have hlt : (ginfo.include_requested_list.map lower_count lower_count_saddr).weight
        Source.queries_left < ginfo.include_requested_list.weight Source.queries_left :=
      OrdSet.weight_map_lt _ _ hle ⟨s, hs, (lower_count_queries_left s).2 (by omega)⟩
    subst hr
    refine .arm hreadings (by rw [henv]; rfl)
      (Env.make_shared_of_group cfg (by decide) ..) rfl ?_
    simp only [GaddrInfo.timers_to_come, hlist]
    omega
  · have hle' : (ginfo.include_requested_list.map lower_count lower_count_saddr).weight
        Source.queries_left ≤ ginfo.include_requested_list.weight Source.queries_left :=
      OrdSet.weight_map_le _ _ hle
    subst hr
    refine .quiet hreadings (by rw [henv]; rfl) ?_
    simp only [GaddrInfo.timers_to_come, hlist]
    omega

theorem older_host_winds_down (cfg : Config) (msg : TimerMsg α)
    (hlook : OrdMap.lookup q.m_db.group_info gaddr = some ginfo) :
    WindsDown gaddr q (timer_triggerd_older_host_present_timer cfg gaddr ginfo msg q) := by
  unfold timer_triggerd_older_host_present_timer
  split_ifs with hsame hnewest
  · exact .notify hlook le_rfl
  · have hnext := newer_versions_next (Bool.eq_false_of_not_eq_true hnewest)
    refine RecordWindsDown.put (r := (_, _)) (.arm (Nat.le_add_right _ 2) rfl
      (Env.make_shared_of_group cfg (by decide) ..) rfl ?_) hlook
    simp only [GaddrInfo.timers_to_come]
    omega
  · exact .refl gaddr q

theorem GroupTimerStep.winds_down (h : GroupTimerStep cfg gaddr msg ginfo q q')
    (hlook : OrdMap.lookup q.m_db.group_info gaddr = some ginfo)
    (htype : msg.type ≠ OLDER_HOST_PRESENT_TIMER_MSG) : WindsDown gaddr q q' := by
  induction h with
  | ignored => exact .refl gaddr _
  | erased => exact .del le_rfl rfl
  | sources_deleted _ _ hginfo' =>
    refine .notify hlook ?_
    rw [hginfo']
    exact Nat.add_le_add_left (OrdSet.weight_filter_le _ _) _
  | sources_moved _ _ hginfo' =>
    refine .notify hlook ?_
    rw [hginfo']
    exact Nat.add_le_add_left (OrdSet.weight_filter_le _ _) _
  | filter_expired _ _ _ _ hginfo' =>
    refine .notify hlook ?_
    rw [hginfo']
    exact le_rfl
  | shared _ _ hlook₁ _ hfirst hsecond => exact (hfirst hlook).trans (hsecond hlook₁)
  | group_queried _ hsame hr =>
    obtain ⟨t, ht, -⟩ := Option.map_eq_some_iff.mp (beq_iff_eq.mp hsame)
    exact (send_Q_group_winds_down hr ht).put hlook
  | sources_queried => exact (send_Q_winds_down ..).put hlook
  | older_host_gone ht => exact absurd ht htype
  | newer_host _ _ ht => exact absurd ht htype

theorem timer_triggerd_group_winds_down
    (h : timer_triggerd_group cfg gaddr ginfo msg q = .ok q')
    (hlook : OrdMap.lookup q.m_db.group_info gaddr = some ginfo) : WindsDown gaddr q q' := by
  by_cases htype : msg.type = OLDER_HOST_PRESENT_TIMER_MSG
  · simp only [timer_triggerd_group, htype] at h
    obtain rfl := Except.ok.inj h
    exact older_host_winds_down cfg msg hlook
  · exact (timer_triggerd_group_step h).winds_down hlook htype

end GroupTimers

section Records

-- How long a report is good for: no timer of a membership is set to more than this.
def TimersValues.membership_time (tv : TimersValues) : ℕ :=
  max tv.get_multicast_address_listening_interval tv.get_last_listener_query_time

-- The timer ends in time, seen from the clock as it stands now.
def Env.EndsInTime (cfg : Config) (env : Env α) (t : TimerMsg α) : Prop :=
  t.of_member = true → t.end_time ≤ after (env.now cfg) cfg.tv.membership_time

-- The timer an action gives to `timing`, with its delay.
def Action.timing_call : Action α → Option (ℕ × TimerMsg α)
  | .add_time delay timer => some (delay, timer)
  | _ => none

def timing_calls (as : List (Action α)) : List (ℕ × TimerMsg α) := as.filterMap Action.timing_call

-- What a handler of a group does to the pending timers: they are joined by those it calls
-- `timing` with.
structure Env.Arms (cfg : Config) (gaddr : α) (e e' : Env α) : Prop where
  readings : e.readings ≤ e'.readings
  calls : ∃ as, e'.trace = e.trace ++ as ∧
    e'.timing = e.timing ++ (timing_calls as).map Prod.snd ∧
    ∀ t ∈ (timing_calls as).map Prod.snd, t.OfGroup gaddr ∧ e'.EndsInTime cfg t

namespace Env

variable {cfg : Config} {gaddr : α} {e e₁ e' : Env α} {t : TimerMsg α}

theorem EndsInTime.mono (h : e.EndsInTime cfg t) (hle : e.readings ≤ e'.readings) :
    e'.EndsInTime cfg t :=
  fun hmember => (h hmember).trans (Nat.add_le_add_right (cfg.clk.mono hle) _)

theorem Arms.armed (h : e.Arms cfg gaddr e') :
    ∃ ts, e'.timing = e.timing ++ ts ∧ ∀ t ∈ ts, t.OfGroup gaddr ∧ e'.EndsInTime cfg t := by
  obtain ⟨as, -, hts, hnew⟩ := h.calls
  exact ⟨_, hts, hnew⟩

theorem Arms.trans (h : e.Arms cfg gaddr e₁) (h' : e₁.Arms cfg gaddr e') :
    e.Arms cfg gaddr e' := by
  obtain ⟨as, has, hts, hnew⟩ := h.calls
  obtain ⟨bs, hbs, hus, hnew'⟩ := h'.calls
  have hcalls : (timing_calls (as ++ bs)).map Prod.snd =
      (timing_calls as).map Prod.snd ++ (timing_calls bs).map Prod.snd := by
    rw [timing_calls, List.filterMap_append, List.map_append]
    rfl
  refine ⟨h.readings.trans h'.readings, as ++ bs, by rw [hbs, has, List.append_assoc],
    by rw [hus, hts, hcalls, List.append_assoc], ?_⟩
  intro t ht
  rw [hcalls] at ht
  rcases List.mem_append.mp ht with ht | ht
  · exact ⟨(hnew t ht).1, (hnew t ht).2.mono h'.readings⟩
  · exact hnew' t ht

theorem Arms.quiet {as : List (Action α)} (hreadings : e.readings ≤ e'.readings)
    (htrace : e'.trace = e.trace ++ as) (has : timing_calls as = [])
    (htiming : e'.timing = e.timing) : e.Arms cfg gaddr e' := by
  refine ⟨hreadings, as, htrace, ?_, ?_⟩
  · rw [has, htiming]
    exact (List.append_nil _).symm
  · simp [has]

theorem Arms.reading (hreadings : e.readings ≤ e'.readings) (htrace : e'.trace = e.trace)
    (htiming : e'.timing = e.timing) : e.Arms cfg gaddr e' :=
  .quiet hreadings (htrace.trans (List.append_nil _).symm) rfl htiming

theorem Arms.refl (e : Env α) : e.Arms cfg gaddr e := .reading le_rfl rfl rfl

theorem Arms.notify (e : Env α) (found : Option (GaddrInfo α)) :
    e.Arms cfg gaddr (e.state_change_notification gaddr found) := .quiet le_rfl rfl rfl rfl

theorem Arms.arm (cfg : Config) (gaddr : α) (e : Env α) {type : MessageType} {duration : ℕ}
    (htype : type ≠ GENERAL_QUERY_TIMER_MSG)
    (h : type = FILTER_TIMER_MSG ∨ type = SOURCE_TIMER_MSG →
      duration ≤ cfg.tv.membership_time) :
    e.Arms cfg gaddr ((e.make_shared cfg type (some gaddr) duration).2.add_time duration
      (e.make_shared cfg type (some gaddr) duration).1) := by
  refine ⟨Nat.le_add_right _ 2, [.add_time duration _], rfl, rfl, ?_⟩
  intro t ht
  rw [List.mem_singleton.mp ht]
  refine ⟨make_shared_of_group cfg htype .., fun hmember => ?_⟩
  have hclock := cfg.clk.mono (Nat.le_add_right e.readings 2)
  have hduration := h (TimerMsg.of_member_iff.mp hmember)
  exact Nat.add_le_add hclock (Nat.mul_le_mul_left _ hduration)

end Env

variable (cfg : Config) (gaddr : α) (ginfo : GaddrInfo α) (env : Env α)

theorem mali_arms (slist tmp_slist : SourceList α) :
    env.Arms cfg gaddr (mali cfg gaddr slist tmp_slist env).2 := by
  simp only [mali, mali_slist]
  split_ifs
  · exact .reading (Nat.le_succ _) rfl rfl
  · exact .arm cfg gaddr env (by decide) fun _ => le_max_left _ _

theorem mali_filter_timer_arms : env.Arms cfg gaddr (mali_filter_timer cfg gaddr ginfo env).2 :=
  .arm cfg gaddr env (by decide) fun _ => le_max_left _ _

theorem send_Q_arms (tmp : SourceList α) (ret : Bool) :
    env.Arms cfg gaddr (send_Q cfg gaddr ginfo tmp ret env).2 := by
  have hrequery : env.Arms cfg gaddr
      (requery_sources cfg gaddr ginfo.include_requested_list tmp env).2 := by
    simp only [requery_sources]
    split_ifs
    · exact .arm cfg gaddr env (by decide) fun _ => le_max_right _ _
    · exact .reading (Nat.le_succ _) rfl rfl
  have hquery (slist : SourceList α) (e : Env α) :
      e.Arms cfg gaddr (send_mc_addr_and_src_specific_query cfg gaddr slist e).2.2 := by
    obtain ⟨n, as, hn, has⟩ := (send_src_query_spec cfg gaddr slist e).2
    have hcalls : timing_calls as = [] := by
      rw [timing_calls, List.filterMap_eq_nil_iff]
      intro a ha
      obtain ⟨s_flag, sl, rfl⟩ := has a ha
      rfl
    rw [hn]
    exact .quiet (Nat.le_add_right _ _) rfl hcalls rfl
  unfold send_Q
  dsimp only
  split_ifs
  · exact (hrequery.trans (hquery ..)).trans (.arm cfg gaddr _ (by decide) (by simp))
  · exact hrequery.trans (hquery ..)
  · exact hrequery

theorem start_group_queries_arms :
    env.Arms cfg gaddr (start_group_queries cfg gaddr ginfo env).2 := by
  simp only [start_group_queries]
  split_ifs
  · exact .arm cfg gaddr env (by decide) fun _ => le_max_right _ _
  · exact .refl env

theorem schedule_group_query_arms :
    env.Arms cfg gaddr (schedule_group_query cfg gaddr ginfo env).2 := by
  simp only [schedule_group_query]
  split_ifs
  · exact .arm cfg gaddr env (by decide) (by simp)
  · exact .refl env

variable {cfg gaddr ginfo env} {record_type : McastAddrRecordType} {slist : SourceList α}
  {r : GaddrInfo α × Env α} {gr : GroupRecordMsg α} {q q' : Querier α}

theorem send_group_query_arms (h : send_group_query cfg gaddr ginfo env = .ok r) :
    env.Arms cfg gaddr r.2 := by
  unfold send_group_query at h
  split at h
  · cases h
  · obtain rfl := Except.ok.inj h
    exact .quiet (Nat.le_succ _) rfl rfl rfl

theorem send_Q_group_arms (h : send_Q_group cfg gaddr ginfo env = .ok r) :
    env.Arms cfg gaddr r.2 := by
  have hstart := start_group_queries_arms cfg gaddr ginfo env
  simp only [send_Q_group] at h
  split_ifs at h
  · exact (hstart.trans (schedule_group_query_arms ..)).trans (send_group_query_arms h)
  · obtain rfl := Except.ok.inj h
    exact hstart

theorem receive_record_in_include_mode_arms (cfg : Config) (record_type : McastAddrRecordType)
    (gaddr : α) (slist : SourceList α) (ginfo : GaddrInfo α) (env : Env α) :
    env.Arms cfg gaddr
      (receive_record_in_include_mode cfg record_type gaddr slist ginfo env).2 := by
  cases record_type with
  | ALLOW_NEW_SOURCES | MODE_IS_INCLUDE => exact (mali_arms ..).trans (.notify ..)
  | BLOCK_OLD_SOURCES => exact send_Q_arms ..
  | CHANGE_TO_EXCLUDE_MODE =>
    exact ((send_Q_arms ..).trans (mali_filter_timer_arms ..)).trans (.notify ..)
  | CHANGE_TO_INCLUDE_MODE => exact ((send_Q_arms ..).trans (mali_arms ..)).trans (.notify ..)
  | MODE_IS_EXCLUDE => exact (mali_filter_timer_arms ..).trans (.notify ..)
  | unknown => exact .refl env

theorem receive_record_in_exclude_mode_arms
    (h : receive_record_in_exclude_mode cfg record_type gaddr slist ginfo env = .ok r) :
    env.Arms cfg gaddr r.2 := by
  cases record_type with
  | ALLOW_NEW_SOURCES | MODE_IS_INCLUDE =>
    obtain rfl := Except.ok.inj h
    exact (mali_arms ..).trans (.notify ..)
  | BLOCK_OLD_SOURCES =>
    obtain rfl := Except.ok.inj h
    exact send_Q_arms ..
  | CHANGE_TO_EXCLUDE_MODE =>
    obtain rfl := Except.ok.inj h
    exact ((send_Q_arms ..).trans (mali_filter_timer_arms ..)).trans (.notify ..)
  | CHANGE_TO_INCLUDE_MODE =>
    obtain ⟨r', hr', rfl⟩ := exists_of_map_ok h
    have hqueries := (send_Q_arms ..).trans (send_Q_group_arms hr')
    exact (hqueries.trans (mali_arms ..)).trans (.notify ..)
  | MODE_IS_EXCLUDE =>
    obtain rfl := Except.ok.inj h
    exact ((mali_arms ..).trans (mali_filter_timer_arms ..)).trans (.notify ..)
  | unknown =>
    obtain rfl := Except.ok.inj h
    exact .refl env

theorem note_older_host_arms (cfg : Config) (mode proto : GroupMemProtocol) (gaddr : α)
    (ginfo : GaddrInfo α) (env : Env α) :
    env.Arms cfg gaddr (note_older_host cfg mode proto gaddr ginfo env).2 := by
  unfold note_older_host
  split_ifs
  · exact .arm cfg gaddr env (by decide) (by simp)
  · exact .refl env

theorem receive_record_arms (h : receive_record cfg gr q = .ok q') :
    q.env.Arms cfg gr.gaddr q'.env := by
  have holder := note_older_host_arms cfg q.m_db.querier_version_mode gr.grp_mem_proto gr.gaddr
    (q.group gr.gaddr) q.env
  obtain ⟨r, rfl, hcase⟩ := receive_record_cases h
  rcases hcase with ⟨-, -, rfl⟩ | ⟨-, ⟨r', -, rfl, ⟨-, -, rfl⟩ | ⟨-, rfl⟩⟩ | ⟨r', -, hr', rfl⟩⟩
  · exact holder
  · exact holder.trans (receive_record_in_include_mode_arms ..)
  · exact holder.trans (receive_record_in_include_mode_arms ..)
  · exact holder.trans (receive_record_in_exclude_mode_arms hr')

theorem GroupTimerStep.arms {msg : TimerMsg α} (h : GroupTimerStep cfg gaddr msg ginfo q q') :
    q.env.Arms cfg gaddr q'.env := by
  induction h with
  | ignored => exact .refl _
  | shared _ _ _ _ hfirst hsecond => exact hfirst.trans hsecond
  | group_queried _ _ hr => exact send_Q_group_arms hr
  | sources_queried => exact send_Q_arms ..
  | newer_host => exact .arm cfg gaddr _ (by decide) (by simp)
  | _ => exact .notify ..

end Records

section Silence

-- What a delivered timer does, seen from every group.
structure Unwinds (q q' : Querier α) : Prop where
  readings : q.env.readings ≤ q'.env.readings
  armed : ∃ ts, q'.env.timing = q.env.timing ++ ts ∧ (∀ t ∈ ts, t.of_member = false) ∧
    ∀ g, q'.timers_to_come g + ts.countP (TimerMsg.is_for g) ≤ q.timers_to_come g

variable {cfg : Config} {mode : GroupMemProtocol} {gaddr : α} {q q' : Querier α}
  {msg t : TimerMsg α} {unique : Bool} {e : Event α} {es : List (Event α)}

theorem Unwinds.refl (q : Querier α) : Unwinds q q :=
  ⟨le_rfl, [], (List.append_nil _).symm, by simp, by simp⟩

theorem countP_is_for_eq_zero {ts : List (TimerMsg α)} (h : ∀ t ∈ ts, t.gaddr ≠ some gaddr) :
    ts.countP (TimerMsg.is_for gaddr) = 0 := by
  rw [List.countP_eq_zero]
  intro t ht
  simpa [TimerMsg.is_for] using h t ht

theorem WindsDown.unwinds (h : WindsDown gaddr q q')
    (hothers : ∀ g, g ≠ gaddr →
      OrdMap.lookup q'.m_db.group_info g = OrdMap.lookup q.m_db.group_info g) :
    Unwinds q q' := by
  obtain ⟨ts, hts, hnew, hrank⟩ := h.armed
  refine ⟨h.readings, ts, hts, fun t ht => (hnew t ht).2, fun g => ?_⟩
  by_cases hg : g = gaddr
  · subst hg
    have hcount := List.countP_le_length (p := TimerMsg.is_for g) (l := ts)
    omega
  · have hcount : ts.countP (TimerMsg.is_for g) = 0 := by
      apply countP_is_for_eq_zero
      intro t ht heq
      rw [(hnew t ht).1.gaddr] at heq
      exact hg (Option.some.inj heq).symm
    rw [hcount, Querier.timers_to_come, hothers g hg]
    rfl

theorem timer_triggerd_unwinds (h : timer_triggerd cfg unique msg q = .ok q') :
    Unwinds q q' := by
  rcases timer_triggerd_cases h with ⟨-, rfl⟩ | ⟨-, rfl⟩ | ⟨-, rfl⟩ | ⟨gaddr, ginfo, -, hl, hg⟩
  · exact .refl q'
  · unfold timer_triggerd_general_query_timer
    split_ifs
    · exact ⟨Nat.le_add_right _ 2, [_], rfl, fun t ht => by rw [List.mem_singleton.mp ht]; rfl,
        fun g => le_rfl⟩
    · exact .refl q
  · exact .refl q'
  · exact (timer_triggerd_group_winds_down hg hl).unwinds
      fun g hne => (timer_triggerd_group_step hg).lookup_of_ne hne

-- No report about the group; anything else may happen.
def silent_about (gaddr : α) (_ : Querier α) : Event α → Prop
  | .record gr => gr.gaddr ≠ gaddr
  | .timer _ _ => True

instance (gaddr : α) (q : Querier α) (e : Event α) : Decidable (silent_about gaddr q e) :=
  match e with
  | .record gr => inferInstanceAs (Decidable (gr.gaddr ≠ gaddr))
  | .timer _ _ => inferInstanceAs (Decidable True)

def Event.delivers_for (gaddr : α) : Event α → Bool
  | .record _ => false
  | .timer msg _ => msg.is_for gaddr

-- Each timer of the group that is delivered is one less to come.
theorem timers_left_step (he : querier_enabled mode q e) (hsilent : silent_about gaddr q e)
    (h : querier_step cfg q e = .ok q') :
    q'.timers_left gaddr + (if e.delivers_for gaddr then 1 else 0) ≤ q.timers_left gaddr := by
  cases e with
  | record gr =>
    obtain ⟨ts, hts, hnew⟩ := (receive_record_arms h).armed
    have hlook := receive_record_lookup_of_ne h (Ne.symm hsilent)
    have hcount : ts.countP (TimerMsg.is_for gaddr) = 0 := by
      apply countP_is_for_eq_zero
      intro t ht heq
      exact hsilent (Option.some.inj ((hnew t ht).1.gaddr.symm.trans heq))
    simp only [Querier.timers_left, Querier.timers_to_come, Event.delivers_for, hts,
      List.countP_append, hcount, hlook, Bool.false_eq_true, if_false]
    exact le_rfl
  | timer msg unique =>
    obtain ⟨ts, hts, -, hrank⟩ := (timer_triggerd_unwinds h).armed
    have htiming : q'.env.timing = q.env.timing.erase msg ++ ts := hts
    have hcome : q'.timers_to_come gaddr + ts.countP (TimerMsg.is_for gaddr) ≤
        q.timers_to_come gaddr := hrank gaddr
    have herase := (List.perm_cons_erase he.1).countP_eq (TimerMsg.is_for gaddr)
    have hdelivers : (Event.timer msg unique).delivers_for gaddr = msg.is_for gaddr := rfl
    rw [List.countP_cons] at herase
    rw [hdelivers, Querier.timers_left, Querier.timers_left, htiming, List.countP_append]
    omega

-- The timers its members rest on are among those that were pending before.
theorem member_timer_step (hsilent : silent_about gaddr q e) (h : querier_step cfg q e = .ok q')
    (ht : t ∈ q'.env.timing) (hgaddr : t.gaddr = some gaddr) (hmember : t.of_member = true) :
    t ∈ q.env.timing := by
  cases e with
  | record gr =>
    obtain ⟨ts, hts, hnew⟩ := (receive_record_arms h).armed
    rw [hts] at ht
    rcases List.mem_append.mp ht with ht | ht
    · exact ht
    · exact absurd (Option.some.inj ((hnew t ht).1.gaddr.symm.trans hgaddr)) hsilent
  | timer msg unique =>
    obtain ⟨ts, hts, hnew, -⟩ := (timer_triggerd_unwinds h).armed
    rw [hts] at ht
    rcases List.mem_append.mp ht with ht | ht
    · exact List.mem_of_mem_erase ht
    · exact absurd hmember (by simp [hnew t ht])

-- Whatever comes in, no membership is promised for longer than its time.
theorem ends_in_time_step (hends : ∀ t ∈ q.env.timing, q.env.EndsInTime cfg t)
    (h : querier_step cfg q e = .ok q') : ∀ t ∈ q'.env.timing, q'.env.EndsInTime cfg t := by
  intro t ht
  cases e with
  | record gr =>
    have harms := receive_record_arms h
    obtain ⟨ts, hts, hnew⟩ := harms.armed
    rw [hts] at ht
    rcases List.mem_append.mp ht with ht | ht
    · exact (hends t ht).mono harms.readings
    · exact (hnew t ht).2
  | timer msg unique =>
    have hunwinds := timer_triggerd_unwinds h
    obtain ⟨ts, hts, hnew, -⟩ := hunwinds.armed
    rw [hts] at ht
    rcases List.mem_append.mp ht with ht | ht
    · exact (hends t (List.mem_of_mem_erase ht)).mono hunwinds.readings
    · exact fun hmember => absurd hmember (by simp [hnew t ht])

theorem ends_in_time (hq : (querier α cfg mode).Reachable q) :
    ∀ t ∈ q.env.timing, q.env.EndsInTime cfg t := by
  refine hq.invariant (fun q => ∀ t ∈ q.env.timing, q.env.EndsInTime cfg t) ?_ ?_
  · intro t ht hmember
    rw [List.mem_singleton.mp ht] at hmember
    cases hmember
  · intro q e q' hends _ hstep
    exact ends_in_time_step hends hstep

-- Without a timer to rest on there is no membership.
theorem infos_of_no_member_timer (hinv : QuerierInv q)
    (h : ∀ t ∈ q.env.timing, t.gaddr = some gaddr → t.of_member = false) :
    get_group_membership_infos q.m_db gaddr = (INCLUDE_MODE, ∅) := by
  unfold get_group_membership_infos
  cases hlook : OrdMap.lookup q.m_db.group_info gaddr with
  | none => rfl
  | some ginfo =>
    obtain ⟨hg, hneutral⟩ := hinv.groups gaddr ginfo hlook
    have hunarmed (type : MessageType) (ptr : Option (TimerMsg α))
        (htype : type = FILTER_TIMER_MSG ∨ type = SOURCE_TIMER_MSG) :
        ¬ q.env.Armed type gaddr ptr := by
      rintro ⟨t, ht, -, rfl, hgaddr⟩
      have hmember := TimerMsg.of_member_iff.mpr htype
      rw [h t ht hgaddr] at hmember
      cases hmember
    have hmode : ginfo.filter_mode = INCLUDE_MODE := by
      cases hm : ginfo.filter_mode with
      | INCLUDE_MODE => rfl
      | EXCLUDE_MODE => exact absurd (hg.exclude_mode hm) (hunarmed _ _ (.inl rfl))
    have hempty : ginfo.include_requested_list = ∅ := by
      apply OrdSet.ext_find
      intro a
      cases hs : ginfo.include_requested_list.find a with
      | none => rfl
      | some s => exact absurd (hg.armed hs) (hunarmed _ _ (.inr rfl))
    have holder := hneutral hmode (by simp [hempty])
    simp [membership_infos, GaddrInfo.is_under_bakcward_compatibility_effects, holder, hmode,
      hempty]

-- The runs of a querier from some state on in which nothing is heard about the group.
def silence (cfg : Config) (mode : GroupMemProtocol) (q : Querier α) (gaddr : α) :
    Machine (Querier α) (Event α) Fault :=
  ((querier α cfg mode).startAt q).restrict (silent_about gaddr)

instance (cfg : Config) (mode : GroupMemProtocol) (q₀ : Querier α) (gaddr : α) (q : Querier α)
    (e : Event α) : Decidable ((silence cfg mode q₀ gaddr).enabled q e) :=
  inferInstanceAs (Decidable (_ ∧ _))

theorem silence_inv (hq : (querier α cfg mode).Reachable q)
    (hq' : (silence cfg mode q gaddr).Reachable q') : QuerierInv q' :=
  querier_inv (hq.of_startAt hq'.of_restrict)

theorem silence_member_timer (hq' : (silence cfg mode q gaddr).Reachable q')
    (ht : t ∈ q'.env.timing) (hgaddr : t.gaddr = some gaddr) (hmember : t.of_member = true) :
    t ∈ q.env.timing := by
  refine hq'.invariant (fun q' => t ∈ q'.env.timing → t ∈ q.env.timing) id ?_ ht
  intro q₁ e q₂ hkept he hstep ht
  exact hkept (member_timer_step he.2 hstep ht hgaddr hmember)

-- A group nobody reports about any more takes a bounded number of its timers, whatever is
-- reported about others, and is forgotten when they are used up.
theorem silent_group_winds_down (hq : (querier α cfg mode).Reachable q)
    (run : (silence cfg mode q gaddr).Run es q') :
    es.countP (Event.delivers_for gaddr) ≤ q.timers_left gaddr ∧
      ((∀ t ∈ q'.env.timing, t.gaddr ≠ some gaddr) →
        get_group_membership_infos q'.m_db gaddr = (INCLUDE_MODE, ∅)) := by
  constructor
  · apply (Nat.le_add_right _ (q'.timers_left gaddr)).trans
    apply run.countP_add_rank_le (fun q => q.timers_left gaddr)
    intro q₁ e q₂ _ he hstep
    exact timers_left_step he.1 he.2 hstep
  · intro hnone
    exact infos_of_no_member_timer (silence_inv hq run.reachable)
      fun t ht hgaddr => absurd hgaddr (hnone t ht)

-- A host of an older version joins and leaves, and then another group is reported about.
theorem igmpv2_group_winds_down : ∃ q q' : Querier Ipv4Addr,
    (querier Ipv4Addr default_config IGMPv3).Run
        [.record ⟨MODE_IS_EXCLUDE, 7, sources [], IGMPv2⟩,
          .record ⟨CHANGE_TO_INCLUDE_MODE, 7, sources [], IGMPv2⟩] q ∧
      (get_group_membership_infos q.m_db 7).1 = EXCLUDE_MODE ∧ q.timers_left 7 = 7 ∧
      (silence default_config IGMPv3 q 7).Run
        [.timer ⟨6, RET_GROUP_TIMER_MSG, some 7, 1000000011, false⟩ false,
          .record ⟨MODE_IS_EXCLUDE, 9, sources [], IGMPv3⟩,
          .timer ⟨5, FILTER_TIMER_MSG, some 7, 2000000009, false⟩ false,
          .timer ⟨1, OLDER_HOST_PRESENT_TIMER_MSG, some 7, 260000000002, false⟩ true,
          .timer ⟨2, FILTER_TIMER_MSG, some 7, 260000000004, false⟩ false,
          .timer ⟨3, OLDER_HOST_PRESENT_TIMER_MSG, some 7, 260000000006, false⟩ false] q' ∧
      (∀ t ∈ q'.env.timing, t.gaddr ≠ some 7) ∧ 5 ≤ q.timers_left 7 ∧
      get_group_membership_infos q'.m_db 7 = (INCLUDE_MODE, ∅) := by
  obtain ⟨q, run, hq⟩ := Machine.exists_run_of_exec (querier Ipv4Addr default_config IGMPv3)
    [.record ⟨MODE_IS_EXCLUDE, 7, sources [], IGMPv2⟩,
      .record ⟨CHANGE_TO_INCLUDE_MODE, 7, sources [], IGMPv2⟩]
    (fun q => decide ((get_group_membership_infos q.m_db 7).1 = EXCLUDE_MODE ∧
        q.timers_left 7 = 7) &&
      ((silence default_config IGMPv3 q 7).exec
        [.timer ⟨6, RET_GROUP_TIMER_MSG, some 7, 1000000011, false⟩ false,
          .record ⟨MODE_IS_EXCLUDE, 9, sources [], IGMPv3⟩,
          .timer ⟨5, FILTER_TIMER_MSG, some 7, 2000000009, false⟩ false,
          .timer ⟨1, OLDER_HOST_PRESENT_TIMER_MSG, some 7, 260000000002, false⟩ true,
          .timer ⟨2, FILTER_TIMER_MSG, some 7, 260000000004, false⟩ false,
          .timer ⟨3, OLDER_HOST_PRESENT_TIMER_MSG, some 7, 260000000006, false⟩ false]).any
        fun q' : Querier Ipv4Addr => decide (∀ t ∈ q'.env.timing, t.gaddr ≠ some 7))
    (by decide +kernel)
  rw [Bool.and_eq_true] at hq
  obtain ⟨hinfos, hleft⟩ := of_decide_eq_true hq.1
  obtain ⟨q', run', hq'⟩ := Machine.exists_run_of_exec _ _ _ hq.2
  have hnone := of_decide_eq_true hq'
  obtain ⟨hcount, hforgotten⟩ := silent_group_winds_down run.reachable run'
  exact ⟨q, q', run, hinfos, hleft, run', hnone, hcount, hforgotten hnone⟩

-- It is forgotten by the time its members were promised, if no timer of it is overdue.
theorem silent_group_forgotten (hq : (querier α cfg mode).Reachable q)
    (hq' : (silence cfg mode q gaddr).Reachable q')
    (helapsed : after (q.env.now cfg) cfg.tv.membership_time ≤ q'.env.now cfg)
    (hdue : ∀ t ∈ q'.env.timing, t.gaddr = some gaddr → q'.env.now cfg < t.end_time) :
    get_group_membership_infos q'.m_db gaddr = (INCLUDE_MODE, ∅) := by
  refine infos_of_no_member_timer (silence_inv hq hq') fun t ht hgaddr => ?_
  by_contra hmember
  rw [Bool.not_eq_false] at hmember
  have hpending := silence_member_timer hq' ht hgaddr hmember
  have hend := ends_in_time hq t hpending hmember
  have hlate := hdue t ht hgaddr
  omega

-- A clock that jumps by five minutes.
def passing_time : Config := ⟨jumping (List.replicate 300 6), {}⟩

-- Two sources are asked for once, and the five minutes pass.
theorem sources_forgotten_after_five_minutes : ∃ q q' : Querier Ipv4Addr,
    (querier Ipv4Addr passing_time IGMPv3).Run
        [.record ⟨ALLOW_NEW_SOURCES, 7, sources [3, 4], IGMPv3⟩] q ∧
      (get_group_membership_infos q.m_db 7).2.keys = [3, 4] ∧
      (silence passing_time IGMPv3 q 7).Run
        [.record ⟨CHANGE_TO_EXCLUDE_MODE, 9, sources [], IGMPv3⟩,
          .timer ⟨1, SOURCE_TIMER_MSG, some 7, 260000000002, false⟩ false] q' ∧
      get_group_membership_infos q'.m_db 7 = (INCLUDE_MODE, ∅) := by
  obtain ⟨q, run, hq⟩ := Machine.exists_run_of_exec
    (querier Ipv4Addr passing_time IGMPv3)
    [.record ⟨ALLOW_NEW_SOURCES, 7, sources [3, 4], IGMPv3⟩]
    (fun q => decide ((get_group_membership_infos q.m_db 7).2.keys = [3, 4]) &&
      ((silence passing_time IGMPv3 q 7).exec
        [.record ⟨CHANGE_TO_EXCLUDE_MODE, 9, sources [], IGMPv3⟩,
          .timer ⟨1, SOURCE_TIMER_MSG, some 7, 260000000002, false⟩ false]).any
        fun q' : Querier Ipv4Addr =>
          decide (after (q.env.now passing_time) passing_time.tv.membership_time ≤
              q'.env.now passing_time ∧
            ∀ t ∈ q'.env.timing, t.gaddr = some 7 → q'.env.now passing_time < t.end_time))
    (by decide +kernel)
  rw [Bool.and_eq_true] at hq
  obtain ⟨q', run', hq'⟩ := Machine.exists_run_of_exec _ _ _ hq.2
  obtain ⟨helapsed, hdue⟩ := of_decide_eq_true hq'
  exact ⟨q, q', run, of_decide_eq_true hq.1, run',
    silent_group_forgotten run.reachable run'.reachable helapsed hdue⟩

end Silence

end Mcproxy
