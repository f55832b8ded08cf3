import Mcproxy.Querier.Lemmas
import Mcproxy.Routing.Recorded

namespace Mcproxy

open Container Transition McFilter McastAddrRecordType MessageType RbRuleMatchingType
  RbInterfaceType RbInterfaceDirection

variable {α : Type*} [LinearOrder α]

section Surroundings

namespace Env

-- What happens to the surroundings of a querier if each timer is armed right after it was
-- constructed, with the duration it was constructed with.
inductive Punctual (cfg : Config) : Env α → Env α → Prop
  | refl (e : Env α) : Punctual cfg e e
  | trans {e₁ e₂ e₃ : Env α} (first : Punctual cfg e₁ e₂) (second : Punctual cfg e₂ e₃) :
      Punctual cfg e₁ e₃
  | arm (e : Env α) (type : MessageType) (gaddr : Option α) (duration : ℕ) :
      Punctual cfg e ((e.make_shared cfg type gaddr duration).2.add_time duration
        (e.make_shared cfg type gaddr duration).1)
  | construct (e : Env α) (type : MessageType) (gaddr : Option α) (duration : ℕ) :
      Punctual cfg e (e.make_shared cfg type gaddr duration).2
  | reading (e : Env α) (n : ℕ) : Punctual cfg e { e with readings := e.readings + n }
  | act (e : Env α) (as : List (Action α)) (has : ∀ delay timer, .add_time delay timer ∉ as) :
      Punctual cfg e { e with trace := e.trace ++ as }
  | deliver (e : Env α) (msg : TimerMsg α) :
      Punctual cfg e { e with timing := e.timing.erase msg }

variable {cfg : Config} {e e' : Env α}

-- So a timer ends the delay after a reading of the clock between the two.
theorem Punctual.end_times (h : e.Punctual cfg e') :
    e.readings ≤ e'.readings ∧ ∃ as, e'.trace = e.trace ++ as ∧
      ∀ delay timer, .add_time delay timer ∈ as → ∃ n, e.readings ≤ n ∧ n < e'.readings ∧
        timer.end_time = after (cfg.clk.reading n) delay := by
  induction h with
  | refl e => exact ⟨le_rfl, [], by simp, by simp⟩
  | trans _ _ hfirst hsecond =>
    obtain ⟨hle, as, has, hend⟩ := hfirst
    obtain ⟨hle', bs, hbs, hend'⟩ := hsecond
    refine ⟨hle.trans hle', as ++ bs, by rw [hbs, has, List.append_assoc], ?_⟩
    intro delay timer hmem
    rcases List.mem_append.mp hmem with hmem | hmem
    · obtain ⟨n, hlo, hhi, hn⟩ := hend delay timer hmem
      exact ⟨n, hlo, hhi.trans_le hle', hn⟩
    · obtain ⟨n, hlo, hhi, hn⟩ := hend' delay timer hmem
      exact ⟨n, hle.trans hlo, hhi, hn⟩
  | arm e type gaddr duration =>
    refine ⟨Nat.le_add_right e.readings 2, [_], rfl, fun delay timer hmem => ?_⟩
    obtain ⟨rfl, rfl⟩ := Action.add_time.inj (List.mem_singleton.mp hmem)
    exact ⟨e.readings, le_rfl, Nat.lt_succ_of_lt (Nat.lt_succ_self _), rfl⟩
  | construct e => exact ⟨Nat.le_succ _, [], (List.append_nil _).symm, by simp⟩
  | reading e n => exact ⟨Nat.le_add_right _ _, [], (List.append_nil _).symm, by simp⟩
  | act e as has =>
    exact ⟨le_rfl, as, rfl, fun delay timer hmem => absurd hmem (has delay timer)⟩
  | deliver e msg => exact ⟨le_rfl, [], (List.append_nil _).symm, by simp⟩

theorem Punctual.act_single (e : Env α) {a : Action α}
    (ha : ∀ delay timer, a ≠ .add_time delay timer) : e.Punctual cfg (e.act a) :=
  .act e [a] fun delay timer hmem => ha delay timer (List.mem_singleton.mp hmem).symm

theorem Punctual.notify (e : Env α) (gaddr : α) (found : Option (GaddrInfo α)) :
    e.Punctual cfg (e.state_change_notification gaddr found) :=
  .act_single e (by simp)

end Env

end Surroundings

section Parts

variable (cfg : Config) (gaddr : α) (ginfo : GaddrInfo α) (env : Env α)

theorem mali_punctual (slist tmp_slist : SourceList α) :
    env.Punctual cfg (mali cfg gaddr slist tmp_slist env).2 := by
  simp only [mali, mali_slist]
  split_ifs
  · exact .construct ..
  · exact .arm ..

theorem mali_filter_timer_punctual :
    env.Punctual cfg (mali_filter_timer cfg gaddr ginfo env).2 :=
  .arm ..

theorem send_src_query_punctual (slist : SourceList α) :
    env.Punctual cfg (send_mc_addr_and_src_specific_query cfg gaddr slist env).2.2 := by
  obtain ⟨n, as, hn, has⟩ := (send_src_query_spec cfg gaddr slist env).2
  rw [hn]
  refine .trans (.reading env n) (.act _ as fun delay timer hmem => ?_)
  obtain ⟨s_flag, sl, h⟩ := has _ hmem
  cases h

theorem send_Q_punctual (tmp : SourceList α) (ret : Bool) :
    env.Punctual cfg (send_Q cfg gaddr ginfo tmp ret env).2 := by
  have hrequery : env.Punctual cfg
      (requery_sources cfg gaddr ginfo.include_requested_list tmp env).2 := by
    simp only [requery_sources]
    split_ifs
    · exact .arm ..
    · exact .construct ..
  unfold send_Q
  dsimp only
  split_ifs
  · exact (hrequery.trans (send_src_query_punctual ..)).trans (.arm ..)
  · exact hrequery.trans (send_src_query_punctual ..)
  · exact hrequery

theorem start_group_queries_punctual :
    env.Punctual cfg (start_group_queries cfg gaddr ginfo env).2 := by
  unfold start_group_queries
  dsimp only
  split_ifs
  · exact .arm ..
  · exact .refl env

theorem schedule_group_query_punctual :
    env.Punctual cfg (schedule_group_query cfg gaddr ginfo env).2 := by
  unfold schedule_group_query
  dsimp only
  split_ifs
  · exact .arm ..
  · exact .refl env

variable {cfg gaddr ginfo env}

theorem send_group_query_punctual {r : GaddrInfo α × Env α}
    (h : send_group_query cfg gaddr ginfo env = .ok r) : env.Punctual cfg r.2 := by
  unfold send_group_query at h
  cases hft : ginfo.shared_filter_timer with
  | none => simp [hft] at h
  | some ftimer =>
    simp only [hft] at h
    obtain rfl := Except.ok.inj h
    exact .trans (.reading env 1) (.act_single _ (by simp))

theorem send_Q_group_punctual {r : GaddrInfo α × Env α}
    (h : send_Q_group cfg gaddr ginfo env = .ok r) : env.Punctual cfg r.2 := by
  have hstart := start_group_queries_punctual cfg gaddr ginfo env
  unfold send_Q_group at h
  dsimp only at h
  split_ifs at h
  · exact (hstart.trans (schedule_group_query_punctual ..)).trans (send_group_query_punctual h)
  · obtain rfl := Except.ok.inj h
    exact hstart

end Parts

section Handlers

variable {cfg : Config} {gaddr : α} {ginfo : GaddrInfo α} {env : Env α}
  {record_type : McastAddrRecordType} {slist : SourceList α}

theorem receive_record_in_include_mode_punctual (cfg : Config)
    (record_type : McastAddrRecordType) (gaddr : α) (slist : SourceList α) (ginfo : GaddrInfo α)
    (env : Env α) :
    env.Punctual cfg
      (receive_record_in_include_mode cfg record_type gaddr slist ginfo env).2 := by
  cases record_type with
  | ALLOW_NEW_SOURCES | MODE_IS_INCLUDE => exact (mali_punctual ..).trans (.notify ..)
  | BLOCK_OLD_SOURCES => exact send_Q_punctual ..
  | CHANGE_TO_EXCLUDE_MODE =>
    exact ((send_Q_punctual ..).trans (mali_filter_timer_punctual ..)).trans (.notify ..)
  | CHANGE_TO_INCLUDE_MODE =>
    exact ((send_Q_punctual ..).trans (mali_punctual ..)).trans (.notify ..)
  | MODE_IS_EXCLUDE => exact (mali_filter_timer_punctual ..).trans (.notify ..)
  | unknown => exact .refl env

theorem receive_record_in_exclude_mode_punctual {r : GaddrInfo α × Env α}
    (h : receive_record_in_exclude_mode cfg record_type gaddr slist ginfo env = .ok r) :
    env.Punctual cfg r.2 := by
  cases record_type with
  | ALLOW_NEW_SOURCES | MODE_IS_INCLUDE =>
    obtain rfl := Except.ok.inj h
    exact (mali_punctual ..).trans (.notify ..)
  | BLOCK_OLD_SOURCES =>
    obtain rfl := Except.ok.inj h
    exact send_Q_punctual ..
  | CHANGE_TO_EXCLUDE_MODE =>
    obtain rfl := Except.ok.inj h
    exact ((send_Q_punctual ..).trans (mali_filter_timer_punctual ..)).trans (.notify ..)
  | CHANGE_TO_INCLUDE_MODE =>
    obtain ⟨r', hr', rfl⟩ := exists_of_map_ok h
    have hqueries := (send_Q_punctual ..).trans (send_Q_group_punctual hr')
    exact (hqueries.trans (mali_punctual ..)).trans (.notify ..)
  | MODE_IS_EXCLUDE =>
    obtain rfl := Except.ok.inj h
    exact ((mali_punctual ..).trans (mali_filter_timer_punctual ..)).trans (.notify ..)
  | unknown =>
    obtain rfl := Except.ok.inj h
    exact .refl env

theorem note_older_host_punctual (cfg : Config) (mode proto : GroupMemProtocol) (gaddr : α)
    (ginfo : GaddrInfo α) (env : Env α) :
    env.Punctual cfg (note_older_host cfg mode proto gaddr ginfo env).2 := by
  unfold note_older_host
  split_ifs
  · exact .arm ..
  · exact .refl env

theorem receive_record_punctual {gr : GroupRecordMsg α} {q q' : Querier α}
    (h : receive_record cfg gr q = .ok q') : q.env.Punctual cfg q'.env := by
  have holder := note_older_host_punctual cfg q.m_db.querier_version_mode gr.grp_mem_proto
    gr.gaddr (q.group gr.gaddr) q.env
  obtain ⟨r, rfl, hcase⟩ := receive_record_cases h
  rcases hcase with ⟨-, -, rfl⟩ | ⟨-, ⟨r', -, rfl, ⟨-, -, rfl⟩ | ⟨-, rfl⟩⟩ | ⟨r', -, hr', rfl⟩⟩
  · exact holder
  · exact holder.trans (receive_record_in_include_mode_punctual ..)
  · exact holder.trans (receive_record_in_include_mode_punctual ..)
  · exact holder.trans (receive_record_in_exclude_mode_punctual hr')

theorem send_general_query_punctual (cfg : Config) (q : Querier α) :
    q.env.Punctual cfg (send_general_query cfg q).env :=
  .trans (.arm ..) (.act_single _ (by simp))

theorem GroupTimerStep.punctual {msg : TimerMsg α} {q q' : Querier α}
    (h : GroupTimerStep cfg gaddr msg ginfo q q') : q.env.Punctual cfg q'.env := by
  induction h with
  | ignored => exact .refl _
  | shared _ _ _ _ hfirst hsecond => exact hfirst.trans hsecond
  | group_queried _ _ hr => exact send_Q_group_punctual hr
  | sources_queried => exact send_Q_punctual ..
  | newer_host => exact .arm ..
  | _ => exact .notify ..

theorem querier_step_punctual {q q' : Querier α} {e : Event α}
    (h : querier_step cfg q e = .ok q') : q.env.Punctual cfg q'.env := by
  cases e with
  | record gr => exact receive_record_punctual h
  | timer msg unique =>
    have hdeliver : q.env.Punctual cfg (q.deliver msg).env := .deliver q.env msg
    refine hdeliver.trans ?_
    rcases timer_triggerd_cases h with ⟨-, rfl⟩ | ⟨-, rfl⟩ | ⟨-, rfl⟩ | ⟨gaddr, ginfo, -, -, hg⟩
    · exact .refl _
    · unfold timer_triggerd_general_query_timer
      split_ifs
      · exact send_general_query_punctual ..
      · exact .refl _
    · exact .refl _
    · exact (timer_triggerd_group_step hg).punctual

theorem new_querier_punctual (cfg : Config) (mode : GroupMemProtocol) :
    ({} : Env α).Punctual cfg (new_querier cfg mode : Querier α).env := by
  unfold new_querier
  exact send_general_query_punctual cfg ⟨_, {}⟩

theorem querier_punctual {mode : GroupMemProtocol} {q : Querier α}
    (hq : (querier α cfg mode).Reachable q) : ({} : Env α).Punctual cfg q.env := by
  refine Machine.Reachable.invariant (fun q : Querier α => ({} : Env α).Punctual cfg q.env)
    (new_querier_punctual cfg mode) ?_ hq
  intro q e q' h _ hstep
  exact h.trans (querier_step_punctual hstep)

end Handlers

section Sources

variable (clk : SteadyClock) (get_if_name : ℕ → String) (get_virtual_if_index : ℕ → ℤ)

-- The packet counter of a recorded source has moved since it was last looked at.
def still_used (mroute_stats : MrouteStats α) (d : SimpleRoutingData α) (gaddr saddr : α) : Bool :=
  ((d.get_available_sources gaddr).find saddr).any fun s =>
    to_unsigned_long s.retransmission_count ≠ get_current_packet_count mroute_stats gaddr saddr

-- The interface for which the event arms a source timer.
def armed_interface (s : RoutingState α) (input : RoutingInput α) : Option ℕ :=
  match input.event with
  | .event_new_source if_index _ _ => some if_index
  | .event_querier_state_change .. => none
  | .timer_triggerd_maintain_routing_table tm unique =>
    if !unique && is_current s.m_data tm &&
        still_used input.mroute_stats s.m_data tm.m_gaddr tm.m_saddr then some tm.m_if_index
    else none

-- No source of an upstream is timed under a mutex whose timeout is not the fixed life time.
def KeepsLifeTime (s : RoutingState α) (input : RoutingInput α) : Prop :=
  ∀ if_index ∈ armed_interface s input, input.m_p.is_upstream if_index = true →
    ∀ rule ∈ input.m_p.m_upstream_input_rule,
      rule.m_rule_matching_type = RMT_MUTEX → rule.m_timeout = get_source_life_time

instance (s : RoutingState α) (input : RoutingInput α) : Decidable (KeepsLifeTime s input) :=
  inferInstanceAs (Decidable (∀ if_index ∈ armed_interface s input, _ → ∀ rule ∈ _, _ → _))

def AllOnTime (env : RoutingEnv α) : Prop := ∀ a ∈ env.timing, a.delay = a.duration

theorem source_life_time_eq_iff (r : SimpleMcProxyRouting α) (if_index : ℕ) :
    get_source_life_time = source_life_time r if_index ↔
      (r.m_p.is_upstream if_index = true → ∀ rule ∈ r.m_p.m_upstream_input_rule,
        rule.m_rule_matching_type = RMT_MUTEX → rule.m_timeout = get_source_life_time) := by
  unfold source_life_time is_mutex_upstream is_rule_matching_type
  cases hrule : r.m_p.m_upstream_input_rule with
  | none => simp
  | some rule =>
    cases hup : r.m_p.is_upstream if_index with
    | false => simp
    | true =>
      by_cases hmutex : rule.m_rule_matching_type = RMT_MUTEX
      · simp [hmutex, eq_comm]
      · simp [hmutex]

theorem refresh_snd (mroute_stats : MrouteStats α) (d : SimpleRoutingData α) (gaddr saddr : α) :
    (d.refresh_source_or_del_it_if_unused mroute_stats gaddr saddr).2 =
      still_used mroute_stats d gaddr saddr := by
  unfold SimpleRoutingData.refresh_source_or_del_it_if_unused still_used
    SimpleRoutingData.get_available_sources
  cases OrdMap.lookup d.m_data gaddr with
  | none => simp
  | some value =>
    cases hfind : value.m_source_list.find saddr with
    | none => simp [hfind]
    | some s =>
      simp only [hfind, Option.any_some]
      split_ifs with hcnt
      · simp [hcnt]
      · simp [hcnt]

-- A timer is armed after the fixed life time whatever it was constructed with.
theorem all_on_time_set_source_timer (r : SimpleMcProxyRouting α) (if_index : ℕ) (gaddr saddr : α)
    {env : RoutingEnv α} (h : AllOnTime env) :
    AllOnTime (set_source_timer clk r if_index gaddr saddr env).2 ↔
      get_source_life_time = source_life_time r if_index := by
  unfold AllOnTime set_source_timer
  constructor
  · intro hall
    exact hall _ (List.mem_append_right _ (List.mem_singleton_self _))
  · intro heq a ha
    rcases List.mem_append.mp ha with ha | ha
    · exact h a ha
    · rw [List.mem_singleton.mp ha]
      exact heq

variable {clk get_if_name get_virtual_if_index}

theorem RoutingStep.on_time_iff {s s' : RoutingState α} {input : RoutingInput α}
    (hstep : RoutingStep clk get_if_name get_virtual_if_index s input s')
    (h : AllOnTime s.env) : AllOnTime s'.env ↔ KeepsLifeTime s input := by
  have hquiet : armed_interface s input = none → KeepsLifeTime s input := by
    intro hnone if_index harmed
    simp [hnone] at harmed
  have harms : ∀ i, armed_interface s input = some i → ∀ d,
      (get_source_life_time = source_life_time ⟨input.m_p, d⟩ i ↔ KeepsLifeTime s input) := by
    intro i hi d
    rw [source_life_time_eq_iff, KeepsLifeTime, hi]
    simp
  cases hstep with
  | new_source if_index gaddr saddr records hevent nst hnst d hd =>
    subst hnst
    rw [← harms if_index (by rw [armed_interface, hevent]) s.m_data]
    exact all_on_time_set_source_timer clk _ if_index gaddr saddr h
  | state_change if_index gaddr records hevent =>
    exact iff_of_true h (hquiet (by rw [armed_interface, hevent]))
  | outdated tm unique hevent hold =>
    refine iff_of_true h (hquiet ?_)
    rw [armed_interface, hevent]
    simp [hold]
  | deleted tm records hevent hcurrent d hd =>
    refine iff_of_true h (hquiet ?_)
    have hused := refresh_snd input.mroute_stats s.m_data tm.m_gaddr tm.m_saddr
    rw [hd] at hused
    rw [armed_interface, hevent]
    simp [← hused]
  | refreshed tm hevent hcurrent d hd nst hnst =>
    subst hnst
    have hused := refresh_snd input.mroute_stats s.m_data tm.m_gaddr tm.m_saddr
    rw [hd] at hused
    have harmed : armed_interface s input = some tm.m_if_index := by
      rw [armed_interface, hevent]
      simp [← hused, hcurrent]
    rw [← harms tm.m_if_index harmed d]
    exact all_on_time_set_source_timer clk _ tm.m_if_index tm.m_gaddr tm.m_saddr h

-- The queriers arm each timer with the duration it was constructed with. The routing does so as
-- long as no source of an upstream is timed under a mutex of another timeout.
theorem timers_on_time_iff (cfg : Config) (mode : GroupMemProtocol) (clk : SteadyClock)
    (get_if_name : ℕ → String) (get_virtual_if_index : ℕ → ℤ) :
    (∀ q, (querier α cfg mode).Reachable q → ({} : Env α).Punctual cfg q.env ∧
      ∀ delay timer, .add_time delay timer ∈ q.env.trace →
        ∃ n < q.env.readings, timer.end_time = after (cfg.clk.reading n) delay) ∧
    ∀ es s, (routing α clk get_if_name get_virtual_if_index).Run es s →
      ((∀ es' s', es' <+: es → (routing α clk get_if_name get_virtual_if_index).Run es' s' →
          AllOnTime s'.env) ↔
        ((routing α clk get_if_name get_virtual_if_index).restrict KeepsLifeTime).Run es s) := by
  constructor
  · intro q hq
    have hpunctual := querier_punctual hq
    refine ⟨hpunctual, fun delay timer hmem => ?_⟩
    obtain ⟨-, as, has, hend⟩ := hpunctual.end_times
    rw [has] at hmem
    obtain ⟨n, -, hn⟩ := hend delay timer hmem
    exact ⟨n, hn⟩
  · intro es s run
    refine Machine.Run.forall_iff_restrict ?_ ?_ run
    · exact fun a ha => absurd ha List.not_mem_nil
    · intro es s input s' _ h _ hstep
      obtain ⟨t, ht, hcases⟩ := routing_step_cases clk get_if_name get_virtual_if_index s input
      obtain rfl := Except.ok.inj (ht.symm.trans hstep)
      exact hcases.on_time_iff h

-- For closed runs: the rule is a mutex with the given timeout, and the source comes in on 10.
def under_mutex (timeout : ℤ) (gaddr saddr : Ipv4Addr) : RoutingInput Ipv4Addr :=
  ⟨two_upstreams_state (.rule_matching IT_UPSTREAM "*" ID_IN RMT_MUTEX timeout),
    fun _ _ => none, .event_new_source 10 gaddr saddr⟩

-- A timeout of ten seconds: the timer says ten seconds and is delivered after twenty.
theorem mutex_timer_is_late : ∃ s : RoutingState Ipv4Addr,
    (routing Ipv4Addr ticking example_a_names (fun i => i)).Run [under_mutex 10000 7 3] s ∧
      s.env.timing.map (fun a => (a.duration, a.delay)) = [(10000, 20000)] ∧
      ¬ AllOnTime s.env := by
  obtain ⟨s, run, hs⟩ := Machine.exists_run_of_exec
    (routing Ipv4Addr ticking example_a_names (fun i => i)) [under_mutex 10000 7 3]
    (fun s => s.env.timing.map (fun a => (a.duration, a.delay)) = [(10000, 20000)]) rfl
  rw [decide_eq_true_eq] at hs
  refine ⟨s, run, hs, fun hall => ?_⟩
  obtain ⟨a, ha, heq⟩ := List.mem_map.mp (hs ▸ List.mem_singleton_self _)
  obtain ⟨hduration, hdelay⟩ := Prod.mk.inj heq
  have := hall a ha
  omega

theorem fixed_mutex_timer_on_time : ∃ s : RoutingState Ipv4Addr,
    (routing Ipv4Addr ticking example_a_names (fun i => i)).Run [under_mutex 20000 7 3] s ∧
      s.env.timing.length = 1 ∧ AllOnTime s.env ∧
      ∃ q : Querier Ipv4Addr, (querier Ipv4Addr default_config .IGMPv3).Reachable q ∧
        ({} : Env Ipv4Addr).Punctual default_config q.env := by
  have hboth := timers_on_time_iff (α := Ipv4Addr) default_config .IGMPv3 ticking example_a_names
    (fun i => i)
  obtain ⟨s, run, hs⟩ := Machine.exists_run_of_exec
    ((routing Ipv4Addr ticking example_a_names (fun i => i)).restrict KeepsLifeTime)
    [under_mutex 20000 7 3] (fun s => s.env.timing.length = 1) rfl
  rw [decide_eq_true_eq] at hs
  have hall := (hboth.2 _ s run.of_restrict).mpr run
  exact ⟨s, run.of_restrict, hs, hall _ s List.prefix_rfl run.of_restrict, _,
    Machine.reachable_start, (hboth.1 _ Machine.reachable_start).1⟩

end Sources

end Mcproxy
