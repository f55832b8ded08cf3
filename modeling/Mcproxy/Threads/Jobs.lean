import Mathlib.Algebra.Order.Group.Multiset
import Mathlib.Data.Multiset.Filter
import Mcproxy.Threads.Basic

namespace Mcproxy

open Container Transition GroupMemProtocol MessagePriority

variable {α : Type*} [LinearOrder α]

section Calls

-- What is left of the pending timers before the handler of an event arms new ones.
def Event.kept (timers : List (TimerMsg α)) : Event α → List (TimerMsg α)
  | .record _ => timers
  | .timer msg _ => timers.erase msg

def WorkerMsg.kept (if_index : ℕ) (timers : List (TimerMsg α)) : WorkerMsg α → List (TimerMsg α)
  | .querier_msg i e => if i = if_index then e.kept timers else timers
  | _ => timers

@[simp] theorem Event.kept_nil (e : Event α) : e.kept [] = [] := by
  cases e <;> rfl

-- The timers that join the pending ones are those of the calls in the new part of the trace.
def Env.Calls (timers : List (TimerMsg α)) (e e' : Env α) : Prop :=
  ∃ as, e'.trace = e.trace ++ as ∧ e'.timing = timers ++ (timing_calls as).map Prod.snd

variable {cfg : Config} {mode : GroupMemProtocol} {q q' : Querier α} {e : Event α}

theorem Env.Arms.calls_of {gaddr : α} {e e' : Env α} (h : e.Arms cfg gaddr e') :
    Env.Calls e.timing e e' := by
  obtain ⟨as, htrace, htiming, -⟩ := h.calls
  exact ⟨as, htrace, htiming⟩

theorem Env.Calls.refl (e : Env α) : Env.Calls e.timing e e :=
  ⟨[], (List.append_nil _).symm, (List.append_nil _).symm⟩

theorem send_general_query_calls (cfg : Config) (q : Querier α) :
    Env.Calls q.env.timing q.env (send_general_query cfg q).env :=
  ⟨[_, .send_general_query], List.append_assoc .., rfl⟩

theorem querier_step_calls (h : querier_step cfg q e = .ok q') :
    Env.Calls (e.kept q.env.timing) q.env q'.env := by
  cases e with
  | record gr => exact (receive_record_arms h).calls_of
  | timer msg unique =>
    rcases timer_triggerd_cases h with ⟨-, rfl⟩ | ⟨-, rfl⟩ | ⟨-, rfl⟩ | ⟨gaddr, ginfo, -, -, hg⟩
    · exact .refl (q.deliver msg).env
    · unfold timer_triggerd_general_query_timer
      split_ifs
      · exact send_general_query_calls cfg (q.deliver msg)
      · exact .refl (q.deliver msg).env
    · exact .refl (q.deliver msg).env
    · exact (timer_triggerd_group_step hg).arms.calls_of

end Calls

section Timers

variable {mode : GroupMemProtocol} {clk : SteadyClock} {get_if_name : ℕ → String}
  {get_virtual_if_index : ℕ → ℤ} {s s' : SystemState α} {input : WorkerInput α} {j : ℕ}

-- The pending timers of an interface after a step, and its calls.
def TimersLaw (s s' : SystemState α) (kept : List (TimerMsg α)) (j : ℕ) : Prop :=
  (∃ as, s'.trace j = s.trace j ++ as) ∧
    s'.timers j = kept ++ (s.querier_calls s' j).map Prod.snd

theorem timersLaw_of_calls (e e' : Env α) {kept : List (TimerMsg α)}
    (htrace : s.trace j = e.trace) (htrace' : s'.trace j = e'.trace)
    (htimers' : s'.timers j = e'.timing) (h : Env.Calls kept e e') : TimersLaw s s' kept j := by
  obtain ⟨as, has, hts⟩ := h
  refine ⟨⟨as, by rw [htrace', htrace, has]⟩, ?_⟩
  rw [htimers', hts, SystemState.querier_calls, htrace, htrace', has, List.drop_left]

theorem timersLaw_of_same (h : s'.get_querier j = s.get_querier j) :
    TimersLaw s s' (s.timers j) j := by
  have htrace : s'.trace j = s.trace j := by
    rw [SystemState.trace, h]
    rfl
  have htimers : s'.timers j = s.timers j := by
    rw [SystemState.timers, h]
    rfl
  refine ⟨⟨[], by rw [htrace, List.append_nil]⟩, ?_⟩
  rw [htimers, SystemState.querier_calls, htrace, List.drop_length]
  exact (List.append_nil _).symm

theorem get_querier_add_downstream (p : ProxyInstanceState α) (if_index : ℕ)
    (interf : Interface α) (cfg : Config) (r r' : RoutingState α) :
    (⟨add_downstream mode p if_index interf cfg, r'⟩ : SystemState α).get_querier j =
        (⟨p, r⟩ : SystemState α).get_querier j ∨
      (⟨p, r⟩ : SystemState α).get_querier j = none ∧
        (⟨add_downstream mode p if_index interf cfg, r'⟩ : SystemState α).get_querier j =
          some (new_querier cfg mode) := by
  unfold SystemState.get_querier add_downstream
  cases hnone : OrdMap.lookup p.m_downstreams if_index with
  | some d => exact .inl rfl
  | none =>
    have hnew : if_index ∉ p.m_downstreams := OrdMap.lookup_eq_none_iff.mp hnone
    have hmaps : ∀ (b : Bool) (calls : List Registration),
        (if b then p else p.register calls).m_downstreams = p.m_downstreams := by
      intro b calls
      cases b <;> rfl
    simp only [hmaps]
    rw [OrdMap.lookup_insert hnew]
    by_cases hj : j = if_index
    · rw [if_pos hj, hj, hnone]
      exact .inr ⟨rfl, rfl⟩
    · rw [if_neg hj]
      exact .inl rfl

theorem get_querier_handle_config {msg : ConfigMsg α} (hsent : msg.is_sent = true)
    (clk' : SteadyClock) (j : ℕ) (r : RoutingState α) :
    (⟨handle_config mode s.m_p clk' msg, r⟩ : SystemState α).get_querier j = s.get_querier j ∨
      s.get_querier j = none ∧ ∃ cfg,
        (⟨handle_config mode s.m_p clk' msg, r⟩ : SystemState α).get_querier j =
          some (new_querier cfg mode) := by
  have hsame (p : ProxyInstanceState α) (h : p.m_downstreams = s.m_p.m_downstreams) :
      (⟨p, r⟩ : SystemState α).get_querier j = s.get_querier j := by
    unfold SystemState.get_querier
    rw [h]
  cases msg with
  | ADD_DOWNSTREAM if_index interf tv =>
    rcases get_querier_add_downstream s.m_p if_index interf ⟨clk', tv⟩ s.m_routing_management r
      with h | ⟨hnone, hnew⟩
    · exact .inl h
    · exact .inr ⟨hnone, _, hnew⟩
  | DEL_DOWNSTREAM if_index => cases hsent
  | ADD_UPSTREAM if_index interf upstream_priority =>
    refine .inl (hsame _ ?_)
    simp only [handle_config, add_upstream]
    split
    · split_ifs <;> rfl
    · rfl
  | DEL_UPSTREAM if_index => cases hsent
  | SET_GLOBAL_RULE_BINDING rb =>
    refine .inl (hsame _ ?_)
    simp only [handle_config]
    unfold set_global_rule_binding
    split
    · rfl
    · split_ifs
      · split <;> rfl
      · rfl
      · rfl

-- A message takes at most its own timer from the pending ones of one querier.
theorem system_step_timers
    (hs : (system α mode clk get_if_name get_virtual_if_index).Reachable s)
    (he : system_enabled mode s input)
    (h : system_step mode clk get_if_name get_virtual_if_index s input = .ok s') (j : ℕ) :
    TimersLaw s s' (input.msg.kept j (s.timers j)) j := by
  obtain ⟨msg, mroute_stats⟩ := input
  cases msg with
  | config_msg msg clk' =>
    obtain rfl := Except.ok.inj h
    rcases get_querier_handle_config he clk' j s.m_routing_management with
      hsame | ⟨hnone, cfg, hnew⟩
    · exact timersLaw_of_same hsame
    · refine timersLaw_of_calls {} (new_querier cfg mode : Querier α).env ?_ ?_ ?_ ?_
      · rw [SystemState.trace, hnone]
        rfl
      · rw [SystemState.trace, hnew]
        rfl
      · rw [SystemState.timers, hnew]
        rfl
      · have hnone' : s.timers j = [] := by
          rw [SystemState.timers, hnone]
          rfl
        change Env.Calls (s.timers j) _ _
        rw [hnone']
        exact send_general_query_calls cfg ⟨_, {}⟩
  | querier_msg if_index e =>
    simp only [system_step] at h
    split at h
    · next d cfg hd hcfg =>
      obtain ⟨q, hq, h⟩ := exists_of_bind_ok h
      obtain ⟨r, -, h⟩ := exists_of_bind_ok h
      obtain rfl := Except.ok.inj h
      have hq := querier_step_calls (ok_of_mapError_ok hq)
      by_cases hj : if_index = j
      · subst hj
        have hold : s.get_querier if_index = some d.m_querier := by
          rw [SystemState.get_querier, hd]
          rfl
        have hnew : (⟨s.m_p.set_querier if_index d q, r⟩ : SystemState α).get_querier if_index =
            some q := by
          simp [SystemState.get_querier, ProxyInstanceState.set_querier, OrdMap.lookup_assign]
        have htimers : s.timers if_index = d.m_querier.env.timing := by
          rw [SystemState.timers, hold]
          rfl
        refine timersLaw_of_calls d.m_querier.env q.env ?_ ?_ ?_ ?_
        · rw [SystemState.trace, hold]
          rfl
        · rw [SystemState.trace, hnew]
          rfl
        · rw [SystemState.timers, hnew]
          rfl
        · rw [WorkerMsg.kept, if_pos rfl, htimers]
          exact hq
      · rw [WorkerMsg.kept, if_neg hj]
        apply timersLaw_of_same
        simp [SystemState.get_querier, ProxyInstanceState.set_querier, OrdMap.lookup_assign,
          Ne.symm hj]
    · next hdropped =>
      obtain rfl := Except.ok.inj h
      have hkept : WorkerMsg.kept j (s.timers j) (.querier_msg if_index e) = s.timers j := by
        rw [WorkerMsg.kept]
        split_ifs with hj
        · subst hj
          cases hd : OrdMap.lookup s.m_p.m_downstreams if_index with
          | none =>
            have hnone : s.timers if_index = [] := by
              rw [SystemState.timers, SystemState.get_querier, hd]
              rfl
            rw [hnone, Event.kept_nil]
          | some d =>
            obtain ⟨cfg, hcfg, -⟩ := system_queriers_reachable hs if_index d hd
            exact absurd hcfg (hdropped d cfg hd)
        · rfl
      rw [hkept]
      exact timersLaw_of_same rfl
  | new_source_msg if_index gaddr saddr =>
    obtain ⟨r, -, rfl⟩ := exists_of_map_ok h
    exact timersLaw_of_same rfl
  | new_source_timer_msg tm unique =>
    obtain ⟨r, -, rfl⟩ := exists_of_map_ok h
    exact timersLaw_of_same rfl

end Timers

section Jobs

-- The message is one that the worker can get.
def Job.Sound (mode : GroupMemProtocol) (s : SystemState α) : Job α → Prop
  | .config_msg msg _ => msg.is_sent = true
  | .group_record_msg _ record => record.built_by_receiver mode
  | .timer_msg if_index tm => tm ∈ s.timers if_index
  | .new_source_timer_msg tm => tm ∈ s.m_routing_management.env.timers
  | .new_source_msg _ _ _ | .debug_msg | .exit_cmd => True

def Job.timer : Job α → Option (ℕ × TimerMsg α)
  | .timer_msg if_index tm => some (if_index, tm)
  | _ => none

-- The messages under way to the worker: each can be handled, and no timer is among them twice.
structure JobsInv (mode : GroupMemProtocol) (s : SystemState α) (jobs : Multiset (Job α)) :
    Prop where
  sound : ∀ job ∈ jobs, job.Sound mode s
  once : (jobs.filterMap Job.timer).Nodup

variable {mode : GroupMemProtocol} {clk : SteadyClock} {get_if_name : ℕ → String}
  {get_virtual_if_index : ℕ → ℤ} {s s' : SystemState α} {jobs jobs' new : Multiset (Job α)}
  {job : Job α} {unique : Bool}

theorem JobsInv.of_le (h : JobsInv mode s jobs) (hle : jobs' ≤ jobs) : JobsInv mode s jobs' :=
  ⟨fun job hjob => h.sound job (Multiset.mem_of_le hle hjob),
    Multiset.nodup_of_le (Multiset.filterMap_le_filterMap _ hle) h.once⟩

-- A message that is no timer joins.
theorem JobsInv.add (h : JobsInv mode s jobs)
    (hnew : ∀ job ∈ new, job.Sound mode s ∧ job.timer = none) : JobsInv mode s (new + jobs) := by
  have hnone : new.filterMap Job.timer = 0 := by
    rw [Multiset.eq_zero_iff_forall_notMem]
    intro t ht
    obtain ⟨job, hjob, htimer⟩ := (Multiset.mem_filterMap _ _).mp ht
    rw [(hnew job hjob).2] at htimer
    cases htimer
  refine ⟨fun job hjob => ?_, ?_⟩
  · rcases Multiset.mem_add.mp hjob with hjob | hjob
    · exact (hnew job hjob).1
    · exact h.sound job hjob
  · rw [Multiset.filterMap_add, hnone, zero_add]
    exact h.once

theorem timer_eq_some_iff {if_index : ℕ} {tm : TimerMsg α} :
    job.timer = some (if_index, tm) ↔ job = .timer_msg if_index tm := by
  cases job <;> simp [Job.timer]

-- The routing management forgets no timer it armed.
theorem routing_timing_prefix {r r' : RoutingState α}
    (h : ((routing α clk get_if_name get_virtual_if_index).startAt r).Reachable r') :
    r.env.timing <+: r'.env.timing := by
  refine h.invariant (fun r' => r.env.timing <+: r'.env.timing) List.prefix_rfl ?_
  intro r₁ input r₂ hpre _ hstep
  obtain ⟨r₃, hr₃, hcases⟩ := routing_step_cases clk get_if_name get_virtual_if_index r₁ input
  obtain rfl := Except.ok.inj (hstep.symm.trans hr₃)
  refine hpre.trans ?_
  cases hcases with
  | new_source _ _ _ _ _ nst hnst =>
    rw [hnst]
    exact List.prefix_append ..
  | refreshed _ _ _ _ _ nst hnst =>
    rw [hnst]
    exact List.prefix_append ..
  | _ => exact List.prefix_rfl

theorem system_step_routing_timing {input : WorkerInput α}
    (hs : (system α mode clk get_if_name get_virtual_if_index).Reachable s)
    (he : system_enabled mode s input)
    (h : system_step mode clk get_if_name get_virtual_if_index s input = .ok s') :
    s.m_routing_management.env.timing <+: s'.m_routing_management.env.timing := by
  obtain ⟨r, hr, rfl⟩ := system_simulates_routing.step s s.m_routing_management input s' hs
    (system_routing_reachable hs) rfl he h
  exact routing_timing_prefix hr

theorem system_timers_nodup
    (hs : (system α mode clk get_if_name get_virtual_if_index).Reachable s) (j : ℕ) :
    (s.timers j).Nodup := by
  unfold SystemState.timers SystemState.get_querier
  cases hd : OrdMap.lookup s.m_p.m_downstreams j with
  | none => exact List.nodup_nil
  | some d =>
    obtain ⟨cfg, -, hq⟩ := system_queriers_reachable hs j d hd
    exact (querier_inv hq).pending.nodup.of_map

-- The calls after a step are about timers that are pending.
theorem add_time_calls_sound {input : WorkerInput α}
    (hs : (system α mode clk get_if_name get_virtual_if_index).Reachable s)
    (he : system_enabled mode s input)
    (h : system_step mode clk get_if_name get_virtual_if_index s input = .ok s') :
    ∀ c ∈ s.add_time_calls s', c.2.Sound mode s' := by
  intro c hc
  rcases List.mem_append.mp hc with hc | hc
  · obtain ⟨j, -, hc⟩ := List.mem_flatMap.mp hc
    obtain ⟨call, hcall, rfl⟩ := List.mem_map.mp hc
    change call.2 ∈ s'.timers j
    rw [(system_step_timers hs he h j).2]
    exact List.mem_append_right _ (List.mem_map_of_mem hcall)
  · obtain ⟨a, ha, rfl⟩ := List.mem_map.mp hc
    exact List.mem_map_of_mem (List.mem_of_mem_drop ha)

theorem timers_of_calls (s s' : SystemState α) :
    ((s.add_time_calls s').map Prod.snd).filterMap Job.timer =
      s'.m_p.m_downstreams.keys.flatMap fun j =>
        (s.querier_calls s' j).map fun c => (j, c.2) := by
  have hrouting (l : List (ArmedTimer α)) :
      l.filterMap (fun a => (Job.new_source_timer_msg a.timer : Job α).timer) = [] := by
    rw [List.filterMap_eq_nil_iff]
    exact fun a _ => rfl
  have hquerier (j : ℕ) (l : List (ℕ × TimerMsg α)) :
      l.filterMap (fun c => (Job.timer_msg j c.2 : Job α).timer) = l.map fun c => (j, c.2) :=
    congrFun List.filterMap_eq_map l
  simp only [SystemState.add_time_calls, List.map_append, List.filterMap_append, List.map_map,
    List.map_flatMap, List.filterMap_flatMap, List.filterMap_map, Function.comp_def, hrouting,
    hquerier, List.append_nil]

-- The worker takes one message. The timers of the others stay pending.
theorem JobsInv.mem_kept {msg : WorkerMsg α} {j : ℕ} {tm : TimerMsg α}
    (h : JobsInv mode s (job ::ₘ jobs)) (hmsg : job.worker_msg unique = some msg)
    (hjob : .timer_msg j tm ∈ jobs) : tm ∈ msg.kept j (s.timers j) := by
  have hmem : tm ∈ s.timers j := h.sound _ (Multiset.mem_cons_of_mem hjob)
  cases job with
  | timer_msg i tm' =>
    obtain rfl := Option.some.inj hmsg
    rw [WorkerMsg.kept]
    split_ifs with hi
    · subst hi
      have honce := h.once
      rw [Multiset.filterMap_cons_some Job.timer _ _ rfl, Multiset.nodup_cons] at honce
      have hne : tm ≠ tm' := by
        rintro rfl
        exact honce.1 ((Multiset.mem_filterMap _ _).mpr ⟨_, hjob, rfl⟩)
      exact (List.mem_erase_of_ne hne).mpr hmem
    · exact hmem
  | group_record_msg i record =>
    obtain rfl := Option.some.inj hmsg
    rw [WorkerMsg.kept]
    split_ifs <;> exact hmem
  | debug_msg | exit_cmd => cases hmsg
  | config_msg | new_source_msg | new_source_timer_msg =>
    obtain rfl := Option.some.inj hmsg
    exact hmem

theorem add_time_calls_once {input : WorkerInput α}
    (hs : (system α mode clk get_if_name get_virtual_if_index).Reachable s)
    (he : system_enabled mode s input)
    (h : system_step mode clk get_if_name get_virtual_if_index s input = .ok s') :
    (((s.add_time_calls s').map Prod.snd).filterMap Job.timer).Nodup := by
  rw [timers_of_calls, List.nodup_flatMap]
  refine ⟨fun j _ => ?_, s'.m_p.m_downstreams.keys_nodup.imp fun {i j} hne => ?_⟩
  · have hnodup := system_timers_nodup (hs.step he h) j
    rw [(system_step_timers hs he h j).2] at hnodup
    have hpairs := hnodup.of_append_right.map (Prod.mk_right_injective j)
    rwa [List.map_map] at hpairs
  · intro t hi hj
    obtain ⟨c, -, rfl⟩ := List.mem_map.mp hi
    obtain ⟨c', -, heq⟩ := List.mem_map.mp hj
    exact hne (congrArg Prod.fst heq).symm

-- What the worker handles makes room for the timers that it arms.
theorem JobsInv.handle {msg : WorkerMsg α} {mroute_stats : MrouteStats α}
    (hs : (system α mode clk get_if_name get_virtual_if_index).Reachable s)
    (h : JobsInv mode s (job ::ₘ jobs)) (hmsg : job.worker_msg unique = some msg)
    (he : system_enabled mode s ⟨msg, mroute_stats⟩)
    (hstep : system_step mode clk get_if_name get_virtual_if_index s ⟨msg, mroute_stats⟩ =
      .ok s') :
    JobsInv mode s' (((s.add_time_calls s').map Prod.snd : List (Job α)) + jobs) := by
  have hlaw := system_step_timers hs he hstep
  have hnodup := system_timers_nodup (hs.step he hstep)
  refine ⟨fun job' hjob' => ?_, ?_⟩
  · rcases Multiset.mem_add.mp hjob' with hnew | hjob'
    · obtain ⟨c, hc, rfl⟩ := List.mem_map.mp (Multiset.mem_coe.mp hnew)
      exact add_time_calls_sound hs he hstep c hc
    · have hsound := h.sound job' (Multiset.mem_cons_of_mem hjob')
      cases job' with
      | timer_msg j tm =>
        change tm ∈ s'.timers j
        rw [(hlaw j).2]
        exact List.mem_append_left _ (h.mem_kept hmsg hjob')
      | new_source_timer_msg tm =>
        exact List.map_subset _ (system_step_routing_timing hs he hstep).subset hsound
      | _ => exact hsound
  · rw [Multiset.filterMap_add, Multiset.nodup_add, Multiset.filterMap_coe, Multiset.coe_nodup]
    refine ⟨add_time_calls_once hs he hstep, (h.of_le (Multiset.le_cons_self _ _)).once, ?_⟩
    rw [Multiset.disjoint_left]
    rintro ⟨j, tm⟩ hnew hold
    rw [Multiset.mem_coe, timers_of_calls] at hnew
    obtain ⟨i, -, hnew⟩ := List.mem_flatMap.mp hnew
    obtain ⟨c, hc, heq⟩ := List.mem_map.mp hnew
    obtain ⟨rfl, rfl⟩ := Prod.mk.inj heq
    obtain ⟨job', hjob', htimer⟩ := (Multiset.mem_filterMap _ _).mp hold
    rw [timer_eq_some_iff.mp htimer] at hjob'
    have hdisjoint := hnodup i
    rw [(hlaw i).2] at hdisjoint
    exact List.disjoint_of_nodup_append hdisjoint (h.mem_kept hmsg hjob')
      (List.mem_map_of_mem hc)

end Jobs

end Mcproxy
