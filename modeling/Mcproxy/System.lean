import Mcproxy.Routing.Routes
import Mcproxy.Transition.Simulation

namespace Mcproxy

open Container Transition McFilter McastAddrRecordType GroupMemProtocol

variable {α : Type*} [LinearOrder α]

section Model

-- What the worker of an instance takes out of its job queue. The messages for a querier are the
-- group records and the timers of its interface.
inductive WorkerMsg (α : Type*) [LinearOrder α]
  | config_msg (msg : ConfigMsg α) (clk : SteadyClock)
  | querier_msg (if_index : ℕ) (e : Event α)
  | new_source_msg (if_index : ℕ) (gaddr saddr : α)
  | new_source_timer_msg (tm : NewSourceTimerMsg α) (unique : Bool)

-- A message with the packet counters of the kernel as they are when it is handled.
structure WorkerInput (α : Type*) [LinearOrder α] where
  msg : WorkerMsg α
  mroute_stats : MrouteStats α

-- The instance and its routing management.
structure SystemState (α : Type*) [LinearOrder α] where
  m_p : ProxyInstanceState α
  m_routing_management : RoutingState α

inductive SystemFault
  | querier (f : Fault)
  | routing_management (f : RoutingFault)
  deriving DecidableEq, Repr

-- A record that gives a certain answer to the routing management.
def GaddrInfo.answering (infos : McFilter × SourceList α) : GaddrInfo α :=
  match infos.1 with
  | INCLUDE_MODE => { GaddrInfo.new IGMPv3 with include_requested_list := infos.2 }
  | EXCLUDE_MODE =>
    { GaddrInfo.new IGMPv3 with filter_mode := EXCLUDE_MODE, exclude_list := infos.2 }

-- The querier during a callback. The record of the group may be erased after it, so what the
-- callback sees of it is taken from the action.
def Querier.during_callback (q : Querier α) (gaddr : α) (infos : McFilter × SourceList α) :
    Querier α :=
  q.put gaddr (.answering infos) q.env

-- The callbacks of a step, in their order.
def state_changes (q q' : Querier α) : List (α × McFilter × SourceList α) :=
  (q'.env.trace.drop q.env.trace.length).filterMap fun a =>
    match a with
    | .state_change gaddr infos => some (gaddr, infos)
    | _ => none

def ProxyInstanceState.set_querier (p : ProxyInstanceState α) (if_index : ℕ)
    (d : DownstreamInfos α) (q : Querier α) : ProxyInstanceState α :=
  { p with m_downstreams := OrdMap.assign p.m_downstreams if_index { d with m_querier := q } }

variable (mode : GroupMemProtocol) (clk : SteadyClock) (get_if_name : ℕ → String)
  (get_virtual_if_index : ℕ → ℤ)

-- A handler of the routing management, called with the instance as it is.
def routing_event (p : ProxyInstanceState α) (mroute_stats : MrouteStats α)
    (r : RoutingState α) (event : RoutingEvent α) : Except SystemFault (RoutingState α) :=
  (routing_step clk get_if_name get_virtual_if_index r ⟨p, mroute_stats, event⟩).mapError
    .routing_management

-- The messages of `worker_thread`; one for an interface without querier is dropped.
def system_step (s : SystemState α) (input : WorkerInput α) :
    Except SystemFault (SystemState α) :=
  match input.msg with
  | .config_msg msg clk' => .ok { s with m_p := handle_config mode s.m_p clk' msg }
  | .querier_msg if_index e =>
    match OrdMap.lookup s.m_p.m_downstreams if_index, OrdMap.lookup s.m_p.configs if_index with
    | some d, some cfg => do
      let q ← (querier_step cfg d.m_querier e).mapError .querier
      let r ← (state_changes d.m_querier q).foldlM (fun r c =>
        routing_event clk get_if_name get_virtual_if_index
          (s.m_p.set_querier if_index d (q.during_callback c.1 c.2)) input.mroute_stats r
          (.event_querier_state_change if_index c.1)) s.m_routing_management
      return ⟨s.m_p.set_querier if_index d q, r⟩
    | _, _ => .ok s
  | .new_source_msg if_index gaddr saddr =>
    (routing_event clk get_if_name get_virtual_if_index s.m_p input.mroute_stats
      s.m_routing_management (.event_new_source if_index gaddr saddr)).map fun r =>
        { s with m_routing_management := r }
  | .new_source_timer_msg tm unique =>
    (routing_event clk get_if_name get_virtual_if_index s.m_p input.mroute_stats
      s.m_routing_management (.timer_triggerd_maintain_routing_table tm unique)).map fun r =>
        { s with m_routing_management := r }

-- What `proxy` sends to its instances. The instructions to delete an interface are handled, but
-- only code that is commented out sends them.
def ConfigMsg.is_sent : ConfigMsg α → Bool
  | .ADD_DOWNSTREAM _ _ _ => true
  | .DEL_DOWNSTREAM _ => false
  | .ADD_UPSTREAM _ _ _ => true
  | .DEL_UPSTREAM _ => false
  | .SET_GLOBAL_RULE_BINDING _ => true

-- A querier gets what it can get in a run of its own: as no downstream is deleted, there are no
-- timers of queriers that are gone.
def system_enabled (s : SystemState α) (input : WorkerInput α) : Prop :=
  match input.msg with
  | .config_msg msg _ => msg.is_sent
  | .querier_msg if_index e =>
    ∀ d ∈ OrdMap.lookup s.m_p.m_downstreams if_index, querier_enabled mode d.m_querier e
  | .new_source_msg _ _ _ => True
  | .new_source_timer_msg tm _ => tm ∈ s.m_routing_management.env.timers

instance (s : SystemState α) (input : WorkerInput α) :
    Decidable (system_enabled mode s input) :=
  match input with
  | ⟨.config_msg msg _, _⟩ => inferInstanceAs (Decidable (msg.is_sent = true))
  | ⟨.querier_msg if_index e, _⟩ =>
    inferInstanceAs (Decidable (∀ d ∈ OrdMap.lookup s.m_p.m_downstreams if_index,
      querier_enabled mode d.m_querier e))
  | ⟨.new_source_msg _ _ _, _⟩ => inferInstanceAs (Decidable True)
  | ⟨.new_source_timer_msg tm _, _⟩ =>
    inferInstanceAs (Decidable (tm ∈ s.m_routing_management.env.timers))

def system (α : Type*) [LinearOrder α] (mode : GroupMemProtocol) (clk : SteadyClock)
    (get_if_name : ℕ → String) (get_virtual_if_index : ℕ → ℤ) :
    Machine (SystemState α) (WorkerInput α) SystemFault where
  start := ⟨(proxy_instance α mode).start, {}⟩
  enabled := system_enabled mode
  step := system_step mode clk get_if_name get_virtual_if_index

instance (s : SystemState α) (input : WorkerInput α) :
    Decidable ((system α mode clk get_if_name get_virtual_if_index).enabled s input) :=
  inferInstanceAs (Decidable (system_enabled mode s input))

end Model

section Callback

theorem membership_infos_answering (infos : McFilter × SourceList α) :
    membership_infos (some (GaddrInfo.answering infos)) = infos := by
  obtain ⟨mode, slist⟩ := infos
  cases mode <;> rfl

-- The callback sees the answer of the action for its group and the others as they are.
theorem infos_during_callback (q : Querier α) (gaddr g : α) (infos : McFilter × SourceList α) :
    get_group_membership_infos (q.during_callback gaddr infos).m_db g =
      if g = gaddr then infos else get_group_membership_infos q.m_db g := by
  rw [Querier.during_callback, get_group_membership_infos, Querier.lookup_put]
  split_ifs
  · exact membership_infos_answering infos
  · rfl

-- If the group is left as the callback saw it, the callback saw every group as it is left.
theorem view_during_callback {q : Querier α} {gaddr : α} {infos : McFilter × SourceList α}
    (h : view infos = view (get_group_membership_infos q.m_db gaddr)) (g : α) :
    view (get_group_membership_infos (q.during_callback gaddr infos).m_db g) =
      view (get_group_membership_infos q.m_db g) := by
  rw [infos_during_callback]
  split_ifs with hg
  · rw [hg, h]
  · rfl

theorem state_changes_append {q q' : Querier α} {as : List (Action α)}
    (h : q'.env.trace = q.env.trace ++ as) :
    state_changes q q' = as.filterMap fun a =>
      match a with
      | .state_change gaddr infos => some (gaddr, infos)
      | _ => none := by
  rw [state_changes, h, List.drop_left]

theorem filterMap_of_no_state_change {as : List (Action α)}
    (h : ∀ g infos, .state_change g infos ∉ as) :
    (as.filterMap fun a =>
      match a with
      | .state_change gaddr infos => some (gaddr, infos)
      | _ => none) = [] := by
  refine List.filterMap_eq_nil_iff.mpr fun a ha => ?_
  cases a with
  | state_change gaddr infos => exact absurd ha (h gaddr infos)
  | _ => rfl

theorem state_changes_of_extends {q q' : Querier α} (h : q.env.Extends q'.env) :
    state_changes q q' = [] := by
  obtain ⟨as, has, hno⟩ := h.trace
  rw [state_changes_append has, filterMap_of_no_state_change hno]

theorem state_changes_of_notify {q q' : Querier α} {env : Env α} (hext : q.env.Extends env)
    {gaddr : α} {found : Option (GaddrInfo α)}
    (h : q'.env = env.state_change_notification gaddr found) :
    state_changes q q' = [(gaddr, membership_infos found)] := by
  obtain ⟨as, has, hno⟩ := hext.trace
  have htrace : q'.env.trace =
      q.env.trace ++ (as ++ [.state_change gaddr (membership_infos found)]) := by
    rw [h, ← List.append_assoc, ← has]
    rfl
  rw [state_changes_append htrace, List.filterMap_append, filterMap_of_no_state_change hno]
  rfl

-- What a querier does in one step, as seen from outside: nothing, or it tells of one group what
-- it looks like. That is how the group is left, but for the leave of an older host that nobody
-- answers to.
inductive Told (q q' : Querier α) (e : Event α) : Prop
  | silent (hchanges : state_changes q q' = [])
      (hview : ∀ g, view (get_group_membership_infos q'.m_db g) =
        view (get_group_membership_infos q.m_db g))
  | notified (gaddr : α) (infos : McFilter × SourceList α)
      (hchanges : state_changes q q' = [(gaddr, infos)])
      (hothers : ∀ g, g ≠ gaddr → view (get_group_membership_infos q'.m_db g) =
        view (get_group_membership_infos q.m_db g))
      (hview : no_stale_leave q e →
        view infos = view (get_group_membership_infos q'.m_db gaddr))

theorem querier_step_told {cfg : Config} {mode : GroupMemProtocol} {q q' : Querier α}
    {e : Event α} (hinv : QuerierInv q) (he : querier_enabled mode q e)
    (h : querier_step cfg q e = .ok q') : Told q q' e := by
  cases e with
  | record gr =>
    have hothers : ∀ g, g ≠ gr.gaddr → view (get_group_membership_infos q'.m_db g) =
        view (get_group_membership_infos q.m_db g) := fun g hg =>
      congrArg (fun found => view (membership_infos found)) (receive_record_lookup_of_ne h hg)
    rcases receive_record_notifies hinv he h with ⟨-, hext, hview⟩ |
      ⟨env', ginfo, hext, henv, hcase⟩
    · refine .silent (state_changes_of_extends hext) fun g => ?_
      by_cases hg : g = gr.gaddr
      · rw [hg, hview]
      · exact hothers g hg
    · refine .notified gr.gaddr (membership_infos (some ginfo))
        (state_changes_of_notify hext henv) hothers fun hleave => ?_
      rw [get_group_membership_infos]
      rcases hcase with hlook | ⟨hlook, hm, hempty, hold⟩
      · rw [hlook]
      · rw [hlook, view_none]
        refine view_of_empty hm hempty ?_
        exact Option.not_isSome_iff_eq_none.mp fun hsome => hleave (hold.mp hsome)
  | timer msg unique =>
    -- the delivery itself leaves the database and the trace alone
    rcases timer_triggerd_view hinv he.1 h with hs | ⟨gaddr, hn⟩
    · exact .silent (state_changes_of_extends (q := q.deliver msg) hs.env) hs.same_view
    · refine .notified gaddr _ (state_changes_of_notify (q := q.deliver msg)
        (Env.Extends.refl _) hn.env) (fun g hg => ?_) fun _ => rfl
      exact congrArg (fun found => view (membership_infos found)) (hn.others g hg)

end Callback

section Projections

variable {mode : GroupMemProtocol} {clk : SteadyClock} {get_if_name : ℕ → String}
  {get_virtual_if_index : ℕ → ℤ} {s s' : SystemState α} {input : WorkerInput α}

theorem routing_event_moves {p : ProxyInstanceState α} {mroute_stats : MrouteStats α}
    {r r' : RoutingState α} {event : RoutingEvent α}
    (h : routing_event clk get_if_name get_virtual_if_index p mroute_stats r event = .ok r')
    (he : (routing α clk get_if_name get_virtual_if_index).enabled r ⟨p, mroute_stats, event⟩) :
    ((routing α clk get_if_name get_virtual_if_index).startAt r).Reachable r' :=
  Machine.moves he (ok_of_mapError_ok h)

-- A callback is an event the routing management can get at any time.
theorem callbacks_reachable {m_p : α × McFilter × SourceList α → ProxyInstanceState α}
    {mroute_stats : MrouteStats α} {if_index : ℕ} {changes : List (α × McFilter × SourceList α)}
    {r r' : RoutingState α}
    (h : changes.foldlM (fun r c => routing_event clk get_if_name get_virtual_if_index (m_p c)
      mroute_stats r (.event_querier_state_change if_index c.1)) r = .ok r') :
    ((routing α clk get_if_name get_virtual_if_index).startAt r).Reachable r' := by
  induction changes generalizing r with
  | nil =>
    obtain rfl := Except.ok.inj h
    exact Machine.stays _ r
  | cons c changes ih =>
    rw [List.foldlM_cons] at h
    obtain ⟨t, ht, hrest⟩ := exists_of_bind_ok h
    exact (routing_event_moves ht trivial).of_startAt (ih hrest)

-- The routing management of the system runs as it does alone.
theorem system_simulates_routing :
    (system α mode clk get_if_name get_virtual_if_index).Simulates
      (routing α clk get_if_name get_virtual_if_index)
      (fun s r => s.m_routing_management = r) := by
  refine ⟨rfl, ?_⟩
  rintro s - ⟨msg, mroute_stats⟩ s' - - rfl he h
  cases msg with
  | config_msg msg clk' =>
    obtain rfl := Except.ok.inj h
    exact ⟨_, Machine.stays _ _, rfl⟩
  | querier_msg if_index e =>
    simp only [system, system_step] at h
    split at h
    · obtain ⟨q, -, h⟩ := exists_of_bind_ok h
      obtain ⟨r, hr, h⟩ := exists_of_bind_ok h
      obtain rfl := Except.ok.inj h
      exact ⟨r, callbacks_reachable hr, rfl⟩
    · obtain rfl := Except.ok.inj h
      exact ⟨_, Machine.stays _ _, rfl⟩
  | new_source_msg if_index gaddr saddr =>
    obtain ⟨r, hr, rfl⟩ := exists_of_map_ok h
    exact ⟨r, routing_event_moves hr trivial, rfl⟩
  | new_source_timer_msg tm unique =>
    obtain ⟨r, hr, rfl⟩ := exists_of_map_ok h
    exact ⟨r, routing_event_moves hr he, rfl⟩

-- So does the instance.
theorem system_simulates_instance :
    (system α mode clk get_if_name get_virtual_if_index).Simulates (proxy_instance α mode)
      (fun s p => s.m_p = p) := by
  refine ⟨rfl, ?_⟩
  rintro s - ⟨msg, mroute_stats⟩ s' - - rfl he h
  cases msg with
  | config_msg msg clk' =>
    obtain rfl := Except.ok.inj h
    exact ⟨_, Machine.moves (e := .config msg clk') trivial rfl, rfl⟩
  | querier_msg if_index e =>
    simp only [system, system_step] at h
    split at h
    · next d cfg hd hcfg =>
      obtain ⟨q, hq, h⟩ := exists_of_bind_ok h
      obtain ⟨r, -, h⟩ := exists_of_bind_ok h
      obtain rfl := Except.ok.inj h
      refine ⟨_, Machine.moves (e := .querier if_index e) trivial ?_, rfl⟩
      simp only [proxy_instance, worker_step, hd, hcfg, ok_of_mapError_ok hq]
      rfl
    · obtain rfl := Except.ok.inj h
      exact ⟨_, Machine.stays _ _, rfl⟩
  | new_source_msg if_index gaddr saddr =>
    obtain ⟨r, -, rfl⟩ := exists_of_map_ok h
    exact ⟨_, Machine.stays _ _, rfl⟩
  | new_source_timer_msg tm unique =>
    obtain ⟨r, -, rfl⟩ := exists_of_map_ok h
    exact ⟨_, Machine.stays _ _, rfl⟩

theorem system_routing_reachable
    (hs : (system α mode clk get_if_name get_virtual_if_index).Reachable s) :
    (routing α clk get_if_name get_virtual_if_index).Reachable s.m_routing_management := by
  obtain ⟨r, hr, rfl⟩ := system_simulates_routing.reachable hs
  exact hr

theorem system_instance_reachable
    (hs : (system α mode clk get_if_name get_virtual_if_index).Reachable s) :
    (proxy_instance α mode).Reachable s.m_p := by
  obtain ⟨p, hp, rfl⟩ := system_simulates_instance.reachable hs
  exact hp

-- Every downstream has timer values, and its querier is in a state of a run of its own.
def QueriersReachable (mode : GroupMemProtocol) (p : ProxyInstanceState α) : Prop :=
  ∀ i d, OrdMap.lookup p.m_downstreams i = some d →
    ∃ cfg, OrdMap.lookup p.configs i = some cfg ∧ (querier α cfg mode).Reachable d.m_querier

theorem QueriersReachable.add_downstream {p : ProxyInstanceState α}
    (h : QueriersReachable mode p) (if_index : ℕ) (interf : Interface α) (cfg : Config) :
    QueriersReachable mode (add_downstream mode p if_index interf cfg) := by
  unfold Mcproxy.add_downstream
  cases hnone : OrdMap.lookup p.m_downstreams if_index with
  | some d => exact h
  | none =>
    have hnew : if_index ∉ p.m_downstreams := OrdMap.lookup_eq_none_iff.mp hnone
    intro i d hd
    -- registering the interface touches neither of the two maps
    have hmaps : ∀ (b : Bool) (calls : List Registration),
        (if b then p else p.register calls).m_downstreams = p.m_downstreams ∧
          (if b then p else p.register calls).configs = p.configs := by
      intro b calls
      cases b <;> exact ⟨rfl, rfl⟩
    simp only [(hmaps _ _).1, (hmaps _ _).2] at hd ⊢
    rw [OrdMap.lookup_insert hnew] at hd
    rw [OrdMap.lookup_assign]
    by_cases hi : i = if_index
    · rw [if_pos hi] at hd ⊢
      obtain rfl := Option.some.inj hd
      exact ⟨cfg, rfl, Machine.reachable_start⟩
    · rw [if_neg hi] at hd ⊢
      exact h i d hd

theorem QueriersReachable.handle_config {p : ProxyInstanceState α}
    (h : QueriersReachable mode p) {msg : ConfigMsg α} (hsent : msg.is_sent = true)
    (clk' : SteadyClock) : QueriersReachable mode (handle_config mode p clk' msg) := by
  cases msg with
  | ADD_DOWNSTREAM if_index interf tv => exact h.add_downstream if_index interf ⟨clk', tv⟩
  | DEL_DOWNSTREAM if_index => cases hsent
  | ADD_UPSTREAM if_index interf upstream_priority =>
    simp only [Mcproxy.handle_config, add_upstream]
    split
    · split_ifs <;> exact h
    · exact h
  | DEL_UPSTREAM if_index => cases hsent
  | SET_GLOBAL_RULE_BINDING rb =>
    simp only [Mcproxy.handle_config]
    unfold set_global_rule_binding
    split
    · exact h
    · split_ifs
      · split <;> exact h
      · exact h
      · exact h

theorem QueriersReachable.set_querier {p : ProxyInstanceState α} (h : QueriersReachable mode p)
    {if_index : ℕ} {d : DownstreamInfos α} {cfg : Config} {q : Querier α}
    (hcfg : OrdMap.lookup p.configs if_index = some cfg)
    (hq : (querier α cfg mode).Reachable q) :
    QueriersReachable mode (p.set_querier if_index d q) := by
  intro i d' hd'
  simp only [ProxyInstanceState.set_querier, OrdMap.lookup_assign] at hd'
  split_ifs at hd' with hi
  · obtain rfl := Option.some.inj hd'
    exact ⟨cfg, hi ▸ hcfg, hq⟩
  · exact h i d' hd'

theorem system_queriers_reachable
    (hs : (system α mode clk get_if_name get_virtual_if_index).Reachable s) :
    QueriersReachable mode s.m_p := by
  refine hs.invariant (fun s => QueriersReachable mode s.m_p) ?_ ?_
  · intro i d hd
    cases hd
  · rintro s ⟨msg, mroute_stats⟩ s' hinv he h
    cases msg with
    | config_msg msg clk' =>
      obtain rfl := Except.ok.inj h
      exact hinv.handle_config he clk'
    | querier_msg if_index e =>
      simp only [system, system_step] at h
      split at h
      · next d cfg hd hcfg =>
        obtain ⟨q, hq, h⟩ := exists_of_bind_ok h
        obtain ⟨r, -, h⟩ := exists_of_bind_ok h
        obtain rfl := Except.ok.inj h
        obtain ⟨cfg', hcfg', hreach⟩ := hinv if_index d hd
        obtain rfl := Option.some.inj (hcfg.symm.trans hcfg')
        exact hinv.set_querier hcfg (hreach.step (he d hd) (ok_of_mapError_ok hq))
      · obtain rfl := Except.ok.inj h
        exact hinv
    | new_source_msg if_index gaddr saddr =>
      obtain ⟨r, -, rfl⟩ := exists_of_map_ok h
      exact hinv
    | new_source_timer_msg tm unique =>
      obtain ⟨r, -, rfl⟩ := exists_of_map_ok h
      exact hinv

end Projections

section Steps

variable (mode : GroupMemProtocol) (clk : SteadyClock) (get_if_name : ℕ → String)
  (get_virtual_if_index : ℕ → ℤ)

-- What a message can do to the system.
inductive SystemStep (s : SystemState α) (input : WorkerInput α) : SystemState α → Prop
  | config (msg : ConfigMsg α) (clk' : SteadyClock) (hmsg : input.msg = .config_msg msg clk') :
      SystemStep s input { s with m_p := handle_config mode s.m_p clk' msg }
  | dropped : SystemStep s input s
  | silent (if_index : ℕ) (e : Event α) (hmsg : input.msg = .querier_msg if_index e)
      (d : DownstreamInfos α) (hd : OrdMap.lookup s.m_p.m_downstreams if_index = some d)
      (q : Querier α) (hrole : q.m_db.is_querier = d.m_querier.m_db.is_querier)
      (hview : ∀ g, view (get_group_membership_infos q.m_db g) =
        view (get_group_membership_infos d.m_querier.m_db g)) :
      SystemStep s input ⟨s.m_p.set_querier if_index d q, s.m_routing_management⟩
  | notified (if_index : ℕ) (e : Event α) (hmsg : input.msg = .querier_msg if_index e)
      (d : DownstreamInfos α) (hd : OrdMap.lookup s.m_p.m_downstreams if_index = some d)
      (q : Querier α) (hrole : q.m_db.is_querier = d.m_querier.m_db.is_querier)
      (gaddr : α) (infos : McFilter × SourceList α)
      (hothers : ∀ g, g ≠ gaddr → view (get_group_membership_infos q.m_db g) =
        view (get_group_membership_infos d.m_querier.m_db g))
      (hview : no_stale_leave d.m_querier e →
        view infos = view (get_group_membership_infos q.m_db gaddr))
      (r : RoutingState α)
      (hr : (routing α clk get_if_name get_virtual_if_index).step s.m_routing_management
        ⟨s.m_p.set_querier if_index d (q.during_callback gaddr infos), input.mroute_stats,
          .event_querier_state_change if_index gaddr⟩ = .ok r) :
      SystemStep s input ⟨s.m_p.set_querier if_index d q, r⟩
  | new_source (if_index : ℕ) (gaddr saddr : α)
      (hmsg : input.msg = .new_source_msg if_index gaddr saddr) (r : RoutingState α)
      (hr : (routing α clk get_if_name get_virtual_if_index).step s.m_routing_management
        ⟨s.m_p, input.mroute_stats, .event_new_source if_index gaddr saddr⟩ = .ok r) :
      SystemStep s input { s with m_routing_management := r }
  | new_source_timer (tm : NewSourceTimerMsg α) (unique : Bool)
      (hmsg : input.msg = .new_source_timer_msg tm unique)
      (htm : tm ∈ s.m_routing_management.env.timers) (r : RoutingState α)
      (hr : (routing α clk get_if_name get_virtual_if_index).step s.m_routing_management
        ⟨s.m_p, input.mroute_stats, .timer_triggerd_maintain_routing_table tm unique⟩ = .ok r) :
      SystemStep s input { s with m_routing_management := r }

variable {mode clk get_if_name get_virtual_if_index} {s s' : SystemState α}
  {input : WorkerInput α}

theorem system_step_cases
    (hs : (system α mode clk get_if_name get_virtual_if_index).Reachable s)
    (he : (system α mode clk get_if_name get_virtual_if_index).enabled s input)
    (h : (system α mode clk get_if_name get_virtual_if_index).step s input = .ok s') :
    SystemStep mode clk get_if_name get_virtual_if_index s input s' := by
  obtain ⟨msg, mroute_stats⟩ := input
  cases msg with
  | config_msg msg clk' =>
    obtain rfl := Except.ok.inj h
    exact .config msg clk' rfl
  | querier_msg if_index e =>
    simp only [system, system_step] at h
    split at h
    · next d cfg hd hcfg =>
      obtain ⟨q, hq, h⟩ := exists_of_bind_ok h
      obtain ⟨r, hr, h⟩ := exists_of_bind_ok h
      obtain rfl := Except.ok.inj h
      have hq := ok_of_mapError_ok hq
      obtain ⟨cfg', -, hreach⟩ := system_queriers_reachable hs if_index d hd
      have hrole := (querier_step_role hq).1
      cases querier_step_told (querier_inv hreach) (he d hd) hq with
      | silent hchanges hview =>
        rw [hchanges] at hr
        obtain rfl := Except.ok.inj hr
        exact .silent if_index e rfl d hd q hrole hview
      | notified gaddr infos hchanges hothers hview =>
        rw [hchanges] at hr
        obtain ⟨r', hr', hr⟩ := exists_of_bind_ok hr
        obtain rfl := Except.ok.inj hr
        exact .notified if_index e rfl d hd q hrole gaddr infos hothers hview r'
          (ok_of_mapError_ok hr')
    · obtain rfl := Except.ok.inj h
      exact .dropped
  | new_source_msg if_index gaddr saddr =>
    obtain ⟨r, hr, rfl⟩ := exists_of_map_ok h
    exact .new_source if_index gaddr saddr rfl r (ok_of_mapError_ok hr)
  | new_source_timer_msg tm unique =>
    obtain ⟨r, hr, rfl⟩ := exists_of_map_ok h
    exact .new_source_timer tm unique rfl he r (ok_of_mapError_ok hr)

end Steps

end Mcproxy
