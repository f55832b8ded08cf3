import Mathlib.Algebra.Group.Int.Defs
import Mcproxy.Routing.Forwarding

namespace Mcproxy

open Container Transition RbRuleMatchingType RbInterfaceType RbInterfaceDirection MessageType

variable {α : Type*} [LinearOrder α]

section Data

-- The packet counter of the kernel for a group and a source, if it has a route.
abbrev MrouteStats (α : Type*) := α → α → Option UInt64

-- A failing request counts as one packet.
def get_current_packet_count (mroute_stats : MrouteStats α) (gaddr saddr : α) : UInt64 :=
  (mroute_stats gaddr saddr).getD 1

-- An `unsigned long` stored in a `long`, and back.
def to_long (n : UInt64) : ℤ := Int.bmod n.toNat (2 ^ 64)

def to_unsigned_long (n : ℤ) : UInt64 := .ofNat (n % 2 ^ 64).toNat

namespace SimpleRoutingData

variable (mroute_stats : MrouteStats α) (d : SimpleRoutingData α)

def put (gaddr : α) (value : SrDataValue α) : SimpleRoutingData α :=
  ⟨OrdMap.assign d.m_data gaddr value⟩

def set_source (if_index : ℕ) (gaddr : α) (saddr : Source α) : SimpleRoutingData α :=
  match OrdMap.lookup d.m_data gaddr with
  | some value =>
    let m_source_list :=
      if saddr.saddr ∈ value.m_source_list then
        (value.m_source_list.erase saddr.saddr).insert { saddr with
          retransmission_count :=
            to_long (get_current_packet_count mroute_stats gaddr saddr.saddr) }
      else value.m_source_list.insert saddr
    let m_if_map :=
      if saddr.saddr ∈ value.m_if_map then OrdMap.assign value.m_if_map saddr.saddr if_index
      else value.m_if_map.insert (saddr.saddr, if_index)
    d.put gaddr ⟨m_source_list, m_if_map⟩
  | none => ⟨d.m_data.insert
      (gaddr, ⟨(∅ : SourceList α).insert saddr, (∅ : OrdMap α ℕ).insert (saddr.saddr, if_index)⟩)⟩

def del_source (gaddr saddr : α) : SimpleRoutingData α :=
  match OrdMap.lookup d.m_data gaddr with
  | some value =>
    let value := ⟨value.m_source_list.erase saddr, value.m_if_map.erase saddr⟩
    if value.m_source_list.isEmpty then ⟨d.m_data.erase gaddr⟩ else d.put gaddr value
  | none => d

-- The source is refreshed in place, or it is erased and what follows erases it once more.
def refresh_source_or_del_it_if_unused (gaddr saddr : α) : SimpleRoutingData α × Bool :=
  match OrdMap.lookup d.m_data gaddr with
  | some value =>
    match value.m_source_list.find saddr with
    | some s =>
      let cnt := get_current_packet_count mroute_stats gaddr saddr
      if to_unsigned_long s.retransmission_count = cnt then
        let d := d.put gaddr ⟨value.m_source_list.erase saddr, value.m_if_map.erase saddr⟩
        (d.del_source gaddr saddr, false)
      else
        let m_source_list := value.m_source_list.modify
          (fun s => { s with retransmission_count := to_long cnt }) (fun _ => rfl) saddr
        (d.put gaddr { value with m_source_list := m_source_list }, true)
    | none => (d.del_source gaddr saddr, false)
  | none => (d, false)

def get_available_sources (gaddr : α) : SourceList α :=
  match OrdMap.lookup d.m_data gaddr with
  | some value => value.m_source_list
  | none => ∅

-- The assignment through the iterator of a refreshed source.
def set_shared_source_timer (gaddr saddr : α) (timer : TimerMsg α) : SimpleRoutingData α :=
  match OrdMap.lookup d.m_data gaddr with
  | some value =>
    let m_source_list := value.m_source_list.modify
      (fun s => { s with shared_source_timer := some timer }) (fun _ => rfl) saddr
    d.put gaddr { value with m_source_list := m_source_list }
  | none => d

end SimpleRoutingData

end Data

section Timers

-- A `new_source_timer_msg`; objects are told apart by `id`.
structure NewSourceTimerMsg (α : Type*) where
  id : ℕ
  m_if_index : ℕ
  m_gaddr : α
  m_saddr : α
  m_end_time : ℤ
  deriving DecidableEq, Repr

-- The object as the `timer_msg` that a source points to.
def NewSourceTimerMsg.timer_msg (tm : NewSourceTimerMsg α) : TimerMsg α where
  id := tm.id
  type := NEW_SOURCE_TIMER_MSG
  gaddr := some tm.m_gaddr
  end_time := tm.m_end_time.toNat

-- A timer that was given to `timing`: the duration it was constructed with and the delay after
-- which `timing` delivers it, in milliseconds.
structure ArmedTimer (α : Type*) where
  timer : NewSourceTimerMsg α
  duration : ℤ
  delay : ℤ
  deriving DecidableEq, Repr

inductive RoutingCall (α : Type*) [LinearOrder α]
  | add_route (input_vif : ℤ) (gaddr saddr : α) (output_vif : List ℤ)
  | del_route (vif : ℤ) (gaddr saddr : α)
  | send_record (record : SentRecord α)
  -- the log of the branches in which the input interface of a source is not found
  | input_interface_not_found (saddr : α)

-- The surroundings of the routing: the next fresh object identity, how often the clock was read,
-- all timers that were armed, and the calls so far.
structure RoutingEnv (α : Type*) [LinearOrder α] where
  next_id : ℕ := 0
  readings : ℕ := 0
  timing : List (ArmedTimer α) := []
  calls : List (RoutingCall α) := []

def RoutingEnv.timers (env : RoutingEnv α) : List (NewSourceTimerMsg α) :=
  env.timing.map ArmedTimer.timer

def RoutingEnv.call (env : RoutingEnv α) (calls : List (RoutingCall α)) : RoutingEnv α :=
  { env with calls := env.calls ++ calls }

-- 20 seconds.
def get_source_life_time : ℤ := 20000

variable (clk : SteadyClock) (r : SimpleMcProxyRouting α)

-- An upstream whose sources live as long as the rule says.
def is_mutex_upstream (if_index : ℕ) : Bool :=
  r.m_p.is_upstream if_index && is_rule_matching_type r IT_UPSTREAM ID_IN RMT_MUTEX

def source_life_time (if_index : ℕ) : ℤ :=
  match is_mutex_upstream r if_index, r.m_p.m_upstream_input_rule with
  | true, some rule => rule.m_timeout
  | _, _ => get_source_life_time

def set_source_timer (if_index : ℕ) (gaddr saddr : α) (env : RoutingEnv α) :
    NewSourceTimerMsg α × RoutingEnv α :=
  let duration := source_life_time r if_index
  let nst : NewSourceTimerMsg α :=
    { id := env.next_id
      m_if_index := if_index
      m_gaddr := gaddr
      m_saddr := saddr
      m_end_time := clk.reading env.readings + 1000000 * duration }
  (nst, { env with
    next_id := env.next_id + 1
    readings := env.readings + 2
    timing := env.timing ++ [⟨nst, duration, get_source_life_time⟩] })

end Timers

section Routes

variable (get_if_name : ℕ → String) (get_virtual_if_index : ℕ → ℤ) (r : SimpleMcProxyRouting α)

-- Data are taken from an interface whose input filter, in either role, lets them through.
def use_this_interface (input_if_index : ℕ) (gaddr saddr : α) : Bool :=
  r.m_p.is_upstream input_if_index &&
    check_interface get_if_name r IT_UPSTREAM ID_IN input_if_index input_if_index gaddr saddr ||
  r.m_p.is_downstream input_if_index &&
    check_interface get_if_name r IT_DOWNSTREAM ID_IN input_if_index input_if_index gaddr saddr

-- One round of the loop of `set_routes`.
def set_route (gaddr : α) (e : Source α × List ℕ) : List (RoutingCall α) :=
  match OrdMap.lookup (r.m_data.get_interface_map gaddr) e.1.saddr with
  | none => [.input_interface_not_found e.1.saddr]
  | some input_if_index =>
    if e.2.isEmpty then [.del_route (get_virtual_if_index input_if_index) gaddr e.1.saddr]
    else if use_this_interface get_if_name r input_if_index gaddr e.1.saddr then
      [.add_route (get_virtual_if_index input_if_index) gaddr e.1.saddr
        (e.2.map get_virtual_if_index)]
    else []

def set_routes (gaddr : α) (output_if_index : List (Source α × List ℕ)) : List (RoutingCall α) :=
  output_if_index.flatMap (set_route get_if_name get_virtual_if_index r gaddr)

-- What `collect_interested_interfaces` logs: the source at which its first loop is left. If no
-- source is, the filter function finds the interface of each of them as well.
def collect_log (gaddr : α) (slist : SourceList α) : List (RoutingCall α) :=
  ((slist.elems.find? fun s =>
    (OrdMap.lookup (r.m_data.get_interface_map gaddr) s.saddr).isNone).map
      fun s => .input_interface_not_found s.saddr).toList

def calculate_routes (gaddr : α) (slist : SourceList α) : List (RoutingCall α) :=
  collect_log r gaddr slist ++
    set_routes get_if_name get_virtual_if_index r gaddr
      (collect_interested_interfaces get_if_name r gaddr slist)

end Routes

section Handlers

-- Undefined behaviour: the front of an empty list is read.
inductive RoutingFault
  | front_of_empty_list
  deriving DecidableEq, Repr

variable (clk : SteadyClock) (get_if_name : ℕ → String) (get_virtual_if_index : ℕ → ℤ)
  (mroute_stats : MrouteStats α)

-- The calls of the sender.
def aggregate (r : SimpleMcProxyRouting α) (rule_matching_type : RbRuleMatchingType) (gaddr : α)
    (env : RoutingEnv α) : Except RoutingFault (RoutingEnv α) :=
  match process_membership_aggregation get_if_name r.m_p.toProxyInstance r.m_data
    rule_matching_type gaddr with
  | none => .error .front_of_empty_list
  | some records => .ok (env.call (records.map .send_record))

def event_new_source (if_index : ℕ) (gaddr saddr : α) (r : SimpleMcProxyRouting α)
    (env : RoutingEnv α) : Except RoutingFault (SimpleRoutingData α × RoutingEnv α) :=
  let nst := set_source_timer clk r if_index gaddr saddr env
  let s : Source α := { saddr := saddr, shared_source_timer := some nst.1.timer_msg }
  let r := { r with m_data := r.m_data.set_source mroute_stats if_index gaddr s }
  let env := nst.2.call (calculate_routes get_if_name get_virtual_if_index r gaddr
    ((∅ : SourceList α).insert { saddr := saddr }))
  if is_rule_matching_type r IT_UPSTREAM ID_IN RMT_MUTEX then
    (aggregate get_if_name r RMT_MUTEX gaddr env).map (r.m_data, ·)
  else .ok (r.m_data, env)

def event_querier_state_change (gaddr : α) (r : SimpleMcProxyRouting α) (env : RoutingEnv α) :
    Except RoutingFault (SimpleRoutingData α × RoutingEnv α) :=
  let env := env.call (calculate_routes get_if_name get_virtual_if_index r gaddr
    (r.m_data.get_available_sources gaddr))
  if is_rule_matching_type r IT_UPSTREAM ID_IN RMT_FIRST then
    (aggregate get_if_name r RMT_FIRST gaddr env).map (r.m_data, ·)
  else if is_rule_matching_type r IT_UPSTREAM ID_IN RMT_MUTEX then
    (aggregate get_if_name r RMT_MUTEX gaddr env).map (r.m_data, ·)
  else .ok (r.m_data, env)

-- The part of `timer_triggerd_maintain_routing_table` for the current timer of a source.
def source_timer_expired (tm : NewSourceTimerMsg α) (r : SimpleMcProxyRouting α)
    (env : RoutingEnv α) : Except RoutingFault (SimpleRoutingData α × RoutingEnv α) :=
  let refreshed := r.m_data.refresh_source_or_del_it_if_unused mroute_stats tm.m_gaddr tm.m_saddr
  let r := { r with m_data := refreshed.1 }
  if !refreshed.2 then
    let env := env.call [.del_route (get_virtual_if_index tm.m_if_index) tm.m_gaddr tm.m_saddr]
    if is_rule_matching_type r IT_UPSTREAM ID_IN RMT_MUTEX then
      (aggregate get_if_name r RMT_MUTEX tm.m_gaddr env).map (r.m_data, ·)
    else .ok (r.m_data, env)
  else
    let nst := set_source_timer clk r tm.m_if_index tm.m_gaddr tm.m_saddr env
    .ok (r.m_data.set_shared_source_timer tm.m_gaddr tm.m_saddr nst.1.timer_msg, nst.2)

-- Whether the source is recorded with this object as its timer.
def is_current (d : SimpleRoutingData α) (tm : NewSourceTimerMsg α) : Bool :=
  ((d.get_available_sources tm.m_gaddr).find tm.m_saddr).any fun s =>
    same_object s.shared_source_timer tm.timer_msg

-- `unique` is the answer of `msg.unique()`.
def timer_triggerd_maintain_routing_table (tm : NewSourceTimerMsg α) (unique : Bool)
    (r : SimpleMcProxyRouting α) (env : RoutingEnv α) :
    Except RoutingFault (SimpleRoutingData α × RoutingEnv α) :=
  if !unique && is_current r.m_data tm then
    source_timer_expired clk get_if_name get_virtual_if_index mroute_stats tm r env
  else .ok (r.m_data, env)

inductive RoutingEvent (α : Type*)
  | event_new_source (if_index : ℕ) (gaddr saddr : α)
  | event_querier_state_change (if_index : ℕ) (gaddr : α)
  | timer_triggerd_maintain_routing_table (tm : NewSourceTimerMsg α) (unique : Bool)

-- An event with the instance and the counters of the kernel as they are when it is handled.
structure RoutingInput (α : Type*) [LinearOrder α] where
  m_p : ProxyInstanceState α
  mroute_stats : MrouteStats α
  event : RoutingEvent α

structure RoutingState (α : Type*) [LinearOrder α] where
  m_data : SimpleRoutingData α := ⟨∅⟩
  env : RoutingEnv α := {}

def routing_step (s : RoutingState α) (input : RoutingInput α) :
    Except RoutingFault (RoutingState α) :=
  let r : SimpleMcProxyRouting α := ⟨input.m_p, s.m_data⟩
  let result :=
    match input.event with
    | .event_new_source if_index gaddr saddr =>
      event_new_source clk get_if_name get_virtual_if_index input.mroute_stats if_index gaddr saddr
        r s.env
    | .event_querier_state_change _ gaddr =>
      event_querier_state_change get_if_name get_virtual_if_index gaddr r s.env
    | .timer_triggerd_maintain_routing_table tm unique =>
      timer_triggerd_maintain_routing_table clk get_if_name get_virtual_if_index
        input.mroute_stats tm unique r s.env
  result.map fun p => ⟨p.1, p.2⟩

-- A timer that was armed can arrive at any time, the outdated ones too.
def routing (α : Type*) [LinearOrder α] (clk : SteadyClock) (get_if_name : ℕ → String)
    (get_virtual_if_index : ℕ → ℤ) :
    Machine (RoutingState α) (RoutingInput α) RoutingFault where
  start := {}
  enabled s input :=
    match input.event with
    | .timer_triggerd_maintain_routing_table tm _ => tm ∈ s.env.timers
    | _ => True
  step := routing_step clk get_if_name get_virtual_if_index

instance [DecidableEq α] (get_if_name : ℕ → String) (get_virtual_if_index : ℕ → ℤ)
    (s : RoutingState α) (input : RoutingInput α) :
    Decidable ((routing α clk get_if_name get_virtual_if_index).enabled s input) :=
  match h : input.event with
  | .event_new_source .. => .isTrue (by simp [routing, h])
  | .event_querier_state_change .. => .isTrue (by simp [routing, h])
  | .timer_triggerd_maintain_routing_table tm _ =>
    decidable_of_iff (tm ∈ s.env.timers) (by simp [routing, h])

end Handlers

section Steps

variable (clk : SteadyClock) (get_if_name : ℕ → String) (get_virtual_if_index : ℕ → ℤ)

-- What an event can do, with the records the sender is given.
inductive RoutingStep (s : RoutingState α) (input : RoutingInput α) : RoutingState α → Prop
  | new_source (if_index : ℕ) (gaddr saddr : α) (records : List (SentRecord α))
      (hevent : input.event = .event_new_source if_index gaddr saddr)
      (nst : NewSourceTimerMsg α × RoutingEnv α)
      (hnst : nst = set_source_timer clk ⟨input.m_p, s.m_data⟩ if_index gaddr saddr s.env)
      (d : SimpleRoutingData α)
      (hd : d = s.m_data.set_source input.mroute_stats if_index gaddr
        { saddr := saddr, shared_source_timer := some nst.1.timer_msg }) :
      RoutingStep s input ⟨d, (nst.2.call (calculate_routes get_if_name get_virtual_if_index
        ⟨input.m_p, d⟩ gaddr ((∅ : SourceList α).insert { saddr := saddr }))).call
          (records.map .send_record)⟩
  | state_change (if_index : ℕ) (gaddr : α) (records : List (SentRecord α))
      (hevent : input.event = .event_querier_state_change if_index gaddr) :
      RoutingStep s input ⟨s.m_data, (s.env.call (calculate_routes get_if_name
        get_virtual_if_index ⟨input.m_p, s.m_data⟩ gaddr
          (s.m_data.get_available_sources gaddr))).call (records.map .send_record)⟩
  | outdated (tm : NewSourceTimerMsg α) (unique : Bool)
      (hevent : input.event = .timer_triggerd_maintain_routing_table tm unique)
      (hold : (!unique && is_current s.m_data tm) = false) : RoutingStep s input s
  | deleted (tm : NewSourceTimerMsg α) (records : List (SentRecord α))
      (hevent : input.event = .timer_triggerd_maintain_routing_table tm false)
      (hcurrent : is_current s.m_data tm = true) (d : SimpleRoutingData α)
      (hd : s.m_data.refresh_source_or_del_it_if_unused input.mroute_stats tm.m_gaddr
        tm.m_saddr = (d, false)) :
      RoutingStep s input ⟨d, (s.env.call [.del_route (get_virtual_if_index tm.m_if_index)
        tm.m_gaddr tm.m_saddr]).call (records.map .send_record)⟩
  | refreshed (tm : NewSourceTimerMsg α)
      (hevent : input.event = .timer_triggerd_maintain_routing_table tm false)
      (hcurrent : is_current s.m_data tm = true) (d : SimpleRoutingData α)
      (hd : s.m_data.refresh_source_or_del_it_if_unused input.mroute_stats tm.m_gaddr
        tm.m_saddr = (d, true))
      (nst : NewSourceTimerMsg α × RoutingEnv α)
      (hnst : nst = set_source_timer clk ⟨input.m_p, d⟩ tm.m_if_index tm.m_gaddr tm.m_saddr
        s.env) :
      RoutingStep s input
        ⟨d.set_shared_source_timer tm.m_gaddr tm.m_saddr nst.1.timer_msg, nst.2⟩

@[simp] theorem RoutingEnv.call_nil (env : RoutingEnv α) : env.call [] = env := by
  simp [RoutingEnv.call]

-- The aggregation never reads an empty list.
theorem aggregate_eq (r : SimpleMcProxyRouting α) {rule : RbRuleMatchingType}
    (hrule : rule = RMT_FIRST ∨ rule = RMT_MUTEX) (gaddr : α) (env : RoutingEnv α) :
    ∃ records : List (SentRecord α),
      aggregate get_if_name r rule gaddr env = .ok (env.call (records.map .send_record)) := by
  rw [aggregate, process_membership_aggregation_eq get_if_name gaddr _ _ hrule]
  exact ⟨_, rfl⟩

-- The common end of the handlers: an aggregation under the rule, if it applies.
theorem aggregate_if_eq (r : SimpleMcProxyRouting α) (b : Bool) {rule : RbRuleMatchingType}
    (hrule : rule = RMT_FIRST ∨ rule = RMT_MUTEX) (gaddr : α) (env : RoutingEnv α)
    (rest : Except RoutingFault (SimpleRoutingData α × RoutingEnv α))
    (hrest : ∃ records : List (SentRecord α),
      rest = .ok (r.m_data, env.call (records.map .send_record))) :
    ∃ records : List (SentRecord α),
      (if b then (aggregate get_if_name r rule gaddr env).map (r.m_data, ·) else rest) =
        .ok (r.m_data, env.call (records.map .send_record)) := by
  cases b with
  | false => exact hrest
  | true =>
    obtain ⟨records, hrecords⟩ := aggregate_eq get_if_name r hrule gaddr env
    exact ⟨records, by rw [if_pos rfl, hrecords]; rfl⟩

theorem routing_step_cases (s : RoutingState α) (input : RoutingInput α) :
    ∃ s', routing_step clk get_if_name get_virtual_if_index s input = .ok s' ∧
      RoutingStep clk get_if_name get_virtual_if_index s input s' := by
  have hnone : ∀ (d : SimpleRoutingData α) (env : RoutingEnv α),
      ∃ records : List (SentRecord α), (Except.ok (d, env) : Except RoutingFault _) =
        .ok (d, env.call (records.map .send_record)) :=
    fun d env => ⟨[], by rw [List.map_nil, RoutingEnv.call_nil]⟩
  cases hevent : input.event with
  | event_new_source if_index gaddr saddr =>
    simp only [routing_step, hevent, event_new_source]
    generalize hnst : set_source_timer clk _ if_index gaddr saddr s.env = nst
    generalize hd : s.m_data.set_source input.mroute_stats if_index gaddr _ = d
    obtain ⟨records, hrecords⟩ := aggregate_if_eq get_if_name ⟨input.m_p, d⟩ _ (Or.inr rfl)
      gaddr _ _ (hnone d _)
    rw [hrecords]
    exact ⟨_, rfl, .new_source if_index gaddr saddr records hevent nst hnst.symm d hd.symm⟩
  | event_querier_state_change if_index gaddr =>
    simp only [routing_step, hevent, event_querier_state_change]
    obtain ⟨records, hrecords⟩ := aggregate_if_eq get_if_name ⟨input.m_p, s.m_data⟩ _
      (Or.inl rfl) gaddr _ _
      (aggregate_if_eq get_if_name ⟨input.m_p, s.m_data⟩ _ (Or.inr rfl) gaddr _ _
        (hnone s.m_data _))
    rw [hrecords]
    exact ⟨_, rfl, .state_change if_index gaddr records hevent⟩
  | timer_triggerd_maintain_routing_table tm unique =>
    simp only [routing_step, hevent, timer_triggerd_maintain_routing_table]
    cases hcur : !unique && is_current s.m_data tm with
    | false => exact ⟨s, rfl, .outdated tm unique hevent hcur⟩
    | true =>
      obtain ⟨hunique, hcurrent⟩ := (Bool.and_eq_true _ _).mp hcur
      obtain rfl : unique = false := by simpa using hunique
      rw [if_pos rfl]
      simp only [source_timer_expired]
      cases hd : s.m_data.refresh_source_or_del_it_if_unused input.mroute_stats tm.m_gaddr
        tm.m_saddr with
      | mk d found =>
        cases found with
        | true => exact ⟨_, rfl, .refreshed tm hevent hcurrent d hd _ rfl⟩
        | false =>
          obtain ⟨records, hrecords⟩ := aggregate_if_eq get_if_name ⟨input.m_p, d⟩ _
            (Or.inr rfl) tm.m_gaddr _ _ (hnone d _)
          simp only [Bool.not_false, if_true]
          rw [hrecords]
          exact ⟨_, rfl, .deleted tm records hevent hcurrent d hd⟩

end Steps

end Mcproxy
