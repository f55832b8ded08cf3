import Mcproxy.SourceList

namespace Mcproxy

open Container McFilter MessageType

structure GaddrInfo (α : Type*) [LinearOrder α] where
  filter_mode : McFilter
  shared_filter_timer : Option (TimerMsg α)
  compatibility_mode_variable : GroupMemProtocol
  older_host_present_timer : Option (TimerMsg α)
  group_retransmission_timer : Option (TimerMsg α)
  group_retransmission_count : ℤ
  source_retransmission_timer : Option (TimerMsg α)
  include_requested_list : SourceList α
  exclude_list : SourceList α

structure MembershipDb (α : Type*) [LinearOrder α] where
  general_query_timer : Option (TimerMsg α)
  startup_query_count : ℤ
  querier_version_mode : GroupMemProtocol
  is_querier : Bool
  group_info : OrdMap α (GaddrInfo α)

-- What a querier does to its surroundings, in the order it does it. A state change
-- carries what the callback reads back through `get_group_membership_infos`.
inductive Action (α : Type*) [LinearOrder α]
  | add_time (delay : ℕ) (timer : TimerMsg α)
  | send_general_query
  | send_mc_addr_specific_query (gaddr : α) (s_flag : Bool)
  | send_mc_addr_and_src_specific_query (gaddr : α) (s_flag : Bool) (slist : SourceList α)
  | state_change (gaddr : α) (infos : McFilter × SourceList α)

-- The surroundings of a querier: the next fresh object identity, how often the clock
-- was read, the timers given to `timing` and not delivered yet, and the actions so far.
structure Env (α : Type*) [LinearOrder α] where
  next_id : ℕ := 0
  readings : ℕ := 0
  timing : List (TimerMsg α) := []
  trace : List (Action α) := []

structure Config where
  clk : SteadyClock
  tv : TimersValues

-- Undefined behaviour: a null `shared_filter_timer` is read, or a group record is used
-- after it was erased.
inductive Fault
  | null_shared_filter_timer
  | erased_gaddr_info
  deriving DecidableEq, Repr

section Payload

variable {α : Type*}

def set_timer (timer : Option (TimerMsg α)) (count : ℤ) (s : Source α) : Source α :=
  { s with shared_source_timer := timer, retransmission_count := count }

@[simp] theorem set_timer_saddr (timer : Option (TimerMsg α)) (count : ℤ) (s : Source α) :
    (set_timer timer count s).saddr = s.saddr := rfl

-- `shared_source_timer.reset()`
def reset_timer (s : Source α) : Source α := { s with shared_source_timer := none }

@[simp] theorem reset_timer_saddr (s : Source α) : (reset_timer s).saddr = s.saddr := rfl

end Payload

variable {α : Type*} [LinearOrder α]

namespace GaddrInfo

def new (compatibility_mode_variable : GroupMemProtocol) : GaddrInfo α where
  filter_mode := INCLUDE_MODE
  shared_filter_timer := none
  compatibility_mode_variable := compatibility_mode_variable
  older_host_present_timer := none
  group_retransmission_timer := none
  group_retransmission_count := -1
  source_retransmission_timer := none
  include_requested_list := ∅
  exclude_list := ∅

def is_in_backward_compatibility_mode (ginfo : GaddrInfo α) : Bool :=
  !is_newest_version ginfo.compatibility_mode_variable

def is_under_bakcward_compatibility_effects (ginfo : GaddrInfo α) : Bool :=
  ginfo.older_host_present_timer.isSome

end GaddrInfo

-- The answer of `get_group_membership_infos`, given what the lookup found.
def membership_infos : Option (GaddrInfo α) → McFilter × SourceList α
  | none => (INCLUDE_MODE, ∅)
  | some ginfo =>
    if ginfo.is_under_bakcward_compatibility_effects then (EXCLUDE_MODE, ∅)
    else
      match ginfo.filter_mode with
      | INCLUDE_MODE => (INCLUDE_MODE, ginfo.include_requested_list)
      | EXCLUDE_MODE => (EXCLUDE_MODE, ginfo.exclude_list)

def get_group_membership_infos (db : MembershipDb α) (gaddr : α) : McFilter × SourceList α :=
  membership_infos (OrdMap.lookup db.group_info gaddr)

namespace Env

def now (cfg : Config) (env : Env α) : ℕ := cfg.clk.reading env.readings

def act (env : Env α) (a : Action α) : Env α := { env with trace := env.trace ++ [a] }

-- `std::make_shared<..._msg>(m_if_index, gaddr, duration)`
def make_shared (cfg : Config) (type : MessageType) (gaddr : Option α) (duration : ℕ)
    (env : Env α) : TimerMsg α × Env α :=
  ({ id := env.next_id, type := type, gaddr := gaddr, end_time := after (env.now cfg) duration },
    { env with next_id := env.next_id + 1, readings := env.readings + 1 })

-- `timing::add_time`, taken to keep the timer until it is delivered.
def add_time (delay : ℕ) (timer : TimerMsg α) (env : Env α) : Env α :=
  { env with
    readings := env.readings + 1
    timing := env.timing ++ [timer]
    trace := env.trace ++ [.add_time delay timer] }

def is_remaining_time_greater_than (cfg : Config) (timer : TimerMsg α) (comp_time : ℕ)
    (env : Env α) : Bool × Env α :=
  (decide (after (env.now cfg) comp_time ≤ timer.end_time),
    { env with readings := env.readings + 1 })

-- `ginfo` is the record as it stands in the database during the call, `none` when it
-- has been erased.
def state_change_notification (gaddr : α) (ginfo : Option (GaddrInfo α)) (env : Env α) : Env α :=
  env.act (.state_change gaddr (membership_infos ginfo))

end Env

section Sender

-- The locals of `send_mc_addr_and_src_specific_query` during its loop.
structure QueryLists (α : Type*) [LinearOrder α] where
  slist_lower : SourceList α := ∅
  slist_higher : SourceList α := ∅
  rc : Bool := false
  env : Env α

-- One round of the loop. The retransmission counter of the source itself goes down.
def query_source (cfg : Config) (q : QueryLists α) (s : Source α) : Source α × QueryLists α :=
  if 0 < s.retransmission_count then
    let s := { s with retransmission_count := s.retransmission_count - 1 }
    let q := if 0 < s.retransmission_count then { q with rc := true } else q
    match s.shared_source_timer with
    | some timer =>
      let r := q.env.is_remaining_time_greater_than cfg timer cfg.tv.get_last_listener_query_time
      if r.1 then (s, { q with slist_higher := q.slist_higher.insert s, env := r.2 })
      else (s, { q with slist_lower := q.slist_lower.insert s, env := r.2 })
    | none => (s, q)
  else (s, q)

theorem query_source_saddr (cfg : Config) (q : QueryLists α) (s : Source α) :
    (query_source cfg q s).1.saddr = s.saddr := by
  unfold query_source
  dsimp only
  split_ifs <;> (try rfl) <;> cases s.shared_source_timer <;> (try rfl) <;> dsimp only <;>
    split_ifs <;> rfl

-- Two queries, one for each value of the S flag, unless their list is empty. The
-- result is whether some source still has retransmissions to come.
def send_mc_addr_and_src_specific_query (cfg : Config) (gaddr : α) (slist : SourceList α)
    (env : Env α) : Bool × SourceList α × Env α :=
  let r := slist.walk (query_source cfg) (query_source_saddr cfg) { env := env }
  let q := r.2
  let env := if q.slist_higher.isEmpty then q.env
    else q.env.act (.send_mc_addr_and_src_specific_query gaddr true q.slist_higher)
  let env := if q.slist_lower.isEmpty then env
    else env.act (.send_mc_addr_and_src_specific_query gaddr false q.slist_lower)
  (q.rc, r.1, env)

end Sender

section Actions

-- `mali(gaddr, ginfo)`
def mali_filter_timer (cfg : Config) (gaddr : α) (ginfo : GaddrInfo α) (env : Env α) :
    GaddrInfo α × Env α :=
  let mali := cfg.tv.get_multicast_address_listening_interval
  let ft := env.make_shared cfg FILTER_TIMER_MSG (some gaddr) mali
  ({ ginfo with shared_filter_timer := some ft.1 }, ft.2.add_time mali ft.1)

-- `mali(gaddr, slist)`: one timer object for the whole list.
def mali_slist (cfg : Config) (gaddr : α) (slist : SourceList α) (env : Env α) :
    SourceList α × Env α :=
  let mali := cfg.tv.get_multicast_address_listening_interval
  let st := env.make_shared cfg SOURCE_TIMER_MSG (some gaddr) mali
  let slist := slist.map (set_timer (some st.1) (-1)) (set_timer_saddr _ _)
  (slist, if slist.isEmpty then st.2 else st.2.add_time mali st.1)

-- `mali(gaddr, slist, tmp_slist)`
def mali (cfg : Config) (gaddr : α) (slist tmp_slist : SourceList α) (env : Env α) :
    SourceList α × Env α :=
  let tmp := mali_slist cfg gaddr tmp_slist env
  (tmp.1.elems.foldl (fun slist e =>
    slist.modify (set_timer e.shared_source_timer (-1)) (set_timer_saddr _ _) e.saddr) slist, tmp.2)

-- First part of `send_Q(gaddr, ginfo)`: without a retransmission timer an episode
-- starts, and only then is the filter timer lowered.
def start_group_queries (cfg : Config) (gaddr : α) (ginfo : GaddrInfo α) (env : Env α) :
    GaddrInfo α × Env α :=
  let llqt := cfg.tv.get_last_listener_query_time
  if ginfo.group_retransmission_timer.isNone then
    let ftimer := env.make_shared cfg FILTER_TIMER_MSG (some gaddr) llqt
    ({ ginfo with
        group_retransmission_count := to_int cfg.tv.last_listener_query_count
        shared_filter_timer := some ftimer.1 }, ftimer.2.add_time llqt ftimer.1)
  else (ginfo, env)

-- The counter has just been lowered; a positive one arms the next retransmission.
def schedule_group_query (cfg : Config) (gaddr : α) (ginfo : GaddrInfo α) (env : Env α) :
    GaddrInfo α × Env α :=
  let llqi := cfg.tv.last_listener_query_interval
  if 0 < ginfo.group_retransmission_count then
    let rtimer := env.make_shared cfg RET_GROUP_TIMER_MSG (some gaddr) llqi
    ({ ginfo with group_retransmission_timer := some rtimer.1 }, rtimer.2.add_time llqi rtimer.1)
  else (ginfo, env)

-- The query itself. Its S flag is read off the filter timer without a null check.
def send_group_query (cfg : Config) (gaddr : α) (ginfo : GaddrInfo α) (env : Env α) :
    Except Fault (GaddrInfo α × Env α) :=
  match ginfo.shared_filter_timer with
  | none => .error .null_shared_filter_timer
  | some ftimer =>
    let r := env.is_remaining_time_greater_than cfg ftimer cfg.tv.get_last_listener_query_time
    .ok (ginfo, r.2.act (.send_mc_addr_specific_query gaddr r.1))

-- `send_Q(gaddr, ginfo)`
def send_Q_group (cfg : Config) (gaddr : α) (ginfo : GaddrInfo α) (env : Env α) :
    Except Fault (GaddrInfo α × Env α) :=
  let r := start_group_queries cfg gaddr ginfo env
  if 0 < r.1.group_retransmission_count then
    let ginfo := { r.1 with group_retransmission_count := r.1.group_retransmission_count - 1 }
    let r := schedule_group_query cfg gaddr ginfo r.2
    send_group_query cfg gaddr r.1 r.2
  else
    .ok ({ r.1 with group_retransmission_timer := none, group_retransmission_count := -1 }, r.2)

-- One round of the first loop of `send_Q(gaddr, ginfo, slist, tmp_list, ...)`.
def requery_source (llqc : ℤ) (st : TimerMsg α) (acc : SourceList α × Bool) (e : Source α) :
    SourceList α × Bool :=
  match acc.1.find e.saddr with
  | some s =>
    if s.retransmission_count < 1 then
      (acc.1.modify (set_timer (some st) llqc) (set_timer_saddr _ _) e.saddr, true)
    else acc
  | none => acc

-- The first loop: sources without retransmissions to come get one new timer of LLQT,
-- armed if some source took it.
def requery_sources (cfg : Config) (gaddr : α) (slist tmp_list : SourceList α) (env : Env α) :
    (SourceList α × Bool) × Env α :=
  let llqt := cfg.tv.get_last_listener_query_time
  let st := env.make_shared cfg SOURCE_TIMER_MSG (some gaddr) llqt
  let r := tmp_list.elems.foldl
    (requery_source cfg.tv.last_listener_query_count.toNat st.1) (slist, false)
  let is_used := r.2
  (r, if is_used then st.2.add_time llqt st.1 else st.2)

-- `send_Q(gaddr, ginfo, slist, tmp_list, in_retransmission_state)`. All callers pass
-- the record's own `include_requested_list` as `slist`.
def send_Q (cfg : Config) (gaddr : α) (ginfo : GaddrInfo α) (tmp_list : SourceList α)
    (in_retransmission_state : Bool) (env : Env α) : GaddrInfo α × Env α :=
  let llqi := cfg.tv.last_listener_query_interval
  let r := requery_sources cfg gaddr ginfo.include_requested_list tmp_list env
  let is_used := r.1.2
  if is_used || in_retransmission_state then
    let q := send_mc_addr_and_src_specific_query cfg gaddr r.1.1 r.2
    let ginfo := { ginfo with include_requested_list := q.2.1 }
    if q.1 then
      let rst := q.2.2.make_shared cfg RET_SOURCE_TIMER_MSG (some gaddr) llqi
      ({ ginfo with source_retransmission_timer := some rst.1 }, rst.2.add_time llqi rst.1)
    else (ginfo, q.2.2)
  else ({ ginfo with include_requested_list := r.1.1 }, r.2)

end Actions

end Mcproxy
