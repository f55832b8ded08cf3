import Mcproxy.Querier.Basic
import Mcproxy.Transition.Machine

namespace Mcproxy

open Container Transition McFilter McastAddrRecordType MessageType GroupMemProtocol

variable {α : Type*} [LinearOrder α]

structure GroupRecordMsg (α : Type*) [LinearOrder α] where
  record_type : McastAddrRecordType
  gaddr : α
  slist : SourceList α
  grp_mem_proto : GroupMemProtocol

structure Querier (α : Type*) [LinearOrder α] where
  m_db : MembershipDb α
  env : Env α

section Receive

-- `A` is a reference to the record's `include_requested_list`: after `A += B` or
-- `*= B` it stands for the new list.
def receive_record_in_include_mode (cfg : Config) (record_type : McastAddrRecordType) (gaddr : α)
    (slist : SourceList α) (ginfo : GaddrInfo α) (env : Env α) : GaddrInfo α × Env α :=
  let A := ginfo.include_requested_list
  let B := slist
  match record_type with
  -- INCLUDE (A)  ALLOW (B), IS_IN (B)  INCLUDE (A+B)  (B)=MALI
  | ALLOW_NEW_SOURCES | MODE_IS_INCLUDE =>
    let m := mali cfg gaddr (A + B) B env
    let ginfo := { ginfo with include_requested_list := m.1 }
    (ginfo, m.2.state_change_notification gaddr (some ginfo))
  -- INCLUDE (A)  BLOCK (B)  INCLUDE (A)  Send Q(MA,A*B)
  | BLOCK_OLD_SOURCES => send_Q cfg gaddr ginfo (A * B) false env
  -- INCLUDE (A)  TO_EX (B)  EXCLUDE (A*B,B-A)  Send Q(MA,A*B), Filter Timer=MALI
  | CHANGE_TO_EXCLUDE_MODE =>
    let A := A * B
    let ginfo := { ginfo with
      filter_mode := EXCLUDE_MODE, include_requested_list := A, exclude_list := B - A }
    let r := send_Q cfg gaddr ginfo (A * B) false env
    let r := mali_filter_timer cfg gaddr r.1 r.2
    (r.1, r.2.state_change_notification gaddr (some r.1))
  -- INCLUDE (A)  TO_IN (B)  INCLUDE (A+B)  (B)=MALI, Send Q(MA,A-B)
  | CHANGE_TO_INCLUDE_MODE =>
    let A := A + B
    let r := send_Q cfg gaddr { ginfo with include_requested_list := A } (A - B) false env
    let m := mali cfg gaddr r.1.include_requested_list B r.2
    let ginfo := { r.1 with include_requested_list := m.1 }
    (ginfo, m.2.state_change_notification gaddr (some ginfo))
  -- INCLUDE (A)  IS_EX (B)  EXCLUDE (A*B,B-A)  Filter Timer=MALI
  | MODE_IS_EXCLUDE =>
    let A := A * B
    let ginfo := { ginfo with
      filter_mode := EXCLUDE_MODE, include_requested_list := A, exclude_list := B - A }
    let r := mali_filter_timer cfg gaddr ginfo env
    (r.1, r.2.state_change_notification gaddr (some r.1))
  | unknown _ => (ginfo, env)

def receive_record_in_exclude_mode (cfg : Config) (record_type : McastAddrRecordType) (gaddr : α)
    (slist : SourceList α) (ginfo : GaddrInfo α) (env : Env α) :
    Except Fault (GaddrInfo α × Env α) :=
  let X := ginfo.include_requested_list
  let Y := ginfo.exclude_list
  let A := slist
  match record_type with
  -- EXCLUDE (X,Y)  ALLOW (A), IS_IN (A)  EXCLUDE (X+A,Y-A)  (A)=MALI
  | ALLOW_NEW_SOURCES | MODE_IS_INCLUDE =>
    let m := mali cfg gaddr (X + A) A env
    let ginfo := { ginfo with include_requested_list := m.1, exclude_list := Y - A }
    .ok (ginfo, m.2.state_change_notification gaddr (some ginfo))
  -- EXCLUDE (X,Y)  BLOCK (A)  EXCLUDE (X+(A-Y),Y)  Send Q(MA,A-Y)
  | BLOCK_OLD_SOURCES =>
    .ok (send_Q cfg gaddr { ginfo with include_requested_list := X + (A - Y) } (A - Y) false env)
  -- EXCLUDE (X,Y)  TO_EX (A)  EXCLUDE (A-Y,Y*A)  Send Q(MA,A-Y), Filter Timer=MALI
  | CHANGE_TO_EXCLUDE_MODE =>
    let X := X * A + (A - Y)
    let r := send_Q cfg gaddr
      { ginfo with include_requested_list := X, exclude_list := Y * A } X false env
    let r := mali_filter_timer cfg gaddr r.1 r.2
    .ok (r.1, r.2.state_change_notification gaddr (some r.1))
  -- EXCLUDE (X,Y)  TO_IN (A)  EXCLUDE (X+A,Y-A)  (A)=MALI, Send Q(MA,X-A), Send Q(MA)
  | CHANGE_TO_INCLUDE_MODE =>
    let X := X + A
    let r := send_Q cfg gaddr
      { ginfo with include_requested_list := X, exclude_list := Y - A } (X - A) false env
    (send_Q_group cfg gaddr r.1 r.2).map fun r =>
      let m := mali cfg gaddr r.1.include_requested_list A r.2
      let ginfo := { r.1 with include_requested_list := m.1 }
      (ginfo, m.2.state_change_notification gaddr (some ginfo))
  -- EXCLUDE (X,Y)  IS_EX (A)  EXCLUDE (A-Y,Y*A)  (A-X-Y)=MALI, Filter Timer=MALI
  | MODE_IS_EXCLUDE =>
    let m := mali cfg gaddr A ((A - X) - Y) env
    let A := m.1
    let ginfo := { ginfo with include_requested_list := X * A + (A - Y), exclude_list := Y * A }
    let r := mali_filter_timer cfg gaddr ginfo m.2
    .ok (r.1, r.2.state_change_notification gaddr (some r.1))
  | unknown _ => .ok (ginfo, env)

-- Backwards compatibility coordination of `receive_record`.
def note_older_host (cfg : Config) (querier_version_mode proto : GroupMemProtocol) (gaddr : α)
    (ginfo : GaddrInfo α) (env : Env α) : GaddrInfo α × Env α :=
  if !is_newest_version proto && is_older_or_equal_version proto querier_version_mode then
    let delay := cfg.tv.get_older_host_present_interval
    let ohpt := env.make_shared cfg OLDER_HOST_PRESENT_TIMER_MSG (some gaddr) delay
    ({ ginfo with
        compatibility_mode_variable := proto
        older_host_present_timer := some ohpt.1 }, ohpt.2.add_time delay ohpt.1)
  else (ginfo, env)

namespace Querier

-- The database with the record of `gaddr` written back.
def put (q : Querier α) (gaddr : α) (ginfo : GaddrInfo α) (env : Env α) : Querier α :=
  { m_db := { q.m_db with group_info := OrdMap.assign q.m_db.group_info gaddr ginfo }, env := env }

def del (q : Querier α) (gaddr : α) (env : Env α) : Querier α :=
  { m_db := { q.m_db with group_info := q.m_db.group_info.erase gaddr }, env := env }

-- The record of `gaddr`, a neutral one if there is none yet.
def group (q : Querier α) (gaddr : α) : GaddrInfo α :=
  (OrdMap.lookup q.m_db.group_info gaddr).getD (.new q.m_db.querier_version_mode)

end Querier

-- In compatibility mode any TO_EX is treated as TO_EX({}).
def compatible_slist (ginfo : GaddrInfo α) (gr : GroupRecordMsg α) : SourceList α :=
  if ginfo.is_in_backward_compatibility_mode && gr.record_type = CHANGE_TO_EXCLUDE_MODE then ∅
  else gr.slist

def receive_record (cfg : Config) (gr : GroupRecordMsg α) (q : Querier α) :
    Except Fault (Querier α) :=
  let gaddr := gr.gaddr
  let r := note_older_host cfg q.m_db.querier_version_mode gr.grp_mem_proto gaddr
    (q.group gaddr) q.env
  let ginfo := r.1
  let env := r.2
  -- a BLOCK is ignored in compatibility mode
  if ginfo.is_in_backward_compatibility_mode && gr.record_type = BLOCK_OLD_SOURCES then
    .ok (q.put gaddr ginfo env)
  else
    let slist := compatible_slist ginfo gr
    match ginfo.filter_mode with
    | INCLUDE_MODE =>
      let r := receive_record_in_include_mode cfg gr.record_type gaddr slist ginfo env
      if r.1.filter_mode = INCLUDE_MODE && r.1.include_requested_list.isEmpty then
        .ok (q.del gaddr r.2)
      else .ok (q.put gaddr r.1 r.2)
    | EXCLUDE_MODE =>
      (receive_record_in_exclude_mode cfg gr.record_type gaddr slist ginfo env).map fun r =>
        q.put gaddr r.1 r.2

end Receive

section Timer

-- `ptr.get() == msg.get()`
def same_object (ptr : Option (TimerMsg α)) (msg : TimerMsg α) : Bool :=
  ptr.map TimerMsg.id == some msg.id

def send_general_query (cfg : Config) (q : Querier α) : Querier α :=
  let db := q.m_db
  let startup_query_count :=
    if db.general_query_timer.isNone then to_int (cfg.tv.startup_query_count - 1)
    else db.startup_query_count
  let next :=
    if 0 < startup_query_count then
      (startup_query_count - 1, 1000 * cfg.tv.startup_query_interval)
    else (startup_query_count, 1000 * cfg.tv.query_interval)
  let gqt := q.env.make_shared cfg GENERAL_QUERY_TIMER_MSG none next.2
  { m_db := { db with startup_query_count := next.1, general_query_timer := some gqt.1 }
    env := (gqt.2.add_time next.2 gqt.1).act .send_general_query }

def timer_triggerd_source_timer (gaddr : α) (ginfo : GaddrInfo α) (msg : TimerMsg α)
    (q : Querier α) : Querier α :=
  let hit := fun s : Source α => same_object s.shared_source_timer msg
  let kept := ginfo.include_requested_list.filter (fun s => !hit s)
  match ginfo.filter_mode with
  -- the source is deleted from the Include List
  | INCLUDE_MODE =>
    if kept.isEmpty then q.del gaddr (q.env.state_change_notification gaddr none)
    else
      let ginfo := { ginfo with include_requested_list := kept }
      q.put gaddr ginfo (q.env.state_change_notification gaddr (some ginfo))
  -- the source is moved to the Exclude List
  | EXCLUDE_MODE =>
    let moved := (ginfo.include_requested_list.filter hit).map reset_timer reset_timer_saddr
    let ginfo := { ginfo with
      include_requested_list := kept, exclude_list := ginfo.exclude_list.insertAll moved.elems }
    q.put gaddr ginfo (q.env.state_change_notification gaddr (some ginfo))

-- The part of `timer_triggerd_filter_timer` after the shared use of the timer.
def filter_timer_expired (gaddr : α) (ginfo : GaddrInfo α) (msg : TimerMsg α)
    (q : Querier α) : Querier α :=
  if !same_object ginfo.shared_filter_timer msg then q
  else
    match ginfo.filter_mode with
    | EXCLUDE_MODE =>
      if ginfo.include_requested_list.isEmpty then
        q.del gaddr (q.env.state_change_notification gaddr none)
      else
        let ginfo := { ginfo with
          filter_mode := INCLUDE_MODE, shared_filter_timer := none, exclude_list := ∅ }
        q.put gaddr ginfo (q.env.state_change_notification gaddr (some ginfo))
    | INCLUDE_MODE => q

def timer_triggerd_filter_timer (gaddr : α) (ginfo : GaddrInfo α) (msg : TimerMsg α)
    (q : Querier α) : Except Fault (Querier α) :=
  if msg.is_used_as_source_timer then
    let q := timer_triggerd_source_timer gaddr ginfo msg q
    match OrdMap.lookup q.m_db.group_info gaddr with
    | none => .error .erased_gaddr_info
    | some ginfo => .ok (filter_timer_expired gaddr ginfo msg q)
  else .ok (filter_timer_expired gaddr ginfo msg q)

def timer_triggerd_ret_group_timer (cfg : Config) (gaddr : α) (ginfo : GaddrInfo α)
    (msg : TimerMsg α) (q : Querier α) : Except Fault (Querier α) :=
  if same_object ginfo.group_retransmission_timer msg then
    (send_Q_group cfg gaddr ginfo q.env).map fun r => q.put gaddr r.1 r.2
  else .ok q

def timer_triggerd_ret_source_timer (cfg : Config) (gaddr : α) (ginfo : GaddrInfo α)
    (msg : TimerMsg α) (q : Querier α) : Querier α :=
  if same_object ginfo.source_retransmission_timer msg then
    let r := send_Q cfg gaddr ginfo ∅ true q.env
    q.put gaddr r.1 r.2
  else q

def timer_triggerd_general_query_timer (cfg : Config) (msg : TimerMsg α) (q : Querier α) :
    Querier α :=
  if same_object q.m_db.general_query_timer msg then send_general_query cfg q else q

def timer_triggerd_older_host_present_timer (cfg : Config) (gaddr : α) (ginfo : GaddrInfo α)
    (msg : TimerMsg α) (q : Querier α) : Querier α :=
  if same_object ginfo.older_host_present_timer msg then
    if is_newest_version ginfo.compatibility_mode_variable then
      let ginfo := { ginfo with older_host_present_timer := none }
      q.put gaddr ginfo (q.env.state_change_notification gaddr (some ginfo))
    else
      let version := get_next_newer_version ginfo.compatibility_mode_variable
      let delay :=
        if is_newest_version version then cfg.tv.get_multicast_address_listening_interval
        else cfg.tv.get_older_host_present_interval
      let ohpt := q.env.make_shared cfg OLDER_HOST_PRESENT_TIMER_MSG (some gaddr) delay
      q.put gaddr { ginfo with
        compatibility_mode_variable := version
        older_host_present_timer := some ohpt.1 } (ohpt.2.add_time delay ohpt.1)
  else q

-- The handler of a timer of a group the database has a record of.
def timer_triggerd_group (cfg : Config) (gaddr : α) (ginfo : GaddrInfo α) (msg : TimerMsg α)
    (q : Querier α) : Except Fault (Querier α) :=
  match msg.type with
  | FILTER_TIMER_MSG => timer_triggerd_filter_timer gaddr ginfo msg q
  | SOURCE_TIMER_MSG => .ok (timer_triggerd_source_timer gaddr ginfo msg q)
  | RET_GROUP_TIMER_MSG => timer_triggerd_ret_group_timer cfg gaddr ginfo msg q
  | RET_SOURCE_TIMER_MSG => .ok (timer_triggerd_ret_source_timer cfg gaddr ginfo msg q)
  | OLDER_HOST_PRESENT_TIMER_MSG =>
    .ok (timer_triggerd_older_host_present_timer cfg gaddr ginfo msg q)
  | _ => .ok q

-- `unique` is the answer of `msg.unique()`.
def timer_triggerd (cfg : Config) (unique : Bool) (msg : TimerMsg α) (q : Querier α) :
    Except Fault (Querier α) :=
  if unique then .ok q
  else if msg.type = GENERAL_QUERY_TIMER_MSG then
    .ok (timer_triggerd_general_query_timer cfg msg q)
  else
    match msg.gaddr with
    | none => .ok q
    | some gaddr =>
      match OrdMap.lookup q.m_db.group_info gaddr with
      | none => .ok q
      | some ginfo => timer_triggerd_group cfg gaddr ginfo msg q

end Timer

section Run

inductive Event (α : Type*) [LinearOrder α]
  | record (gr : GroupRecordMsg α)
  | timer (msg : TimerMsg α) (unique : Bool)

-- A source as a receiver puts it into a list.
def Source.fresh (s : Source α) : Prop := s = { saddr := s.saddr }

instance (s : Source α) : Decidable s.fresh := inferInstanceAs (Decidable (_ = _))

-- The records `igmp_receiver` and `mld_receiver` build for the family of an instance.
def GroupRecordMsg.built_by_receiver (gr : GroupRecordMsg α) (mode : GroupMemProtocol) : Prop :=
  is_IPv4 gr.grp_mem_proto = is_IPv4 mode ∧
    ((is_newest_version gr.grp_mem_proto = true ∧ ∀ s ∈ gr.slist.elems, s.fresh) ∨
      ((gr.grp_mem_proto = IGMPv2 ∨ gr.grp_mem_proto = MLDv1) ∧ gr.slist = ∅ ∧
        (gr.record_type = MODE_IS_EXCLUDE ∨ gr.record_type = CHANGE_TO_INCLUDE_MODE)))

instance (gr : GroupRecordMsg α) (mode : GroupMemProtocol) :
    Decidable (gr.built_by_receiver mode) :=
  inferInstanceAs (Decidable (_ ∧ _))

-- Whether the record holds a pointer to the object.
def GaddrInfo.references (ginfo : GaddrInfo α) (msg : TimerMsg α) : Bool :=
  same_object ginfo.shared_filter_timer msg || same_object ginfo.older_host_present_timer msg ||
    same_object ginfo.group_retransmission_timer msg ||
    same_object ginfo.source_retransmission_timer msg ||
    ginfo.include_requested_list.elems.any (fun s => same_object s.shared_source_timer msg) ||
    ginfo.exclude_list.elems.any (fun s => same_object s.shared_source_timer msg)

def MembershipDb.references (db : MembershipDb α) (msg : TimerMsg α) : Bool :=
  same_object db.general_query_timer msg || db.group_info.elems.any (fun p => p.2.references msg)

-- The message leaves `timing` before the querier sees it.
def Querier.deliver (q : Querier α) (msg : TimerMsg α) : Querier α :=
  { q with env := { q.env with timing := q.env.timing.erase msg } }

def querier_step (cfg : Config) (q : Querier α) : Event α → Except Fault (Querier α)
  | .record gr => receive_record cfg gr q
  | .timer msg unique => timer_triggerd cfg unique msg (q.deliver msg)

-- Armed timers arrive in any order. `msg.unique()` can only be true when the database
-- holds no reference; whether it then is depends on the timing thread.
def querier_enabled (mode : GroupMemProtocol) (q : Querier α) : Event α → Prop
  | .record gr => gr.built_by_receiver mode
  | .timer msg unique => msg ∈ q.env.timing ∧ (unique = true → q.m_db.references msg = false)

instance (mode : GroupMemProtocol) (q : Querier α) (e : Event α) :
    Decidable (querier_enabled mode q e) :=
  match e with
  | .record gr => inferInstanceAs (Decidable (gr.built_by_receiver mode))
  | .timer _ _ => inferInstanceAs (Decidable (_ ∧ _))

-- The constructor: an empty database and the first general query.
def new_querier (cfg : Config) (mode : GroupMemProtocol) : Querier α :=
  send_general_query cfg
    { m_db :=
        { general_query_timer := none
          startup_query_count := 0
          querier_version_mode := mode
          is_querier := true
          group_info := ∅ }
      env := {} }

def querier (α : Type*) [LinearOrder α] (cfg : Config) (mode : GroupMemProtocol) :
    Machine (Querier α) (Event α) Fault where
  start := new_querier cfg mode
  enabled := querier_enabled mode
  step := querier_step cfg

instance (cfg : Config) (mode : GroupMemProtocol) (q : Querier α) (e : Event α) :
    Decidable ((querier α cfg mode).enabled q e) :=
  inferInstanceAs (Decidable (querier_enabled mode q e))

-- For closed runs: a clock that moves by one nanosecond a reading, default timer values
-- and the list of sources a receiver makes of some addresses.
def ticking : SteadyClock := ⟨id, monotone_id⟩

def default_config : Config := ⟨ticking, {}⟩

-- A clock that in addition jumps by a second at some readings.
def jumping (jumps : List ℕ) : SteadyClock where
  reading n := n + 1000000000 * jumps.countP (· ≤ n)
  mono := by
    intro m n hmn
    refine Nat.add_le_add hmn (Nat.mul_le_mul_left _ (List.countP_mono_left fun j _ hj => ?_))
    simpa using (of_decide_eq_true hj).trans hmn

def sources (l : List α) : SourceList α :=
  (∅ : SourceList α).insertAll (l.map fun a => { saddr := a })

@[simp] theorem mem_sources {l : List α} {a : α} : a ∈ sources l ↔ a ∈ l := by
  simp [sources, OrdSet.mem_insertAll]

abbrev Ipv4Addr := Fin (2 ^ 32)

end Run

end Mcproxy
