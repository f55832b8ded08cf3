import Mcproxy.MessageQueue
import Mcproxy.Querier.Expiry
import Mcproxy.Registration
import Mcproxy.Report
import Mcproxy.System
import Mcproxy.Timing

namespace Mcproxy

open Container Memory Transition GroupMemProtocol MessagePriority

section Receivers

-- A message for an interface that is registered, with a record that a querier can get.
def ReceiverMsg.Sound {α : Type*} [LinearOrder α] (mode : GroupMemProtocol)
    (is_if_index_relevant : ℕ → Bool) : ReceiverMsg α → Prop
  | .new_source_msg if_index _ _ => is_if_index_relevant if_index = true
  | .group_record_msg if_index record =>
    is_if_index_relevant if_index = true ∧ record.built_by_receiver mode

variable {w : ℕ} {m : ℕ → UInt8} {mode : GroupMemProtocol}

theorem read_sources_fresh (nos src : ℕ) {slist : SourceList (InAddr w)}
    (h : ∀ s ∈ slist.elems, s.fresh) :
    ∀ s ∈ ((read_sources w nos src slist).run m).elems, s.fresh := by
  induction nos generalizing src slist with
  | zero => exact h
  | succ j ih =>
    simp only [read_sources, Reader.run_bind]
    apply ih
    intro s hs
    rcases OrdSet.mem_of_mem_insertList _ hs with rfl | hs
    · rfl
    · exact h s hs

theorem read_records_sound {is_if_index_relevant : ℕ → Bool} {if_index : ℕ}
    {proto : GroupMemProtocol} (hrelevant : is_if_index_relevant if_index = true)
    (hnewest : is_newest_version proto = true) (hfamily : is_IPv4 proto = is_IPv4 mode)
    (num_records offset : ℕ) :
    ∀ msg ∈ (read_records w if_index proto num_records offset).run m,
      msg.Sound mode is_if_index_relevant := by
  induction num_records generalizing offset with
  | zero => exact fun msg hmsg => absurd hmsg List.not_mem_nil
  | succ i ih =>
    intro msg hmsg
    simp only [read_records, Reader.run_bind, Reader.run_pure] at hmsg
    rcases List.mem_cons.mp hmsg with rfl | hmsg
    · refine ⟨hrelevant, hfamily, .inl ⟨hnewest, ?_⟩⟩
      exact read_sources_fresh _ _ fun s hs => absurd hs List.not_mem_nil
    · exact ih _ msg hmsg

theorem igmp_kernel_msg_sound (ifs : ReceiverInterfaces 4) :
    ∀ msg ∈ (igmp_kernel_msg ifs).run m, msg.Sound mode ifs.is_if_index_relevant := by
  intro msg hmsg
  simp only [igmp_kernel_msg, Reader.run_bind, run_ite, Reader.run_pure] at hmsg
  split_ifs at hmsg with htype hwanted
  · rw [List.mem_singleton.mp hmsg]
    exact (Bool.and_eq_true_iff.mp hwanted).2
  · cases hmsg
  · cases hmsg

theorem igmp_membership_msg_sound (ifs : ReceiverInterfaces 4) (hmode : is_IPv4 mode = true)
    (igmp_hdr : ℕ) : ∀ msg ∈ (igmp_membership_msg ifs igmp_hdr).run m,
      msg.Sound mode ifs.is_if_index_relevant := by
  intro msg hmsg
  have hv2family : is_IPv4 IGMPv2 = is_IPv4 mode := by rw [hmode]; decide
  have hv3family : is_IPv4 IGMPv3 = is_IPv4 mode := by rw [hmode]; decide
  simp only [igmp_membership_msg, Reader.run_bind, run_ite, Reader.run_pure] at hmsg
  split_ifs at hmsg with hv2 hwanted htype hv3 hwanted
  · rw [List.mem_singleton.mp hmsg]
    exact ⟨(Bool.and_eq_true_iff.mp hwanted).2, hv2family, .inr ⟨.inl rfl, rfl, .inl rfl⟩⟩
  · rw [List.mem_singleton.mp hmsg]
    exact ⟨(Bool.and_eq_true_iff.mp hwanted).2, hv2family, .inr ⟨.inl rfl, rfl, .inr rfl⟩⟩
  · cases hmsg
  · exact read_records_sound (Bool.and_eq_true_iff.mp hwanted).2 rfl hv3family _ _ msg hmsg
  · cases hmsg
  · cases hmsg

theorem igmp_analyse_packet_sound (ifs : ReceiverInterfaces 4) (hmode : is_IPv4 mode = true) :
    ∀ msg ∈ (igmp_analyse_packet ifs).run m, msg.Sound mode ifs.is_if_index_relevant := by
  intro msg hmsg
  simp only [igmp_analyse_packet, Reader.run_bind, run_ite, Reader.run_pure] at hmsg
  split_ifs at hmsg with hkernel hproto hlen
  · exact igmp_kernel_msg_sound ifs msg hmsg
  · exact igmp_membership_msg_sound ifs hmode _ msg hmsg
  · cases hmsg
  · cases hmsg

theorem mld_kernel_msg_sound (ifs : ReceiverInterfaces 16) :
    ∀ msg ∈ (mld_kernel_msg ifs).run m, msg.Sound mode ifs.is_if_index_relevant := by
  intro msg hmsg
  simp only [mld_kernel_msg, Reader.run_bind, run_ite, Reader.run_pure] at hmsg
  split_ifs at hmsg with htype hwanted
  · rw [List.mem_singleton.mp hmsg]
    exact (Bool.and_eq_true_iff.mp hwanted).2
  · cases hmsg
  · cases hmsg

theorem mld_analyse_packet_sound (ifs : ReceiverInterfaces 16) (packet_info : Option ℕ)
    (hmode : is_IPv4 mode = false) :
    ∀ msg ∈ (mld_analyse_packet ifs packet_info).run m,
      msg.Sound mode ifs.is_if_index_relevant := by
  intro msg hmsg
  have hv1family : is_IPv4 MLDv1 = is_IPv4 mode := by rw [hmode]; decide
  have hv2family : is_IPv4 MLDv2 = is_IPv4 mode := by rw [hmode]; decide
  cases packet_info with
  | none =>
    simp only [mld_analyse_packet, Reader.run_bind, run_ite, Reader.run_pure] at hmsg
    split_ifs at hmsg with hkernel hv1 hv2
    · exact mld_kernel_msg_sound ifs msg hmsg
    · cases hmsg
    · cases hmsg
    · cases hmsg
  | some if_index =>
    simp only [mld_analyse_packet, Reader.run_bind, run_ite, Reader.run_pure] at hmsg
    split_ifs at hmsg with hkernel hv1 hrelevant htype hv2 hrelevant
    · exact mld_kernel_msg_sound ifs msg hmsg
    · rw [List.mem_singleton.mp hmsg]
      exact ⟨hrelevant, hv1family, .inr ⟨.inr rfl, rfl, .inl rfl⟩⟩
    · rw [List.mem_singleton.mp hmsg]
      exact ⟨hrelevant, hv1family, .inr ⟨.inr rfl, rfl, .inr rfl⟩⟩
    · cases hmsg
    · exact read_records_sound hrelevant rfl hv2family _ _ msg hmsg
    · cases hmsg
    · cases hmsg

-- Whatever bytes a packet consists of, and whatever lies behind it in the buffer, a receiver
-- hands over only records of its family that the queriers are made for, and only for
-- interfaces that are registered.
theorem receivers_hand_over_sound (m : ℕ → UInt8) (mode : GroupMemProtocol) :
    (∀ ifs : ReceiverInterfaces 4, is_IPv4 mode = true →
      ∀ msg ∈ (igmp_analyse_packet ifs).run m, msg.Sound mode ifs.is_if_index_relevant) ∧
    (∀ (ifs : ReceiverInterfaces 16) (packet_info : Option ℕ), is_IPv4 mode = false →
      ∀ msg ∈ (mld_analyse_packet ifs packet_info).run m,
        msg.Sound mode ifs.is_if_index_relevant) :=
  ⟨fun ifs hmode => igmp_analyse_packet_sound ifs hmode,
    fun ifs packet_info hmode => mld_analyse_packet_sound ifs packet_info hmode⟩

-- A receiver of the family of an instance, by what it makes of a packet when it knows which
-- interfaces are registered.
structure PacketReceiver (α : Type*) [LinearOrder α] (mode : GroupMemProtocol) where
  Packet : Type
  analyse_packet : (is_if_index_relevant : ℕ → Bool) → Packet → List (ReceiverMsg α)
  sound : ∀ is_if_index_relevant packet,
    ∀ msg ∈ analyse_packet is_if_index_relevant packet, msg.Sound mode is_if_index_relevant

-- What comes with a packet: the buffer, the interface in the control data, and what
-- `m_interfaces` answers at the time.
structure ReceivedPacket (w : ℕ) where
  buffer : ℕ → UInt8
  packet_info : Option ℕ
  get_vif_if_index : ℕ → ℕ
  get_saddr_if_index : InAddr w → ℕ

def ReceivedPacket.interfaces (packet : ReceivedPacket w) (is_if_index_relevant : ℕ → Bool) :
    ReceiverInterfaces w :=
  ⟨packet.get_vif_if_index, packet.get_saddr_if_index, is_if_index_relevant⟩

abbrev igmp_receiver (hmode : is_IPv4 mode = true) : PacketReceiver (InAddr 4) mode where
  Packet := ReceivedPacket 4
  analyse_packet relevant packet :=
    (igmp_analyse_packet (packet.interfaces relevant)).run packet.buffer
  sound relevant packet := igmp_analyse_packet_sound (packet.interfaces relevant) hmode

abbrev mld_receiver (hmode : is_IPv4 mode = false) : PacketReceiver (InAddr 16) mode where
  Packet := ReceivedPacket 16
  analyse_packet relevant packet :=
    (mld_analyse_packet (packet.interfaces relevant) packet.packet_info).run packet.buffer
  sound relevant packet :=
    mld_analyse_packet_sound (packet.interfaces relevant) packet.packet_info hmode

end Receivers

variable {α : Type*} [LinearOrder α]

section Jobs

-- The messages an instance is sent.
inductive Job (α : Type*) [LinearOrder α]
  | config_msg (msg : ConfigMsg α) (clk : SteadyClock)
  | group_record_msg (if_index : ℕ) (record : GroupRecordMsg α)
  | timer_msg (if_index : ℕ) (tm : TimerMsg α)
  | new_source_msg (if_index : ℕ) (gaddr saddr : α)
  | new_source_timer_msg (tm : NewSourceTimerMsg α)
  | debug_msg
  | exit_cmd

namespace Job

def get_priority : Job α → MessagePriority
  | config_msg _ _ | timer_msg _ _ | new_source_timer_msg _ => SYSTEMIC
  | group_record_msg _ _ | new_source_msg _ _ _ => LOSEABLE
  | debug_msg | exit_cmd => USER_INPUT

def proxy_msg (job : Job α) : ProxyMsg (Job α) := ⟨job.get_priority, job⟩

def of_receiver : ReceiverMsg α → Job α
  | .new_source_msg if_index gaddr saddr => new_source_msg if_index gaddr saddr
  | .group_record_msg if_index record => group_record_msg if_index record

-- What the worker has to handle, if it is more than to print or to stop.
def worker_msg (unique : Bool) : Job α → Option (WorkerMsg α)
  | config_msg msg clk => some (.config_msg msg clk)
  | group_record_msg if_index record => some (.querier_msg if_index (.record record))
  | timer_msg if_index tm => some (.querier_msg if_index (.timer tm unique))
  | new_source_msg if_index gaddr saddr => some (.new_source_msg if_index gaddr saddr)
  | new_source_timer_msg tm => some (.new_source_timer_msg tm unique)
  | debug_msg | exit_cmd => none

def is_exit_cmd : Job α → Bool
  | exit_cmd => true
  | _ => false

-- What is not sent by the other threads of an instance.
def from_proxy : Job α → Prop
  | config_msg msg _ => msg.is_sent = true
  | debug_msg | exit_cmd => True
  | _ => False

instance (job : Job α) : Decidable job.from_proxy :=
  match job with
  | config_msg msg _ => inferInstanceAs (Decidable (msg.is_sent = true))
  | debug_msg | exit_cmd => inferInstanceAs (Decidable True)
  | group_record_msg _ _ | timer_msg _ _ | new_source_msg _ _ _ | new_source_timer_msg _ =>
    inferInstanceAs (Decidable False)

-- The timer of a querier has expired.
def due (now : ℕ) : Job α → Prop
  | timer_msg _ tm => tm.end_time ≤ now
  | _ => True

instance (now : ℕ) (job : Job α) : Decidable (job.due now) :=
  match job with
  | timer_msg _ tm => inferInstanceAs (Decidable (tm.end_time ≤ now))
  | config_msg _ _ | group_record_msg _ _ | new_source_msg _ _ _ | new_source_timer_msg _
  | debug_msg | exit_cmd => inferInstanceAs (Decidable True)

end Job

end Jobs

section Calls

namespace SystemState

variable (s s' : SystemState α)

def get_querier (if_index : ℕ) : Option (Querier α) :=
  (OrdMap.lookup s.m_p.m_downstreams if_index).map DownstreamInfos.m_querier

-- The timers of the querier of an interface that are given to `timing` and not handled yet.
def timers (if_index : ℕ) : List (TimerMsg α) :=
  (s.get_querier if_index).elim [] fun q => q.env.timing

def trace (if_index : ℕ) : List (Action α) :=
  (s.get_querier if_index).elim [] fun q => q.env.trace

-- Whether the database of its querier holds a pointer to the timer.
def references : Job α → Bool
  | .timer_msg if_index tm => (s.get_querier if_index).any fun q => q.m_db.references tm
  | _ => false

-- The calls of `add_time` between two states: by the querier of an interface, and by all
-- queriers and the routing management.
def querier_calls (if_index : ℕ) : List (ℕ × TimerMsg α) :=
  timing_calls ((s'.trace if_index).drop (s.trace if_index).length)

def add_time_calls : List (ℕ × Job α) :=
  (s'.m_p.m_downstreams.keys.flatMap fun if_index =>
    (s.querier_calls s' if_index).map fun c => (c.1, .timer_msg if_index c.2)) ++
  (s'.m_routing_management.env.timing.drop s.m_routing_management.env.timing.length).map
    fun a => (a.delay.toNat, .new_source_timer_msg a.timer)

end SystemState

end Calls

section Model

-- An instance with its job queue, and `timing`. What a thread has begun and not finished is
-- kept with it: the calls of `add_time` the worker has still to make for the message it
-- handles, the expired timers that are still to be handed over by the pass of the timing
-- thread, and the messages of the packet the receiver is at.
structure ThreadsState (α : Type*) [LinearOrder α] where
  system : SystemState α
  m_job_queue : MessageQueue (Job α)
  m_timing : Timing Unit (Job α) := {}
  to_arm : List (ℕ × Job α) := []
  expired : List (Job α) := []
  received : List (Job α) := []
  m_running : Bool := true

-- `add_msg` is a call from outside, a packet comes with `analyse_packet`; the others are what
-- the three threads do next.
inductive ThreadEvent (Packet : Type) (α : Type*) [LinearOrder α]
  | add_msg (job : Job α)
  | analyse_packet (packet : Packet)
  | receiver_add_msg
  | worker_dequeue (unique : Bool) (mroute_stats : MrouteStats α)
  | worker_add_time (now : ℕ)
  | timing_pass (now : ℕ)
  | timing_add_msg

namespace ThreadsState

variable (s : ThreadsState α)

def add_msg (job : Job α) : ThreadsState α :=
  { s with m_job_queue := s.m_job_queue.add_msg job.proxy_msg }

-- `m_relevant_if_index` after the registrations so far
def is_if_index_relevant (if_index : ℕ) : Bool :=
  (receiver_calls if_index s.system.m_p.registrations).getLastD false

-- The front of the job queue
def next_job : Option (Job α) := s.m_job_queue.m_q.head?.map fun x => x.msg.payload

-- The entries of `timing` that a pass takes out, without those that have no worker
def due_jobs (now : ℕ) : List (Job α) :=
  (s.m_timing.m_db.elems.takeWhile fun p => decide (p.1 ≤ now)).filterMap fun p =>
    p.2.1.map fun _ => p.2.2

end ThreadsState

variable (clk : SteadyClock) (get_if_name : ℕ → String) (get_virtual_if_index : ℕ → ℤ)

-- The worker handles the message that it took out of the queue.
def worker_dequeue (mode : GroupMemProtocol) (s : ThreadsState α) (unique : Bool)
    (mroute_stats : MrouteStats α) : Except SystemFault (ThreadsState α) :=
  match s.m_job_queue.dequeue with
  | none => .ok s
  | some (msg, m_job_queue) =>
    match msg.payload.worker_msg unique with
    | none => .ok { s with
        m_job_queue := m_job_queue, m_running := s.m_running && !msg.payload.is_exit_cmd }
    | some worker_msg =>
      (system_step mode clk get_if_name get_virtual_if_index s.system
        ⟨worker_msg, mroute_stats⟩).map fun system =>
          { s with
            system := system, m_job_queue := m_job_queue
            to_arm := s.system.add_time_calls system }

variable {mode : GroupMemProtocol} (receiver : PacketReceiver α mode)

def threads_step (s : ThreadsState α) :
    ThreadEvent receiver.Packet α → Except SystemFault (ThreadsState α)
  | .add_msg job => .ok (s.add_msg job)
  | .analyse_packet packet => .ok { s with
      received := (receiver.analyse_packet s.is_if_index_relevant packet).map Job.of_receiver }
  | .receiver_add_msg =>
    match s.received with
    | [] => .ok s
    | job :: rest => .ok { s.add_msg job with received := rest }
  | .worker_dequeue unique mroute_stats =>
    worker_dequeue clk get_if_name get_virtual_if_index mode s unique mroute_stats
  | .worker_add_time now =>
    match s.to_arm with
    | [] => .ok s
    | (delay, job) :: rest => .ok { s with
        m_timing := s.m_timing.add_time now delay (some ()) job, to_arm := rest }
  | .timing_pass now => .ok { s with
      m_timing := s.m_timing.worker_thread now, expired := s.due_jobs now }
  | .timing_add_msg =>
    match s.expired with
    | [] => .ok s
    | job :: rest => .ok { s.add_msg job with expired := rest }

-- A pass of the timing thread holds the lock that `add_time` needs until its timers are handed
-- over. The clock does not go back, neither between the calls for `timing` nor between the
-- construction of a timer and the call for it.
def threads_enabled (s : ThreadsState α) : ThreadEvent receiver.Packet α → Prop
  | .add_msg job => job.from_proxy
  | .analyse_packet _ => s.received = []
  | .receiver_add_msg => s.received ≠ []
  | .worker_dequeue unique _ =>
    s.m_running = true ∧ s.to_arm = [] ∧ s.m_job_queue.m_q ≠ [] ∧
      (unique = true → ∀ job ∈ s.next_job, s.system.references job = false)
  | .worker_add_time now =>
    s.to_arm ≠ [] ∧ s.expired = [] ∧ s.m_timing.now ≤ now ∧
      ∀ c ∈ s.to_arm.head?, c.2.due (after now c.1)
  | .timing_pass now => s.expired = [] ∧ s.m_timing.now ≤ now
  | .timing_add_msg => s.expired ≠ []

instance (s : ThreadsState α) (e : ThreadEvent receiver.Packet α) :
    Decidable (threads_enabled receiver s e) :=
  match e with
  | .add_msg job => inferInstanceAs (Decidable job.from_proxy)
  | .analyse_packet _ => inferInstanceAs (Decidable (s.received = []))
  | .receiver_add_msg => inferInstanceAs (Decidable (s.received ≠ []))
  | .worker_dequeue _ _ => inferInstanceAs (Decidable (_ ∧ _ ∧ _ ∧ (_ → _)))
  | .worker_add_time _ => inferInstanceAs (Decidable (_ ∧ _ ∧ _ ∧ _))
  | .timing_pass _ => inferInstanceAs (Decidable (_ ∧ _))
  | .timing_add_msg => inferInstanceAs (Decidable (s.expired ≠ []))

-- All interleavings of the receiver, the timing and the worker thread of an instance.
def threads (m_size : UInt32) :
    Machine (ThreadsState α) (ThreadEvent receiver.Packet α) SystemFault where
  start :=
    { system := ⟨(proxy_instance α mode).start, {}⟩
      m_job_queue := { m_size := m_size } }
  enabled := threads_enabled receiver
  step := threads_step clk get_if_name get_virtual_if_index receiver

instance (m_size : UInt32) (s : ThreadsState α) (e : ThreadEvent receiver.Packet α) :
    Decidable ((threads clk get_if_name get_virtual_if_index receiver m_size).enabled s e) :=
  inferInstanceAs (Decidable (threads_enabled receiver s e))

end Model

end Mcproxy
