import Mathlib.Tactic.Abel
import Mathlib.Tactic.GCongr
import Mcproxy.Threads.Jobs
import Mcproxy.Transition.Simulation

namespace Mcproxy

open Container Transition GroupMemProtocol MessagePriority

variable {α : Type*} [LinearOrder α]

section Threads

namespace ThreadsState

variable (s : ThreadsState α)

def waiting : List (Job α) := s.m_job_queue.m_q.map fun x => x.msg.payload

def armed : List (Job α) := s.m_timing.m_db.elems.map fun p => p.2.2

-- All that is under way to the worker, wherever it is.
def jobs : Multiset (Job α) :=
  (s.to_arm.map Prod.snd : List (Job α)) + s.armed + s.expired + s.received + s.waiting

-- The message is in the queue, or it is lost.
theorem add_msg_waiting_le (job : Job α) :
    ((s.add_msg job).waiting : Multiset (Job α)) ≤ job ::ₘ s.waiting := by
  unfold waiting add_msg
  rcases s.m_job_queue.add_msg_cases job.proxy_msg with hadd | hadd
  · rw [hadd]
    exact Multiset.coe_le.mpr ((Heap.push_perm Queued.priority s.m_job_queue.m_q _).map _).subperm
  · rw [hadd]
    exact Multiset.le_cons_self _ _

theorem add_msg_jobs_le (job : Job α) : (s.add_msg job).jobs ≤ job ::ₘ s.jobs := by
  have hqueue := s.add_msg_waiting_le job
  unfold jobs
  rw [← Multiset.add_cons]
  exact add_le_add_right hqueue _

-- A pass of the timing thread keeps what is not due and takes out what is.
theorem pass_le (now : ℕ) :
    (((s.m_timing.worker_thread now).m_db.elems.map fun p => p.2.2 : List (Job α)) +
      s.due_jobs now : Multiset (Job α)) ≤ s.armed := by
  have hdue (l : List (ℕ × TimingDbValue Unit (Job α))) :
      (l.filterMap fun p => p.2.1.map fun _ => p.2.2).Sublist (l.map fun p => p.2.2) := by
    induction l with
    | nil => exact .slnil
    | cons p l ih =>
      obtain ⟨deadline, msg_worker, pr_msg⟩ := p
      cases msg_worker with
      | none => exact ih.cons _
      | some w => exact ih.cons_cons _
  have hsplit : s.armed =
      (s.m_timing.m_db.elems.takeWhile fun p => decide (p.1 ≤ now)).map (fun p => p.2.2) ++
        (s.m_timing.m_db.elems.dropWhile fun p => decide (p.1 ≤ now)).map fun p => p.2.2 := by
    rw [← List.map_append, List.takeWhile_append_dropWhile]
    rfl
  rw [hsplit, ← Multiset.coe_add, add_comm]
  exact add_le_add_left (Multiset.coe_le.mpr (hdue _).subperm) _

-- `insert` takes the entry, or it does nothing.
theorem add_time_armed_le (now delay : ℕ) (job : Job α) :
    ((s.m_timing.add_time now delay (some ()) job).m_db.elems.map fun p => p.2.2 :
      List (Job α)) ≤ (job ::ₘ s.armed : Multiset (Job α)) := by
  by_cases hkey : after now delay ∈ s.m_timing.m_db
  · have hsame : (s.m_timing.add_time now delay (some ()) job).m_db = s.m_timing.m_db :=
      OrdSet.insert_of_mem hkey
    rw [hsame]
    exact Multiset.le_cons_self _ _
  · have hnew : (s.m_timing.add_time now delay (some ()) job).m_db.elems.Perm
        ((after now delay, some (), job) :: s.m_timing.m_db.elems) := OrdSet.insert_perm hkey
    exact Multiset.coe_le.mpr (hnew.map fun p => p.2.2).subperm

end ThreadsState

variable {mode : GroupMemProtocol} {receiver : PacketReceiver α mode} {clk : SteadyClock}
  {get_if_name : ℕ → String} {get_virtual_if_index : ℕ → ℤ} {m_size : UInt32}
  {s s' : ThreadsState α} {e : ThreadEvent receiver.Packet α} {job : Job α}

-- What the worker handles in a step.
def handled {Packet : Type} (s : ThreadsState α) : ThreadEvent Packet α → List (WorkerInput α)
  | .worker_dequeue unique mroute_stats =>
    ((s.next_job.bind (Job.worker_msg unique)).map fun msg => ⟨msg, mroute_stats⟩).toList
  | _ => []

-- What a step can do: messages are moved or lost, or come in from outside and are no timers; or
-- the worker handles one.
inductive ThreadsStep (mode : GroupMemProtocol) (clk : SteadyClock) (get_if_name : ℕ → String)
    (get_virtual_if_index : ℕ → ℤ) (s : ThreadsState α) (inputs : List (WorkerInput α))
    (s' : ThreadsState α) : Prop
  | moved (hinputs : inputs = []) (hsystem : s'.system = s.system) (new : Multiset (Job α))
      (hnew : ∀ job ∈ new, job.Sound mode s.system ∧ job.timer = none)
      (hjobs : s'.jobs ≤ new + s.jobs)
  | handled (job : Job α) (rest : Multiset (Job α)) (unique : Bool) (msg : WorkerMsg α)
      (mroute_stats : MrouteStats α) (hinputs : inputs = [⟨msg, mroute_stats⟩])
      (hwaiting : job ∈ s.waiting) (hmsg : job.worker_msg unique = some msg)
      (hjobs : s.jobs = job ::ₘ rest)
      (hunique : unique = true → s.system.references job = false)
      (hstep : system_step mode clk get_if_name get_virtual_if_index s.system
        ⟨msg, mroute_stats⟩ = .ok s'.system)
      (hjobs' : s'.jobs =
        ((s.system.add_time_calls s'.system).map Prod.snd : List (Job α)) + rest)

theorem from_proxy_sound (mode : GroupMemProtocol) (sys : SystemState α) (h : job.from_proxy) :
    job.Sound mode sys ∧ job.timer = none := by
  cases job with
  | config_msg msg clk' => exact ⟨h, rfl⟩
  | debug_msg | exit_cmd => exact ⟨trivial, rfl⟩
  | _ => cases h

theorem of_receiver_sound (sys : SystemState α) {relevant : ℕ → Bool} {msg : ReceiverMsg α}
    (h : msg.Sound mode relevant) :
    (Job.of_receiver msg).Sound mode sys ∧ (Job.of_receiver msg).timer = none := by
  cases msg with
  | new_source_msg if_index gaddr saddr => exact ⟨trivial, rfl⟩
  | group_record_msg if_index record => exact ⟨h.2, rfl⟩

-- Nothing comes in.
theorem ThreadsStep.of_le (hsystem : s'.system = s.system) (hjobs : s'.jobs ≤ s.jobs) :
    ThreadsStep mode clk get_if_name get_virtual_if_index s [] s' :=
  .moved rfl hsystem 0 (by simp) (by rwa [zero_add])

theorem worker_dequeue_cases {unique : Bool} {mroute_stats : MrouteStats α}
    (harm : s.to_arm = []) (hne : s.m_job_queue.m_q ≠ [])
    (hunique : unique = true → ∀ job ∈ s.next_job, s.system.references job = false)
    (h : worker_dequeue clk get_if_name get_virtual_if_index mode s unique mroute_stats =
      .ok s') :
    ThreadsStep mode clk get_if_name get_virtual_if_index s
      (handled s (.worker_dequeue unique mroute_stats : ThreadEvent receiver.Packet α)) s' := by
  obtain ⟨top, rest, hq⟩ := List.exists_cons_of_ne_nil hne
  have hnext : s.next_job = some top.msg.payload := by
    rw [ThreadsState.next_job, hq]
    rfl
  have hpop : (Heap.pop Queued.priority s.m_job_queue.m_q).Perm rest := by
    rw [hq]
    exact (Heap.pop_perm Queued.priority top rest).cons_inv
  have hwaiting : s.waiting = top.msg.payload :: rest.map fun x => x.msg.payload := by
    rw [ThreadsState.waiting, hq]
    rfl
  have hleft : (((Heap.pop Queued.priority s.m_job_queue.m_q).map fun x => x.msg.payload :
      List (Job α)) : Multiset (Job α)) = (rest.map fun x => x.msg.payload : List (Job α)) :=
    Multiset.coe_eq_coe.mpr (hpop.map _)
  have hjobs : s.jobs = top.msg.payload ::ₘ (s.armed + s.expired + s.received +
      (rest.map fun x => x.msg.payload : List (Job α))) := by
    rw [ThreadsState.jobs, harm, hwaiting, ← Multiset.cons_coe, Multiset.add_cons,
      List.map_nil, Multiset.coe_nil, zero_add]
  simp only [worker_dequeue, MessageQueue.dequeue, hq] at h
  cases hmsg : top.msg.payload.worker_msg unique with
  | none =>
    have hnothing : handled s
        (.worker_dequeue unique mroute_stats : ThreadEvent receiver.Packet α) = [] := by
      simp [handled, hnext, hmsg]
    rw [hmsg] at h
    obtain rfl := Except.ok.inj h
    rw [hnothing]
    refine .of_le rfl ?_
    rw [hjobs]
    refine le_trans (le_of_eq ?_) (Multiset.le_cons_self _ _)
    rw [← hleft, ← hq]
    simp only [ThreadsState.jobs, harm, List.map_nil, Multiset.coe_nil, zero_add]
    rfl
  | some msg =>
    rw [hmsg] at h
    obtain ⟨sys, hsys, rfl⟩ := exists_of_map_ok h
    refine .handled top.msg.payload _ unique msg mroute_stats ?_ ?_ hmsg hjobs
      (fun hu => hunique hu _ hnext) hsys ?_
    · simp [handled, hnext, hmsg]
    · rw [hwaiting]
      exact List.mem_cons_self
    · rw [← hleft, ← hq]
      simp only [ThreadsState.jobs, add_assoc]
      rfl

-- The job at the head of what a thread has in hand goes to the queue.
theorem ThreadsStep.of_add_msg (s₀ : ThreadsState α) (hsystem : s₀.system = s.system)
    (hjobs : s.jobs = job ::ₘ s₀.jobs) :
    ThreadsStep mode clk get_if_name get_virtual_if_index s [] (s₀.add_msg job) := by
  refine .of_le hsystem ?_
  rw [hjobs]
  exact s₀.add_msg_jobs_le job

theorem threads_step_cases (he : threads_enabled receiver s e)
    (h : threads_step clk get_if_name get_virtual_if_index receiver s e = .ok s') :
    ThreadsStep mode clk get_if_name get_virtual_if_index s (handled s e) s' := by
  cases e with
  | add_msg job =>
    obtain rfl := Except.ok.inj h
    refine .moved rfl rfl {job} ?_ (s.add_msg_jobs_le job)
    intro job' hjob'
    rw [Multiset.mem_singleton.mp hjob']
    exact from_proxy_sound mode s.system he
  | analyse_packet packet =>
    obtain rfl := Except.ok.inj h
    have hnone : s.received = [] := he
    refine .moved rfl rfl (((receiver.analyse_packet s.is_if_index_relevant packet).map
      Job.of_receiver : List (Job α)) : Multiset (Job α)) ?_ (le_of_eq ?_)
    · intro job hjob
      obtain ⟨msg, hmsg, rfl⟩ := List.mem_map.mp (Multiset.mem_coe.mp hjob)
      exact of_receiver_sound s.system (receiver.sound _ _ msg hmsg)
    · generalize ((receiver.analyse_packet s.is_if_index_relevant packet).map
        Job.of_receiver : List (Job α)) = received
      change (s.to_arm.map Prod.snd : List (Job α)) + s.armed + s.expired + received + s.waiting =
        (received + s.jobs : Multiset (Job α))
      rw [ThreadsState.jobs, hnone, Multiset.coe_nil]
      abel
  | receiver_add_msg =>
    obtain ⟨job, rest, hr⟩ := List.exists_cons_of_ne_nil he
    simp only [threads_step, hr] at h
    obtain rfl := Except.ok.inj h
    refine ThreadsStep.of_add_msg { s with received := rest } rfl ?_
    rw [ThreadsState.jobs, hr, ← Multiset.cons_coe, Multiset.add_cons, Multiset.cons_add]
    rfl
  | worker_dequeue unique mroute_stats => exact worker_dequeue_cases he.2.1 he.2.2.1 he.2.2.2 h
  | worker_add_time now =>
    obtain ⟨⟨delay, job⟩, rest, hr⟩ := List.exists_cons_of_ne_nil he.1
    simp only [threads_step, hr] at h
    obtain rfl := Except.ok.inj h
    refine .of_le rfl ?_
    have harmed := s.add_time_armed_le now delay job
    rw [ThreadsState.jobs, ThreadsState.jobs, hr, List.map_cons, ← Multiset.cons_coe,
      Multiset.cons_add, ← Multiset.add_cons]
    gcongr
    · exact harmed
    · exact le_rfl
  | timing_pass now =>
    obtain rfl := Except.ok.inj h
    have hnone : s.expired = [] := he.1
    refine .of_le rfl ?_
    have hpass := s.pass_le now
    rw [ThreadsState.jobs, ThreadsState.jobs, hnone, Multiset.coe_nil, add_zero,
      add_assoc (Multiset.ofList (s.to_arm.map Prod.snd))]
    gcongr
    · exact hpass
    · exact le_rfl
  | timing_add_msg =>
    obtain ⟨job, rest, hr⟩ := List.exists_cons_of_ne_nil he
    simp only [threads_step, hr] at h
    obtain rfl := Except.ok.inj h
    refine ThreadsStep.of_add_msg { s with expired := rest } rfl ?_
    rw [ThreadsState.jobs, hr, ← Multiset.cons_coe, Multiset.add_cons, Multiset.cons_add,
      Multiset.cons_add]
    rfl

-- A message under way meets what the worker expects of it.
theorem system_enabled_of_sound {sys : SystemState α} {unique : Bool} {msg : WorkerMsg α}
    (hsound : job.Sound mode sys) (hmsg : job.worker_msg unique = some msg)
    (hunique : unique = true → sys.references job = false) (mroute_stats : MrouteStats α) :
    system_enabled mode sys ⟨msg, mroute_stats⟩ := by
  cases job with
  | config_msg msg' clk' =>
    obtain rfl := Option.some.inj hmsg
    exact hsound
  | group_record_msg if_index record =>
    obtain rfl := Option.some.inj hmsg
    exact fun d _ => hsound
  | timer_msg if_index tm =>
    obtain rfl := Option.some.inj hmsg
    intro d hd
    have hq : sys.get_querier if_index = some d.m_querier := by
      rw [SystemState.get_querier, hd]
      rfl
    refine ⟨?_, fun hu => ?_⟩
    · change tm ∈ sys.timers if_index at hsound
      rwa [SystemState.timers, hq] at hsound
    · have href := hunique hu
      rwa [SystemState.references, hq] at href
  | new_source_msg if_index gaddr saddr =>
    obtain rfl := Option.some.inj hmsg
    trivial
  | new_source_timer_msg tm =>
    obtain rfl := Option.some.inj hmsg
    exact hsound
  | debug_msg | exit_cmd => cases hmsg

-- What holds however the threads interleave.
structure ThreadsInv (mode : GroupMemProtocol) (clk : SteadyClock) (get_if_name : ℕ → String)
    (get_virtual_if_index : ℕ → ℤ) (s : ThreadsState α) : Prop where
  system : (system α mode clk get_if_name get_virtual_if_index).Reachable s.system
  jobs : JobsInv mode s.system s.jobs

theorem ThreadsStep.inv {inputs : List (WorkerInput α)}
    (h : ThreadsStep mode clk get_if_name get_virtual_if_index s inputs s')
    (hinv : ThreadsInv mode clk get_if_name get_virtual_if_index s) :
    ThreadsInv mode clk get_if_name get_virtual_if_index s' := by
  cases h with
  | moved _ hsystem new hnew hjobs =>
    rw [← hsystem] at hnew
    refine ⟨hsystem ▸ hinv.system, JobsInv.of_le (JobsInv.add ?_ hnew) hjobs⟩
    rw [hsystem]
    exact hinv.jobs
  | handled job rest unique msg mroute_stats _ _ hmsg hjobs hunique hstep hjobs' =>
    have hbefore := hinv.jobs
    rw [hjobs] at hbefore
    have henabled := system_enabled_of_sound (hbefore.sound job (Multiset.mem_cons_self _ _)) hmsg
      hunique mroute_stats
    refine ⟨hinv.system.step henabled hstep, ?_⟩
    rw [hjobs']
    exact hbefore.handle hinv.system hmsg henabled hstep

theorem threads_inv
    (hs : (threads clk get_if_name get_virtual_if_index receiver m_size).Reachable s) :
    ThreadsInv mode clk get_if_name get_virtual_if_index s := by
  refine hs.invariant (ThreadsInv mode clk get_if_name get_virtual_if_index) ?_ ?_
  · have hnone :
        (threads clk get_if_name get_virtual_if_index receiver m_size).start.jobs = 0 := rfl
    refine ⟨Machine.reachable_start, ?_⟩
    rw [hnone]
    exact ⟨by simp, Multiset.nodup_zero⟩
  · intro s e s' hinv he h
    exact (threads_step_cases he h).inv hinv

-- However the threads interleave, whatever packets come in and whichever messages are lost: the
-- worker is in the state of a run of its own, with the messages that it took out of the queue.
theorem threads_refine_system {es : List (ThreadEvent receiver.Packet α)}
    {inputs : List (WorkerInput α)}
    (h : (threads clk get_if_name get_virtual_if_index receiver m_size).Traced handled es inputs
      s) : (system α mode clk get_if_name get_virtual_if_index).Run inputs s.system := by
  induction h with
  | nil => exact .nil
  | snoc run he hstep ih =>
    have hinv := threads_inv run.run.reachable
    cases threads_step_cases he hstep with
    | moved hinputs hsystem =>
      rw [hinputs, List.append_nil, hsystem]
      exact ih
    | handled job rest unique msg mroute_stats hinputs _ hmsg hjobs hunique hstep =>
      rw [hinputs]
      refine ih.snoc (system_enabled_of_sound (hinv.jobs.sound job ?_) hmsg hunique _) hstep
      rw [hjobs]
      exact Multiset.mem_cons_self _ _

-- A report of version 3 that changes to EXCLUDE({}), from a host behind the interface 2, and what
-- the threads do until the record is handled and its timer armed.
def join_packet : ReceivedPacket 4 where
  buffer := Memory.fill 0
    [0x45, 0, 0, 36, 0, 0, 0, 0, 1, 2, 0, 0, 10, 0, 0, 1, 224, 0, 0, 22,
      0x22, 0, 0, 0, 0, 0, 0, 1, 4, 0, 0, 0, 239, 1, 1, 1]
  packet_info := none
  get_vif_if_index := fun _ => 0
  get_saddr_if_index := fun _ => 2

def join_events : List (ThreadEvent (ReceivedPacket 4) (InAddr 4)) :=
  [.add_msg (.config_msg (.ADD_DOWNSTREAM 2 {} {}) ticking),
    .worker_dequeue false (fun _ _ => none), .worker_add_time 1, .analyse_packet join_packet,
    .receiver_add_msg, .worker_dequeue false (fun _ _ => none), .worker_add_time 10]

-- The instance and its threads in IPv4, with the default size of the queue.
def igmp_threads :
    Machine (ThreadsState (InAddr 4)) (ThreadEvent (ReceivedPacket 4) (InAddr 4)) SystemFault :=
  threads ticking (fun _ => "") (fun i => i) (igmp_receiver (by decide : is_IPv4 IGMPv3 = true)) 150

instance (s : ThreadsState (InAddr 4)) (e : ThreadEvent (ReceivedPacket 4) (InAddr 4)) :
    Decidable (igmp_threads.enabled s e) :=
  inferInstanceAs (Decidable ((threads ticking (fun _ => "") (fun i => i)
    (igmp_receiver (by decide : is_IPv4 IGMPv3 = true)) 150).enabled s e))

theorem packet_refines_record : ∃ (s : ThreadsState (InAddr 4))
    (inputs : List (WorkerInput (InAddr 4))) (q : Querier (InAddr 4)),
    igmp_threads.Traced handled join_events inputs s ∧ s.system.get_querier 2 = some q ∧
      (get_group_membership_infos q.m_db 0xEF010101).1 = .EXCLUDE_MODE ∧
      (system (InAddr 4) IGMPv3 ticking (fun _ => "") (fun i => i)).Run inputs s.system := by
  obtain ⟨s, run, hs⟩ := Machine.exists_run_of_exec igmp_threads join_events
    (fun s => (s.system.get_querier 2).any fun q =>
      decide ((get_group_membership_infos q.m_db 0xEF010101).1 = .EXCLUDE_MODE))
    (by decide +kernel)
  obtain ⟨q, hq, hinfos⟩ := (Option.any_eq_true _ _).mp hs
  obtain ⟨inputs, htraced⟩ := run.traced handled
  exact ⟨s, inputs, q, htraced, hq, of_decide_eq_true hinfos, threads_refine_system htraced⟩

end Threads

end Mcproxy
