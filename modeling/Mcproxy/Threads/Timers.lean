import Mcproxy.Punctual
import Mcproxy.Threads.Refinement

namespace Mcproxy

open Container Transition GroupMemProtocol MessagePriority

variable {α : Type*} [LinearOrder α]

section Identity

variable {cfg : Config} {e e' : Env α}

theorem timing_calls_eq_nil {as : List (Action α)}
    (h : ∀ delay timer, .add_time delay timer ∉ as) : timing_calls as = [] := by
  rw [timing_calls, List.filterMap_eq_nil_iff]
  intro a ha
  cases a with
  | add_time delay timer => exact absurd ha (h delay timer)
  | _ => rfl

-- A timer is armed once: it is constructed right before it.
theorem Env.Punctual.calls_fresh (h : e.Punctual cfg e') :
    e.next_id ≤ e'.next_id ∧ ∃ as, e'.trace = e.trace ++ as ∧
      ((timing_calls as).map fun c => c.2.id).Nodup ∧
      ∀ c ∈ timing_calls as, e.next_id ≤ c.2.id ∧ c.2.id < e'.next_id := by
  induction h with
  | refl e => exact ⟨le_rfl, [], (List.append_nil _).symm, List.nodup_nil, by simp [timing_calls]⟩
  | trans _ _ hfirst hsecond =>
    obtain ⟨hle, as, has, hnodup, hids⟩ := hfirst
    obtain ⟨hle', bs, hbs, hnodup', hids'⟩ := hsecond
    have hcalls : timing_calls (as ++ bs) = timing_calls as ++ timing_calls bs :=
      List.filterMap_append
    refine ⟨hle.trans hle', as ++ bs, by rw [hbs, has, List.append_assoc], ?_, ?_⟩
    · rw [hcalls, List.map_append, List.nodup_append]
      refine ⟨hnodup, hnodup', ?_⟩
      intro a ha b hb
      obtain ⟨c, hc, rfl⟩ := List.mem_map.mp ha
      obtain ⟨c', hc', rfl⟩ := List.mem_map.mp hb
      exact ((hids c hc).2.trans_le (hids' c' hc').1).ne
    · intro c hc
      rw [hcalls] at hc
      rcases List.mem_append.mp hc with hc | hc
      · exact ⟨(hids c hc).1, (hids c hc).2.trans_le hle'⟩
      · exact ⟨hle.trans (hids' c hc).1, (hids' c hc).2⟩
  | arm e type gaddr duration =>
    refine ⟨Nat.le_succ _, [_], rfl, List.nodup_singleton _, ?_⟩
    intro c hc
    rw [List.mem_singleton.mp hc]
    exact ⟨le_rfl, Nat.lt_succ_self _⟩
  | construct e =>
    exact ⟨Nat.le_succ _, [], (List.append_nil _).symm, List.nodup_nil, by simp [timing_calls]⟩
  | act e as has =>
    have hnone := timing_calls_eq_nil has
    refine ⟨le_rfl, as, rfl, ?_, ?_⟩
    · rw [hnone]
      exact List.nodup_nil
    · simp [hnone]
  | reading e | deliver e =>
    exact ⟨le_rfl, [], (List.append_nil _).symm, List.nodup_nil, by simp [timing_calls]⟩

end Identity

section Conservation

-- The timers that the querier of an interface has armed so far.
def SystemState.all_armed (s : SystemState α) (if_index : ℕ) : List (TimerMsg α) :=
  (timing_calls (s.trace if_index)).map Prod.snd

-- The timer of a querier that the worker handles with an input.
def WorkerInput.timer_of (if_index : ℕ) (input : WorkerInput α) : Option (TimerMsg α) :=
  match input.msg with
  | .querier_msg i (.timer tm _) => if i = if_index then some tm else none
  | _ => none

def handled_timers (if_index : ℕ) (inputs : List (WorkerInput α)) : List (TimerMsg α) :=
  inputs.filterMap (WorkerInput.timer_of if_index)

variable {mode : GroupMemProtocol} {clk : SteadyClock} {get_if_name : ℕ → String}
  {get_virtual_if_index : ℕ → ℤ} {s s' : SystemState α} {job : Job α} {unique : Bool}
  {msg : WorkerMsg α} {mroute_stats : MrouteStats α} {j : ℕ}

theorem all_armed_nodup
    (hs : (system α mode clk get_if_name get_virtual_if_index).Reachable s) (j : ℕ) :
    ((s.all_armed j).map TimerMsg.id).Nodup := by
  unfold SystemState.all_armed SystemState.trace SystemState.get_querier
  cases hd : OrdMap.lookup s.m_p.m_downstreams j with
  | none => exact List.nodup_nil
  | some d =>
    obtain ⟨cfg, -, hq⟩ := system_queriers_reachable hs j d hd
    obtain ⟨-, as, has, hnodup, -⟩ := (querier_punctual hq).calls_fresh
    have htrace : d.m_querier.env.trace = as := has
    rw [List.map_map]
    change ((timing_calls d.m_querier.env.trace).map fun c => c.2.id).Nodup
    rw [htrace]
    exact hnodup

theorem eq_timer_of {tm : TimerMsg α} (hmsg : job.worker_msg unique = some msg)
    (htimer : WorkerInput.timer_of j ⟨msg, mroute_stats⟩ = some tm) : job = .timer_msg j tm := by
  cases job with
  | timer_msg i tm' =>
    obtain rfl := Option.some.inj hmsg
    simp only [WorkerInput.timer_of] at htimer
    split_ifs at htimer with hi
    rw [hi, Option.some.inj htimer]
  | debug_msg | exit_cmd => cases hmsg
  | _ =>
    obtain rfl := Option.some.inj hmsg
    cases htimer

-- The timer that the worker takes is one of those that were pending.
theorem timers_perm_kept (hsound : job.Sound mode s) (hmsg : job.worker_msg unique = some msg) :
    (s.timers j).Perm
      ((WorkerInput.timer_of j ⟨msg, mroute_stats⟩).toList ++ msg.kept j (s.timers j)) := by
  cases job with
  | timer_msg i tm =>
    obtain rfl := Option.some.inj hmsg
    simp only [WorkerInput.timer_of, WorkerMsg.kept]
    split_ifs with hi
    · subst hi
      exact List.perm_cons_erase hsound
    · exact .refl _
  | group_record_msg i record =>
    obtain rfl := Option.some.inj hmsg
    simp only [WorkerInput.timer_of, WorkerMsg.kept]
    split_ifs <;> exact .refl _
  | debug_msg | exit_cmd => cases hmsg
  | config_msg | new_source_msg | new_source_timer_msg =>
    obtain rfl := Option.some.inj hmsg
    exact .refl _

-- What was armed has been handled or is still pending, before and after a step.
theorem conserved_step {inputs : List (WorkerInput α)}
    (hs : (system α mode clk get_if_name get_virtual_if_index).Reachable s)
    (hsound : job.Sound mode s) (hmsg : job.worker_msg unique = some msg)
    (he : system_enabled mode s ⟨msg, mroute_stats⟩)
    (hstep : system_step mode clk get_if_name get_virtual_if_index s ⟨msg, mroute_stats⟩ =
      .ok s')
    (h : (s.all_armed j).Perm (handled_timers j inputs ++ s.timers j)) :
    (s'.all_armed j).Perm
      (handled_timers j (inputs ++ [⟨msg, mroute_stats⟩]) ++ s'.timers j) := by
  obtain ⟨⟨as, htrace⟩, htimers⟩ := system_step_timers hs he hstep j
  have hcalls : s.querier_calls s' j = timing_calls as := by
    rw [SystemState.querier_calls, htrace, List.drop_left]
  have harmed : s'.all_armed j = s.all_armed j ++ (timing_calls as).map Prod.snd := by
    rw [SystemState.all_armed, htrace, timing_calls, List.filterMap_append, List.map_append]
    rfl
  have hhandled : handled_timers j (inputs ++ [⟨msg, mroute_stats⟩]) =
      handled_timers j inputs ++ (WorkerInput.timer_of j ⟨msg, mroute_stats⟩).toList := by
    rw [handled_timers, List.filterMap_append]
    cases htimer : WorkerInput.timer_of j ⟨msg, mroute_stats⟩ <;> simp [htimer, handled_timers]
  rw [harmed, hhandled, htimers, hcalls, ← List.append_assoc]
  refine List.Perm.append_right _ (h.trans ?_)
  rw [List.append_assoc]
  exact (timers_perm_kept hsound hmsg).append_left _

end Conservation

section Due

variable {mode : GroupMemProtocol} {receiver : PacketReceiver α mode} {clk : SteadyClock}
  {get_if_name : ℕ → String} {get_virtual_if_index : ℕ → ℤ} {m_size : UInt32}
  {s s' : ThreadsState α} {e : ThreadEvent receiver.Packet α} {job : Job α} {now now' : ℕ}

theorem Job.due_mono (h : job.due now) (hle : now ≤ now') : job.due now' := by
  cases job with
  | timer_msg if_index tm => exact le_trans h hle
  | _ => trivial

theorem Job.due_of_no_timer (h : job.timer = none) (now : ℕ) : job.due now := by
  cases job with
  | timer_msg if_index tm => cases h
  | _ => trivial

-- Nothing is on its way to the worker before it is due.
structure DueInv (s : ThreadsState α) : Prop where
  received : ∀ job ∈ s.received, job.timer = none
  armed : ∀ p ∈ s.m_timing.m_db.elems, p.2.2.due p.1
  expired : ∀ job ∈ s.expired, job.due s.m_timing.now
  waiting : ∀ job ∈ s.waiting, job.due s.m_timing.now

theorem add_msg_due (h : DueInv s) (hjob : job.due s.m_timing.now) :
    ∀ job' ∈ (s.add_msg job).waiting, job'.due s.m_timing.now := by
  intro job' hjob'
  have hmem := Multiset.mem_of_le (s.add_msg_waiting_le job) (Multiset.mem_coe.mpr hjob')
  rcases Multiset.mem_cons.mp hmem with rfl | hmem
  · exact hjob
  · exact h.waiting job' hmem

-- The worker takes a message out of the queue and leaves the rest of the threads alone.
theorem worker_dequeue_frame {unique : Bool} {mroute_stats : MrouteStats α}
    (h : worker_dequeue clk get_if_name get_virtual_if_index mode s unique mroute_stats =
      .ok s') :
    s'.m_timing = s.m_timing ∧ s'.received = s.received ∧ s'.expired = s.expired ∧
      s'.waiting ⊆ s.waiting := by
  cases hq : s.m_job_queue.m_q with
  | nil =>
    simp only [worker_dequeue, MessageQueue.dequeue, hq] at h
    obtain rfl := Except.ok.inj h
    exact ⟨rfl, rfl, rfl, List.Subset.refl _⟩
  | cons top rest =>
    have hleft : ((Heap.pop Queued.priority (top :: rest)).map fun x => x.msg.payload) ⊆
        s.waiting := by
      rw [ThreadsState.waiting, hq, List.map_cons]
      intro job hjob
      have hpop := (Heap.pop_perm Queued.priority top rest).cons_inv
      exact List.mem_cons_of_mem _ ((hpop.map _).subset hjob)
    simp only [worker_dequeue, MessageQueue.dequeue, hq] at h
    split at h
    · obtain rfl := Except.ok.inj h
      exact ⟨rfl, rfl, rfl, hleft⟩
    · obtain ⟨sys, -, rfl⟩ := exists_of_map_ok h
      exact ⟨rfl, rfl, rfl, hleft⟩

theorem threads_step_due (h : DueInv s) (he : threads_enabled receiver s e)
    (hstep : threads_step clk get_if_name get_virtual_if_index receiver s e = .ok s') :
    s.m_timing.now ≤ s'.m_timing.now ∧ DueInv s' := by
  cases e with
  | add_msg job =>
    obtain rfl := Except.ok.inj hstep
    have hjob := (from_proxy_sound mode s.system he).2
    exact ⟨le_rfl, h.received, h.armed, h.expired, add_msg_due h (Job.due_of_no_timer hjob _)⟩
  | analyse_packet packet =>
    obtain rfl := Except.ok.inj hstep
    refine ⟨le_rfl, fun job hjob => ?_, h.armed, h.expired, h.waiting⟩
    obtain ⟨msg, hmsg, rfl⟩ := List.mem_map.mp hjob
    exact (of_receiver_sound s.system (receiver.sound _ _ msg hmsg)).2
  | receiver_add_msg =>
    obtain ⟨job, rest, hr⟩ := List.exists_cons_of_ne_nil he
    simp only [threads_step, hr] at hstep
    obtain rfl := Except.ok.inj hstep
    have hreceived := h.received
    rw [hr] at hreceived
    refine ⟨le_rfl, fun job' hjob' => hreceived job' (List.mem_cons_of_mem _ hjob'), h.armed,
      h.expired, add_msg_due h ?_⟩
    exact Job.due_of_no_timer (hreceived job List.mem_cons_self) _
  | worker_dequeue unique mroute_stats =>
    obtain ⟨htiming, hreceived, hexpired, hwaiting⟩ := worker_dequeue_frame hstep
    rw [htiming]
    refine ⟨le_rfl, ?_, ?_, ?_, ?_⟩
    · rw [hreceived]
      exact h.received
    · rw [htiming]
      exact h.armed
    · rw [hexpired, htiming]
      exact h.expired
    · rw [htiming]
      exact fun job hjob => h.waiting job (hwaiting hjob)
  | worker_add_time now =>
    obtain ⟨⟨delay, job⟩, rest, hr⟩ := List.exists_cons_of_ne_nil he.1
    obtain ⟨-, hexpired, hnow, hdue⟩ := he
    rw [hr] at hdue
    simp only [threads_step, hr] at hstep
    obtain rfl := Except.ok.inj hstep
    refine ⟨hnow, h.received, fun p hp => ?_, fun job' hjob' => ?_, fun job' hjob' => ?_⟩
    · rcases OrdSet.mem_of_mem_insertList _ hp with rfl | hp
      · exact hdue _ rfl
      · exact h.armed p hp
    · exact Job.due_mono (h.expired job' hjob') hnow
    · exact Job.due_mono (h.waiting job' hjob') hnow
  | timing_pass now =>
    obtain rfl := Except.ok.inj hstep
    refine ⟨he.2, h.received, fun p hp => ?_, fun job hjob => ?_, fun job hjob => ?_⟩
    · exact h.armed p ((List.dropWhile_sublist _).subset hp)
    · obtain ⟨p, hp, hjob⟩ := List.mem_filterMap.mp hjob
      obtain ⟨-, -, rfl⟩ := Option.map_eq_some_iff.mp hjob
      have hle := List.mem_takeWhile_imp hp
      exact Job.due_mono (h.armed p ((List.takeWhile_sublist _).subset hp))
        (of_decide_eq_true hle)
    · exact Job.due_mono (h.waiting job hjob) he.2
  | timing_add_msg =>
    obtain ⟨job, rest, hr⟩ := List.exists_cons_of_ne_nil he
    simp only [threads_step, hr] at hstep
    obtain rfl := Except.ok.inj hstep
    have hexpired := h.expired
    rw [hr] at hexpired
    exact ⟨le_rfl, h.received, h.armed,
      fun job' hjob' => hexpired job' (List.mem_cons_of_mem _ hjob'),
      add_msg_due h (hexpired job List.mem_cons_self)⟩

theorem due_inv
    (hs : (threads clk get_if_name get_virtual_if_index receiver m_size).Reachable s) :
    DueInv s := by
  refine hs.invariant DueInv ⟨?_, ?_, ?_, ?_⟩ ?_
  · exact fun job hjob => absurd hjob List.not_mem_nil
  · exact fun p hp => absurd hp List.not_mem_nil
  · exact fun job hjob => absurd hjob List.not_mem_nil
  · exact fun job hjob => absurd hjob List.not_mem_nil
  · intro s e s' hinv he hstep
    exact (threads_step_due hinv he hstep).2

-- However the threads interleave: the worker handles a timer of a querier once at most and not
-- before it is due, and each one that was armed has been handled or is still pending.
theorem timers_handled_once {es : List (ThreadEvent receiver.Packet α)}
    {inputs : List (WorkerInput α)} (j : ℕ)
    (h : (threads clk get_if_name get_virtual_if_index receiver m_size).Traced handled es inputs
      s) :
    ((handled_timers j inputs).map TimerMsg.id).Nodup ∧
      (∀ tm ∈ handled_timers j inputs, tm.end_time ≤ s.m_timing.now) ∧
      (s.system.all_armed j).Perm (handled_timers j inputs ++ s.system.timers j) := by
  have hconserved : (∀ tm ∈ handled_timers j inputs, tm.end_time ≤ s.m_timing.now) ∧
      (s.system.all_armed j).Perm (handled_timers j inputs ++ s.system.timers j) := by
    induction h with
    | nil => exact ⟨fun tm htm => absurd htm List.not_mem_nil, .refl _⟩
    | snoc run he hstep ih =>
      have hinv := threads_inv run.run.reachable
      have hdueinv := due_inv run.run.reachable
      obtain ⟨hnow, -⟩ := threads_step_due hdueinv he hstep
      obtain ⟨hdue, hperm⟩ := ih
      cases threads_step_cases he hstep with
      | moved hinputs hsystem =>
        rw [hinputs, List.append_nil, hsystem]
        exact ⟨fun tm htm => (hdue tm htm).trans hnow, hperm⟩
      | handled job rest unique msg mroute_stats hinputs hwaiting hmsg hjobs hunique hstep' =>
        have hmem := Multiset.mem_cons_self job rest
        rw [← hjobs] at hmem
        have hsound := hinv.jobs.sound job hmem
        have henabled := system_enabled_of_sound hsound hmsg hunique mroute_stats
        rw [hinputs]
        refine ⟨fun tm htm => ?_, conserved_step hinv.system hsound hmsg henabled hstep' hperm⟩
        rw [handled_timers, List.filterMap_append] at htm
        rcases List.mem_append.mp htm with htm | htm
        · exact (hdue tm htm).trans hnow
        · obtain ⟨input, hinput, htimer⟩ := List.mem_filterMap.mp htm
          rw [List.mem_singleton.mp hinput] at htimer
          have hjob := hdueinv.waiting job hwaiting
          rw [eq_timer_of hmsg htimer] at hjob
          exact le_trans hjob hnow
  have hnodup := all_armed_nodup (threads_inv h.run.reachable).system j
  refine ⟨?_, hconserved⟩
  have hperm := hconserved.2.map TimerMsg.id
  rw [List.map_append] at hperm
  exact (hperm.nodup_iff.mp hnodup).of_append_left

-- The filter timer of the group and the first timer for a general query expire together.
theorem two_timers_handled_once : ∃ (s : ThreadsState (InAddr 4))
    (inputs : List (WorkerInput (InAddr 4))),
    igmp_threads.Traced handled
        (join_events ++ [.timing_pass 300000000000, .timing_add_msg, .timing_add_msg,
          .worker_dequeue false (fun _ _ => none), .worker_add_time 300000000001,
          .worker_dequeue false (fun _ _ => none)]) inputs s ∧
      (s.system.timers 2).length = 1 ∧ (handled_timers 2 inputs).length = 2 ∧
      ((handled_timers 2 inputs).map TimerMsg.id).Nodup ∧
      ∀ tm ∈ handled_timers 2 inputs, tm.end_time ≤ s.m_timing.now := by
  obtain ⟨s, run, hs⟩ := Machine.exists_run_of_exec igmp_threads
    (join_events ++ [.timing_pass 300000000000, .timing_add_msg, .timing_add_msg,
      .worker_dequeue false (fun _ _ => none), .worker_add_time 300000000001,
      .worker_dequeue false (fun _ _ => none)])
    (fun s => decide ((s.system.all_armed 2).length = 3 ∧ (s.system.timers 2).length = 1))
    (by decide +kernel)
  obtain ⟨harmed, hpending⟩ := of_decide_eq_true hs
  obtain ⟨inputs, htraced⟩ := run.traced handled
  obtain ⟨honce, hdue, hperm⟩ := timers_handled_once 2 htraced
  have hlength := hperm.length_eq
  rw [List.length_append, harmed, hpending] at hlength
  exact ⟨s, inputs, htraced, hpending, by omega, honce, hdue⟩

end Due

end Mcproxy
