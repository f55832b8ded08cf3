import Mcproxy.Querier.Expiry

namespace Mcproxy

open Container Transition McFilter McastAddrRecordType MessageType GroupMemProtocol

variable {α : Type*} [LinearOrder α]

section Schedule

def TimerMsg.is_general_query (msg : TimerMsg α) : Bool := msg.type = GENERAL_QUERY_TIMER_MSG

-- The queries of the startup after the first, as the counter of the querier holds them.
def startup_queries (tv : TimersValues) : ℤ := to_int (tv.startup_query_count - 1)

-- The time to the next general query when `n` timers have brought one about.
def general_query_interval (tv : TimersValues) (n : ℕ) : ℕ :=
  1000 * if (n : ℤ) < startup_queries tv then tv.startup_query_interval else tv.query_interval

-- The counter then.
def startup_count_left (tv : TimersValues) (n : ℕ) : ℤ :=
  if (n : ℤ) < startup_queries tv then startup_queries tv - n - 1 else min (startup_queries tv) 0

-- One timer for the next general query is under way, the one the database refers to.
structure OnSchedule (cfg : Config) (n : ℕ) (q : Querier α) : Prop where
  count : q.m_db.startup_query_count = startup_count_left cfg.tv n
  pending : ∃ t k, q.m_db.general_query_timer = some t ∧
    q.env.timing.filter TimerMsg.is_general_query = [t] ∧ k < q.env.readings ∧
    t.end_time = after (cfg.clk.reading k) (general_query_interval cfg.tv n)

theorem startup_count_left_pos (tv : TimersValues) (n : ℕ) :
    0 < startup_count_left tv n ↔ ((n + 1 : ℕ) : ℤ) < startup_queries tv := by
  unfold startup_count_left
  split_ifs <;> omega

theorem startup_count_left_succ (tv : TimersValues) (n : ℕ) :
    startup_count_left tv (n + 1) =
      if 0 < startup_count_left tv n then startup_count_left tv n - 1
      else startup_count_left tv n := by
  unfold startup_count_left
  split_ifs <;> omega

theorem general_query_interval_succ (tv : TimersValues) (n : ℕ) :
    general_query_interval tv (n + 1) =
      1000 * if 0 < startup_count_left tv n then tv.startup_query_interval
        else tv.query_interval :=
  congrArg (1000 * ·) (if_congr (startup_count_left_pos tv n).symm rfl rfl)

omit [LinearOrder α] in
theorem filter_of_group {gaddr : α} {ts : List (TimerMsg α)} (h : ∀ t ∈ ts, t.OfGroup gaddr) :
    ts.filter TimerMsg.is_general_query = [] := by
  rw [List.filter_eq_nil_iff]
  intro t ht
  simpa [TimerMsg.is_general_query] using (h t ht).type

variable {cfg : Config} {mode : GroupMemProtocol} {n : ℕ} {q q' : Querier α}
  {gaddr : α} {ginfo : GaddrInfo α} {msg t : TimerMsg α} {unique : Bool}
  {e : Event α} {es : List (Event α)}

-- The part of the database that only the general queries write.
def MembershipDb.general_queries (db : MembershipDb α) : Option (TimerMsg α) × ℤ :=
  (db.general_query_timer, db.startup_query_count)

theorem receive_record_general_queries {gr : GroupRecordMsg α}
    (h : receive_record cfg gr q = .ok q') :
    q'.m_db.general_queries = q.m_db.general_queries := by
  obtain ⟨r, -, hcase⟩ := receive_record_cases h
  rcases hcase with ⟨-, -, rfl⟩ | ⟨-, ⟨r', -, -, ⟨-, -, rfl⟩ | ⟨-, rfl⟩⟩ | ⟨r', -, -, rfl⟩⟩ <;> rfl

theorem GroupTimerStep.general_queries (h : GroupTimerStep cfg gaddr msg ginfo q q') :
    q'.m_db.general_queries = q.m_db.general_queries := by
  induction h with
  | shared _ _ _ _ hfirst hsecond => exact hsecond.trans hfirst
  | _ => rfl

-- A step that arms no timer for a general query.
theorem OnSchedule.keep (h : OnSchedule cfg n q)
    (hdb : q'.m_db.general_queries = q.m_db.general_queries)
    (hreadings : q.env.readings ≤ q'.env.readings) {ts us : List (TimerMsg α)}
    (hts : q'.env.timing = ts ++ us)
    (hkept : ts.filter TimerMsg.is_general_query =
      q.env.timing.filter TimerMsg.is_general_query)
    (hnew : us.filter TimerMsg.is_general_query = []) : OnSchedule cfg n q' := by
  obtain ⟨t, k, ht, hfilter, hk, hend⟩ := h.pending
  obtain ⟨htimer, hcount⟩ := Prod.mk.inj hdb
  refine ⟨hcount.trans h.count, t, k, htimer.trans ht, ?_, hk.trans_le hreadings, hend⟩
  rw [hts, List.filter_append, hkept, hfilter, hnew]
  rfl

-- The counter as it stands when the query goes out decides how long the next one takes.
theorem send_general_query_on_schedule {c : ℤ}
    (hc : (if q.m_db.general_query_timer.isNone then startup_queries cfg.tv
      else q.m_db.startup_query_count) = c)
    (hcount : startup_count_left cfg.tv n = if 0 < c then c - 1 else c)
    (hinterval : general_query_interval cfg.tv n =
      1000 * if 0 < c then cfg.tv.startup_query_interval else cfg.tv.query_interval)
    (hnone : q.env.timing.filter TimerMsg.is_general_query = []) :
    OnSchedule cfg n (send_general_query cfg q) := by
  have hnext : (if 0 < c then (c - 1, 1000 * cfg.tv.startup_query_interval)
      else (c, 1000 * cfg.tv.query_interval)) =
      (startup_count_left cfg.tv n, general_query_interval cfg.tv n) := by
    rw [hcount, hinterval]
    split_ifs <;> rfl
  unfold startup_queries at hc
  simp only [send_general_query, hc]
  generalize (if 0 < c then (c - 1, 1000 * cfg.tv.startup_query_interval)
    else (c, 1000 * cfg.tv.query_interval)) = next at hnext ⊢
  obtain ⟨hleft, hdelay⟩ := Prod.mk.inj hnext
  refine ⟨hleft, _, q.env.readings, rfl, ?_, Nat.lt_add_of_pos_right Nat.two_pos, ?_⟩
  · exact (List.filter_append ..).trans (congrArg (· ++ _) hnone)
  · rw [← hdelay]
    rfl

theorem new_querier_on_schedule (cfg : Config) (mode : GroupMemProtocol) :
    OnSchedule cfg 0 (new_querier cfg mode : Querier α) := by
  refine send_general_query_on_schedule (c := startup_queries cfg.tv) (if_pos rfl) ?_ ?_ rfl
  · unfold startup_count_left
    split_ifs <;> omega
  · rfl

-- The timer is referred to, so it never looks unique, and it is the one that is waited for.
theorem OnSchedule.sends (h : OnSchedule cfg n q)
    (he : querier_enabled mode q (.timer msg unique)) (hmsg : msg.is_general_query = true) :
    q.env.timing.filter TimerMsg.is_general_query = [msg] ∧
      querier_step cfg q (.timer msg unique) = .ok (send_general_query cfg (q.deliver msg)) := by
  obtain ⟨t, k, ht, hfilter, -, -⟩ := h.pending
  have hmem : msg ∈ q.env.timing.filter TimerMsg.is_general_query :=
    List.mem_filter.mpr ⟨he.1, hmsg⟩
  rw [hfilter, List.mem_singleton] at hmem
  subst hmem
  have hsame : same_object q.m_db.general_query_timer msg = true := by
    rw [ht, same_object_self]
  have hunique : unique ≠ true := by
    intro hu
    have href := he.2 hu
    rw [MembershipDb.references, hsame, Bool.true_or] at href
    cases href
  have htype : msg.type = GENERAL_QUERY_TIMER_MSG := of_decide_eq_true hmsg
  refine ⟨hfilter, ?_⟩
  simp only [querier_step, timer_triggerd, if_neg hunique, if_pos htype]
  exact congrArg Except.ok (if_pos hsame)

theorem general_query_timer_on_schedule (h : OnSchedule cfg n q)
    (he : querier_enabled mode q (.timer msg unique)) (hmsg : msg.is_general_query = true)
    (hstep : querier_step cfg q (.timer msg unique) = .ok q') : OnSchedule cfg (n + 1) q' := by
  obtain ⟨hfilter, hsends⟩ := h.sends he hmsg
  obtain ⟨t, k, ht, -⟩ := h.pending
  rw [← Except.ok.inj (hsends.symm.trans hstep)]
  refine send_general_query_on_schedule (c := startup_count_left cfg.tv n) ?_
    (startup_count_left_succ ..) (general_query_interval_succ ..) ?_
  · have hsome : (q.deliver msg).m_db.general_query_timer.isNone = false :=
      congrArg Option.isNone ht
    rw [hsome]
    exact h.count
  · calc (q.env.timing.erase msg).filter TimerMsg.is_general_query
        = (q.env.timing.filter TimerMsg.is_general_query).erase msg := List.erase_filter.symm
      _ = [] := by rw [hfilter, List.erase_cons_head]

theorem other_timer_on_schedule (h : OnSchedule cfg n q) (hmsg : msg.is_general_query = false)
    (hstep : querier_step cfg q (.timer msg unique) = .ok q') : OnSchedule cfg n q' := by
  have hkept : (q.env.timing.erase msg).filter TimerMsg.is_general_query =
      q.env.timing.filter TimerMsg.is_general_query := by
    rw [← List.erase_filter, List.erase_of_not_mem]
    intro hmem
    rw [(List.mem_filter.mp hmem).2] at hmsg
    cases hmsg
  have hdeliver : OnSchedule cfg n (q.deliver msg) :=
    h.keep rfl le_rfl (List.append_nil _).symm hkept rfl
  rcases timer_triggerd_cases hstep with ⟨-, rfl⟩ | ⟨htype, -⟩ | ⟨-, rfl⟩ |
    ⟨g, ginfo, -, hlook, hg⟩
  · exact hdeliver
  · rw [TimerMsg.is_general_query, decide_eq_false_iff_not] at hmsg
    exact absurd htype hmsg
  · exact hdeliver
  · have hdown := timer_triggerd_group_winds_down hg hlook
    obtain ⟨ts, hts, hnew, -⟩ := hdown.armed
    exact hdeliver.keep (timer_triggerd_group_step hg).general_queries hdown.readings hts rfl
      (filter_of_group fun t ht => (hnew t ht).1)

def Event.general_query : Event α → Bool
  | .record _ => false
  | .timer msg _ => msg.is_general_query

theorem on_schedule_step (h : OnSchedule cfg n q) (he : querier_enabled mode q e)
    (hstep : querier_step cfg q e = .ok q') :
    OnSchedule cfg (n + if e.general_query then 1 else 0) q' := by
  cases e with
  | record gr =>
    obtain ⟨ts, hts, hnew⟩ := (receive_record_arms hstep).armed
    exact h.keep (receive_record_general_queries hstep) (receive_record_arms hstep).readings hts
      rfl (filter_of_group fun t ht => (hnew t ht).1)
  | timer msg unique =>
    cases hmsg : msg.is_general_query with
    | true => simpa [Event.general_query, hmsg] using
        general_query_timer_on_schedule h he hmsg hstep
    | false => simpa [Event.general_query, hmsg] using other_timer_on_schedule h hmsg hstep

theorem run_on_schedule (run : (querier α cfg mode).Run es q) :
    OnSchedule cfg (es.countP Event.general_query) q := by
  induction run with
  | nil => exact new_querier_on_schedule cfg mode
  | snoc run he hstep ih =>
    rw [List.countP_append, List.countP_singleton]
    exact on_schedule_step ih he hstep

-- Whatever is reported and however the timers come in, the general queries go on: first at
-- the interval of the startup, then at the other, and none of their timers is passed over.
theorem general_queries_on_schedule (run : (querier α cfg mode).Run es q) :
    OnSchedule cfg (es.countP Event.general_query) q ∧
      ∀ msg unique, querier_enabled mode q (.timer msg unique) →
        msg.is_general_query = true →
        querier_step cfg q (.timer msg unique) =
          .ok (send_general_query cfg (q.deliver msg)) :=
  ⟨run_on_schedule run, fun _ _ he hmsg => ((run_on_schedule run).sends he hmsg).2⟩

-- The interval changes after the second query of the startup.
theorem third_general_query_on_schedule : ∃ (q : Querier Ipv4Addr) (t : TimerMsg Ipv4Addr),
    (querier Ipv4Addr default_config IGMPv3).Run
        [.record ⟨MODE_IS_EXCLUDE, 7, sources [], IGMPv3⟩,
          .timer ⟨0, GENERAL_QUERY_TIMER_MSG, none, 31000000000, false⟩ false,
          .timer ⟨1, FILTER_TIMER_MSG, some 7, 260000000002, false⟩ false] q ∧
      q.m_db.general_query_timer = some t ∧ OnSchedule default_config 1 q ∧
      querier_step default_config q (.timer t false) =
        .ok (send_general_query default_config (q.deliver t)) := by
  obtain ⟨q, run, hq⟩ := Machine.exists_run_of_exec (querier Ipv4Addr default_config IGMPv3)
    [.record ⟨MODE_IS_EXCLUDE, 7, sources [], IGMPv3⟩,
      .timer ⟨0, GENERAL_QUERY_TIMER_MSG, none, 31000000000, false⟩ false,
      .timer ⟨1, FILTER_TIMER_MSG, some 7, 260000000002, false⟩ false]
    (fun _ => true) (by decide +kernel)
  obtain ⟨hsched, hsends⟩ := general_queries_on_schedule run
  obtain ⟨t, k, ht, hfilter, -, -⟩ := hsched.pending
  have hmem : t ∈ q.env.timing.filter TimerMsg.is_general_query := by
    rw [hfilter]
    exact List.mem_singleton_self t
  obtain ⟨htiming, hmsg⟩ := List.mem_filter.mp hmem
  exact ⟨q, t, run, ht, hsched, hsends t false ⟨htiming, by simp⟩ hmsg⟩

end Schedule

end Mcproxy
