import Mcproxy.Querier.SourceRetransmission

namespace Mcproxy

open Container Transition McFilter McastAddrRecordType MessageType GroupMemProtocol

variable {α : Type*} [LinearOrder α]

section Exactness

-- More than LLQT left, which is what the protocol asks for.
def Comparison.more (cfg : Config) (x : Comparison α) : Bool :=
  decide (after (cfg.clk.reading x.reading) cfg.tv.get_last_listener_query_time < x.timer.end_time)

-- The sources with retransmission state.
def SenderCall.retransmitted : SenderCall α → List (Source α)
  | .mc_addr_specific_query _ _ _ => []
  | .mc_addr_and_src_specific_query _ slist _ =>
    slist.elems.filter fun s => decide (0 < s.retransmission_count)

variable {cfg : Config} {c : SenderCall α}

-- The flags of a call are exact: set for just those whose timer has more than LLQT left at
-- the reading it was compared at. `n` is the first identity that the step gave away, so that
-- a timer from there on is one that this step has made.
structure SenderCall.Exact (cfg : Config) (n : ℕ) (c : SenderCall α) : Prop where
  flag : ∀ x ∈ c.compared, c.flags cfg x.saddr = [x.more cfg]
  lowered : ∀ x ∈ c.compared, n ≤ x.timer.id → c.flags cfg x.saddr = [false]
  once : ∀ s ∈ c.retransmitted, (c.flags cfg (some s.saddr)).length = 1
  only : ∀ saddr, c.flags cfg saddr ≠ [] → ∃ x ∈ c.compared, x.saddr = saddr

-- Exactly LLQT left.
def Comparison.on_the_dot (cfg : Config) (x : Comparison α) : Bool :=
  decide (x.timer.end_time = after (cfg.clk.reading x.reading) cfg.tv.get_last_listener_query_time)

-- What the querier sees to when it calls the sender: sources with retransmission state have
-- a timer, and a timer made in this step was set to LLQT before.
structure SenderCall.Prepared (cfg : Config) (n : ℕ) (c : SenderCall α) : Prop where
  timers : ∀ s ∈ c.retransmitted, s.shared_source_timer ≠ none
  lowered : ∀ x ∈ c.compared, n ≤ x.timer.id →
    x.timer.end_time ≤ after (cfg.clk.reading x.reading) cfg.tv.get_last_listener_query_time

omit [LinearOrder α] in
theorem more_eq_at_least_iff (cfg : Config) (x : Comparison α) :
    x.at_least cfg = x.more cfg ↔ x.on_the_dot cfg = false := by
  unfold Comparison.at_least Comparison.more Comparison.on_the_dot
  rw [decide_eq_decide, decide_eq_false_iff_not]
  omega

theorem SenderCall.Prepared.exact_iff {n : ℕ} (h : c.Prepared cfg n) :
    c.Exact cfg n ↔ ∀ x ∈ c.compared, x.on_the_dot cfg = false := by
  constructor
  · intro hexact x hx
    rw [← more_eq_at_least_iff]
    exact List.singleton_inj.mp ((flags_of_compared hx).symm.trans (hexact.flag x hx))
  · intro hdot
    refine ⟨fun x hx => ?_, fun x hx hn => ?_, fun s hs => ?_, fun saddr hne => ?_⟩
    · rw [flags_of_compared hx, (more_eq_at_least_iff cfg x).mpr (hdot x hx)]
    · have hle := h.lowered x hx hn
      have hne := of_decide_eq_false (hdot x hx)
      rw [flags_of_compared hx, Comparison.at_least, decide_eq_false (by omega)]
    · obtain ⟨x, hx, hxs⟩ : ∃ x ∈ c.compared, x.saddr = some s.saddr := by
        have ht := h.timers s hs
        cases c with
        | mc_addr_specific_query => cases hs
        | mc_addr_and_src_specific_query gaddr slist env =>
          obtain ⟨hmem, hpos⟩ := List.mem_filter.mp hs
          exact exists_compare_sources hmem (of_decide_eq_true hpos) ht _
      rw [← hxs, flags_of_compared hx]
      rfl
    · by_contra hnone
      push Not at hnone
      exact hne (flags_of_not_compared hnone)

end Exactness

section SendQ

variable (cfg : Config) (gaddr : α) (ginfo : GaddrInfo α) (tmp : SourceList α) (ret : Bool)
  (env : Env α)

-- The call in `send_Q(gaddr, ginfo, slist, tmp_list, in_retransmission_state)`.
def send_Q_calls : List (SenderCall α) :=
  let r := requery_sources cfg gaddr ginfo.include_requested_list tmp env
  if r.1.2 || ret then [.mc_addr_and_src_specific_query gaddr r.1.1 r.2] else []

-- The call in `send_Q(gaddr, ginfo)`.
def send_Q_group_calls : List (SenderCall α) :=
  let r := start_group_queries cfg gaddr ginfo env
  if 0 < r.1.group_retransmission_count then
    let ginfo := { r.1 with group_retransmission_count := r.1.group_retransmission_count - 1 }
    let r := schedule_group_query cfg gaddr ginfo r.2
    match r.1.shared_filter_timer with
    | none => []
    | some ftimer => [.mc_addr_specific_query gaddr ftimer r.2]
  else []

theorem queries_send_Q :
    (send_Q cfg gaddr ginfo tmp ret env).2.queries =
      env.queries ++ (send_Q_calls cfg gaddr ginfo tmp ret env).flatMap (SenderCall.sent cfg) := by
  simp only [send_Q, send_Q_calls]
  split_ifs <;> simp [queries_send_src_query]

theorem queries_send_Q_group {r : GaddrInfo α × Env α}
    (h : send_Q_group cfg gaddr ginfo env = .ok r) :
    r.2.queries =
      env.queries ++ (send_Q_group_calls cfg gaddr ginfo env).flatMap (SenderCall.sent cfg) := by
  simp only [send_Q_group] at h
  simp only [send_Q_group_calls]
  split_ifs at h ⊢
  · generalize hsq : schedule_group_query cfg gaddr _ _ = sq at h ⊢
    have hquiet : sq.2.queries = env.queries := by
      rw [← hsq, queries_schedule_group_query, queries_start_group_queries]
    unfold send_group_query at h
    cases hft : sq.1.shared_filter_timer with
    | none =>
      rw [hft] at h
      cases h
    | some ftimer =>
      rw [hft] at h
      obtain rfl := Except.ok.inj h
      simp [hquiet, SenderCall.sent, Action.is_specific_query]
  · obtain rfl := Except.ok.inj h
    simp

variable {cfg gaddr ginfo tmp ret env} {n : ℕ}

-- The timers a step finds in a record are older than those it makes.
structure GaddrInfo.TimersBelow (n : ℕ) (ginfo : GaddrInfo α) : Prop where
  sources : ∀ a s, ginfo.include_requested_list.find a = some s → 0 < s.retransmission_count →
    ∃ t, s.shared_source_timer = some t ∧ t.id < n
  filter : ∀ t, ginfo.shared_filter_timer = some t → t.id < n

-- A timer of LLQT has no more than that left later on.
theorem lowered_end_time (cfg : Config) (type : MessageType) (g : Option α) {env : Env α}
    {k : ℕ} (hk : env.readings ≤ k) :
    (env.make_shared cfg type g cfg.tv.get_last_listener_query_time).1.end_time ≤
      after (cfg.clk.reading k) cfg.tv.get_last_listener_query_time :=
  Nat.add_le_add_right (cfg.clk.mono hk) _

theorem requery_sources_timer (h : ginfo.TimersBelow n) {s : Source α}
    (hs : s ∈ (requery_sources cfg gaddr ginfo.include_requested_list tmp env).1.1.elems)
    (hpos : 0 < s.retransmission_count) :
    ∃ t, s.shared_source_timer = some t ∧ (t.id < n ∨ t = llqt_timer cfg gaddr env) := by
  have hfind := OrdSet.find_eq_some_iff.mpr ⟨hs, rfl⟩
  rw [find_requery_sources] at hfind
  split_ifs at hfind with ha
  · obtain ⟨s₀, hs₀, he⟩ := Option.map_eq_some_iff.mp hfind
    unfold requery at he
    split_ifs at he with hcount
    · rw [← he]
      exact ⟨_, rfl, Or.inr rfl⟩
    · obtain ⟨t, ht, hid⟩ := h.sources _ s (he ▸ hs₀) hpos
      exact ⟨t, ht, Or.inl hid⟩
  · obtain ⟨t, ht, hid⟩ := h.sources _ s hfind hpos
    exact ⟨t, ht, Or.inl hid⟩

theorem send_Q_calls_prepared (h : ginfo.TimersBelow n) :
    ∀ c ∈ send_Q_calls cfg gaddr ginfo tmp ret env, c.Prepared cfg n := by
  intro c hc
  simp only [send_Q_calls] at hc
  split_ifs at hc
  · obtain rfl := List.mem_singleton.mp hc
    refine ⟨fun s hs => ?_, fun x hx hn => ?_⟩
    · obtain ⟨hmem, hpos⟩ := List.mem_filter.mp hs
      obtain ⟨t, ht, -⟩ := requery_sources_timer h hmem (of_decide_eq_true hpos)
      rw [ht]
      exact Option.some_ne_none t
    · obtain ⟨hk, s, hs, -, hpos, ht⟩ := mem_compare_sources hx
      obtain ⟨t, ht', hid⟩ := requery_sources_timer h hs hpos
      obtain rfl := Option.some.inj (ht.symm.trans ht')
      rcases hid with hid | hllqt
      · omega
      · rw [hllqt]
        exact lowered_end_time cfg _ _ ((requery_sources_extends ..).readings.trans hk)
  · cases hc

theorem send_Q_group_calls_prepared (h : ∀ t, ginfo.shared_filter_timer = some t → t.id < n) :
    ∀ c ∈ send_Q_group_calls cfg gaddr ginfo env, c.Prepared cfg n := by
  intro c hc
  simp only [send_Q_group_calls] at hc
  split_ifs at hc with hcount
  · obtain ⟨hfst, hext, -⟩ := schedule_group_query_spec cfg gaddr
      { (start_group_queries cfg gaddr ginfo env).1 with
        group_retransmission_count :=
          (start_group_queries cfg gaddr ginfo env).1.group_retransmission_count - 1 }
      (start_group_queries cfg gaddr ginfo env).2
    generalize schedule_group_query cfg gaddr _ _ = sq at hc hfst hext
    have hft : sq.1.shared_filter_timer =
        (start_group_queries cfg gaddr ginfo env).1.shared_filter_timer := by rw [hfst]
    cases ht : sq.1.shared_filter_timer with
    | none =>
      rw [ht] at hc
      cases hc
    | some t =>
      rw [ht] at hc hft
      obtain rfl := List.mem_singleton.mp hc
      refine ⟨fun s hs => (by cases hs), fun x hx hn => ?_⟩
      obtain rfl := List.mem_singleton.mp hx
      cases hret : ginfo.group_retransmission_timer with
      | none =>
        obtain ⟨hstart, hext', -⟩ := @start_group_queries_of_none α _ cfg gaddr ginfo env hret
        rw [hstart] at hft
        rw [Option.some.inj hft]
        exact lowered_end_time cfg _ _ (hext'.trans hext).readings
      | some rt =>
        rw [start_group_queries_of_some hret] at hft
        exact absurd hn (not_le.mpr (h t hft.symm))
  · cases hc

end SendQ

section Steps

-- The record and the list of the Send Q(MA, ...) of a row.
def row_query (record_type : McastAddrRecordType) (slist : SourceList α) (ginfo : GaddrInfo α) :
    Option (GaddrInfo α × SourceList α) :=
  let X := ginfo.include_requested_list
  let Y := ginfo.exclude_list
  let A := slist
  match ginfo.filter_mode, record_type with
  | INCLUDE_MODE, BLOCK_OLD_SOURCES => some (ginfo, X * A)
  | INCLUDE_MODE, CHANGE_TO_EXCLUDE_MODE =>
    some ({ ginfo with
      filter_mode := EXCLUDE_MODE, include_requested_list := X * A, exclude_list := A - X * A },
      X * A * A)
  | INCLUDE_MODE, CHANGE_TO_INCLUDE_MODE =>
    some ({ ginfo with include_requested_list := X + A }, X + A - A)
  | EXCLUDE_MODE, BLOCK_OLD_SOURCES =>
    some ({ ginfo with include_requested_list := X + (A - Y) }, A - Y)
  | EXCLUDE_MODE, CHANGE_TO_EXCLUDE_MODE =>
    some ({ ginfo with include_requested_list := X * A + (A - Y), exclude_list := Y * A },
      X * A + (A - Y))
  | EXCLUDE_MODE, CHANGE_TO_INCLUDE_MODE =>
    some ({ ginfo with include_requested_list := X + A, exclude_list := Y - A }, X + A - A)
  | _, _ => none

-- The calls of a row: TO_IN in EXCLUDE mode is the one with a Send Q(MA).
def row_calls (cfg : Config) (record_type : McastAddrRecordType) (gaddr : α)
    (slist : SourceList α) (ginfo : GaddrInfo α) (env : Env α) : List (SenderCall α) :=
  match row_query record_type slist ginfo with
  | none => []
  | some (ginfo', tmp) =>
    send_Q_calls cfg gaddr ginfo' tmp false env ++
      if ginfo.filter_mode = EXCLUDE_MODE ∧ record_type = CHANGE_TO_INCLUDE_MODE then
        let r := send_Q cfg gaddr ginfo' tmp false env
        send_Q_group_calls cfg gaddr r.1 r.2
      else []

def record_calls (cfg : Config) (gr : GroupRecordMsg α) (q : Querier α) : List (SenderCall α) :=
  let r := row_start cfg gr q
  if r.1.is_in_backward_compatibility_mode = true ∧ gr.record_type = BLOCK_OLD_SOURCES then []
  else row_calls cfg gr.record_type gr.gaddr (compatible_slist r.1 gr) r.1 r.2

def group_timer_calls (cfg : Config) (gaddr : α) (ginfo : GaddrInfo α) (msg : TimerMsg α)
    (env : Env α) : List (SenderCall α) :=
  match msg.type with
  | RET_GROUP_TIMER_MSG =>
    if same_object ginfo.group_retransmission_timer msg then
      send_Q_group_calls cfg gaddr ginfo env
    else []
  | RET_SOURCE_TIMER_MSG =>
    if same_object ginfo.source_retransmission_timer msg then
      send_Q_calls cfg gaddr ginfo ∅ true env
    else []
  | _ => []

def timer_calls (cfg : Config) (unique : Bool) (msg : TimerMsg α) (q : Querier α) :
    List (SenderCall α) :=
  if unique then []
  else (msg.gaddr.bind fun gaddr => (OrdMap.lookup q.m_db.group_info gaddr).map fun ginfo =>
    group_timer_calls cfg gaddr ginfo msg q.env).getD []

-- The calls of the sender in a step, in their order.
def step_calls (cfg : Config) (q : Querier α) : Event α → List (SenderCall α)
  | .record gr => record_calls cfg gr q
  | .timer msg unique => timer_calls cfg unique msg (q.deliver msg)

variable {cfg : Config} {mode : GroupMemProtocol} {q q' : Querier α} {gr : GroupRecordMsg α}
  {record_type : McastAddrRecordType} {gaddr : α} {slist : SourceList α} {ginfo : GaddrInfo α}
  {env : Env α} {msg : TimerMsg α}

theorem queries_receive_record_in_include_mode (cfg : Config) (record_type : McastAddrRecordType)
    (gaddr : α) (slist : SourceList α) (env : Env α) (hmode : ginfo.filter_mode = INCLUDE_MODE) :
    (receive_record_in_include_mode cfg record_type gaddr slist ginfo env).2.queries =
      env.queries ++ (row_calls cfg record_type gaddr slist ginfo env).flatMap
        (SenderCall.sent cfg) := by
  cases record_type <;>
    simp [receive_record_in_include_mode, row_calls, row_query, hmode, queries_send_Q]

theorem queries_receive_record_in_exclude_mode {r : GaddrInfo α × Env α}
    (hmode : ginfo.filter_mode = EXCLUDE_MODE)
    (h : receive_record_in_exclude_mode cfg record_type gaddr slist ginfo env = .ok r) :
    r.2.queries = env.queries ++ (row_calls cfg record_type gaddr slist ginfo env).flatMap
      (SenderCall.sent cfg) := by
  cases record_type with
  | CHANGE_TO_INCLUDE_MODE =>
    obtain ⟨r', hr', rfl⟩ := exists_of_map_ok h
    simp [row_calls, row_query, hmode, queries_send_Q_group _ _ _ _ hr', queries_send_Q]
  | _ =>
    obtain rfl := Except.ok.inj h
    simp [row_calls, row_query, hmode, queries_send_Q]

theorem queries_receive_record (h : receive_record cfg gr q = .ok q') :
    q'.env.queries = q.env.queries ++ (record_calls cfg gr q).flatMap (SenderCall.sent cfg) := by
  have hstart : (row_start cfg gr q).2.queries = q.env.queries := queries_note_older_host ..
  obtain ⟨r, hr, hcase⟩ := receive_record_cases h
  obtain rfl : row_start cfg gr q = r := hr.symm
  unfold record_calls
  dsimp only
  rw [← hstart]
  rcases hcase with ⟨hcompat, hblock, rfl⟩ | ⟨hrow, ⟨r', hmode, rfl, hend⟩ | ⟨r', hmode, hr', rfl⟩⟩
  · rw [if_pos ⟨hcompat, hblock⟩]
    simp
  · rw [if_neg hrow, ← queries_receive_record_in_include_mode _ _ _ _ _ hmode]
    rcases hend with ⟨-, -, rfl⟩ | ⟨-, rfl⟩ <;> rfl
  · rw [if_neg hrow]
    exact queries_receive_record_in_exclude_mode hmode hr'

-- The timers that are not for a retransmission send nothing.
theorem GroupTimerStep.queries (h : GroupTimerStep cfg gaddr msg ginfo q q')
    (hgroup : msg.type ≠ RET_GROUP_TIMER_MSG) (hsource : msg.type ≠ RET_SOURCE_TIMER_MSG) :
    q'.env.queries = q.env.queries := by
  induction h with
  | ignored => rfl
  | shared _ _ _ _ hfirst hsecond => exact hsecond.trans hfirst
  | group_queried htype => exact absurd htype hgroup
  | sources_queried htype => exact absurd htype hsource
  | _ => simp

theorem queries_timer_triggerd_group (h : timer_triggerd_group cfg gaddr ginfo msg q = .ok q') :
    q'.env.queries = q.env.queries ++
      (group_timer_calls cfg gaddr ginfo msg q.env).flatMap (SenderCall.sent cfg) := by
  by_cases hgroup : msg.type = RET_GROUP_TIMER_MSG
  · simp only [timer_triggerd_group, timer_triggerd_ret_group_timer, hgroup] at h
    simp only [group_timer_calls, hgroup]
    split_ifs at h ⊢
    · obtain ⟨r, hr, rfl⟩ := exists_of_map_ok h
      exact queries_send_Q_group _ _ _ _ hr
    · obtain rfl := Except.ok.inj h
      simp
  · by_cases hsource : msg.type = RET_SOURCE_TIMER_MSG
    · simp only [timer_triggerd_group, timer_triggerd_ret_source_timer, hsource] at h
      obtain rfl := Except.ok.inj h
      simp only [group_timer_calls, hsource]
      split_ifs
      · exact queries_send_Q ..
      · simp
    · rw [(timer_triggerd_group_step h).queries hgroup hsource]
      unfold group_timer_calls
      split
      next htype => exact absurd htype hgroup
      next htype => exact absurd htype hsource
      next => simp

theorem queries_timer_triggerd {unique : Bool} (h : timer_triggerd cfg unique msg q = .ok q') :
    q'.env.queries =
      q.env.queries ++ (timer_calls cfg unique msg q).flatMap (SenderCall.sent cfg) := by
  cases unique with
  | true =>
    obtain rfl : q = q' := by simpa [timer_triggerd] using h
    simp [timer_calls]
  | false =>
    rcases timer_triggerd_cases h with ⟨hu, -⟩ | ⟨htype, rfl⟩ | ⟨hnone, rfl⟩ | ⟨g, gi, hg, hl, hgi⟩
    · cases hu
    · have hquiet : (timer_triggerd_general_query_timer cfg msg q).env.queries =
          q.env.queries := by
        unfold timer_triggerd_general_query_timer
        split_ifs
        · simp [send_general_query, Action.is_specific_query]
        · rfl
      rw [hquiet]
      cases hg : msg.gaddr with
      | none => simp [timer_calls, hg]
      | some g =>
        cases hl : OrdMap.lookup q.m_db.group_info g <;>
          simp [timer_calls, group_timer_calls, htype, hg, hl]
    · cases hg : msg.gaddr with
      | none => simp [timer_calls, hg]
      | some g => simp [timer_calls, hg, hnone g hg]
    · rw [queries_timer_triggerd_group hgi]
      simp [timer_calls, hg, hl]

-- Every specific query of a step comes from one of its calls.
theorem queries_querier_step {e : Event α} (h : querier_step cfg q e = .ok q') :
    q'.env.queries = q.env.queries ++ (step_calls cfg q e).flatMap (SenderCall.sent cfg) := by
  cases e with
  | record gr => exact queries_receive_record h
  | timer msg unique =>
    have hdeliver : (q.deliver msg).env.queries = q.env.queries := rfl
    rw [step_calls, ← hdeliver]
    exact queries_timer_triggerd h

end Steps

section Exact

variable {cfg : Config} {mode : GroupMemProtocol} {q q' : Querier α} {gr : GroupRecordMsg α}
  {record_type : McastAddrRecordType} {gaddr : α} {slist : SourceList α}
  {ginfo ginfo' : GaddrInfo α} {env : Env α} {msg : TimerMsg α} {n : ℕ}

theorem GroupInv.timers_below (h : GroupInv env gaddr ginfo) (hp : env.Pending) :
    ginfo.TimersBelow env.next_id := by
  refine ⟨fun a s hs _ => ?_, fun t ht => ?_⟩
  · obtain ⟨t, hmem, ht, -⟩ := h.armed hs
    exact ⟨t, ht, hp.below t hmem⟩
  · cases hmode : ginfo.filter_mode with
    | INCLUDE_MODE => cases ht.symm.trans (h.include_mode hmode).2
    | EXCLUDE_MODE =>
      obtain ⟨t', hmem, ht', -⟩ := h.exclude_mode hmode
      obtain rfl := Option.some.inj (ht.symm.trans ht')
      exact hp.below t hmem

-- The rows bring in sources without retransmission state only.
theorem GaddrInfo.TimersBelow.row_query (h : ginfo.TimersBelow n)
    (hfresh : ∀ a s, slist.find a = some s → s.retransmission_count < 1) {tmp : SourceList α}
    (hq : Mcproxy.row_query record_type slist ginfo = some (ginfo', tmp)) :
    ginfo'.TimersBelow n := by
  have hsub : ∀ a s, (slist - ginfo.exclude_list).find a = some s → s.retransmission_count < 1 :=
    fun a s hs => hfresh a s (SourceList.find_of_find_sub hs).2
  have hadd : ∀ a s, (ginfo.include_requested_list + slist).find a = some s →
      0 < s.retransmission_count → ginfo.include_requested_list.find a = some s :=
    fun a s hs hpos => find_of_find_add_fresh hfresh hs hpos
  have hrow : ginfo'.shared_filter_timer = ginfo.shared_filter_timer ∧
      ∀ a s, ginfo'.include_requested_list.find a = some s → 0 < s.retransmission_count →
        ginfo.include_requested_list.find a = some s := by
    unfold Mcproxy.row_query at hq
    cases hmode : ginfo.filter_mode with
    | INCLUDE_MODE =>
      cases record_type <;> simp only [hmode] at hq <;> cases hq
      · exact ⟨rfl, hadd⟩
      · exact ⟨rfl, fun a s hs _ => (SourceList.find_of_find_mul hs).2⟩
      · exact ⟨rfl, fun a s hs _ => hs⟩
    | EXCLUDE_MODE =>
      cases record_type <;> simp only [hmode] at hq <;> cases hq
      · exact ⟨rfl, hadd⟩
      · refine ⟨rfl, fun a s hs hpos => ?_⟩
        exact (SourceList.find_of_find_mul (find_of_find_add_fresh hsub hs hpos)).2
      · exact ⟨rfl, fun a s hs hpos => find_of_find_add_fresh hsub hs hpos⟩
  exact ⟨fun a s hs hpos => h.sources a s (hrow.2 a s hs hpos) hpos,
    fun t ht => h.filter t (hrow.1 ▸ ht)⟩

theorem row_calls_prepared (h : ginfo.TimersBelow n)
    (hfresh : ∀ a s, slist.find a = some s → s.retransmission_count < 1) :
    ∀ c ∈ row_calls cfg record_type gaddr slist ginfo env, c.Prepared cfg n := by
  intro c hc
  unfold row_calls at hc
  split at hc
  next => cases hc
  next ginfo' tmp hq =>
    have h' := h.row_query hfresh hq
    rcases List.mem_append.mp hc with hc | hc
    · exact send_Q_calls_prepared h' c hc
    · split_ifs at hc
      · refine send_Q_group_calls_prepared (fun t ht => h'.filter t ?_) c hc
        rwa [send_Q_shared_filter_timer] at ht
      · cases hc

theorem record_calls_prepared (hinv : QuerierInv q) (hgr : gr.built_by_receiver mode) :
    ∀ c ∈ record_calls cfg gr q, c.Prepared cfg q.env.next_id := by
  intro c hc
  unfold record_calls at hc
  dsimp only at hc
  split_ifs at hc
  · cases hc
  · have hbelow := (hinv.group gr.gaddr).1.timers_below hinv.pending
    obtain ⟨version, timer, hfst⟩ := row_start_frame cfg gr q
    refine row_calls_prepared ?_ (fun a s hs => (hgr.fresh _ a s hs).count) c hc
    rw [hfst]
    exact ⟨hbelow.sources, hbelow.filter⟩

theorem group_timer_calls_prepared (h : ginfo.TimersBelow n) :
    ∀ c ∈ group_timer_calls cfg gaddr ginfo msg env, c.Prepared cfg n := by
  intro c hc
  unfold group_timer_calls at hc
  split at hc
  · split_ifs at hc
    · exact send_Q_group_calls_prepared h.filter c hc
    · cases hc
  · split_ifs at hc
    · exact send_Q_calls_prepared h c hc
    · cases hc
  · cases hc

theorem timer_calls_prepared {unique : Bool} (hinv : QuerierInv q) :
    ∀ c ∈ timer_calls cfg unique msg (q.deliver msg), c.Prepared cfg q.env.next_id := by
  intro c hc
  unfold timer_calls at hc
  split_ifs at hc
  · cases hc
  · cases hg : msg.gaddr with
    | none => simp [hg] at hc
    | some g =>
      cases hl : OrdMap.lookup q.m_db.group_info g with
      | none => simp [hg, Querier.deliver, hl] at hc
      | some gi =>
        simp only [hg, Querier.deliver, hl, Option.bind_some, Option.map_some,
          Option.getD_some] at hc
        have hbelow := (hinv.groups g gi hl).1.timers_below hinv.pending
        exact group_timer_calls_prepared hbelow c hc

theorem step_calls_prepared {e : Event α} (hinv : QuerierInv q)
    (he : (querier α cfg mode).enabled q e) :
    ∀ c ∈ step_calls cfg q e, c.Prepared cfg q.env.next_id := by
  cases e with
  | record gr => exact record_calls_prepared hinv he
  | timer msg unique => exact timer_calls_prepared hinv

-- The S flag of the queries of a step is exact as long as no timer that is looked at has
-- exactly LLQT left: `is_remaining_time_greater_than` compares with `<=`.
theorem suppress_flag_exact_iff {e : Event α} (hq : (querier α cfg mode).Reachable q)
    (he : (querier α cfg mode).enabled q e) (hstep : (querier α cfg mode).step q e = .ok q') :
    q'.env.queries = q.env.queries ++ (step_calls cfg q e).flatMap (SenderCall.sent cfg) ∧
      ((∀ c ∈ step_calls cfg q e, c.Exact cfg q.env.next_id) ↔
        ∀ c ∈ step_calls cfg q e, ∀ x ∈ c.compared, x.on_the_dot cfg = false) := by
  refine ⟨queries_querier_step hstep, forall₂_congr fun c hc => ?_⟩
  exact (step_calls_prepared (querier_inv hq) he c hc).exact_iff

-- A leave in EXCLUDE mode asks about the one source and then about the group.
theorem suppress_flag_exact_leave :
    ∃ q q' : Querier Ipv4Addr,
      (querier Ipv4Addr default_config IGMPv3).Run
        [.record ⟨MODE_IS_EXCLUDE, 7, sources [9], IGMPv3⟩,
          .record ⟨ALLOW_NEW_SOURCES, 7, sources [3], IGMPv3⟩] q ∧
      (querier Ipv4Addr default_config IGMPv3).step q
        (.record ⟨CHANGE_TO_INCLUDE_MODE, 7, sources [], IGMPv3⟩) = .ok q' ∧
      (step_calls default_config q (.record ⟨CHANGE_TO_INCLUDE_MODE, 7, sources [], IGMPv3⟩)).map
        (fun c => c.compared.map fun x => (x.saddr, c.flags default_config x.saddr)) =
          [[(some 3, [false])], [(none, [false])]] ∧
      ∀ c ∈ step_calls default_config q
        (.record ⟨CHANGE_TO_INCLUDE_MODE, 7, sources [], IGMPv3⟩),
        c.Exact default_config q.env.next_id := by
  obtain ⟨q, run, he, hp⟩ := Machine.exists_step_of_exec
    (querier Ipv4Addr default_config IGMPv3)
    [.record ⟨MODE_IS_EXCLUDE, 7, sources [9], IGMPv3⟩,
      .record ⟨ALLOW_NEW_SOURCES, 7, sources [3], IGMPv3⟩]
    (.record ⟨CHANGE_TO_INCLUDE_MODE, 7, sources [], IGMPv3⟩)
    (fun q r => r.toOption.any (fun _ => true) &&
      (decide ((step_calls default_config q
        (.record ⟨CHANGE_TO_INCLUDE_MODE, 7, sources [], IGMPv3⟩)).map
          (fun c => c.compared.map fun x => (x.saddr, c.flags default_config x.saddr)) =
            [[(some 3, [false])], [(none, [false])]]) &&
      (step_calls default_config q
        (.record ⟨CHANGE_TO_INCLUDE_MODE, 7, sources [], IGMPv3⟩)).all
          fun c => c.compared.all fun x => !x.on_the_dot default_config)) (by decide +kernel)
  simp only [Bool.and_eq_true, decide_eq_true_eq, List.all_eq_true, Bool.not_eq_true'] at hp
  obtain ⟨hok, hflags, hdot⟩ := hp
  obtain ⟨q', hstep, -⟩ := exists_ok_of_any hok
  exact ⟨q, q', run, hstep, hflags,
    (suppress_flag_exact_iff run.reachable he hstep).2.mpr hdot⟩

-- A clock that does not move between the readings of a step.
def standing : SteadyClock := ⟨fun _ => 0, monotone_const⟩

-- The leave lowers the filter timer to LLQT and sends the query with the S flag set.
theorem leave_sets_suppress_flag :
    ∃ q q' : Querier Ipv4Addr,
      (querier Ipv4Addr ⟨standing, {}⟩ IGMPv3).Run
        [.record ⟨MODE_IS_EXCLUDE, 7, sources [], IGMPv3⟩] q ∧
      (querier Ipv4Addr ⟨standing, {}⟩ IGMPv3).step q
        (.record ⟨CHANGE_TO_INCLUDE_MODE, 7, sources [], IGMPv3⟩) = .ok q' ∧
      q'.env.queries.filterMap (Action.s_flag_for none) = [true] ∧
      (q'.group 7).shared_filter_timer.any (fun t =>
        decide (q.env.next_id ≤ t.id) && decide (t.end_time = 2000000000)) = true ∧
      ¬ ∀ c ∈ step_calls ⟨standing, {}⟩ q
        (.record ⟨CHANGE_TO_INCLUDE_MODE, 7, sources [], IGMPv3⟩),
        c.Exact ⟨standing, {}⟩ q.env.next_id := by
  obtain ⟨q, run, -, hp⟩ := Machine.exists_step_of_exec
    (querier Ipv4Addr ⟨standing, {}⟩ IGMPv3)
    [.record ⟨MODE_IS_EXCLUDE, 7, sources [], IGMPv3⟩]
    (.record ⟨CHANGE_TO_INCLUDE_MODE, 7, sources [], IGMPv3⟩)
    (fun q r => r.toOption.any (fun q' : Querier Ipv4Addr =>
        decide (q'.env.queries.filterMap (Action.s_flag_for none) = [true]) &&
        (q'.group 7).shared_filter_timer.any (fun t : TimerMsg Ipv4Addr =>
          decide (q.env.next_id ≤ t.id) && decide (t.end_time = 2000000000))) &&
      (step_calls ⟨standing, {}⟩ q
        (.record ⟨CHANGE_TO_INCLUDE_MODE, 7, sources [], IGMPv3⟩)).any fun c =>
          c.compared.any fun x => decide (q.env.next_id ≤ x.timer.id) &&
            decide (c.flags ⟨standing, {}⟩ x.saddr = [true])) (by decide +kernel)
  rw [Bool.and_eq_true] at hp
  obtain ⟨q', hstep, hq'⟩ := exists_ok_of_any hp.1
  rw [Bool.and_eq_true, decide_eq_true_eq] at hq'
  refine ⟨q, q', run, hstep, hq'.1, hq'.2, fun hexact => ?_⟩
  obtain ⟨c, hc, hany⟩ := List.any_eq_true.mp hp.2
  obtain ⟨x, hx, hset⟩ := List.any_eq_true.mp hany
  rw [Bool.and_eq_true, decide_eq_true_eq, decide_eq_true_eq] at hset
  cases ((hexact c hc).lowered x hx hset.1).symm.trans hset.2

end Exact

end Mcproxy
