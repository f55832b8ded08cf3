import Mcproxy.Querier.SenderCall

namespace Mcproxy

open Container Transition McFilter MessageType

variable {α : Type*} [LinearOrder α]

-- A source-specific query that asks about the source.
def Action.carries (gaddr a : α) : Action α → Bool
  | .send_mc_addr_and_src_specific_query g _ slist => decide (g = gaddr ∧ a ∈ slist)
  | _ => false

-- The queries so far that asked about the source.
def Env.carried (env : Env α) (gaddr a : α) : ℕ := env.trace.countP (Action.carries gaddr a)

section Carried

variable (cfg : Config) (env : Env α) (gaddr a : α)

@[simp] theorem Env.carried_act (act : Action α) :
    (env.act act).carried gaddr a =
      env.carried gaddr a + if act.carries gaddr a then 1 else 0 := by
  simp [Env.carried, Env.act, List.countP_append, List.countP_singleton]

theorem Env.carried_eq_queries :
    env.carried gaddr a = env.queries.countP (Action.carries gaddr a) := by
  rw [Env.queries, List.countP_filter]
  refine List.countP_congr fun act _ => ?_
  cases act <;> simp [Action.carries, Action.is_specific_query]

-- What sends no specific query asks about no source.
theorem Env.carried_of_queries {env env' : Env α} (h : env'.queries = env.queries)
    (gaddr a : α) : env'.carried gaddr a = env.carried gaddr a := by
  rw [Env.carried_eq_queries, h, ← Env.carried_eq_queries]

@[simp] theorem Env.carried_make_shared (type : MessageType) (g : Option α) (duration : ℕ) :
    (env.make_shared cfg type g duration).2.carried gaddr a = env.carried gaddr a := rfl

@[simp] theorem Env.carried_add_time (delay : ℕ) (timer : TimerMsg α) :
    (env.add_time delay timer).carried gaddr a = env.carried gaddr a :=
  Env.carried_of_queries (Env.queries_add_time ..) gaddr a

@[simp] theorem Env.carried_state_change_notification (g : α) (found : Option (GaddrInfo α)) :
    (env.state_change_notification g found).carried gaddr a = env.carried gaddr a :=
  Env.carried_of_queries (Env.queries_state_change_notification ..) gaddr a

@[simp] theorem carried_mali (g : α) (slist tmp : SourceList α) :
    (mali cfg g slist tmp env).2.carried gaddr a = env.carried gaddr a :=
  Env.carried_of_queries (queries_mali ..) gaddr a

@[simp] theorem carried_mali_filter_timer (g : α) (ginfo : GaddrInfo α) :
    (mali_filter_timer cfg g ginfo env).2.carried gaddr a = env.carried gaddr a :=
  Env.carried_of_queries (queries_mali_filter_timer ..) gaddr a

@[simp] theorem carried_note_older_host (mode proto : GroupMemProtocol) (g : α)
    (ginfo : GaddrInfo α) :
    (note_older_host cfg mode proto g ginfo env).2.carried gaddr a = env.carried gaddr a :=
  Env.carried_of_queries (queries_note_older_host ..) gaddr a

@[simp] theorem carried_requery_sources (g : α) (slist tmp : SourceList α) :
    (requery_sources cfg g slist tmp env).2.carried gaddr a = env.carried gaddr a :=
  Env.carried_of_queries (queries_requery_sources ..) gaddr a

end Carried

section Sender

variable (cfg : Config) (gaddr : α) (slist : SourceList α) (env : Env α)

-- One of the two messages of a query.
theorem countP_query_message (s_flag : Bool) (g a : α) :
    (if slist.isEmpty then []
      else [Action.send_mc_addr_and_src_specific_query gaddr s_flag slist]).countP
        (Action.carries g a) = if g = gaddr ∧ a ∈ slist then 1 else 0 := by
  split_ifs with hempty hcarry hcarry
  · exact absurd hcarry.2 (OrdSet.isEmpty_iff.mp hempty a)
  · rfl
  · simp [Action.carries, hcarry.1, hcarry.2]
  · rw [List.countP_singleton, if_neg]
    rw [Action.carries, decide_eq_true_eq]
    exact fun h => hcarry ⟨h.1.symm, h.2⟩

-- The messages that carry a source are those with a flag for it.
theorem countP_sent (g a : α) :
    ((SenderCall.mc_addr_and_src_specific_query gaddr slist env).sent cfg).countP
        (Action.carries g a) =
      if g = gaddr then
        ((SenderCall.mc_addr_and_src_specific_query gaddr slist env).flags cfg (some a)).length
      else 0 := by
  simp only [SenderCall.flags, SenderCall.sent, List.countP_append, List.filterMap_append,
    countP_query_message, message_flags, List.length_append]
  by_cases hg : g = gaddr
  · simp only [hg, true_and, if_true]
    split_ifs <;> rfl
  · simp [hg]

-- One query carries each source with queries to come, and it carries it once.
theorem carried_send_src_query (g a : α) :
    (send_mc_addr_and_src_specific_query cfg gaddr slist env).2.2.carried g a =
      env.carried g a + if g = gaddr then (slist.find a).elim 0 (fun s =>
        if 0 < s.retransmission_count ∧ s.shared_source_timer ≠ none then 1 else 0) else 0 := by
  have hflags : ((SenderCall.mc_addr_and_src_specific_query gaddr slist env).flags cfg
      (some a)).length = (slist.find a).elim 0 (fun s =>
        if 0 < s.retransmission_count ∧ s.shared_source_timer ≠ none then 1 else 0) := by
    cases hs : slist.find a with
    | none =>
      rw [flags_of_not_compared]
      · rfl
      · intro x hx hxa
        obtain ⟨-, s, hmem, hsaddr, -⟩ := mem_compare_sources hx
        have hfound := OrdSet.find_eq_some_iff.mpr ⟨hmem, Option.some.inj (hsaddr.symm.trans hxa)⟩
        cases hs.symm.trans hfound
    | some s =>
      obtain ⟨hmem, rfl⟩ := OrdSet.find_eq_some_iff.mp hs
      rw [Option.elim_some]
      split_ifs with hc
      · obtain ⟨x, hx, hxs⟩ := exists_compare_sources hmem hc.1 hc.2 env.readings
        rw [← hxs, flags_of_compared (c := .mc_addr_and_src_specific_query gaddr slist env) hx]
        rfl
      · rw [flags_of_not_compared]
        · rfl
        · intro x hx hxa
          obtain ⟨-, s', hmem', hsaddr, hpos, ht⟩ := mem_compare_sources hx
          have hkey := Option.some.inj (hsaddr.symm.trans hxa)
          obtain rfl := OrdSet.eq_of_key_eq slist hmem' hmem hkey
          rw [ht] at hc
          exact hc ⟨hpos, Option.some_ne_none _⟩
  rw [Env.carried_eq_queries, queries_send_src_query, List.countP_append, countP_sent, hflags,
    ← Env.carried_eq_queries]

theorem query_source_rc (q : QueryLists α) (s : Source α) :
    (query_source cfg q s).2.rc = (q.rc || decide (1 < s.retransmission_count)) := by
  unfold query_source
  by_cases hpos : 0 < s.retransmission_count
  · rw [if_pos hpos]
    dsimp only
    by_cases hmore : 1 < s.retransmission_count
    · rw [if_pos (by omega), decide_eq_true hmore, Bool.or_true]
      cases s.shared_source_timer <;> dsimp only
      split_ifs <;> rfl
    · rw [if_neg (by omega), decide_eq_false hmore, Bool.or_false]
      cases s.shared_source_timer <;> dsimp only
      split_ifs <;> rfl
  · rw [if_neg hpos, decide_eq_false (by omega), Bool.or_false]

-- The result is true if some source still has queries to come.
theorem send_src_query_again {a : α} {s' : Source α}
    (hs' : (send_mc_addr_and_src_specific_query cfg gaddr slist env).2.1.find a = some s')
    (hpos : 0 < s'.retransmission_count) :
    (send_mc_addr_and_src_specific_query cfg gaddr slist env).1 = true := by
  rw [(send_src_query_spec cfg gaddr slist env).1, OrdSet.find_map] at hs'
  obtain ⟨s, hs, rfl⟩ := Option.map_eq_some_iff.mp hs'
  have hcount : 1 < s.retransmission_count := by
    unfold lower_count at hpos
    split_ifs at hpos with hc
    · exact Int.lt_of_sub_pos hpos
    · exact absurd hpos hc
  refine OrdSet.walk_snd_of_mem (query_source cfg) (query_source_saddr cfg)
    (fun q : QueryLists α => q.rc = true) (fun q x hq => ?_) (OrdSet.find_eq_some_iff.mp hs).1
    (fun q => ?_) { env := env }
  · rw [query_source_rc, hq, Bool.true_or]
  · rw [query_source_rc, decide_eq_true hcount, Bool.or_true]

end Sender

-- What one query leaves of a counter.
def lowered (n : ℤ) : ℤ := if 0 < n then n - 1 else n

omit [LinearOrder α] in
theorem lower_count_retransmission_count (s : Source α) :
    (lower_count s).retransmission_count = lowered s.retransmission_count := by
  unfold lower_count lowered
  split_ifs <;> rfl

-- A counter that stood at `n` has been worked off, query by query.
structure Paid (env env' : Env α) (gaddr a : α) (n : ℤ) (s' : Source α) : Prop where
  balance : (env'.carried gaddr a : ℤ) + s'.retransmission_count = env.carried gaddr a + n
  nonneg : 0 ≤ n → 0 ≤ s'.retransmission_count

-- While a source has queries to come, the timer for the next one is under way.
def SourceEpisode (env : Env α) (gaddr : α) (ginfo : GaddrInfo α) : Prop :=
  ∀ a s, ginfo.include_requested_list.find a = some s → 0 < s.retransmission_count →
    env.Armed RET_SOURCE_TIMER_MSG gaddr ginfo.source_retransmission_timer

section SendQ

variable {cfg : Config} {gaddr a : α} {ginfo : GaddrInfo α} {tmp : SourceList α} {ret : Bool}
  {env env' : Env α} {s : Source α}

theorem Paid.of_same (hcarried : env'.carried gaddr a = env.carried gaddr a) :
    Paid env env' gaddr a s.retransmission_count s :=
  ⟨by rw [hcarried], id⟩

theorem Paid.lower_count (hnull : 0 < s.retransmission_count → s.shared_source_timer ≠ none)
    (hcarried : env'.carried gaddr a = env.carried gaddr a +
      if 0 < s.retransmission_count ∧ s.shared_source_timer ≠ none then 1 else 0) :
    Paid env env' gaddr a s.retransmission_count (lower_count s) := by
  by_cases hpos : 0 < s.retransmission_count
  · rw [if_pos ⟨hpos, hnull hpos⟩] at hcarried
    rw [Mcproxy.lower_count, if_pos hpos]
    refine ⟨?_, fun _ => Int.sub_nonneg_of_le hpos⟩
    rw [hcarried]
    dsimp only
    omega
  · rw [if_neg (fun h => hpos h.1)] at hcarried
    rw [Mcproxy.lower_count, if_neg hpos]
    exact .of_same hcarried

-- The first loop of `send_Q`, for one source.
theorem requery_sources_entry (hs : ginfo.include_requested_list.find a = some s)
    (hnull : 0 < s.retransmission_count → s.shared_source_timer ≠ none) :
    ∃ s₁, (requery_sources cfg gaddr ginfo.include_requested_list tmp env).1.1.find a = some s₁ ∧
      s₁.retransmission_count = (if a ∈ tmp ∧ s.retransmission_count < 1 then
        (cfg.tv.last_listener_query_count.toNat : ℤ) else s.retransmission_count) ∧
      (0 < s₁.retransmission_count → s₁.shared_source_timer ≠ none) := by
  have hloop := find_requery_sources cfg gaddr ginfo.include_requested_list tmp env a
  rw [hs, Option.map_some] at hloop
  by_cases hset : a ∈ tmp ∧ s.retransmission_count < 1
  · rw [if_pos hset.1, requery, if_pos hset.2] at hloop
    rw [if_pos hset]
    exact ⟨_, hloop, rfl, fun _ => Option.some_ne_none _⟩
  · rw [if_neg hset]
    refine ⟨s, ?_, rfl, hnull⟩
    rw [hloop]
    split_ifs with ha
    · rw [requery, if_neg (fun hc => hset ⟨ha, hc⟩)]
    · rfl

-- Where `send_Q` sets a counter, and in a retransmission, a query goes out and counts.
theorem send_Q_paid (cfg : Config) (gaddr : α) (tmp : SourceList α) (ret : Bool) (env : Env α)
    (hs : ginfo.include_requested_list.find a = some s)
    (hnull : 0 < s.retransmission_count → s.shared_source_timer ≠ none) :
    ∃ n, (n = if a ∈ tmp ∧ s.retransmission_count < 1 then
        (cfg.tv.last_listener_query_count.toNat : ℤ) else s.retransmission_count) ∧ ∃ s',
      (send_Q cfg gaddr ginfo tmp ret env).1.include_requested_list.find a = some s' ∧
      Paid env (send_Q cfg gaddr ginfo tmp ret env).2 gaddr a n s' ∧
      (a ∈ tmp ∧ s.retransmission_count < 1 ∨ ret = true →
        s'.retransmission_count = lowered n) := by
  obtain ⟨s₁, hs₁, hcount, hnull₁⟩ :=
    @requery_sources_entry α _ cfg gaddr a ginfo tmp env s hs hnull
  have hquery : (send_mc_addr_and_src_specific_query cfg gaddr
      (requery_sources cfg gaddr ginfo.include_requested_list tmp env).1.1
      (requery_sources cfg gaddr ginfo.include_requested_list tmp env).2).2.2.carried gaddr a =
      env.carried gaddr a +
        if 0 < s₁.retransmission_count ∧ s₁.shared_source_timer ≠ none then 1 else 0 := by
    rw [carried_send_src_query, if_pos rfl, hs₁, Option.elim_some, carried_requery_sources]
  have hfind : (send_mc_addr_and_src_specific_query cfg gaddr
      (requery_sources cfg gaddr ginfo.include_requested_list tmp env).1.1
      (requery_sources cfg gaddr ginfo.include_requested_list tmp env).2).2.1.find a =
      some (lower_count s₁) := by
    rw [(send_src_query_spec ..).1, OrdSet.find_map, hs₁, Option.map_some]
  refine ⟨s₁.retransmission_count, hcount, ?_⟩
  simp only [send_Q]
  split_ifs with hsend
  · refine ⟨lower_count s₁, hfind, .lower_count hnull₁ ?_,
      fun _ => lower_count_retransmission_count s₁⟩
    rw [Env.carried_add_time, Env.carried_make_shared, hquery]
  · exact ⟨lower_count s₁, hfind, .lower_count hnull₁ hquery,
      fun _ => lower_count_retransmission_count s₁⟩
  · refine ⟨s₁, hs₁, .of_same (carried_requery_sources ..), fun hsent => ?_⟩
    rw [Bool.or_eq_true, not_or, Bool.not_eq_true] at hsend
    rcases hsent with ⟨ha, hc⟩ | hret
    · cases hsend.1.symm.trans (requery_loop_used _ _ ha hs hc)
    · exact absurd hret hsend.2

theorem carried_send_Q_other {g : α} (hg : g ≠ gaddr) :
    (send_Q cfg gaddr ginfo tmp ret env).2.carried g a = env.carried g a := by
  simp only [send_Q]
  split_ifs <;> simp [carried_send_src_query, hg]

theorem carried_send_Q_group {r : GaddrInfo α × Env α}
    (h : send_Q_group cfg gaddr ginfo env = .ok r) (g : α) :
    r.2.carried g a = env.carried g a := by
  have hstart : (start_group_queries cfg gaddr ginfo env).2.carried g a = env.carried g a :=
    Env.carried_of_queries (queries_start_group_queries ..) g a
  simp only [send_Q_group] at h
  split_ifs at h
  · unfold send_group_query at h
    split at h
    · cases h
    · obtain rfl := Except.ok.inj h
      rw [Env.carried_act, ← hstart]
      exact Env.carried_of_queries (queries_schedule_group_query ..) g a
  · obtain rfl := Except.ok.inj h
    exact hstart

theorem SourceEpisode.send_Q (cfg : Config) (tmp : SourceList α)
    (h : ret = false → SourceEpisode env gaddr ginfo) :
    SourceEpisode (send_Q cfg gaddr ginfo tmp ret env).2 gaddr
      (send_Q cfg gaddr ginfo tmp ret env).1 := by
  simp only [Mcproxy.send_Q]
  split_ifs with hsend hagain
  · exact fun a s' _ _ => Env.armed_arm ..
  · intro a s' hs' hpos
    exact absurd (send_src_query_again _ _ _ _ hs' hpos) hagain
  · intro a s' hs' hpos
    rw [Bool.or_eq_true, not_or, Bool.not_eq_true, Bool.not_eq_true] at hsend
    refine Env.Armed.extends ?_ (requery_sources_extends ..)
    -- the loop has given no source a counter
    have hsame : ginfo.include_requested_list.find a = some s' := by
      rw [find_requery_sources] at hs'
      split_ifs at hs' with ha
      · obtain ⟨s, hs, rfl⟩ := Option.map_eq_some_iff.mp hs'
        have hcount : ¬ s.retransmission_count < 1 := by
          intro hc
          cases hsend.1.symm.trans (requery_loop_used _ _ ha hs hc)
        rw [requery, if_neg hcount, hs]
      · exact hs'
    exact h hsend.2 a s' hsame hpos

end SendQ

end Mcproxy
