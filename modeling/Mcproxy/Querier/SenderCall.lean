import Mcproxy.Querier.Lemmas

namespace Mcproxy

open Container

variable {α : Type*} [LinearOrder α]

-- The queries about a group or about some of its sources.
def Action.is_specific_query : Action α → Bool
  | .send_mc_addr_specific_query _ _ | .send_mc_addr_and_src_specific_query _ _ _ => true
  | _ => false

-- The specific queries so far.
def Env.queries (env : Env α) : List (Action α) := env.trace.filter Action.is_specific_query

section Queries

variable (cfg : Config) (env : Env α)

@[simp] theorem Env.queries_act (act : Action α) :
    (env.act act).queries = env.queries ++ if act.is_specific_query then [act] else [] := by
  simp [Env.queries, Env.act, List.filter_append, List.filter_cons]

@[simp] theorem Env.queries_make_shared (type : MessageType) (g : Option α) (duration : ℕ) :
    (env.make_shared cfg type g duration).2.queries = env.queries := rfl

@[simp] theorem Env.queries_is_remaining_time_greater_than (timer : TimerMsg α)
    (comp_time : ℕ) :
    (env.is_remaining_time_greater_than cfg timer comp_time).2.queries = env.queries := rfl

@[simp] theorem Env.queries_add_time (delay : ℕ) (timer : TimerMsg α) :
    (env.add_time delay timer).queries = env.queries :=
  (Env.queries_act env (.add_time delay timer)).trans (List.append_nil _)

@[simp] theorem Env.queries_state_change_notification (g : α) (found : Option (GaddrInfo α)) :
    (env.state_change_notification g found).queries = env.queries :=
  (Env.queries_act env _).trans (List.append_nil _)

@[simp] theorem queries_mali (g : α) (slist tmp : SourceList α) :
    (mali cfg g slist tmp env).2.queries = env.queries := by
  simp only [mali, mali_slist]
  split_ifs <;> simp

@[simp] theorem queries_mali_filter_timer (g : α) (ginfo : GaddrInfo α) :
    (mali_filter_timer cfg g ginfo env).2.queries = env.queries := by
  simp [mali_filter_timer]

@[simp] theorem queries_note_older_host (mode proto : GroupMemProtocol) (g : α)
    (ginfo : GaddrInfo α) :
    (note_older_host cfg mode proto g ginfo env).2.queries = env.queries := by
  unfold note_older_host
  split_ifs <;> simp

@[simp] theorem queries_requery_sources (g : α) (slist tmp : SourceList α) :
    (requery_sources cfg g slist tmp env).2.queries = env.queries := by
  simp only [requery_sources]
  split_ifs <;> simp

@[simp] theorem queries_start_group_queries (g : α) (ginfo : GaddrInfo α) :
    (start_group_queries cfg g ginfo env).2.queries = env.queries := by
  simp only [start_group_queries]
  split_ifs <;> simp

@[simp] theorem queries_schedule_group_query (g : α) (ginfo : GaddrInfo α) :
    (schedule_group_query cfg g ginfo env).2.queries = env.queries := by
  simp only [schedule_group_query]
  split_ifs <;> simp

end Queries

section Calls

-- A call of the sender for a specific query, with the surroundings it finds. The group query
-- is called with the answer of `ftimer`.
inductive SenderCall (α : Type*) [LinearOrder α]
  | mc_addr_specific_query (gaddr : α) (ftimer : TimerMsg α) (env : Env α)
  | mc_addr_and_src_specific_query (gaddr : α) (slist : SourceList α) (env : Env α)

-- One use of `is_remaining_time_greater_than`: the source it is about, or the group itself,
-- the timer that is asked and the number of the clock reading.
structure Comparison (α : Type*) where
  saddr : Option α
  timer : TimerMsg α
  reading : ℕ

-- The comparisons of the sender's loop.
def compare_sources : ℕ → List (Source α) → List (Comparison α)
  | _, [] => []
  | n, s :: ss =>
    if 0 < s.retransmission_count then
      match s.shared_source_timer with
      | some timer => ⟨some s.saddr, timer, n⟩ :: compare_sources (n + 1) ss
      | none => compare_sources n ss
    else compare_sources n ss

-- The answer the code gets.
def Comparison.at_least (cfg : Config) (x : Comparison α) : Bool :=
  decide (after (cfg.clk.reading x.reading) cfg.tv.get_last_listener_query_time ≤ x.timer.end_time)

namespace SenderCall

def compared : SenderCall α → List (Comparison α)
  | .mc_addr_specific_query _ ftimer env => [⟨none, ftimer, env.readings⟩]
  | .mc_addr_and_src_specific_query _ slist env => compare_sources env.readings slist.elems

def sent (cfg : Config) : SenderCall α → List (Action α)
  | .mc_addr_specific_query gaddr ftimer env =>
    [.send_mc_addr_specific_query gaddr
      (env.is_remaining_time_greater_than cfg ftimer cfg.tv.get_last_listener_query_time).1]
  | .mc_addr_and_src_specific_query gaddr slist env =>
    let q := (slist.walk (query_source cfg) (query_source_saddr cfg) { env := env }).2
    (if q.slist_higher.isEmpty then []
      else [.send_mc_addr_and_src_specific_query gaddr true q.slist_higher]) ++
    (if q.slist_lower.isEmpty then []
      else [.send_mc_addr_and_src_specific_query gaddr false q.slist_lower])

end SenderCall

-- The S flag of a query that asks about the source, or about the group.
def Action.s_flag_for (saddr : Option α) : Action α → Option Bool
  | .send_mc_addr_specific_query _ s_flag => if saddr = none then some s_flag else none
  | .send_mc_addr_and_src_specific_query _ s_flag slist =>
    if saddr.any (fun a => decide (a ∈ slist)) then some s_flag else none
  | _ => none

-- One flag for each query of the call that asks about it.
def SenderCall.flags (cfg : Config) (c : SenderCall α) (saddr : Option α) : List Bool :=
  (c.sent cfg).filterMap (Action.s_flag_for saddr)

end Calls

section Loop

variable {cfg : Config} {s : Source α} {timer : TimerMsg α}

-- The list the loop puts a source on.
def QueryLists.list (q : QueryLists α) (s_flag : Bool) : SourceList α :=
  if s_flag then q.slist_higher else q.slist_lower

theorem query_source_skips (h : ¬ (0 < s.retransmission_count ∧ s.shared_source_timer ≠ none))
    (q : QueryLists α) (s_flag : Bool) :
    (query_source cfg q s).2.env = q.env ∧
      (query_source cfg q s).2.list s_flag = q.list s_flag := by
  unfold query_source
  by_cases hpos : 0 < s.retransmission_count
  · have hnone : s.shared_source_timer = none := not_not.mp fun hne => h ⟨hpos, hne⟩
    simp only [hpos, if_true, hnone]
    split_ifs <;> exact ⟨rfl, rfl⟩
  · simp [hpos]

theorem query_source_compares (hpos : 0 < s.retransmission_count)
    (ht : s.shared_source_timer = some timer) (q : QueryLists α) (s_flag : Bool) (a : α) :
    (query_source cfg q s).2.env.readings = q.env.readings + 1 ∧
      (a ∈ (query_source cfg q s).2.list s_flag ↔ a ∈ q.list s_flag ∨
        s.saddr = a ∧ Comparison.at_least cfg ⟨some s.saddr, timer, q.env.readings⟩ = s_flag) := by
  unfold query_source
  simp only [hpos, if_true]
  generalize hq : (if 0 < s.retransmission_count - 1 then { q with rc := true } else q) = q₁
  have henv : q₁.env = q.env := by
    rw [← hq]
    split_ifs <;> rfl
  have hlists : q₁.slist_higher = q.slist_higher ∧ q₁.slist_lower = q.slist_lower := by
    rw [← hq]
    split_ifs <;> exact ⟨rfl, rfl⟩
  simp only [ht, Env.is_remaining_time_greater_than, Env.now, henv]
  change _ ∧ (_ ↔ _ ∨ _ ∧ decide _ = s_flag)
  split_ifs with hleft
  · refine ⟨rfl, ?_⟩
    cases s_flag <;> simp [QueryLists.list, hlists, hleft, OrdSet.mem_insert]
  · refine ⟨rfl, ?_⟩
    cases s_flag <;> simp [QueryLists.list, hlists, hleft, OrdSet.mem_insert]

omit [LinearOrder α] in
theorem compare_sources_of_timer (hpos : 0 < s.retransmission_count)
    (ht : s.shared_source_timer = some timer) (n : ℕ) (ss : List (Source α)) :
    compare_sources n (s :: ss) = ⟨some s.saddr, timer, n⟩ :: compare_sources (n + 1) ss := by
  simp only [compare_sources, hpos, if_true, ht]

omit [LinearOrder α] in
theorem compare_sources_skips
    (h : ¬ (0 < s.retransmission_count ∧ s.shared_source_timer ≠ none)) (n : ℕ)
    (ss : List (Source α)) : compare_sources n (s :: ss) = compare_sources n ss := by
  simp only [compare_sources]
  split_ifs with hpos
  · have hnone : s.shared_source_timer = none := not_not.mp fun hne => h ⟨hpos, hne⟩
    simp only [hnone]
  · rfl

-- A source is looked at once or not at all.
omit [LinearOrder α] in
theorem compare_sources_cons (n : ℕ) (s : Source α) (ss : List (Source α)) :
    (¬ (0 < s.retransmission_count ∧ s.shared_source_timer ≠ none) ∧
        compare_sources n (s :: ss) = compare_sources n ss) ∨
      ∃ timer, 0 < s.retransmission_count ∧ s.shared_source_timer = some timer ∧
        compare_sources n (s :: ss) = ⟨some s.saddr, timer, n⟩ :: compare_sources (n + 1) ss := by
  by_cases h : 0 < s.retransmission_count ∧ s.shared_source_timer ≠ none
  · obtain ⟨timer, ht⟩ := Option.ne_none_iff_exists'.mp h.2
    exact Or.inr ⟨timer, h.1, ht, compare_sources_of_timer h.1 ht n ss⟩
  · exact Or.inl ⟨h, compare_sources_skips h n ss⟩

omit [LinearOrder α] in
theorem mem_compare_sources {x : Comparison α} {n : ℕ} {ss : List (Source α)}
    (hx : x ∈ compare_sources n ss) :
    n ≤ x.reading ∧ ∃ s ∈ ss, x.saddr = some s.saddr ∧ 0 < s.retransmission_count ∧
      s.shared_source_timer = some x.timer := by
  induction ss generalizing n with
  | nil => cases hx
  | cons s ss ih =>
    rcases compare_sources_cons n s ss with ⟨-, hc⟩ | ⟨timer, hpos, ht, hc⟩
    · obtain ⟨hn, s', hs', h⟩ := ih (hc ▸ hx)
      exact ⟨hn, s', List.mem_cons_of_mem _ hs', h⟩
    · rcases List.mem_cons.mp (hc ▸ hx) with rfl | hx
      · exact ⟨le_rfl, s, List.mem_cons_self, rfl, hpos, ht⟩
      · obtain ⟨hn, s', hs', h⟩ := ih hx
        exact ⟨by omega, s', List.mem_cons_of_mem _ hs', h⟩

omit [LinearOrder α] in
theorem exists_compare_sources {ss : List (Source α)} (hs : s ∈ ss)
    (hpos : 0 < s.retransmission_count) (hne : s.shared_source_timer ≠ none) (n : ℕ) :
    ∃ x ∈ compare_sources n ss, x.saddr = some s.saddr := by
  induction ss generalizing n with
  | nil => cases hs
  | cons s' ss ih =>
    rcases List.mem_cons.mp hs with rfl | hs
    · obtain ⟨timer, ht⟩ := Option.ne_none_iff_exists'.mp hne
      rw [compare_sources_of_timer hpos ht]
      exact ⟨_, List.mem_cons_self, rfl⟩
    · rcases compare_sources_cons n s' ss with ⟨-, hc⟩ | ⟨timer, -, -, hc⟩
      · rw [hc]
        exact ih hs n
      · obtain ⟨x, hx, hxs⟩ := ih hs (n + 1)
        rw [hc]
        exact ⟨x, List.mem_cons_of_mem _ hx, hxs⟩

omit [LinearOrder α] in
theorem compare_sources_sublist (n : ℕ) (ss : List (Source α)) :
    ((compare_sources n ss).map Comparison.saddr).Sublist ((ss.map Source.saddr).map some) := by
  induction ss generalizing n with
  | nil => exact List.Sublist.refl _
  | cons s ss ih =>
    rcases compare_sources_cons n s ss with ⟨-, hc⟩ | ⟨timer, -, -, hc⟩
    · rw [hc]
      exact (ih n).cons _
    · rw [hc]
      exact (ih (n + 1)).cons_cons _

theorem compare_sources_unique (slist : SourceList α) {n : ℕ} {x y : Comparison α}
    (hx : x ∈ compare_sources n slist.elems) (hy : y ∈ compare_sources n slist.elems)
    (h : x.saddr = y.saddr) : x = y := by
  have hnodup : ((slist.elems.map Source.saddr).map some).Nodup :=
    slist.keys_nodup.map (Option.some_injective α)
  exact List.inj_on_of_nodup_map ((compare_sources_sublist n _).nodup hnodup) hx hy h

-- What the two lists hold after the loop.
theorem mem_query_lists (cfg : Config) (ss : List (Source α)) (q : QueryLists α) (s_flag : Bool)
    (a : α) :
    a ∈ (ss.foldl (fun q s => (query_source cfg q s).2) q).list s_flag ↔ a ∈ q.list s_flag ∨
      ∃ x ∈ compare_sources q.env.readings ss, x.saddr = some a ∧ x.at_least cfg = s_flag := by
  induction ss generalizing q with
  | nil => simp [compare_sources]
  | cons s ss ih =>
    rw [List.foldl_cons, ih]
    rcases compare_sources_cons q.env.readings s ss with ⟨hskip, hc⟩ | ⟨timer, hpos, ht, hc⟩
    · obtain ⟨henv, hlist⟩ := @query_source_skips α _ cfg s hskip q s_flag
      rw [henv, hlist, hc]
    · obtain ⟨hreadings, hmem⟩ := @query_source_compares α _ cfg s timer hpos ht q s_flag a
      rw [hreadings, hmem, hc, or_assoc]
      simp

end Loop

section Flags

variable {cfg : Config} {c : SenderCall α} {x : Comparison α}

-- The flag of one of the two messages, for a source.
theorem message_flags (gaddr : α) (s_flag : Bool) (slist : SourceList α) (a : α) :
    (if slist.isEmpty then []
      else [Action.send_mc_addr_and_src_specific_query gaddr s_flag slist]).filterMap
        (Action.s_flag_for (some a)) = if a ∈ slist then [s_flag] else [] := by
  split_ifs with hempty ha ha
  · exact absurd ha (OrdSet.isEmpty_iff.mp hempty a)
  · rfl
  · simp [Action.s_flag_for, ha]
  · simp [Action.s_flag_for, ha]

theorem flags_of_sources (cfg : Config) (gaddr : α) (slist : SourceList α) (env : Env α)
    (a : α) :
    ∃ higher lower : SourceList α,
      (SenderCall.mc_addr_and_src_specific_query gaddr slist env).flags cfg (some a) =
        (if a ∈ higher then [true] else []) ++ (if a ∈ lower then [false] else []) ∧
      (a ∈ higher ↔ ∃ x ∈ compare_sources env.readings slist.elems, x.saddr = some a ∧
        x.at_least cfg = true) ∧
      (a ∈ lower ↔ ∃ x ∈ compare_sources env.readings slist.elems, x.saddr = some a ∧
        x.at_least cfg = false) := by
  have hlist (s_flag : Bool) := mem_query_lists cfg slist.elems { env := env } s_flag a
  have hempty (s_flag : Bool) : a ∉ ({ env := env } : QueryLists α).list s_flag := by
    cases s_flag <;> simp [QueryLists.list]
  simp only [hempty, false_or] at hlist
  refine ⟨_, _, ?_, hlist true, hlist false⟩
  simp only [SenderCall.flags, SenderCall.sent, List.filterMap_append, message_flags,
    OrdSet.walk_snd]
  rfl

-- Everything that is compared is asked about once, with the flag the comparison gave.
theorem flags_of_compared (hx : x ∈ c.compared) : c.flags cfg x.saddr = [x.at_least cfg] := by
  cases c with
  | mc_addr_specific_query gaddr ftimer env =>
    obtain rfl := List.mem_singleton.mp hx
    rfl
  | mc_addr_and_src_specific_query gaddr slist env =>
    obtain ⟨-, s, -, hsaddr, -⟩ := mem_compare_sources hx
    obtain ⟨higher, lower, hflags, hhigher, hlower⟩ :=
      flags_of_sources cfg gaddr slist env s.saddr
    have hmem (b : Bool) : (∃ y ∈ compare_sources env.readings slist.elems,
        y.saddr = some s.saddr ∧ y.at_least cfg = b) ↔ x.at_least cfg = b := by
      constructor
      · rintro ⟨y, hy, hys, hb⟩
        obtain rfl := compare_sources_unique slist hy hx (hys.trans hsaddr.symm)
        exact hb
      · exact fun hb => ⟨x, hx, hsaddr, hb⟩
    rw [hmem] at hhigher hlower
    rw [hsaddr, hflags]
    cases hb : x.at_least cfg <;> simp [hhigher, hlower, hb]

theorem flags_of_not_compared {saddr : Option α} (h : ∀ x ∈ c.compared, x.saddr ≠ saddr) :
    c.flags cfg saddr = [] := by
  cases c with
  | mc_addr_specific_query gaddr ftimer env =>
    have hne : saddr ≠ none := (h _ (List.mem_singleton_self _)).symm
    simp [SenderCall.flags, SenderCall.sent, Action.s_flag_for, hne]
  | mc_addr_and_src_specific_query gaddr slist env =>
    cases saddr with
    | none =>
      simp only [SenderCall.flags, SenderCall.sent]
      split_ifs <;> simp [Action.s_flag_for]
    | some a =>
      obtain ⟨higher, lower, hflags, hhigher, hlower⟩ := flags_of_sources cfg gaddr slist env a
      have hnot (b : Bool) : ¬ ∃ x ∈ compare_sources env.readings slist.elems,
          x.saddr = some a ∧ x.at_least cfg = b := by
        rintro ⟨x, hx, hxa, -⟩
        exact h x hx hxa
      rw [hflags, if_neg (fun ha => hnot true (hhigher.mp ha)),
        if_neg (fun ha => hnot false (hlower.mp ha))]
      rfl

-- A call for some sources sends what it is said to send.
theorem queries_send_src_query (cfg : Config) (gaddr : α) (env : Env α) (slist : SourceList α) :
    (send_mc_addr_and_src_specific_query cfg gaddr slist env).2.2.queries =
      env.queries ++ (SenderCall.mc_addr_and_src_specific_query gaddr slist env).sent cfg := by
  obtain ⟨n, hn⟩ := query_walk_env cfg slist env
  simp only [send_mc_addr_and_src_specific_query, SenderCall.sent]
  generalize slist.walk (query_source cfg) (query_source_saddr cfg) { env := env } = r at hn ⊢
  have henv : r.2.env.queries = env.queries := by
    rw [hn]
    rfl
  split_ifs <;> simp [henv, Action.is_specific_query]

end Flags

end Mcproxy
