import Mcproxy.Querier.Handlers

namespace Mcproxy

open Container Transition McFilter MessageType

section Payload

variable {α : Type*}

-- What one source-specific query does to a source it carries.
def lower_count (s : Source α) : Source α :=
  if 0 < s.retransmission_count then
    { s with retransmission_count := s.retransmission_count - 1 }
  else s

@[simp] theorem lower_count_saddr (s : Source α) : (lower_count s).saddr = s.saddr := by
  unfold lower_count
  split_ifs <;> rfl

@[simp] theorem lower_count_timer (s : Source α) :
    (lower_count s).shared_source_timer = s.shared_source_timer := by
  unfold lower_count
  split_ifs <;> rfl

end Payload

variable {α : Type*} [LinearOrder α]

namespace Env

-- What the parts of a handler do to their surroundings: they arm new timers and act, and
-- leave notifying to the handler itself.
structure Extends (e e' : Env α) : Prop where
  next_id : e.next_id ≤ e'.next_id
  readings : e.readings ≤ e'.readings
  armed : ∃ ts, e'.timing = e.timing ++ ts ∧ (ts.map TimerMsg.id).Nodup ∧
    ∀ t ∈ ts, t.is_used_as_source_timer = false ∧ e.next_id ≤ t.id ∧ t.id < e'.next_id
  trace : ∃ as, e'.trace = e.trace ++ as ∧ ∀ g infos, .state_change g infos ∉ as

theorem Extends.timing {e e' : Env α} (h : e.Extends e') : e.timing ⊆ e'.timing := by
  obtain ⟨ts, hts, -⟩ := h.armed
  rw [hts]
  exact List.subset_append_left _ _

theorem Extends.history {e e' : Env α} (h : e.Extends e') : e.trace <+: e'.trace := by
  obtain ⟨as, has, -⟩ := h.trace
  exact ⟨as, has.symm⟩

theorem history_notify (e : Env α) (gaddr : α) (found : Option (GaddrInfo α)) :
    e.trace <+: (e.state_change_notification gaddr found).trace := List.prefix_append _ _

theorem Extends.quiet {e e' : Env α} (hid : e'.next_id = e.next_id) (hr : e.readings ≤ e'.readings)
    (ht : e'.timing = e.timing) {as : List (Action α)} (htrace : e'.trace = e.trace ++ as)
    (has : ∀ g infos, .state_change g infos ∉ as) : e.Extends e' :=
  ⟨hid.ge, hr, ⟨[], by simp [ht], by simp, by simp⟩, as, htrace, has⟩

theorem Extends.refl (e : Env α) : e.Extends e :=
  .quiet rfl le_rfl rfl (List.append_nil _).symm (by simp)

theorem Extends.trans {e₁ e₂ e₃ : Env α} (h₁ : e₁.Extends e₂) (h₂ : e₂.Extends e₃) :
    e₁.Extends e₃ := by
  obtain ⟨ts, hts, hnd, hnew⟩ := h₁.armed
  obtain ⟨us, hus, hnd', hnew'⟩ := h₂.armed
  obtain ⟨as, has, hq⟩ := h₁.trace
  obtain ⟨bs, hbs, hq'⟩ := h₂.trace
  have hid := h₁.next_id
  have hid' := h₂.next_id
  refine ⟨hid.trans hid', h₁.readings.trans h₂.readings, ⟨ts ++ us, ?_, ?_, ?_⟩, as ++ bs, ?_, ?_⟩
  · rw [hus, hts, List.append_assoc]
  · rw [List.map_append]
    refine hnd.append hnd' ?_
    -- the second part has only younger objects
    intro i hi hi'
    obtain ⟨t, ht, rfl⟩ := List.mem_map.mp hi
    obtain ⟨u, hu, he⟩ := List.mem_map.mp hi'
    have := (hnew t ht).2.2
    have := (hnew' u hu).2.1
    omega
  · intro t ht
    rcases List.mem_append.mp ht with ht | ht
    · obtain ⟨hu, hlo, hhi⟩ := hnew t ht
      exact ⟨hu, hlo, by omega⟩
    · obtain ⟨hu, hlo, hhi⟩ := hnew' t ht
      exact ⟨hu, by omega, hhi⟩
  · rw [hbs, has, List.append_assoc]
  · intro g infos h
    rcases List.mem_append.mp h with h | h
    · exact hq g infos h
    · exact hq' g infos h

theorem Extends.reading (e : Env α) (n : ℕ) : e.Extends { e with readings := e.readings + n } :=
  .quiet rfl (Nat.le_add_right _ _) rfl (List.append_nil _).symm (by simp)

theorem make_shared_extends (cfg : Config) (type : MessageType) (gaddr : Option α) (duration : ℕ)
    (e : Env α) : e.Extends (e.make_shared cfg type gaddr duration).2 :=
  ⟨Nat.le_succ _, Nat.le_succ _, ⟨[], (List.append_nil _).symm, by simp, by simp⟩, [],
    (List.append_nil _).symm, by simp⟩

-- A timer made and armed, the way every handler does it.
theorem arm_extends (cfg : Config) (type : MessageType) (gaddr : Option α) (duration delay : ℕ)
    (e : Env α) :
    e.Extends ((e.make_shared cfg type gaddr duration).2.add_time delay
      (e.make_shared cfg type gaddr duration).1) := by
  refine ⟨Nat.le_succ _, Nat.le_add_right e.readings 2,
    ⟨[(e.make_shared cfg type gaddr duration).1], rfl, List.nodup_singleton _, ?_⟩,
    [.add_time delay (e.make_shared cfg type gaddr duration).1], rfl, by simp⟩
  intro t ht
  rw [List.mem_singleton.mp ht]
  exact ⟨rfl, le_rfl, Nat.lt_succ_self _⟩

theorem act_extends (e : Env α) {a : Action α} (ha : ∀ g infos, a ≠ .state_change g infos) :
    e.Extends (e.act a) :=
  .quiet rfl le_rfl rfl rfl (fun g infos h => ha g infos (List.mem_singleton.mp h).symm)

-- The timers given to `timing` are objects of their own, made before.
structure Pending (e : Env α) : Prop where
  unused : ∀ t ∈ e.timing, t.is_used_as_source_timer = false
  below : ∀ t ∈ e.timing, t.id < e.next_id
  nodup : (e.timing.map TimerMsg.id).Nodup

theorem Pending.extends {e e' : Env α} (h : e.Pending) (hext : e.Extends e') : e'.Pending := by
  obtain ⟨ts, hts, hnd, hnew⟩ := hext.armed
  have hid := hext.next_id
  refine ⟨fun t ht => ?_, fun t ht => ?_, ?_⟩
  · rcases List.mem_append.mp (hts ▸ ht) with ht | ht
    · exact h.unused t ht
    · exact (hnew t ht).1
  · rcases List.mem_append.mp (hts ▸ ht) with ht | ht
    · have := h.below t ht
      omega
    · exact (hnew t ht).2.2
  · rw [hts, List.map_append]
    refine h.nodup.append hnd ?_
    intro i hi hi'
    obtain ⟨t, ht, rfl⟩ := List.mem_map.mp hi
    obtain ⟨u, hu, he⟩ := List.mem_map.mp hi'
    have := h.below t ht
    have := (hnew u hu).2.1
    omega

-- A notification leaves the timers and the clock alone.
structure SameTimers (e e' : Env α) : Prop where
  next_id : e'.next_id = e.next_id
  readings : e'.readings = e.readings
  timing : e'.timing = e.timing

theorem Pending.same {e e' : Env α} (h : e.Pending) (hs : e.SameTimers e') : e'.Pending :=
  ⟨hs.timing ▸ h.unused, by rw [hs.timing, hs.next_id]; exact h.below, hs.timing ▸ h.nodup⟩

-- The pointer leads to a timer of this kind and group that is still to be delivered.
def Armed (e : Env α) (type : MessageType) (gaddr : α) (ptr : Option (TimerMsg α)) : Prop :=
  ∃ t ∈ e.timing, ptr = some t ∧ t.type = type ∧ t.gaddr = some gaddr

theorem Armed.mono {e e' : Env α} {type : MessageType} {gaddr : α} {ptr : Option (TimerMsg α)}
    (h : e.Armed type gaddr ptr) (hsub : e.timing ⊆ e'.timing) : e'.Armed type gaddr ptr := by
  obtain ⟨t, ht, h⟩ := h
  exact ⟨t, hsub ht, h⟩

theorem Armed.extends {e e' : Env α} {type : MessageType} {gaddr : α} {ptr : Option (TimerMsg α)}
    (h : e.Armed type gaddr ptr) (hext : e.Extends e') : e'.Armed type gaddr ptr :=
  h.mono hext.timing

theorem armed_arm (cfg : Config) (type : MessageType) (gaddr : α) (duration delay : ℕ)
    (e : Env α) :
    ((e.make_shared cfg type (some gaddr) duration).2.add_time delay
      (e.make_shared cfg type (some gaddr) duration).1).Armed type gaddr
      (some (e.make_shared cfg type (some gaddr) duration).1) :=
  ⟨_, List.mem_append_right _ (List.mem_singleton_self _), rfl, rfl, rfl⟩

end Env

section Mali

-- The timer object one call of `mali` hands to all sources of its list.
def mali_timer (cfg : Config) (gaddr : α) (env : Env α) : TimerMsg α :=
  (env.make_shared cfg SOURCE_TIMER_MSG (some gaddr)
    cfg.tv.get_multicast_address_listening_interval).1

theorem find_mali_slist (cfg : Config) (gaddr : α) (slist : SourceList α) (env : Env α) (a : α) :
    (mali_slist cfg gaddr slist env).1.find a =
      (slist.find a).map (set_timer (some (mali_timer cfg gaddr env)) (-1)) :=
  OrdSet.find_map _ (set_timer_saddr _ _) slist a

theorem find_mali (cfg : Config) (gaddr : α) (slist tmp_slist : SourceList α) (env : Env α)
    (a : α) :
    (mali cfg gaddr slist tmp_slist env).1.find a =
      if a ∈ tmp_slist then (slist.find a).map (set_timer (some (mali_timer cfg gaddr env)) (-1))
      else slist.find a := by
  refine (OrdSet.find_foldl_modify (mali_slist cfg gaddr tmp_slist env).1 slist
    (fun e => set_timer e.shared_source_timer (-1)) (fun _ => set_timer_saddr _ _) a).trans ?_
  rw [find_mali_slist]
  split_ifs with ha
  · obtain ⟨s, hs⟩ := OrdSet.mem_iff_find.mp ha
    simp [hs, set_timer]
  · simp [OrdSet.find_eq_none_iff.mpr ha]

@[simp] theorem mem_mali (cfg : Config) (gaddr : α) (slist tmp_slist : SourceList α) (env : Env α)
    (a : α) : a ∈ (mali cfg gaddr slist tmp_slist env).1 ↔ a ∈ slist := by
  rw [← OrdSet.isSome_find, ← OrdSet.isSome_find, find_mali]
  split_ifs <;> simp

theorem mali_readings (cfg : Config) (gaddr : α) (slist tmp_slist : SourceList α) (env : Env α) :
    env.readings < (mali cfg gaddr slist tmp_slist env).2.readings := by
  simp only [mali, mali_slist]
  split_ifs
  · exact Nat.lt_succ_self _
  · exact Nat.lt_succ_of_lt (Nat.lt_succ_self _)

theorem mali_extends (cfg : Config) (gaddr : α) (slist tmp_slist : SourceList α) (env : Env α) :
    env.Extends (mali cfg gaddr slist tmp_slist env).2 := by
  simp only [mali, mali_slist]
  split_ifs
  · exact Env.make_shared_extends ..
  · exact Env.arm_extends ..

-- The timer is armed as soon as one source got it.
theorem mali_timer_armed (cfg : Config) (gaddr : α) (slist tmp_slist : SourceList α) (env : Env α)
    {a : α} (ha : a ∈ tmp_slist) :
    (mali cfg gaddr slist tmp_slist env).2.Armed SOURCE_TIMER_MSG gaddr
      (some (mali_timer cfg gaddr env)) := by
  have hne : (tmp_slist.map (set_timer (some (mali_timer cfg gaddr env)) (-1))
      (set_timer_saddr _ _)).isEmpty = false :=
    OrdSet.isEmpty_eq_false_iff.mpr ⟨a, by simpa using ha⟩
  simp only [mali, mali_slist]
  rw [mali_timer] at hne
  rw [if_neg (by simp [hne])]
  exact Env.armed_arm ..

-- The timer a call of `mali(gaddr, ginfo)` makes the filter timer.
def mali_filter (cfg : Config) (gaddr : α) (env : Env α) : TimerMsg α :=
  (env.make_shared cfg FILTER_TIMER_MSG (some gaddr)
    cfg.tv.get_multicast_address_listening_interval).1

theorem mali_filter_timer_fst (cfg : Config) (gaddr : α) (ginfo : GaddrInfo α) (env : Env α) :
    (mali_filter_timer cfg gaddr ginfo env).1 =
      { ginfo with shared_filter_timer := some (mali_filter cfg gaddr env) } := rfl

theorem mali_filter_timer_extends (cfg : Config) (gaddr : α) (ginfo : GaddrInfo α) (env : Env α) :
    env.Extends (mali_filter_timer cfg gaddr ginfo env).2 :=
  Env.arm_extends ..

theorem mali_filter_armed (cfg : Config) (gaddr : α) (ginfo : GaddrInfo α) (env : Env α) :
    (mali_filter_timer cfg gaddr ginfo env).2.Armed FILTER_TIMER_MSG gaddr
      (some (mali_filter cfg gaddr env)) :=
  Env.armed_arm ..

end Mali

section SourceQuery

theorem query_source_fst (cfg : Config) (q : QueryLists α) (s : Source α) :
    (query_source cfg q s).1 = lower_count s := by
  unfold query_source lower_count
  dsimp only
  split_ifs <;> (try rfl) <;> cases s.shared_source_timer <;> (try rfl) <;> dsimp only <;>
    split_ifs <;> rfl

theorem query_source_env (cfg : Config) (q : QueryLists α) (s : Source α) :
    ∃ n, (query_source cfg q s).2.env = { q.env with readings := q.env.readings + n } := by
  unfold query_source
  dsimp only
  split_ifs <;> cases s.shared_source_timer <;> dsimp only <;> (try exact ⟨0, rfl⟩) <;>
    split_ifs <;> exact ⟨1, rfl⟩

-- The loop reads the clock and leaves the rest of its surroundings alone.
theorem query_walk_env (cfg : Config) (slist : SourceList α) (env : Env α) :
    ∃ n, (slist.walk (query_source cfg) (query_source_saddr cfg) { env := env }).2.env =
      { env with readings := env.readings + n } := by
  refine OrdSet.walk_snd_induction _ _
    (fun q : QueryLists α => ∃ n, q.env = { env with readings := env.readings + n }) ?_ slist _
    ⟨0, rfl⟩
  rintro q s ⟨n, hn⟩
  obtain ⟨m, hm⟩ := query_source_env cfg q s
  refine ⟨n + m, ?_⟩
  rw [hm, hn, Nat.add_assoc]

theorem query_walk_slist (cfg : Config) (slist : SourceList α) (env : Env α) :
    (slist.walk (query_source cfg) (query_source_saddr cfg) { env := env }).1 =
      slist.map lower_count lower_count_saddr :=
  OrdSet.walk_fst_eq_map _ _ _ _ (query_source_fst cfg) slist _

-- A source-specific query sends, and lowers the counters of the list it is given.
theorem send_src_query_spec (cfg : Config) (gaddr : α) (slist : SourceList α) (env : Env α) :
    (send_mc_addr_and_src_specific_query cfg gaddr slist env).2.1 =
        slist.map lower_count lower_count_saddr ∧
      ∃ n as, (send_mc_addr_and_src_specific_query cfg gaddr slist env).2.2 =
          { env with readings := env.readings + n, trace := env.trace ++ as } ∧
        ∀ a ∈ as, ∃ s_flag sl, a = .send_mc_addr_and_src_specific_query gaddr s_flag sl := by
  refine ⟨query_walk_slist cfg slist env, ?_⟩
  obtain ⟨n, hn⟩ := query_walk_env cfg slist env
  simp only [send_mc_addr_and_src_specific_query]
  generalize slist.walk (query_source cfg) (query_source_saddr cfg) { env := env } = r at hn ⊢
  rw [hn]
  split_ifs
  · exact ⟨n, [], by simp, by simp⟩
  · exact ⟨n, [.send_mc_addr_and_src_specific_query gaddr true r.2.slist_higher], rfl, by simp⟩
  · exact ⟨n, [.send_mc_addr_and_src_specific_query gaddr false r.2.slist_lower], rfl, by simp⟩
  · refine ⟨n, [.send_mc_addr_and_src_specific_query gaddr true r.2.slist_higher,
      .send_mc_addr_and_src_specific_query gaddr false r.2.slist_lower], ?_, by simp⟩
    simp only [Env.act, List.append_assoc, List.cons_append, List.nil_append]

end SourceQuery

section SendQ

-- The timer object one call of `send_Q` hands to the sources it lowers to LLQT.
def llqt_timer (cfg : Config) (gaddr : α) (env : Env α) : TimerMsg α :=
  (env.make_shared cfg SOURCE_TIMER_MSG (some gaddr) cfg.tv.get_last_listener_query_time).1

-- What the first loop of `send_Q` does to a source that is asked about.
def requery (llqc : ℤ) (st : TimerMsg α) (s : Source α) : Source α :=
  if s.retransmission_count < 1 then set_timer (some st) llqc s else s

omit [LinearOrder α] in
@[simp] theorem requery_saddr (llqc : ℤ) (st : TimerMsg α) (s : Source α) :
    (requery llqc st s).saddr = s.saddr := by
  unfold requery
  split_ifs <;> rfl

theorem requery_source_fst (llqc : ℤ) (st : TimerMsg α) (acc : SourceList α × Bool)
    (e : Source α) :
    (requery_source llqc st acc e).1 =
      acc.1.modify (requery llqc st) (requery_saddr llqc st) e.saddr := by
  apply OrdSet.ext_find
  intro a
  rw [OrdSet.find_modify]
  unfold requery_source
  cases hs : acc.1.find e.saddr with
  | none =>
    by_cases ha : a = e.saddr
    · simp [ha, hs]
    · simp [ha]
  | some s =>
    by_cases hc : s.retransmission_count < 1
    · by_cases ha : a = e.saddr
      · simp [hc, OrdSet.find_modify, ha, hs, requery]
      · simp [hc, OrdSet.find_modify, ha]
    · by_cases ha : a = e.saddr
      · simp [hc, ha, hs, requery]
      · simp [hc, ha]

-- The list after the first loop.
theorem find_requery_loop (llqc : ℤ) (st : TimerMsg α) (slist tmp : SourceList α) (b : Bool)
    (a : α) :
    (tmp.elems.foldl (requery_source llqc st) (slist, b)).1.find a =
      if a ∈ tmp then (slist.find a).map (requery llqc st) else slist.find a := by
  have hfold : ∀ (l : List (Source α)) (acc : SourceList α × Bool),
      (l.foldl (requery_source llqc st) acc).1 =
        l.foldl (fun s e => s.modify (requery llqc st) (requery_saddr llqc st) e.saddr) acc.1 := by
    intro l
    induction l with
    | nil => intro acc; rfl
    | cons e l ih => intro acc; rw [List.foldl_cons, ih, List.foldl_cons, requery_source_fst]
  rw [hfold]
  refine (OrdSet.find_foldl_modify tmp slist (fun _ => requery llqc st)
    (fun _ => requery_saddr llqc st) a).trans ?_
  by_cases ha : a ∈ tmp
  · obtain ⟨s, hs⟩ := OrdSet.mem_iff_find.mp ha
    simp [ha, hs]
  · simp [ha, OrdSet.find_eq_none_iff.mpr ha]

-- The loop notes whether it gave the timer to anybody.
theorem requery_loop_used (llqc : ℤ) (st : TimerMsg α) {slist tmp : SourceList α} {a : α}
    {s : Source α} (ha : a ∈ tmp) (hs : slist.find a = some s) (hc : s.retransmission_count < 1) :
    (tmp.elems.foldl (requery_source llqc st) (slist, false)).2 = true := by
  have hkeep : ∀ (l : List (Source α)) (acc : SourceList α × Bool), acc.2 = true →
      (l.foldl (requery_source llqc st) acc).2 = true := by
    intro l
    induction l with
    | nil => intro acc h; exact h
    | cons e l ih =>
      intro acc h
      rw [List.foldl_cons]
      apply ih
      unfold requery_source
      split <;> (try split_ifs) <;> simp [h]
  obtain ⟨e, he, hea⟩ := List.mem_map.mp ha
  obtain ⟨l, hl⟩ := tmp
  change e ∈ l at he
  generalize hb : (slist, false) = acc
  have hs : acc.1.find a = some s := hb ▸ hs
  change (l.foldl (requery_source llqc st) acc).2 = true
  clear hb ha
  -- until the source's turn comes the loop leaves it alone
  induction l generalizing acc with
  | nil => simp at he
  | cons y ys ih =>
    obtain ⟨hy, hys⟩ := List.pairwise_cons.mp hl
    rw [List.foldl_cons]
    by_cases hya : y.saddr = a
    · apply hkeep
      simp [requery_source, hya, hs, hc]
    · have he : e ∈ ys := (List.mem_cons.mp he).resolve_left (fun h => hya (h ▸ hea))
      refine ih hys he _ ?_
      rw [requery_source_fst, OrdSet.find_modify, if_neg (Ne.symm hya), hs]

theorem send_Q_fst (cfg : Config) (gaddr : α) (ginfo : GaddrInfo α) (tmp : SourceList α)
    (ret : Bool) (env : Env α) :
    (send_Q cfg gaddr ginfo tmp ret env).1 =
      { ginfo with
        include_requested_list := (send_Q cfg gaddr ginfo tmp ret env).1.include_requested_list
        source_retransmission_timer :=
          (send_Q cfg gaddr ginfo tmp ret env).1.source_retransmission_timer } := by
  unfold send_Q
  dsimp only
  split_ifs <;> rfl

theorem requery_sources_extends (cfg : Config) (gaddr : α) (slist tmp : SourceList α)
    (env : Env α) : env.Extends (requery_sources cfg gaddr slist tmp env).2 := by
  simp only [requery_sources]
  split_ifs
  · exact Env.arm_extends ..
  · exact Env.make_shared_extends ..

theorem find_requery_sources (cfg : Config) (gaddr : α) (slist tmp : SourceList α) (env : Env α)
    (a : α) :
    (requery_sources cfg gaddr slist tmp env).1.1.find a =
      if a ∈ tmp then (slist.find a).map
        (requery cfg.tv.last_listener_query_count.toNat (llqt_timer cfg gaddr env))
      else slist.find a :=
  find_requery_loop _ _ _ tmp false a

-- The part of `send_Q` that is about one source: asked about or not, and carried by the
-- query or not.
theorem find_send_Q (cfg : Config) (gaddr : α) (ginfo : GaddrInfo α) (tmp : SourceList α)
    (ret : Bool) (env : Env α) :
    ∃ f : Source α → Source α, (f = lower_count ∨ f = id) ∧
      ∀ a, (send_Q cfg gaddr ginfo tmp ret env).1.include_requested_list.find a =
        (if a ∈ tmp then (ginfo.include_requested_list.find a).map
          (requery cfg.tv.last_listener_query_count.toNat (llqt_timer cfg gaddr env))
        else ginfo.include_requested_list.find a).map f := by
  simp only [send_Q, ← find_requery_sources]
  split_ifs
  · refine ⟨lower_count, Or.inl rfl, fun a => ?_⟩
    rw [(send_src_query_spec ..).1, OrdSet.find_map]
  · refine ⟨lower_count, Or.inl rfl, fun a => ?_⟩
    rw [(send_src_query_spec ..).1, OrdSet.find_map]
  · exact ⟨id, Or.inr rfl, fun a => by rw [Option.map_id, id]⟩

@[simp] theorem mem_send_Q (cfg : Config) (gaddr : α) (ginfo : GaddrInfo α) (tmp : SourceList α)
    (ret : Bool) (env : Env α) (a : α) :
    a ∈ (send_Q cfg gaddr ginfo tmp ret env).1.include_requested_list ↔
      a ∈ ginfo.include_requested_list := by
  obtain ⟨f, -, hf⟩ := find_send_Q cfg gaddr ginfo tmp ret env
  rw [← OrdSet.isSome_find, ← OrdSet.isSome_find, hf]
  split_ifs <;> simp

-- Where the timer of a source comes from.
theorem send_Q_timer {cfg : Config} {gaddr : α} {ginfo : GaddrInfo α} {tmp : SourceList α}
    {ret : Bool} {env : Env α} {a : α} {s' : Source α}
    (h : (send_Q cfg gaddr ginfo tmp ret env).1.include_requested_list.find a = some s') :
    ∃ s, ginfo.include_requested_list.find a = some s ∧
      s'.shared_source_timer = if a ∈ tmp ∧ s.retransmission_count < 1 then
        some (llqt_timer cfg gaddr env) else s.shared_source_timer := by
  obtain ⟨f, hf, hfind⟩ := find_send_Q cfg gaddr ginfo tmp ret env
  have hft : ∀ s : Source α, (f s).shared_source_timer = s.shared_source_timer := by
    rcases hf with rfl | rfl
    · exact lower_count_timer
    · exact fun _ => rfl
  rw [hfind] at h
  obtain ⟨s₁, h₁, rfl⟩ := Option.map_eq_some_iff.mp h
  rw [hft]
  by_cases ha : a ∈ tmp
  · rw [if_pos ha] at h₁
    obtain ⟨s, hs, rfl⟩ := Option.map_eq_some_iff.mp h₁
    refine ⟨s, hs, ?_⟩
    simp only [ha, true_and, requery]
    split_ifs <;> rfl
  · rw [if_neg ha] at h₁
    exact ⟨s₁, h₁, by simp [ha]⟩

-- A source that is not asked about keeps its timer.
theorem send_Q_keeps (cfg : Config) (gaddr : α) {ginfo : GaddrInfo α} {tmp : SourceList α}
    (ret : Bool) (env : Env α) {a : α} {s : Source α} (ha : a ∉ tmp)
    (hs : ginfo.include_requested_list.find a = some s) :
    ∃ s', (send_Q cfg gaddr ginfo tmp ret env).1.include_requested_list.find a = some s' ∧
      s'.shared_source_timer = s.shared_source_timer := by
  have hmem := (mem_send_Q cfg gaddr ginfo tmp ret env a).mpr (OrdSet.mem_of_find hs)
  obtain ⟨s', hs'⟩ := OrdSet.mem_iff_find.mp hmem
  obtain ⟨s₀, hs₀, ht⟩ := send_Q_timer hs'
  obtain rfl := Option.some.inj (hs.symm.trans hs₀)
  exact ⟨s', hs', by simpa [ha] using ht⟩

theorem send_Q_extends_requery (cfg : Config) (gaddr : α) (ginfo : GaddrInfo α) (tmp : SourceList α)
    (ret : Bool) (env : Env α) :
    (requery_sources cfg gaddr ginfo.include_requested_list tmp env).2.Extends
      (send_Q cfg gaddr ginfo tmp ret env).2 := by
  -- the query itself
  have hq : ∀ (slist : SourceList α) (e : Env α),
      e.Extends (send_mc_addr_and_src_specific_query cfg gaddr slist e).2.2 := by
    intro slist e
    obtain ⟨n, as, hn, has⟩ := (send_src_query_spec cfg gaddr slist e).2
    rw [hn]
    refine .quiet rfl (Nat.le_add_right _ _) rfl rfl ?_
    intro g infos h
    obtain ⟨s_flag, sl, h⟩ := has _ h
    simp at h
  simp only [send_Q]
  split_ifs
  · exact (hq _ _).trans (Env.arm_extends ..)
  · exact hq _ _
  · exact Env.Extends.refl _

theorem send_Q_extends (cfg : Config) (gaddr : α) (ginfo : GaddrInfo α) (tmp : SourceList α)
    (ret : Bool) (env : Env α) : env.Extends (send_Q cfg gaddr ginfo tmp ret env).2 :=
  (requery_sources_extends ..).trans (send_Q_extends_requery ..)

theorem llqt_timer_armed {cfg : Config} {gaddr : α} {ginfo : GaddrInfo α} {tmp : SourceList α}
    (ret : Bool) {env : Env α} {a : α} {s : Source α} (ha : a ∈ tmp)
    (hs : ginfo.include_requested_list.find a = some s) (hc : s.retransmission_count < 1) :
    (send_Q cfg gaddr ginfo tmp ret env).2.Armed SOURCE_TIMER_MSG gaddr
      (some (llqt_timer cfg gaddr env)) := by
  refine Env.Armed.extends ?_ (send_Q_extends_requery cfg gaddr ginfo tmp ret env)
  have hused : (requery_sources cfg gaddr ginfo.include_requested_list tmp env).1.2 = true :=
    requery_loop_used _ _ ha hs hc
  simp only [requery_sources] at hused ⊢
  rw [if_pos hused]
  exact Env.armed_arm ..

section Frame

variable (cfg : Config) (gaddr : α) (ginfo : GaddrInfo α) (tmp : SourceList α) (ret : Bool)
  (env : Env α)

@[simp] theorem send_Q_filter_mode :
    (send_Q cfg gaddr ginfo tmp ret env).1.filter_mode = ginfo.filter_mode := by
  rw [send_Q_fst]

@[simp] theorem send_Q_exclude_list :
    (send_Q cfg gaddr ginfo tmp ret env).1.exclude_list = ginfo.exclude_list := by
  rw [send_Q_fst]

@[simp] theorem send_Q_shared_filter_timer :
    (send_Q cfg gaddr ginfo tmp ret env).1.shared_filter_timer = ginfo.shared_filter_timer := by
  rw [send_Q_fst]

@[simp] theorem send_Q_older_host_present_timer :
    (send_Q cfg gaddr ginfo tmp ret env).1.older_host_present_timer =
      ginfo.older_host_present_timer := by
  rw [send_Q_fst]

@[simp] theorem send_Q_compatibility_mode_variable :
    (send_Q cfg gaddr ginfo tmp ret env).1.compatibility_mode_variable =
      ginfo.compatibility_mode_variable := by
  rw [send_Q_fst]

@[simp] theorem send_Q_group_retransmission_timer :
    (send_Q cfg gaddr ginfo tmp ret env).1.group_retransmission_timer =
      ginfo.group_retransmission_timer := by
  rw [send_Q_fst]

@[simp] theorem send_Q_group_retransmission_count :
    (send_Q cfg gaddr ginfo tmp ret env).1.group_retransmission_count =
      ginfo.group_retransmission_count := by
  rw [send_Q_fst]

end Frame

end SendQ

section SendQGroup

variable {cfg : Config} {gaddr : α} {ginfo : GaddrInfo α} {env : Env α} {r : GaddrInfo α × Env α}

-- The timer the start of an episode makes the filter timer.
def llqt_filter (cfg : Config) (gaddr : α) (env : Env α) : TimerMsg α :=
  (env.make_shared cfg FILTER_TIMER_MSG (some gaddr) cfg.tv.get_last_listener_query_time).1

theorem start_group_queries_of_none (h : ginfo.group_retransmission_timer = none) :
    (start_group_queries cfg gaddr ginfo env).1 =
        { ginfo with
          group_retransmission_count := to_int cfg.tv.last_listener_query_count
          shared_filter_timer := some (llqt_filter cfg gaddr env) } ∧
      env.Extends (start_group_queries cfg gaddr ginfo env).2 ∧
      (start_group_queries cfg gaddr ginfo env).2.Armed FILTER_TIMER_MSG gaddr
        (some (llqt_filter cfg gaddr env)) := by
  simp only [start_group_queries, h, Option.isNone_none, if_true]
  exact ⟨rfl, Env.arm_extends .., Env.armed_arm ..⟩

theorem start_group_queries_of_some {t : TimerMsg α}
    (h : ginfo.group_retransmission_timer = some t) :
    start_group_queries cfg gaddr ginfo env = (ginfo, env) := by
  simp [start_group_queries, h]

theorem schedule_group_query_spec (cfg : Config) (gaddr : α) (ginfo : GaddrInfo α) (env : Env α) :
    (schedule_group_query cfg gaddr ginfo env).1 =
        { ginfo with group_retransmission_timer :=
            (schedule_group_query cfg gaddr ginfo env).1.group_retransmission_timer } ∧
      env.Extends (schedule_group_query cfg gaddr ginfo env).2 ∧
      (0 < ginfo.group_retransmission_count →
        (schedule_group_query cfg gaddr ginfo env).2.Armed RET_GROUP_TIMER_MSG gaddr
          (schedule_group_query cfg gaddr ginfo env).1.group_retransmission_timer) := by
  simp only [schedule_group_query]
  split_ifs with hc
  · exact ⟨rfl, Env.arm_extends .., fun _ => Env.armed_arm ..⟩
  · exact ⟨rfl, Env.Extends.refl _, fun h => absurd h hc⟩

-- What `send_Q(gaddr, ginfo)` does with the record `start_group_queries` left: it sends the
-- query and arms the next one, or it ends the episode.
theorem send_Q_group_cases (h : send_Q_group cfg gaddr ginfo env = .ok r) :
    (0 < (start_group_queries cfg gaddr ginfo env).1.group_retransmission_count ∧
      r.1 = { (start_group_queries cfg gaddr ginfo env).1 with
        group_retransmission_timer := r.1.group_retransmission_timer
        group_retransmission_count :=
          (start_group_queries cfg gaddr ginfo env).1.group_retransmission_count - 1 } ∧
      (0 < r.1.group_retransmission_count →
        r.2.Armed RET_GROUP_TIMER_MSG gaddr r.1.group_retransmission_timer) ∧
      ∃ env' s_flag, (start_group_queries cfg gaddr ginfo env).2.Extends env' ∧
        r.2 = env'.act (.send_mc_addr_specific_query gaddr s_flag)) ∨
    ((start_group_queries cfg gaddr ginfo env).1.group_retransmission_count ≤ 0 ∧
      r = ({ (start_group_queries cfg gaddr ginfo env).1 with
        group_retransmission_timer := none, group_retransmission_count := -1 },
        (start_group_queries cfg gaddr ginfo env).2)) := by
  simp only [send_Q_group] at h
  generalize start_group_queries cfg gaddr ginfo env = st at h ⊢
  split_ifs at h with hc
  · refine Or.inl ⟨hc, ?_⟩
    obtain ⟨hfst, hext, harm⟩ := schedule_group_query_spec cfg gaddr
      { st.1 with group_retransmission_count := st.1.group_retransmission_count - 1 } st.2
    generalize schedule_group_query cfg gaddr _ st.2 = sq at h hfst hext harm
    unfold send_group_query at h
    cases hft : sq.1.shared_filter_timer with
    | none => simp [hft] at h
    | some ft =>
      simp only [hft, Except.ok.injEq] at h
      subst h
      have hcount : sq.1.group_retransmission_count = st.1.group_retransmission_count - 1 := by
        rw [hfst]
      refine ⟨hfst, fun hpos => ?_, _, _, hext.trans (Env.Extends.reading _ 1), rfl⟩
      exact harm (hcount ▸ hpos)
  · exact Or.inr ⟨not_lt.mp hc, (Except.ok.inj h).symm⟩

-- The one way it goes wrong.
theorem send_Q_group_error_iff {f : Fault} :
    send_Q_group cfg gaddr ginfo env = .error f ↔
      f = .null_shared_filter_timer ∧ ginfo.group_retransmission_timer.isSome ∧
        0 < ginfo.group_retransmission_count ∧ ginfo.shared_filter_timer = none := by
  have hst : send_Q_group cfg gaddr ginfo env = .error f ↔
      f = .null_shared_filter_timer ∧
        0 < (start_group_queries cfg gaddr ginfo env).1.group_retransmission_count ∧
        (start_group_queries cfg gaddr ginfo env).1.shared_filter_timer = none := by
    simp only [send_Q_group]
    generalize start_group_queries cfg gaddr ginfo env = st
    have hft := congrArg GaddrInfo.shared_filter_timer (schedule_group_query_spec cfg gaddr
      { st.1 with group_retransmission_count := st.1.group_retransmission_count - 1 } st.2).1
    dsimp only at hft
    split_ifs with hc
    · unfold send_group_query
      rw [hft]
      cases st.1.shared_filter_timer <;> simp [hc, eq_comm]
    · simp [hc]
  rw [hst]
  cases hrt : ginfo.group_retransmission_timer with
  | none =>
    have hfst := (@start_group_queries_of_none α _ cfg gaddr ginfo env hrt).1
    simp [hfst]
  | some t => simp [start_group_queries_of_some hrt]

theorem start_group_queries_extends (cfg : Config) (gaddr : α) (ginfo : GaddrInfo α)
    (env : Env α) : env.Extends (start_group_queries cfg gaddr ginfo env).2 := by
  cases hrt : ginfo.group_retransmission_timer with
  | none => exact (start_group_queries_of_none hrt).2.1
  | some t =>
    rw [start_group_queries_of_some hrt]
    exact Env.Extends.refl env

theorem send_Q_group_extends (h : send_Q_group cfg gaddr ginfo env = .ok r) :
    env.Extends r.2 := by
  have hstart := start_group_queries_extends cfg gaddr ginfo env
  rcases send_Q_group_cases h with ⟨-, -, -, env', s_flag, hext, hr⟩ | ⟨-, hr⟩
  · rw [hr]
    exact hstart.trans (hext.trans (Env.act_extends _ (by simp)))
  · rw [hr]
    exact hstart

theorem send_Q_group_filter (h : send_Q_group cfg gaddr ginfo env = .ok r) :
    r.1.shared_filter_timer =
      (start_group_queries cfg gaddr ginfo env).1.shared_filter_timer := by
  rcases send_Q_group_cases h with ⟨-, hr, -⟩ | ⟨-, hr⟩ <;> rw [hr]

theorem send_Q_group_frame (h : send_Q_group cfg gaddr ginfo env = .ok r) :
    ∃ ft rt count, r.1 = { ginfo with
      shared_filter_timer := ft
      group_retransmission_timer := rt
      group_retransmission_count := count } := by
  have hstart : ∃ ft count, (start_group_queries cfg gaddr ginfo env).1 =
      { ginfo with shared_filter_timer := ft, group_retransmission_count := count } := by
    unfold start_group_queries
    dsimp only
    split_ifs
    · exact ⟨_, _, rfl⟩
    · exact ⟨_, _, rfl⟩
  obtain ⟨ft, count, hstart⟩ := hstart
  rcases send_Q_group_cases h with ⟨-, hr, -⟩ | ⟨-, hr⟩
  · exact ⟨ft, r.1.group_retransmission_timer, _, hr.trans (by rw [hstart])⟩
  · exact ⟨ft, none, -1, by rw [hr, hstart]⟩

theorem send_Q_group_filter_armed (h : send_Q_group cfg gaddr ginfo env = .ok r)
    (hold : env.Armed FILTER_TIMER_MSG gaddr ginfo.shared_filter_timer) :
    r.2.Armed FILTER_TIMER_MSG gaddr r.1.shared_filter_timer := by
  rw [send_Q_group_filter h]
  cases hrt : ginfo.group_retransmission_timer with
  | none =>
    obtain ⟨hfst, -, harm⟩ := @start_group_queries_of_none α _ cfg gaddr ginfo env hrt
    rw [hfst]
    rcases send_Q_group_cases h with ⟨-, -, -, env', s_flag, hext, hr⟩ | ⟨-, hr⟩
    · rw [hr]
      exact harm.extends (hext.trans (Env.act_extends _ (by simp)))
    · rw [hr]
      exact harm
  | some t =>
    rw [start_group_queries_of_some hrt]
    exact hold.extends (send_Q_group_extends h)

theorem send_Q_group_ret_armed (h : send_Q_group cfg gaddr ginfo env = .ok r)
    (hpos : 0 < r.1.group_retransmission_count) :
    r.2.Armed RET_GROUP_TIMER_MSG gaddr r.1.group_retransmission_timer := by
  rcases send_Q_group_cases h with ⟨-, -, harm, -⟩ | ⟨-, hr⟩
  · exact harm hpos
  · rw [hr] at hpos
    simp at hpos

end SendQGroup

section Receive

variable {cfg : Config} {gaddr : α} {ginfo : GaddrInfo α} {slist : SourceList α} {env : Env α}
  {record_type : McastAddrRecordType}

-- The record types whose row ends in a notification.
def notifies : McastAddrRecordType → Bool
  | .BLOCK_OLD_SOURCES | .unknown _ => false
  | _ => true

def notify_if (b : Bool) (gaddr : α) (ginfo : GaddrInfo α) (env : Env α) : Env α :=
  if b then env.state_change_notification gaddr (some ginfo) else env

theorem notify_if_same (b : Bool) (gaddr : α) (ginfo : GaddrInfo α) (env : Env α) :
    env.SameTimers (notify_if b gaddr ginfo env) := by
  unfold notify_if
  split_ifs
  · exact ⟨rfl, rfl, rfl⟩
  · exact ⟨rfl, rfl, rfl⟩

-- A row works on its surroundings and then, if at all, notifies with the record it made.
theorem receive_record_in_include_mode_env (cfg : Config) (record_type : McastAddrRecordType)
    (gaddr : α) (slist : SourceList α) (ginfo : GaddrInfo α) (env : Env α) :
    ∃ env', env.Extends env' ∧
      (receive_record_in_include_mode cfg record_type gaddr slist ginfo env).2 =
        notify_if (notifies record_type) gaddr
          (receive_record_in_include_mode cfg record_type gaddr slist ginfo env).1 env' := by
  cases record_type with
  | ALLOW_NEW_SOURCES | MODE_IS_INCLUDE => exact ⟨_, mali_extends .., rfl⟩
  | BLOCK_OLD_SOURCES => exact ⟨_, send_Q_extends .., rfl⟩
  | CHANGE_TO_EXCLUDE_MODE =>
    exact ⟨_, (send_Q_extends ..).trans (mali_filter_timer_extends ..), rfl⟩
  | CHANGE_TO_INCLUDE_MODE => exact ⟨_, (send_Q_extends ..).trans (mali_extends ..), rfl⟩
  | MODE_IS_EXCLUDE => exact ⟨_, mali_filter_timer_extends .., rfl⟩
  | unknown v => exact ⟨_, Env.Extends.refl _, rfl⟩

theorem receive_record_in_exclude_mode_env {r : GaddrInfo α × Env α}
    (h : receive_record_in_exclude_mode cfg record_type gaddr slist ginfo env = .ok r) :
    ∃ env', env.Extends env' ∧ r.2 = notify_if (notifies record_type) gaddr r.1 env' := by
  cases record_type with
  | ALLOW_NEW_SOURCES | MODE_IS_INCLUDE =>
    obtain rfl := Except.ok.inj h
    exact ⟨_, mali_extends .., rfl⟩
  | BLOCK_OLD_SOURCES =>
    obtain rfl := Except.ok.inj h
    exact ⟨_, send_Q_extends .., rfl⟩
  | CHANGE_TO_EXCLUDE_MODE =>
    obtain rfl := Except.ok.inj h
    exact ⟨_, (send_Q_extends ..).trans (mali_filter_timer_extends ..), rfl⟩
  | CHANGE_TO_INCLUDE_MODE =>
    obtain ⟨r', hr', rfl⟩ := exists_of_map_ok h
    exact ⟨_, ((send_Q_extends ..).trans (send_Q_group_extends hr')).trans (mali_extends ..), rfl⟩
  | MODE_IS_EXCLUDE =>
    obtain rfl := Except.ok.inj h
    exact ⟨_, (mali_extends ..).trans (mali_filter_timer_extends ..), rfl⟩
  | unknown v =>
    obtain rfl := Except.ok.inj h
    exact ⟨_, Env.Extends.refl _, rfl⟩

-- What was pending before a row is pending after it.
theorem receive_record_in_include_mode_timing (cfg : Config) (record_type : McastAddrRecordType)
    (gaddr : α) (slist : SourceList α) (ginfo : GaddrInfo α) (env : Env α) :
    env.timing ⊆
      (receive_record_in_include_mode cfg record_type gaddr slist ginfo env).2.timing := by
  obtain ⟨env', hext, henv⟩ :=
    receive_record_in_include_mode_env cfg record_type gaddr slist ginfo env
  rw [henv, (notify_if_same ..).timing]
  exact hext.timing

theorem receive_record_in_exclude_mode_timing {r : GaddrInfo α × Env α}
    (h : receive_record_in_exclude_mode cfg record_type gaddr slist ginfo env = .ok r) :
    env.timing ⊆ r.2.timing := by
  obtain ⟨env', hext, henv⟩ := receive_record_in_exclude_mode_env h
  rw [henv, (notify_if_same ..).timing]
  exact hext.timing

-- A record leaves EXCLUDE mode only through its filter timer.
theorem receive_record_in_exclude_mode_stays {r : GaddrInfo α × Env α}
    (h : receive_record_in_exclude_mode cfg record_type gaddr slist ginfo env = .ok r) :
    r.1.filter_mode = ginfo.filter_mode := by
  cases record_type with
  | ALLOW_NEW_SOURCES | MODE_IS_INCLUDE | MODE_IS_EXCLUDE | unknown =>
    obtain rfl := Except.ok.inj h
    rfl
  | BLOCK_OLD_SOURCES | CHANGE_TO_EXCLUDE_MODE =>
    obtain rfl := Except.ok.inj h
    exact send_Q_filter_mode ..
  | CHANGE_TO_INCLUDE_MODE =>
    obtain ⟨r', hr', rfl⟩ := exists_of_map_ok h
    obtain ⟨ft, rt, count, hfst⟩ := send_Q_group_frame hr'
    dsimp only
    rw [hfst]
    exact send_Q_filter_mode ..

-- What the compatibility coordination keeps of a group.
def GaddrInfo.compatibility (ginfo : GaddrInfo α) : GroupMemProtocol × Option (TimerMsg α) :=
  (ginfo.compatibility_mode_variable, ginfo.older_host_present_timer)

-- The rows leave it alone.
theorem receive_record_in_include_mode_compatibility (cfg : Config)
    (record_type : McastAddrRecordType) (gaddr : α) (slist : SourceList α) (ginfo : GaddrInfo α)
    (env : Env α) :
    (receive_record_in_include_mode cfg record_type gaddr slist ginfo env).1.compatibility =
      ginfo.compatibility := by
  cases record_type <;>
    simp [receive_record_in_include_mode, GaddrInfo.compatibility, mali_filter_timer_fst]

theorem receive_record_in_exclude_mode_compatibility {r : GaddrInfo α × Env α}
    (h : receive_record_in_exclude_mode cfg record_type gaddr slist ginfo env = .ok r) :
    r.1.compatibility = ginfo.compatibility := by
  cases record_type with
  | CHANGE_TO_INCLUDE_MODE =>
    obtain ⟨r', hr', rfl⟩ := exists_of_map_ok h
    obtain ⟨ft, rt, count, hfst⟩ := send_Q_group_frame hr'
    simp [hfst, GaddrInfo.compatibility]
  | _ =>
    obtain rfl := Except.ok.inj h
    simp [mali_filter_timer_fst, GaddrInfo.compatibility]

theorem note_older_host_extends (cfg : Config) (mode proto : GroupMemProtocol) (gaddr : α)
    (ginfo : GaddrInfo α) (env : Env α) :
    env.Extends (note_older_host cfg mode proto gaddr ginfo env).2 := by
  unfold note_older_host
  split_ifs
  · exact Env.arm_extends ..
  · exact Env.Extends.refl _

theorem note_older_host_frame (cfg : Config) (mode proto : GroupMemProtocol) (gaddr : α)
    (ginfo : GaddrInfo α) (env : Env α) :
    ∃ version timer, (note_older_host cfg mode proto gaddr ginfo env).1 =
      { ginfo with compatibility_mode_variable := version, older_host_present_timer := timer } := by
  unfold note_older_host
  split_ifs
  · exact ⟨_, _, rfl⟩
  · exact ⟨_, _, rfl⟩

theorem note_older_host_of_newest {proto : GroupMemProtocol} (h : is_newest_version proto = true)
    (cfg : Config) (mode : GroupMemProtocol) (gaddr : α) (ginfo : GaddrInfo α) (env : Env α) :
    note_older_host cfg mode proto gaddr ginfo env = (ginfo, env) := by
  simp [note_older_host, h]

-- What `receive_record` does with the record the compatibility coordination leaves: it
-- ignores the message, or the row of the mode is applied and the result written back,
-- unless nothing is left of it.
theorem receive_record_cases {gr : GroupRecordMsg α} {q q' : Querier α}
    (h : receive_record cfg gr q = .ok q') :
    ∃ r, r = note_older_host cfg q.m_db.querier_version_mode gr.grp_mem_proto gr.gaddr
        (q.group gr.gaddr) q.env ∧
      ((r.1.is_in_backward_compatibility_mode = true ∧ gr.record_type = .BLOCK_OLD_SOURCES ∧
          q' = q.put gr.gaddr r.1 r.2) ∨
        ¬ (r.1.is_in_backward_compatibility_mode = true ∧ gr.record_type = .BLOCK_OLD_SOURCES) ∧
        ((∃ r', r.1.filter_mode = INCLUDE_MODE ∧
          r' = receive_record_in_include_mode cfg gr.record_type gr.gaddr
            (compatible_slist r.1 gr) r.1 r.2 ∧
          ((r'.1.filter_mode = INCLUDE_MODE ∧ (∀ a, a ∉ r'.1.include_requested_list) ∧
              q' = q.del gr.gaddr r'.2) ∨
            ((r'.1.filter_mode = INCLUDE_MODE → ∃ a, a ∈ r'.1.include_requested_list) ∧
              q' = q.put gr.gaddr r'.1 r'.2))) ∨
        (∃ r', r.1.filter_mode = EXCLUDE_MODE ∧
          receive_record_in_exclude_mode cfg gr.record_type gr.gaddr
            (compatible_slist r.1 gr) r.1 r.2 = .ok r' ∧
          q' = q.put gr.gaddr r'.1 r'.2))) := by
  refine ⟨_, rfl, ?_⟩
  simp only [receive_record] at h
  generalize note_older_host cfg q.m_db.querier_version_mode gr.grp_mem_proto gr.gaddr
    (q.group gr.gaddr) q.env = r at h ⊢
  by_cases hblock : (r.1.is_in_backward_compatibility_mode &&
      decide (gr.record_type = .BLOCK_OLD_SOURCES)) = true
  · rw [if_pos hblock] at h
    simp only [Bool.and_eq_true, decide_eq_true_eq] at hblock
    exact Or.inl ⟨hblock.1, hblock.2, (Except.ok.inj h).symm⟩
  · rw [if_neg hblock] at h
    simp only [Bool.and_eq_true, decide_eq_true_eq] at hblock
    refine Or.inr ⟨hblock, ?_⟩
    cases hmode : r.1.filter_mode with
    | INCLUDE_MODE =>
      left
      simp only [hmode] at h
      refine ⟨_, rfl, rfl, ?_⟩
      split_ifs at h with hempty
      · simp only [Bool.and_eq_true, decide_eq_true_eq] at hempty
        exact Or.inl ⟨hempty.1, OrdSet.isEmpty_iff.mp hempty.2, (Except.ok.inj h).symm⟩
      · refine Or.inr ⟨fun hm => ?_, (Except.ok.inj h).symm⟩
        apply OrdSet.isEmpty_eq_false_iff.mp
        simpa [hm] using hempty
    | EXCLUDE_MODE =>
      right
      simp only [hmode] at h
      obtain ⟨r', hr', rfl⟩ := exists_of_map_ok h
      exact ⟨r', rfl, hr', rfl⟩

end Receive

section Lookup

variable (q : Querier α) (gaddr : α) (ginfo : GaddrInfo α) (env : Env α)

@[simp] theorem Querier.put_env : (q.put gaddr ginfo env).env = env := rfl

@[simp] theorem Querier.del_env : (q.del gaddr env).env = env := rfl

@[simp] theorem Querier.lookup_put (g : α) :
    OrdMap.lookup (q.put gaddr ginfo env).m_db.group_info g =
      if g = gaddr then some ginfo else OrdMap.lookup q.m_db.group_info g :=
  OrdMap.lookup_assign ..

@[simp] theorem Querier.lookup_del (g : α) :
    OrdMap.lookup (q.del gaddr env).m_db.group_info g =
      if g = gaddr then none else OrdMap.lookup q.m_db.group_info g :=
  OrdMap.lookup_erase ..

variable {q gaddr ginfo env}

-- What a step that writes back one record has to show of all of them.
theorem Querier.forall_put {P : α → GaddrInfo α → Prop}
    (hothers : ∀ g gi, g ≠ gaddr → OrdMap.lookup q.m_db.group_info g = some gi → P g gi)
    (hg : P gaddr ginfo) (g : α) (gi : GaddrInfo α)
    (hlook : OrdMap.lookup (q.put gaddr ginfo env).m_db.group_info g = some gi) : P g gi := by
  rw [Querier.lookup_put] at hlook
  split_ifs at hlook with he
  · obtain rfl := Option.some.inj hlook
    exact he ▸ hg
  · exact hothers g gi he hlook

theorem Querier.forall_del {P : α → GaddrInfo α → Prop}
    (hothers : ∀ g gi, g ≠ gaddr → OrdMap.lookup q.m_db.group_info g = some gi → P g gi)
    (g : α) (gi : GaddrInfo α)
    (hlook : OrdMap.lookup (q.del gaddr env).m_db.group_info g = some gi) : P g gi := by
  rw [Querier.lookup_del] at hlook
  split_ifs at hlook with he
  exact hothers g gi he hlook

end Lookup

section Timer

variable {cfg : Config} {unique : Bool} {msg : TimerMsg α} {gaddr : α} {ginfo : GaddrInfo α}
  {q q' : Querier α}

omit [LinearOrder α] in
theorem same_object_self (msg : TimerMsg α) : same_object (some msg) msg = true := by
  simp [same_object]

omit [LinearOrder α] in
theorem ne_of_not_same_object {ptr : Option (TimerMsg α)} (h : same_object ptr msg = false) :
    ptr ≠ some msg := by
  intro he
  rw [he, same_object_self] at h
  cases h

-- The messages that end in the guard of `timer_triggerd`, and those that get past it.
theorem timer_triggerd_cases (h : timer_triggerd cfg unique msg q = .ok q') :
    (unique = true ∧ q' = q) ∨
      (msg.type = GENERAL_QUERY_TIMER_MSG ∧
        q' = timer_triggerd_general_query_timer cfg msg q) ∨
      ((∀ gaddr, msg.gaddr = some gaddr → OrdMap.lookup q.m_db.group_info gaddr = none) ∧
        q' = q) ∨
      ∃ gaddr ginfo, msg.gaddr = some gaddr ∧
        OrdMap.lookup q.m_db.group_info gaddr = some ginfo ∧
        timer_triggerd_group cfg gaddr ginfo msg q = .ok q' := by
  unfold timer_triggerd at h
  split_ifs at h with hu ht
  · exact Or.inl ⟨hu, (Except.ok.inj h).symm⟩
  · exact Or.inr (Or.inl ⟨ht, (Except.ok.inj h).symm⟩)
  · right; right
    cases hg : msg.gaddr with
    | none =>
      simp only [hg] at h
      exact Or.inl ⟨by simp, (Except.ok.inj h).symm⟩
    | some gaddr =>
      simp only [hg] at h
      cases hl : OrdMap.lookup q.m_db.group_info gaddr with
      | none =>
        simp only [hl] at h
        refine Or.inl ⟨fun g hg' => ?_, (Except.ok.inj h).symm⟩
        rwa [← Option.some.inj hg']
      | some ginfo =>
        simp only [hl] at h
        exact Or.inr ⟨gaddr, ginfo, rfl, hl, h⟩

-- The exclude list after a source timer fired in EXCLUDE mode.
theorem find_moved (X Y : SourceList α) (hit : Source α → Bool) (a : α) :
    (Y.insertAll ((X.filter hit).map reset_timer reset_timer_saddr).elems).find a =
      (Y.find a).or (((X.find a).filter hit).map reset_timer) := by
  rw [OrdSet.find_insertAll, OrdSet.find_map, OrdSet.find_filter]

-- What the handlers of a group's timers do to the database, and when.
inductive GroupTimerStep (cfg : Config) (gaddr : α) (msg : TimerMsg α) :
    GaddrInfo α → Querier α → Querier α → Prop
  | ignored {ginfo : GaddrInfo α} {q : Querier α}
      (hgroup : msg.type = RET_GROUP_TIMER_MSG →
        same_object ginfo.group_retransmission_timer msg = false)
      (hsource : msg.type = RET_SOURCE_TIMER_MSG →
        same_object ginfo.source_retransmission_timer msg = false) :
    GroupTimerStep cfg gaddr msg ginfo q q
  | erased {ginfo : GaddrInfo α} {q : Querier α}
      (htype : msg.type = SOURCE_TIMER_MSG ∨ msg.type = FILTER_TIMER_MSG) :
    GroupTimerStep cfg gaddr msg ginfo q
      (q.del gaddr (q.env.state_change_notification gaddr none))
  | sources_deleted {ginfo ginfo' : GaddrInfo α} {q : Querier α}
      (htype : msg.type = SOURCE_TIMER_MSG ∨ msg.type = FILTER_TIMER_MSG)
      (hmode : ginfo.filter_mode = INCLUDE_MODE)
      (hginfo' : ginfo' = { ginfo with
        include_requested_list := ginfo.include_requested_list.filter
          fun s => !same_object s.shared_source_timer msg })
      (hsome : ginfo'.include_requested_list.isEmpty = false) :
    GroupTimerStep cfg gaddr msg ginfo q
      (q.put gaddr ginfo' (q.env.state_change_notification gaddr (some ginfo')))
  | sources_moved {ginfo ginfo' : GaddrInfo α} {q : Querier α}
      (htype : msg.type = SOURCE_TIMER_MSG ∨ msg.type = FILTER_TIMER_MSG)
      (hmode : ginfo.filter_mode = EXCLUDE_MODE)
      (hginfo' : ginfo' = { ginfo with
        include_requested_list := ginfo.include_requested_list.filter
          fun s => !same_object s.shared_source_timer msg
        exclude_list := ginfo.exclude_list.insertAll
          ((ginfo.include_requested_list.filter
            fun s => same_object s.shared_source_timer msg).map
              reset_timer reset_timer_saddr).elems }) :
    GroupTimerStep cfg gaddr msg ginfo q
      (q.put gaddr ginfo' (q.env.state_change_notification gaddr (some ginfo')))
  | filter_expired {ginfo ginfo' : GaddrInfo α} {q : Querier α}
      (htype : msg.type = FILTER_TIMER_MSG)
      (hsame : same_object ginfo.shared_filter_timer msg = true)
      (hmode : ginfo.filter_mode = EXCLUDE_MODE)
      (hsome : ginfo.include_requested_list.isEmpty = false)
      (hginfo' : ginfo' = { ginfo with
        filter_mode := INCLUDE_MODE, shared_filter_timer := none, exclude_list := ∅ }) :
    GroupTimerStep cfg gaddr msg ginfo q
      (q.put gaddr ginfo' (q.env.state_change_notification gaddr (some ginfo')))
  -- only a timer that is used for the sources as well does two things in a row
  | shared {ginfo ginfo₁ : GaddrInfo α} {q q₁ q₂ : Querier α}
      (hused : msg.is_used_as_source_timer = true)
      (first : GroupTimerStep cfg gaddr msg ginfo q q₁)
      (hlook : OrdMap.lookup q₁.m_db.group_info gaddr = some ginfo₁)
      (second : GroupTimerStep cfg gaddr msg ginfo₁ q₁ q₂) :
    GroupTimerStep cfg gaddr msg ginfo q q₂
  | group_queried {ginfo : GaddrInfo α} {q : Querier α} {r : GaddrInfo α × Env α}
      (htype : msg.type = RET_GROUP_TIMER_MSG)
      (hsame : same_object ginfo.group_retransmission_timer msg = true)
      (hr : send_Q_group cfg gaddr ginfo q.env = .ok r) :
    GroupTimerStep cfg gaddr msg ginfo q (q.put gaddr r.1 r.2)
  | sources_queried {ginfo : GaddrInfo α} {q : Querier α}
      (htype : msg.type = RET_SOURCE_TIMER_MSG)
      (hsame : same_object ginfo.source_retransmission_timer msg = true) :
    GroupTimerStep cfg gaddr msg ginfo q
      (q.put gaddr (send_Q cfg gaddr ginfo ∅ true q.env).1
        (send_Q cfg gaddr ginfo ∅ true q.env).2)
  | older_host_gone {ginfo ginfo' : GaddrInfo α} {q : Querier α}
      (htype : msg.type = OLDER_HOST_PRESENT_TIMER_MSG)
      (hsame : same_object ginfo.older_host_present_timer msg = true)
      (hginfo' : ginfo' = { ginfo with older_host_present_timer := none }) :
    GroupTimerStep cfg gaddr msg ginfo q
      (q.put gaddr ginfo' (q.env.state_change_notification gaddr (some ginfo')))
  | newer_host {ginfo : GaddrInfo α} {q : Querier α} (version : GroupMemProtocol) (delay : ℕ)
      (htype : msg.type = OLDER_HOST_PRESENT_TIMER_MSG)
      (hsame : same_object ginfo.older_host_present_timer msg = true) :
    GroupTimerStep cfg gaddr msg ginfo q
      (q.put gaddr { ginfo with
        compatibility_mode_variable := version
        older_host_present_timer := some
          (q.env.make_shared cfg OLDER_HOST_PRESENT_TIMER_MSG (some gaddr) delay).1 }
        ((q.env.make_shared cfg OLDER_HOST_PRESENT_TIMER_MSG (some gaddr) delay).2.add_time delay
          (q.env.make_shared cfg OLDER_HOST_PRESENT_TIMER_MSG (some gaddr) delay).1))

theorem timer_triggerd_source_timer_step (cfg : Config) (gaddr : α) (ginfo : GaddrInfo α)
    (q : Querier α) (htype : msg.type = SOURCE_TIMER_MSG ∨ msg.type = FILTER_TIMER_MSG) :
    GroupTimerStep cfg gaddr msg ginfo q (timer_triggerd_source_timer gaddr ginfo msg q) := by
  unfold timer_triggerd_source_timer
  cases hmode : ginfo.filter_mode with
  | INCLUDE_MODE =>
    dsimp only
    split_ifs with hempty
    · exact .erased htype
    · exact .sources_deleted htype hmode (by rw [hmode]) (Bool.eq_false_of_not_eq_true hempty)
  | EXCLUDE_MODE => exact .sources_moved htype hmode (by rw [hmode])

theorem filter_timer_expired_step (cfg : Config) (gaddr : α) (ginfo : GaddrInfo α)
    (q : Querier α) (htype : msg.type = FILTER_TIMER_MSG) :
    GroupTimerStep cfg gaddr msg ginfo q (filter_timer_expired gaddr ginfo msg q) := by
  have hignored : GroupTimerStep cfg gaddr msg ginfo q q :=
    .ignored (fun h => by cases htype.symm.trans h) (fun h => by cases htype.symm.trans h)
  unfold filter_timer_expired
  cases hsame : same_object ginfo.shared_filter_timer msg with
  | false => exact hignored
  | true =>
    cases hmode : ginfo.filter_mode with
    | INCLUDE_MODE => exact hignored
    | EXCLUDE_MODE =>
      simp only [Bool.not_true, Bool.false_eq_true, if_false]
      split_ifs with hempty
      · exact .erased (Or.inr htype)
      · exact .filter_expired htype hsame hmode (Bool.eq_false_of_not_eq_true hempty) rfl

-- Every invariant of the database gets from here what a group's timer can do.
theorem timer_triggerd_group_step (h : timer_triggerd_group cfg gaddr ginfo msg q = .ok q') :
    GroupTimerStep cfg gaddr msg ginfo q q' := by
  unfold timer_triggerd_group at h
  split at h
  next htype =>
    unfold timer_triggerd_filter_timer at h
    split_ifs at h with hused
    · have hfirst := timer_triggerd_source_timer_step cfg gaddr ginfo q (Or.inr htype)
      dsimp only at h
      split at h
      next => cases h
      next ginfo₁ hlook =>
        obtain rfl := Except.ok.inj h
        exact .shared hused hfirst hlook (filter_timer_expired_step cfg gaddr ginfo₁ _ htype)
    · obtain rfl := Except.ok.inj h
      exact filter_timer_expired_step cfg gaddr ginfo q htype
  next htype =>
    obtain rfl := Except.ok.inj h
    exact timer_triggerd_source_timer_step cfg gaddr ginfo q (Or.inl htype)
  next htype =>
    unfold timer_triggerd_ret_group_timer at h
    split_ifs at h with hsame
    · obtain ⟨r, hr, rfl⟩ := exists_of_map_ok h
      exact .group_queried htype hsame hr
    · obtain rfl := Except.ok.inj h
      exact .ignored (fun _ => Bool.eq_false_of_not_eq_true hsame)
        (fun h => by cases htype.symm.trans h)
  next htype =>
    obtain rfl := Except.ok.inj h
    unfold timer_triggerd_ret_source_timer
    split_ifs with hsame
    · exact .sources_queried htype hsame
    · exact .ignored (fun h => by cases htype.symm.trans h)
        (fun _ => Bool.eq_false_of_not_eq_true hsame)
  next htype =>
    obtain rfl := Except.ok.inj h
    unfold timer_triggerd_older_host_present_timer
    split_ifs with hsame
    · exact .older_host_gone htype hsame rfl
    · exact .newer_host _ _ htype hsame
    · exact .ignored (fun h => by cases htype.symm.trans h) (fun h => by cases htype.symm.trans h)
  next _ _ hgroup hsource _ =>
    obtain rfl := Except.ok.inj h
    exact .ignored (fun h => absurd h hgroup) (fun h => absurd h hsource)

end Timer

section Role

-- What the constructor sets once and for all.
def Querier.SameRole (q q' : Querier α) : Prop :=
  q'.m_db.is_querier = q.m_db.is_querier ∧
    q'.m_db.querier_version_mode = q.m_db.querier_version_mode

theorem Querier.SameRole.trans {q q₁ q₂ : Querier α} (h : q.SameRole q₁) (h' : q₁.SameRole q₂) :
    q.SameRole q₂ := ⟨h'.1.trans h.1, h'.2.trans h.2⟩

variable {cfg : Config} {gaddr : α} {ginfo : GaddrInfo α} {msg : TimerMsg α} {q q' : Querier α}

theorem GroupTimerStep.role (h : GroupTimerStep cfg gaddr msg ginfo q q') : q.SameRole q' := by
  induction h with
  | shared _ _ _ _ hfirst hsecond => exact hfirst.trans hsecond
  | _ => exact ⟨rfl, rfl⟩

theorem querier_step_role {e : Event α} (h : querier_step cfg q e = .ok q') : q.SameRole q' := by
  cases e with
  | record gr =>
    obtain ⟨r, -, hcase⟩ := receive_record_cases h
    rcases hcase with ⟨-, -, rfl⟩ | ⟨-, ⟨r', -, -, ⟨-, -, rfl⟩ | ⟨-, rfl⟩⟩ | ⟨r', -, -, rfl⟩⟩ <;>
      exact ⟨rfl, rfl⟩
  | timer msg unique =>
    rcases timer_triggerd_cases h with ⟨-, rfl⟩ | ⟨-, rfl⟩ | ⟨-, rfl⟩ | ⟨gaddr, ginfo, -, -, hg⟩
    · exact ⟨rfl, rfl⟩
    · unfold timer_triggerd_general_query_timer
      split_ifs <;> exact ⟨rfl, rfl⟩
    · exact ⟨rfl, rfl⟩
    · exact (timer_triggerd_group_step hg).role

end Role

end Mcproxy
