import Mcproxy.Querier.Lowering
import Mcproxy.Querier.SourceQuery

namespace Mcproxy

open Container Transition McFilter McastAddrRecordType MessageType GroupMemProtocol

variable {α : Type*} [LinearOrder α]

-- What the counter of a source stands at when a row sends its queries.
inductive Entry (llqc : ℤ) (asked : Prop) (found : Option (Source α)) : ℤ → Prop
  | set (hasked : asked) (hcount : ∀ s, found = some s → s.retransmission_count < 1) :
    Entry llqc asked found llqc
  | kept (s : Source α) (hs : found = some s) (hcount : asked → 1 ≤ s.retransmission_count) :
    Entry llqc asked found s.retransmission_count

-- What a row makes of the counter of a source it does not set to MALI. Where it sets the counter,
-- it also sends the first query.
def RowPaid (cfg : Config) (gaddr a : α) (env env' : Env α) (asked reset : Prop)
    (l l' : SourceList α) : Prop :=
  ¬ reset → ∀ s', l'.find a = some s' →
    ∃ n, Entry cfg.tv.last_listener_query_count.toNat asked (l.find a) n ∧
      Paid env env' gaddr a n s' ∧
      (asked → (∀ s, l.find a = some s → s.retransmission_count < 1) →
        s'.retransmission_count = lowered n)

section Rows

variable {cfg : Config} {gaddr a : α} {ginfo ginfo₀ : GaddrInfo α} {slist tmp : SourceList α}
  {env env₁ env' : Env α} {asked reset : Prop} {l l₁ l' : SourceList α}

theorem RowPaid.of_kept (hasked : ¬ asked)
    (hcarried : env'.carried gaddr a = env.carried gaddr a)
    (hl : ¬ reset → ∀ s', l'.find a = some s' → l.find a = some s') :
    RowPaid cfg gaddr a env env' asked reset l l' := by
  intro hreset s' hs'
  exact ⟨_, .kept s' (hl hreset s' hs') (fun h => absurd h hasked), .of_same hcarried,
    fun h => absurd h hasked⟩

theorem RowPaid.then (h : RowPaid cfg gaddr a env env₁ asked reset l l₁)
    (hcarried : env'.carried gaddr a = env₁.carried gaddr a)
    (hl : ¬ reset → l'.find a = l₁.find a) : RowPaid cfg gaddr a env env' asked reset l l' := by
  intro hreset s' hs'
  rw [hl hreset] at hs'
  obtain ⟨n, hn, hpaid, hsent⟩ := h hreset s' hs'
  exact ⟨n, hn, ⟨by rw [hcarried]; exact hpaid.balance, hpaid.nonneg⟩, hsent⟩

theorem RowPaid.of_start (h : RowPaid cfg gaddr a env₁ env' asked reset l l')
    (hcarried : env₁.carried gaddr a = env.carried gaddr a) :
    RowPaid cfg gaddr a env env' asked reset l l' := by
  intro hreset s' hs'
  obtain ⟨n, hn, hpaid, hsent⟩ := h hreset s' hs'
  exact ⟨n, hn, ⟨by rw [← hcarried]; exact hpaid.balance, hpaid.nonneg⟩, hsent⟩

-- The sources of the list that `send_Q` works on are old ones and new ones that it asks about.
theorem RowPaid.of_send_Q (cfg : Config) (ret : Bool) (env : Env α)
    (hold : ¬ reset → ∀ s, ginfo₀.include_requested_list.find a = some s →
      l.find a = some s ∨ l.find a = none ∧ s.retransmission_count < 1 ∧ asked)
    (htmp : ¬ reset → a ∈ ginfo₀.include_requested_list → (a ∈ tmp ↔ asked))
    (hnull : ∀ s, l.find a = some s → 0 < s.retransmission_count → s.shared_source_timer ≠ none) :
    RowPaid cfg gaddr a env (send_Q cfg gaddr ginfo₀ tmp ret env).2 asked reset l
      (send_Q cfg gaddr ginfo₀ tmp ret env).1.include_requested_list := by
  intro hreset s' hs'
  replace hold := hold hreset
  replace htmp := htmp hreset
  have hmem := (mem_send_Q cfg gaddr ginfo₀ tmp ret env a).mp (OrdSet.mem_of_find hs')
  obtain ⟨s, hs⟩ := OrdSet.mem_iff_find.mp hmem
  have hnull₀ : 0 < s.retransmission_count → s.shared_source_timer ≠ none := by
    intro hpos
    rcases hold s hs with hl | ⟨-, hcount, -⟩
    · exact hnull s hl hpos
    · omega
  obtain ⟨n, rfl, s₁, hs₁, hpaid, hsent⟩ := send_Q_paid cfg gaddr tmp ret env hs hnull₀
  obtain rfl := Option.some.inj (hs'.symm.trans hs₁)
  refine ⟨_, ?_, hpaid, fun hasked hlow => hsent (Or.inl ⟨(htmp hmem).mpr hasked, ?_⟩)⟩
  on_goal 2 =>
    rcases hold s hs with hl | ⟨-, hcount, -⟩
    · exact hlow s hl
    · exact hcount
  split_ifs with hset
  · refine .set ((htmp hmem).mp hset.1) fun s₂ hs₂ => ?_
    rcases hold s hs with hl | ⟨hl, -, -⟩
    · obtain rfl := Option.some.inj (hs₂.symm.trans hl)
      exact hset.2
    · cases hs₂.symm.trans hl
  · rcases hold s hs with hl | ⟨-, hcount, hasked⟩
    · exact .kept s hl fun hasked => not_lt.mp fun hc => hset ⟨(htmp hmem).mpr hasked, hc⟩
    · exact absurd ⟨(htmp hmem).mpr hasked, hcount⟩ hset

-- What is not in the list a row sets to MALI was there before.
theorem find_of_find_mali_add (hB : a ∉ slist) {s' : Source α}
    (hs' : (mali cfg gaddr (l + slist) slist env).1.find a = some s') : l.find a = some s' := by
  rw [find_mali, if_neg hB] at hs'
  rcases SourceList.find_of_find_add hs' with hs' | ⟨-, hs'⟩
  · exact hs'
  · exact absurd (OrdSet.mem_of_find hs') hB

-- The sources TO_IN asks about.
theorem RowPaid.of_send_Q_sub (cfg : Config) (ginfo₀ : GaddrInfo α) (env : Env α)
    (hlist : ginfo₀.include_requested_list = l + slist)
    (hnull : ∀ s, l.find a = some s → 0 < s.retransmission_count → s.shared_source_timer ≠ none) :
    RowPaid cfg gaddr a env (send_Q cfg gaddr ginfo₀ (l + slist - slist) false env).2
      (a ∈ l.addrs \ slist.addrs) (a ∈ slist.addrs) l
      (send_Q cfg gaddr ginfo₀ (l + slist - slist) false env).1.include_requested_list := by
  refine .of_send_Q cfg false env (fun hB s hs => ?_) (fun hB hmem => ?_) hnull
  · rw [hlist] at hs
    rcases SourceList.find_of_find_add hs with hs | ⟨-, hs⟩
    · exact Or.inl hs
    · exact absurd (OrdSet.mem_of_find hs) hB
  · rw [hlist, SourceList.mem_add] at hmem
    rw [SourceList.mem_sub, SourceList.mem_add]
    exact ⟨fun h => ⟨hmem.resolve_right h.2, h.2⟩, fun h => ⟨hmem, h.2⟩⟩

theorem receive_record_in_include_mode_paid (cfg : Config) (record_type : McastAddrRecordType)
    (gaddr a : α) (slist : SourceList α) (env : Env α) (hmode : ginfo.filter_mode = INCLUDE_MODE)
    (hnull : ∀ s, ginfo.include_requested_list.find a = some s → 0 < s.retransmission_count →
      s.shared_source_timer ≠ none) :
    RowPaid cfg gaddr a env
      (receive_record_in_include_mode cfg record_type gaddr slist ginfo env).2
      (a ∈ ginfo.router_state.query_set record_type slist.addrs)
      (a ∈ ginfo.router_state.mali_set record_type slist.addrs) ginfo.include_requested_list
      (receive_record_in_include_mode cfg record_type gaddr slist ginfo
        env).1.include_requested_list := by
  rw [GaddrInfo.router_state_include hmode]
  cases record_type with
  | ALLOW_NEW_SOURCES | MODE_IS_INCLUDE =>
    refine .of_kept (Set.notMem_empty a) (by simp [receive_record_in_include_mode]) ?_
    exact fun hB s' hs' => find_of_find_mali_add hB hs'
  | BLOCK_OLD_SOURCES =>
    refine .of_send_Q cfg false env (fun _ s hs => Or.inl hs) (fun _ _ => ?_) hnull
    exact SourceList.mem_mul ..
  | CHANGE_TO_EXCLUDE_MODE =>
    refine .then (.of_send_Q cfg false env (fun _ s hs => Or.inl ?_) (fun _ hmem => ?_) hnull)
      (by simp [receive_record_in_include_mode]) (fun _ => rfl)
    · exact (SourceList.find_of_find_mul hs).2
    · have hmem := (SourceList.mem_mul ..).mp hmem
      have htmp := (SourceList.mem_mul ..).mpr ⟨(SourceList.mem_mul ..).mpr hmem, hmem.2⟩
      exact iff_of_true htmp hmem
  | CHANGE_TO_INCLUDE_MODE =>
    refine .then (.of_send_Q_sub cfg { ginfo with
      include_requested_list := ginfo.include_requested_list + slist } env rfl hnull)
      (by simp [receive_record_in_include_mode]) (fun hB => ?_)
    exact (find_mali ..).trans (if_neg hB)
  | MODE_IS_EXCLUDE =>
    refine .of_kept (Set.notMem_empty a) (by simp [receive_record_in_include_mode]) ?_
    exact fun _ s' hs' => (SourceList.find_of_find_mul hs').2
  | unknown v => exact .of_kept (Set.notMem_empty a) rfl (fun _ s' hs' => hs')

theorem receive_record_in_exclude_mode_paid {record_type : McastAddrRecordType}
    {r : GaddrInfo α × Env α} (hmode : ginfo.filter_mode = EXCLUDE_MODE)
    (hdisj : a ∈ ginfo.include_requested_list → a ∉ ginfo.exclude_list)
    (hfresh : ∀ s, slist.find a = some s → s.fresh)
    (hnull : ∀ s, ginfo.include_requested_list.find a = some s → 0 < s.retransmission_count →
      s.shared_source_timer ≠ none)
    (h : receive_record_in_exclude_mode cfg record_type gaddr slist ginfo env = .ok r) :
    RowPaid cfg gaddr a env r.2 (a ∈ ginfo.router_state.query_set record_type slist.addrs)
      (a ∈ ginfo.router_state.mali_set record_type slist.addrs) ginfo.include_requested_list
      r.1.include_requested_list := by
  rw [GaddrInfo.router_state_exclude hmode]
  cases record_type with
  | ALLOW_NEW_SOURCES | MODE_IS_INCLUDE =>
    obtain rfl := Except.ok.inj h
    refine .of_kept (Set.notMem_empty a) (by simp) ?_
    exact fun hB s' hs' => find_of_find_mali_add hB hs'
  | BLOCK_OLD_SOURCES =>
    obtain rfl := Except.ok.inj h
    refine .of_send_Q cfg false env (fun _ s hs => ?_) (fun _ _ => SourceList.mem_sub ..) hnull
    rcases SourceList.find_of_find_add hs with hs | ⟨hnot, hs⟩
    · exact Or.inl hs
    · obtain ⟨hY, hA⟩ := SourceList.find_of_find_sub hs
      exact Or.inr
        ⟨OrdSet.find_eq_none_iff.mpr hnot, (hfresh s hA).count, OrdSet.mem_of_find hA, hY⟩
  | CHANGE_TO_EXCLUDE_MODE =>
    obtain rfl := Except.ok.inj h
    refine .then (.of_send_Q cfg false env (fun _ s hs => ?_) (fun _ hmem => ?_) hnull)
      (by simp) (fun _ => rfl)
    · rcases SourceList.find_of_find_add hs with hs | ⟨hnot, hs⟩
      · exact Or.inl (SourceList.find_of_find_mul hs).2
      · obtain ⟨hY, hA⟩ := SourceList.find_of_find_sub hs
        have hA' := OrdSet.mem_of_find hA
        have hX : a ∉ ginfo.include_requested_list :=
          fun hX => hnot ((SourceList.mem_mul ..).mpr ⟨hX, hA'⟩)
        exact Or.inr ⟨OrdSet.find_eq_none_iff.mpr hX, (hfresh s hA).count, hA', hY⟩
    · refine iff_of_true hmem ?_
      rcases (SourceList.mem_add ..).mp hmem with h | h
      · have h := (SourceList.mem_mul ..).mp h
        exact ⟨h.2, hdisj h.1⟩
      · exact (SourceList.mem_sub ..).mp h
  | CHANGE_TO_INCLUDE_MODE =>
    obtain ⟨r', hr', rfl⟩ := exists_of_map_ok h
    obtain ⟨ft, rt, count, hfst⟩ := send_Q_group_frame hr'
    refine .then (.of_send_Q_sub cfg { ginfo with
      include_requested_list := ginfo.include_requested_list + slist
      exclude_list := ginfo.exclude_list - slist } env rfl hnull)
      (by simp [carried_send_Q_group hr']) (fun hB => ?_)
    refine (find_mali ..).trans ((if_neg hB).trans ?_)
    rw [hfst]
  | MODE_IS_EXCLUDE =>
    obtain rfl := Except.ok.inj h
    refine .of_kept (Set.notMem_empty a) (by simp) ?_
    intro hnot s' hs'
    rcases SourceList.find_of_find_add hs' with hs' | ⟨hX, hs'⟩
    · exact (SourceList.find_of_find_mul hs').2
    · obtain ⟨hY, hA⟩ := SourceList.find_of_find_sub hs'
      have hA := OrdSet.mem_of_find hA
      refine absurd ⟨⟨(mem_mali ..).mp hA, fun hx => hX ?_⟩, hY⟩ hnot
      exact (SourceList.mem_mul ..).mpr ⟨hx, hA⟩
  | unknown v =>
    obtain rfl := Except.ok.inj h
    exact .of_kept (Set.notMem_empty a) rfl (fun _ s' hs' => hs')

-- No source with queries to come is new.
theorem SourceEpisode.of_list (h : SourceEpisode env gaddr ginfo) (hsub : env.timing ⊆ env'.timing)
    (htimer : ginfo₀.source_retransmission_timer = ginfo.source_retransmission_timer)
    (hl : ∀ a s, ginfo₀.include_requested_list.find a = some s → 0 < s.retransmission_count →
      ginfo.include_requested_list.find a = some s) : SourceEpisode env' gaddr ginfo₀ := by
  intro a s hs hpos
  rw [htimer]
  exact (h a s (hl a s hs hpos) hpos).mono hsub

theorem SourceEpisode.send_Q_of_list (h : SourceEpisode env gaddr ginfo) (cfg : Config)
    (ginfo₀ : GaddrInfo α) (tmp : SourceList α)
    (htimer : ginfo₀.source_retransmission_timer = ginfo.source_retransmission_timer)
    (hl : ∀ a s, ginfo₀.include_requested_list.find a = some s → 0 < s.retransmission_count →
      ginfo.include_requested_list.find a = some s) :
    SourceEpisode (Mcproxy.send_Q cfg gaddr ginfo₀ tmp false env).2 gaddr
      (Mcproxy.send_Q cfg gaddr ginfo₀ tmp false env).1 :=
  .send_Q cfg tmp fun _ => h.of_list (List.Subset.refl _) htimer hl

theorem SourceEpisode.send_Q_group (h : SourceEpisode env gaddr ginfo) {r : GaddrInfo α × Env α}
    (hr : send_Q_group cfg gaddr ginfo env = .ok r) : SourceEpisode r.2 gaddr r.1 := by
  obtain ⟨ft, rt, count, hfst⟩ := send_Q_group_frame hr
  rw [hfst]
  exact h.of_list (send_Q_group_extends hr).timing rfl fun a s hs _ => hs

theorem find_of_find_mali_pos {s : Source α} (hs : (mali cfg gaddr l slist env).1.find a = some s)
    (hpos : 0 < s.retransmission_count) : a ∉ slist ∧ l.find a = some s := by
  rw [find_mali] at hs
  split_ifs at hs with ha
  · obtain ⟨s₀, -, rfl⟩ := Option.map_eq_some_iff.mp hs
    cases hpos
  · exact ⟨ha, hs⟩

theorem find_of_find_add_fresh (hfresh : ∀ a s, slist.find a = some s → s.retransmission_count < 1)
    {s : Source α} (hs : (l + slist).find a = some s) (hpos : 0 < s.retransmission_count) :
    l.find a = some s := by
  rcases SourceList.find_of_find_add hs with hs | ⟨-, hs⟩
  · exact hs
  · have := hfresh a s hs
    omega

theorem receive_record_in_include_mode_source_episode (cfg : Config)
    (record_type : McastAddrRecordType) (h : SourceEpisode env gaddr ginfo)
    (hfresh : ∀ a s, slist.find a = some s → s.retransmission_count < 1) :
    SourceEpisode (receive_record_in_include_mode cfg record_type gaddr slist ginfo env).2 gaddr
      (receive_record_in_include_mode cfg record_type gaddr slist ginfo env).1 := by
  have hsub := receive_record_in_include_mode_timing cfg record_type gaddr slist ginfo env
  have hadd : ∀ a s, (ginfo.include_requested_list + slist).find a = some s →
      0 < s.retransmission_count → ginfo.include_requested_list.find a = some s :=
    fun a s hs hpos => find_of_find_add_fresh hfresh hs hpos
  have hmul : ∀ a s, (ginfo.include_requested_list * slist).find a = some s →
      0 < s.retransmission_count → ginfo.include_requested_list.find a = some s :=
    fun a s hs _ => (SourceList.find_of_find_mul hs).2
  cases record_type with
  | ALLOW_NEW_SOURCES | MODE_IS_INCLUDE =>
    refine h.of_list hsub rfl fun a s hs hpos => ?_
    exact hadd a s (find_of_find_mali_pos hs hpos).2 hpos
  | BLOCK_OLD_SOURCES => exact .send_Q cfg _ fun _ => h
  | CHANGE_TO_EXCLUDE_MODE =>
    have hsent := h.send_Q_of_list cfg { ginfo with
      filter_mode := EXCLUDE_MODE
      include_requested_list := ginfo.include_requested_list * slist
      exclude_list := slist - ginfo.include_requested_list * slist }
      (ginfo.include_requested_list * slist * slist) rfl hmul
    exact hsent.of_list (mali_filter_timer_extends cfg gaddr ginfo _).timing rfl
      (fun _ _ hs _ => hs)
  | CHANGE_TO_INCLUDE_MODE =>
    have hsent := h.send_Q_of_list cfg { ginfo with
      include_requested_list := ginfo.include_requested_list + slist }
      (ginfo.include_requested_list + slist - slist) rfl hadd
    exact hsent.of_list (mali_extends ..).timing rfl fun a s hs hpos =>
      (find_of_find_mali_pos hs hpos).2
  | MODE_IS_EXCLUDE => exact h.of_list hsub rfl hmul
  | unknown v => exact h

theorem receive_record_in_exclude_mode_source_episode {record_type : McastAddrRecordType}
    {r : GaddrInfo α × Env α} (h : SourceEpisode env gaddr ginfo)
    (hfresh : ∀ a s, slist.find a = some s → s.retransmission_count < 1)
    (hr : receive_record_in_exclude_mode cfg record_type gaddr slist ginfo env = .ok r) :
    SourceEpisode r.2 gaddr r.1 := by
  have hsub := receive_record_in_exclude_mode_timing hr
  have hfresh' : ∀ a s, (slist - ginfo.exclude_list).find a = some s →
      s.retransmission_count < 1 :=
    fun a s hs => hfresh a s (SourceList.find_of_find_sub hs).2
  have hadd : ∀ a s, (ginfo.include_requested_list + slist).find a = some s →
      0 < s.retransmission_count → ginfo.include_requested_list.find a = some s :=
    fun a s hs hpos => find_of_find_add_fresh hfresh hs hpos
  cases record_type with
  | ALLOW_NEW_SOURCES | MODE_IS_INCLUDE =>
    obtain rfl := Except.ok.inj hr
    refine h.of_list hsub rfl fun a s hs hpos => ?_
    exact hadd a s (find_of_find_mali_pos hs hpos).2 hpos
  | BLOCK_OLD_SOURCES =>
    obtain rfl := Except.ok.inj hr
    exact h.send_Q_of_list cfg _ _ rfl fun a s hs hpos => find_of_find_add_fresh hfresh' hs hpos
  | CHANGE_TO_EXCLUDE_MODE =>
    obtain rfl := Except.ok.inj hr
    have hsent := h.send_Q_of_list cfg { ginfo with
      include_requested_list :=
        ginfo.include_requested_list * slist + (slist - ginfo.exclude_list)
      exclude_list := ginfo.exclude_list * slist }
      (ginfo.include_requested_list * slist + (slist - ginfo.exclude_list)) rfl
      fun a s hs hpos => (SourceList.find_of_find_mul (find_of_find_add_fresh hfresh' hs hpos)).2
    exact hsent.of_list (mali_filter_timer_extends cfg gaddr ginfo _).timing rfl
      (fun _ _ hs _ => hs)
  | CHANGE_TO_INCLUDE_MODE =>
    obtain ⟨rg, hrg, rfl⟩ := exists_of_map_ok hr
    have hsent := h.send_Q_of_list cfg { ginfo with
      include_requested_list := ginfo.include_requested_list + slist
      exclude_list := ginfo.exclude_list - slist }
      (ginfo.include_requested_list + slist - slist) rfl hadd
    exact (hsent.send_Q_group hrg).of_list (mali_extends ..).timing rfl fun a s hs hpos =>
      (find_of_find_mali_pos hs hpos).2
  | MODE_IS_EXCLUDE =>
    obtain rfl := Except.ok.inj hr
    refine h.of_list hsub rfl fun a s hs hpos => ?_
    refine (SourceList.find_of_find_mul (find_of_find_add_fresh (fun b s₁ hs₁ => ?_) hs hpos)).2
    by_contra hcount
    have hpos₁ : 0 < s₁.retransmission_count := not_lt.mp hcount
    have hslist := (find_of_find_mali_pos (SourceList.find_of_find_sub hs₁).2 hpos₁).2
    exact hcount (hfresh b s₁ hslist)
  | unknown v =>
    obtain rfl := Except.ok.inj hr
    exact h

theorem carried_receive_record_in_include_mode (record_type : McastAddrRecordType) {g : α}
    (hg : g ≠ gaddr) :
    (receive_record_in_include_mode cfg record_type gaddr slist ginfo env).2.carried g a =
      env.carried g a := by
  cases record_type <;> simp [receive_record_in_include_mode, carried_send_Q_other hg]

theorem carried_receive_record_in_exclude_mode {record_type : McastAddrRecordType}
    {r : GaddrInfo α × Env α} {g : α} (hg : g ≠ gaddr)
    (h : receive_record_in_exclude_mode cfg record_type gaddr slist ginfo env = .ok r) :
    r.2.carried g a = env.carried g a := by
  cases record_type with
  | CHANGE_TO_INCLUDE_MODE =>
    obtain ⟨r', hr', rfl⟩ := exists_of_map_ok h
    simp [carried_send_Q_group hr', carried_send_Q_other hg]
  | _ =>
    obtain rfl := Except.ok.inj h
    simp [carried_send_Q_other hg]

end Rows

-- The source as the database has it.
def Querier.source (q : Querier α) (gaddr a : α) : Option (Source α) :=
  (requested (OrdMap.lookup q.m_db.group_info gaddr)).find a

-- A BLOCK in compatibility mode is ignored; any other record asks about the sources of the
-- Send Q(MA, ...) of its row.
def asks_about (cfg : Config) (gr : GroupRecordMsg α) (q : Querier α) (a : α) : Prop :=
  ¬ ((row_start cfg gr q).1.is_in_backward_compatibility_mode = true ∧
      gr.record_type = BLOCK_OLD_SOURCES) ∧
    a ∈ (router_state (OrdMap.lookup q.m_db.group_info gr.gaddr)).query_set gr.record_type
      (compatible_slist (row_start cfg gr q).1 gr).addrs

-- The counter of the source is set to LLQC.
def sets_counter (cfg : Config) (gaddr a : α) (q : Querier α) : Event α → Prop
  | .timer _ _ => False
  | .record gr => gr.gaddr = gaddr ∧ asks_about cfg gr q a ∧
      ∀ s, q.source gaddr a = some s → s.retransmission_count < 1

-- The source is set to MALI.
def resets_counter (cfg : Config) (gaddr a : α) (q : Querier α) : Event α → Prop
  | .timer _ _ => False
  | .record gr => gr.gaddr = gaddr ∧
      a ∈ (router_state (OrdMap.lookup q.m_db.group_info gr.gaddr)).mali_set gr.record_type
        (compatible_slist (row_start cfg gr q).1 gr).addrs

-- The counter of the source is where the queries in between have brought it.
def Querier.Conserves (q q' : Querier α) (gaddr a : α) : Prop :=
  ∀ s', q'.source gaddr a = some s' → ∃ s, q.source gaddr a = some s ∧
    Paid q.env q'.env gaddr a s.retransmission_count s'

def SourceEpisodeInv (q : Querier α) : Prop :=
  ∀ g ginfo, OrdMap.lookup q.m_db.group_info g = some ginfo → SourceEpisode q.env g ginfo

section Record

variable {cfg : Config} {mode : GroupMemProtocol} {q q' : Querier α} {gr : GroupRecordMsg α}
  {gaddr a : α}

theorem Querier.Conserves.of_same
    (hlook : OrdMap.lookup q'.m_db.group_info gaddr = OrdMap.lookup q.m_db.group_info gaddr)
    (hcarried : q'.env.carried gaddr a = q.env.carried gaddr a) : q.Conserves q' gaddr a := by
  intro s' hs'
  rw [Querier.source, hlook] at hs'
  exact ⟨s', hs', .of_same hcarried⟩

theorem carried_row_start (cfg : Config) (gr : GroupRecordMsg α) (q : Querier α) (gaddr a : α) :
    (row_start cfg gr q).2.carried gaddr a = q.env.carried gaddr a :=
  carried_note_older_host ..

-- The other groups are not asked about.
theorem receive_record_conserves_other (h : receive_record cfg gr q = .ok q')
    (hne : gaddr ≠ gr.gaddr) : q.Conserves q' gaddr a := by
  obtain ⟨r, hr, hcase⟩ := receive_record_cases h
  obtain rfl : row_start cfg gr q = r := hr.symm
  have hstart := carried_row_start cfg gr q gaddr a
  rcases hcase with ⟨-, -, rfl⟩ | ⟨-, ⟨r', -, rfl, hput⟩ | ⟨r', -, hr', rfl⟩⟩
  · exact .of_same (by simp [hne]) hstart
  · have hcarried := @carried_receive_record_in_include_mode α _ cfg gr.gaddr a
      (row_start cfg gr q).1 (compatible_slist (row_start cfg gr q).1 gr) (row_start cfg gr q).2
      gr.record_type gaddr hne
    rcases hput with ⟨-, -, rfl⟩ | ⟨-, rfl⟩
    · exact .of_same (by simp [hne]) (hcarried.trans hstart)
    · exact .of_same (by simp [hne]) (hcarried.trans hstart)
  · have hcarried := @carried_receive_record_in_exclude_mode α _ cfg gr.gaddr a
      (row_start cfg gr q).1 (compatible_slist (row_start cfg gr q).1 gr) (row_start cfg gr q).2
      gr.record_type r' gaddr hne hr'
    exact .of_same (by simp [hne]) (hcarried.trans hstart)

theorem receive_record_paid (hinv : QuerierInv q) (hgr : gr.built_by_receiver mode)
    (h : receive_record cfg gr q = .ok q') (a : α) :
    RowPaid cfg gr.gaddr a q.env q'.env (asks_about cfg gr q a)
      (a ∈ (router_state (OrdMap.lookup q.m_db.group_info gr.gaddr)).mali_set gr.record_type
        (compatible_slist (row_start cfg gr q).1 gr).addrs)
      (requested (OrdMap.lookup q.m_db.group_info gr.gaddr))
      (requested (OrdMap.lookup q'.m_db.group_info gr.gaddr)) := by
  obtain ⟨r, hr, hcase⟩ := receive_record_cases h
  obtain rfl : row_start cfg gr q = r := hr.symm
  have hinv' := (hinv.group gr.gaddr).1.note_older_host cfg q.m_db.querier_version_mode
    gr.grp_mem_proto
  rw [← hr] at hinv'
  have hnull : ∀ s, (row_start cfg gr q).1.include_requested_list.find a = some s →
      0 < s.retransmission_count → s.shared_source_timer ≠ none := by
    intro s hs _
    obtain ⟨t, -, ht, -⟩ := hinv'.armed hs
    exact ht ▸ Option.some_ne_none t
  have hstart := carried_row_start cfg gr q gr.gaddr a
  unfold asks_about
  rw [router_state_row_start cfg, requested_row_start cfg]
  rcases hcase with ⟨hcompat, hblock, rfl⟩ | ⟨hrow, hcase⟩
  · refine .of_kept (fun h => h.1 ⟨hcompat, hblock⟩) hstart fun _ s' hs' => ?_
    simpa [requested] using hs'
  · simp only [hrow, not_false_eq_true, true_and]
    rcases hcase with ⟨r', hmode, rfl, hput⟩ | ⟨r', hmode, hr', rfl⟩
    · have hpaid := (receive_record_in_include_mode_paid cfg gr.record_type gr.gaddr a
        (compatible_slist (row_start cfg gr q).1 gr) (row_start cfg gr q).2 hmode
        hnull).of_start hstart
      rcases hput with ⟨-, -, rfl⟩ | ⟨-, rfl⟩
      · intro _ s' hs'
        simp [requested] at hs'
      · exact hpaid.then rfl fun _ => by simp [requested]
    · have hpaid := (receive_record_in_exclude_mode_paid hmode (hinv'.disjoint a)
        (hgr.fresh (row_start cfg gr q).1 a) hnull hr').of_start hstart
      exact hpaid.then rfl fun _ => by simp [requested]

-- A record that is only now created has no sources.
theorem Querier.lookup_of_find {s : Source α}
    (hs : (q.group gaddr).include_requested_list.find a = some s) :
    OrdMap.lookup q.m_db.group_info gaddr = some (q.group gaddr) := by
  unfold Querier.group at hs ⊢
  cases hlook : OrdMap.lookup q.m_db.group_info gaddr with
  | none => simp [hlook, GaddrInfo.new] at hs
  | some ginfo => rfl

theorem receive_record_source_episodes (hep : SourceEpisodeInv q)
    (hgr : gr.built_by_receiver mode) (h : receive_record cfg gr q = .ok q') :
    SourceEpisodeInv q' := by
  obtain ⟨r, hr, hcase⟩ := receive_record_cases h
  have hext : q.env.Extends r.2 := hr ▸ note_older_host_extends ..
  obtain ⟨version, timer, hfst⟩ := note_older_host_frame cfg q.m_db.querier_version_mode
    gr.grp_mem_proto gr.gaddr (q.group gr.gaddr) q.env
  rw [← hr] at hfst
  have hgroup : SourceEpisode r.2 gr.gaddr r.1 := by
    intro a s hs hpos
    rw [hfst] at hs ⊢
    exact (hep _ _ (Querier.lookup_of_find hs) a s hs hpos).extends hext
  have hothers : ∀ env : Env α, r.2.timing ⊆ env.timing → ∀ g gi, g ≠ gr.gaddr →
      OrdMap.lookup q.m_db.group_info g = some gi → SourceEpisode env g gi :=
    fun env hsub g gi _ hlook a s hs hpos =>
      (hep g gi hlook a s hs hpos).mono (List.Subset.trans hext.timing hsub)
  have hfresh : ∀ a s, (compatible_slist r.1 gr).find a = some s → s.retransmission_count < 1 :=
    fun a s hs => (hgr.fresh r.1 a s hs).count
  rcases hcase with ⟨-, -, rfl⟩ | ⟨-, ⟨r', -, hr', hres⟩ | ⟨r', -, hr', rfl⟩⟩
  · exact Querier.forall_put (hothers _ (List.Subset.refl _)) hgroup
  · have hsub := receive_record_in_include_mode_timing cfg gr.record_type gr.gaddr
      (compatible_slist r.1 gr) r.1 r.2
    have hrow := receive_record_in_include_mode_source_episode cfg gr.record_type hgroup hfresh
    rw [← hr'] at hsub hrow
    rcases hres with ⟨-, -, rfl⟩ | ⟨-, rfl⟩
    · exact Querier.forall_del (hothers _ hsub)
    · exact Querier.forall_put (hothers _ hsub) hrow
  · exact Querier.forall_put (hothers _ (receive_record_in_exclude_mode_timing hr'))
      (receive_record_in_exclude_mode_source_episode hgroup hfresh hr')

end Record

-- What a timer does to the sources: it sets no counter.
structure SourcesStep (q q' : Querier α) : Prop where
  history : q.env.trace <+: q'.env.trace
  conserves : ∀ g a, q.Conserves q' g a
  episodes : SourceEpisodeInv q'

section Timer

variable {cfg : Config} {gaddr a : α} {ginfo ginfo' : GaddrInfo α} {env : Env α}
  {q q' : Querier α} {msg : TimerMsg α}

theorem SourceEpisode.deliver (h : SourceEpisode q.env gaddr ginfo)
    (hne : ginfo.source_retransmission_timer ≠ some msg) :
    SourceEpisode (q.deliver msg).env gaddr ginfo :=
  fun a s hs hpos => (h a s hs hpos).deliver hne

theorem SourceEpisodeInv.deliver_of_type (h : SourceEpisodeInv q)
    (ht : msg.type ≠ RET_SOURCE_TIMER_MSG) : SourceEpisodeInv (q.deliver msg) :=
  fun g gi hlook a s hs hpos =>
    have harmed := h g gi hlook a s hs hpos
    harmed.deliver (harmed.ne_of_type ht)

theorem SourceEpisodeInv.deliver_of_gaddr (h : SourceEpisodeInv q) {g : α} {gi : GaddrInfo α}
    (hg : msg.gaddr ≠ some g) (hlook : OrdMap.lookup q.m_db.group_info g = some gi) :
    SourceEpisode (q.deliver msg).env g gi :=
  fun a s hs hpos =>
    have harmed := h g gi hlook a s hs hpos
    harmed.deliver (harmed.ne_of_gaddr hg)

@[simp] theorem Querier.carried_deliver (q : Querier α) (msg : TimerMsg α) (gaddr a : α) :
    (q.deliver msg).env.carried gaddr a = q.env.carried gaddr a := rfl

theorem SourcesStep.of_delivered (h : SourceEpisodeInv (q.deliver msg)) :
    SourcesStep q (q.deliver msg) :=
  ⟨List.prefix_rfl, fun _ _ => .of_same rfl rfl, h⟩

theorem SourcesStep.put (hlook : OrdMap.lookup q.m_db.group_info gaddr = some ginfo)
    (htrace : q.env.trace <+: env.trace)
    (hothers : ∀ g gi, g ≠ gaddr → OrdMap.lookup q.m_db.group_info g = some gi →
      SourceEpisode env g gi) (hg : SourceEpisode env gaddr ginfo')
    (hcarried : ∀ g a, g ≠ gaddr → env.carried g a = q.env.carried g a)
    (hpaid : ∀ a s', ginfo'.include_requested_list.find a = some s' →
      ∃ s, ginfo.include_requested_list.find a = some s ∧
        Paid q.env env gaddr a s.retransmission_count s') :
    SourcesStep q ((q.deliver msg).put gaddr ginfo' env) where
  history := htrace
  conserves := by
    intro g a
    by_cases he : g = gaddr
    · subst he
      intro s' hs'
      obtain ⟨s, hs, h⟩ := hpaid a s' (by simpa [Querier.source, requested] using hs')
      exact ⟨s, by rw [Querier.source, hlook]; exact hs, h⟩
    · refine .of_same ?_ (hcarried g a he)
      rw [Querier.lookup_put, if_neg he]
      rfl
  episodes := @Querier.forall_put α _ (q.deliver msg) gaddr ginfo' env _ hothers hg

theorem SourcesStep.del (htrace : q.env.trace <+: env.trace)
    (hothers : ∀ g gi, g ≠ gaddr → OrdMap.lookup q.m_db.group_info g = some gi →
      SourceEpisode env g gi)
    (hcarried : ∀ g a, env.carried g a = q.env.carried g a) :
    SourcesStep q ((q.deliver msg).del gaddr env) where
  history := htrace
  conserves := by
    intro g a
    by_cases he : g = gaddr
    · intro s' hs'
      simp [Querier.source, requested, he] at hs'
    · refine .of_same ?_ (hcarried g a)
      rw [Querier.lookup_del, if_neg he]
      rfl
  episodes := @Querier.forall_del α _ (q.deliver msg) gaddr env _ hothers

-- A retransmission asks about no further source.
theorem send_Q_retransmission_paid (cfg : Config) {env : Env α} (hg : GroupInv env gaddr ginfo)
    (env' : Env α) {s' : Source α}
    (hs' : (send_Q cfg gaddr ginfo ∅ true env').1.include_requested_list.find a = some s') :
    ∃ s, ginfo.include_requested_list.find a = some s ∧
      Paid env' (send_Q cfg gaddr ginfo ∅ true env').2 gaddr a s.retransmission_count s' ∧
      s'.retransmission_count = lowered s.retransmission_count := by
  have hmem := (mem_send_Q cfg gaddr ginfo ∅ true env' a).mp (OrdSet.mem_of_find hs')
  obtain ⟨s, hs⟩ := OrdSet.mem_iff_find.mp hmem
  obtain ⟨t, -, ht, -⟩ := hg.armed hs
  have hnull : 0 < s.retransmission_count → s.shared_source_timer ≠ none :=
    fun _ => ht ▸ Option.some_ne_none t
  obtain ⟨n, hn, s₁, hs₁, hpaid, hsent⟩ := send_Q_paid cfg gaddr ∅ true env' hs hnull
  obtain rfl := Option.some.inj (hs'.symm.trans hs₁)
  rw [if_neg (fun h => OrdSet.notMem_empty a h.1)] at hn
  subst hn
  exact ⟨s, hs, hpaid, hsent (Or.inr rfl)⟩

-- The current timer asks about every source with queries to come, once.
theorem ret_source_timer_queries (cfg : Config) (mode : GroupMemProtocol) (hinv : QuerierInv q)
    (hlook : OrdMap.lookup q.m_db.group_info gaddr = some ginfo)
    (hcurrent : ginfo.source_retransmission_timer = some msg)
    (htype : msg.type = RET_SOURCE_TIMER_MSG) (hgaddr : msg.gaddr = some gaddr) :
    ∃ q', (querier α cfg mode).step q (.timer msg false) = .ok q' ∧
      ∀ a s, ginfo.include_requested_list.find a = some s → 0 < s.retransmission_count →
        ∃ s', q'.source gaddr a = some s' ∧
          s'.retransmission_count = s.retransmission_count - 1 ∧
          q'.env.carried gaddr a = q.env.carried gaddr a + 1 := by
  have hstep : (querier α cfg mode).step q (.timer msg false) = .ok ((q.deliver msg).put gaddr
      (send_Q cfg gaddr ginfo ∅ true (q.deliver msg).env).1
      (send_Q cfg gaddr ginfo ∅ true (q.deliver msg).env).2) := by
    have hfound : OrdMap.lookup (q.deliver msg).m_db.group_info gaddr = some ginfo := hlook
    simp [querier, querier_step, timer_triggerd, htype, hgaddr, hfound, timer_triggerd_group,
      timer_triggerd_ret_source_timer, hcurrent, same_object_self]
  refine ⟨_, hstep, fun a s hs hpos => ?_⟩
  have hmem := (mem_send_Q cfg gaddr ginfo ∅ true (q.deliver msg).env a).mpr (OrdSet.mem_of_find hs)
  obtain ⟨s', hs'⟩ := OrdSet.mem_iff_find.mp hmem
  obtain ⟨s₁, hs₁, hpaid, hlow⟩ :=
    send_Q_retransmission_paid cfg (hinv.groups gaddr ginfo hlook).1 (q.deliver msg).env hs'
  obtain rfl := Option.some.inj (hs.symm.trans hs₁)
  rw [lowered, if_pos hpos] at hlow
  refine ⟨s', by simpa [Querier.source, requested] using hs', hlow, ?_⟩
  have hbalance := hpaid.balance
  rw [Querier.carried_deliver] at hbalance
  rw [Querier.put_env]
  omega

theorem timer_triggerd_group_sources (hinv : QuerierInv q) (hep : SourceEpisodeInv q)
    (hmem : msg ∈ q.env.timing) (hgaddr : msg.gaddr = some gaddr)
    (hlook : OrdMap.lookup q.m_db.group_info gaddr = some ginfo)
    (h : timer_triggerd_group cfg gaddr ginfo msg (q.deliver msg) = .ok q') :
    SourcesStep q q' := by
  have hothers : ∀ g gi, g ≠ gaddr → OrdMap.lookup q.m_db.group_info g = some gi →
      SourceEpisode (q.deliver msg).env g gi := by
    intro g gi hne hl
    refine hep.deliver_of_gaddr (fun hg => hne ?_) hl
    exact Option.some.inj (hg.symm.trans hgaddr)
  -- a handler that sends no source-specific query and adds no source
  have hsame : msg.type ≠ RET_SOURCE_TIMER_MSG → ∀ (gi : GaddrInfo α) (env : Env α),
      q.env.trace <+: env.trace → (q.deliver msg).env.timing ⊆ env.timing →
      (∀ g a, env.carried g a = q.env.carried g a) →
      gi.source_retransmission_timer = ginfo.source_retransmission_timer →
      (∀ a s, gi.include_requested_list.find a = some s →
        ginfo.include_requested_list.find a = some s) →
      SourcesStep q ((q.deliver msg).put gaddr gi env) := by
    intro ht gi env htrace hsub hcarried htimer hl
    refine .put hlook htrace (fun g gi hne hl a s hs hpos => ?_) ?_ (fun g a _ => hcarried g a)
      (fun a s' hs' => ⟨s', hl a s' hs', .of_same (hcarried gaddr a)⟩)
    · exact (hothers g gi hne hl a s hs hpos).mono hsub
    · exact (hep.deliver_of_type ht gaddr ginfo hlook).of_list hsub htimer
        (fun a s hs _ => hl a s hs)
  have hsources : msg.type = SOURCE_TIMER_MSG ∨ msg.type = FILTER_TIMER_MSG →
      msg.type ≠ RET_SOURCE_TIMER_MSG := by
    rintro (ht | ht) <;> simp [ht]
  have hkept : ∀ (p : Source α → Bool) a s, (ginfo.include_requested_list.filter p).find a =
      some s → ginfo.include_requested_list.find a = some s := by
    intro p a s hs
    rw [OrdSet.find_filter, Option.filter_eq_some_iff] at hs
    exact hs.1
  cases timer_triggerd_group_step h with
  | ignored _ hsource =>
    refine .of_delivered fun g gi hl => ?_
    by_cases hne : g = gaddr
    · subst hne
      obtain rfl := Option.some.inj (hlook.symm.trans hl)
      by_cases ht : msg.type = RET_SOURCE_TIMER_MSG
      · exact (hep g ginfo hlook).deliver (ne_of_not_same_object (hsource ht))
      · exact hep.deliver_of_type ht g ginfo hlook
    · exact hothers g gi hne hl
  | erased => exact .del (Env.history_notify ..) hothers (fun g a => by simp)
  | sources_deleted htype _ hginfo' _ =>
    subst hginfo'
    exact hsame (hsources htype) _ _ (Env.history_notify ..) (List.Subset.refl _)
      (fun g a => by simp) rfl (hkept _)
  | sources_moved htype _ hginfo' =>
    subst hginfo'
    exact hsame (hsources htype) _ _ (Env.history_notify ..) (List.Subset.refl _)
      (fun g a => by simp) rfl (hkept _)
  | filter_expired htype _ _ _ hginfo' =>
    subst hginfo'
    exact hsame (hsources (Or.inr htype)) _ _ (Env.history_notify ..) (List.Subset.refl _)
      (fun g a => by simp) rfl (fun _ _ h => h)
  | shared hused => cases hused.symm.trans (hinv.pending.unused msg hmem)
  | group_queried htype _ hr =>
    obtain ⟨ft, rt, count, hfst⟩ := send_Q_group_frame hr
    have hext := send_Q_group_extends hr
    refine hsame (by simp [htype]) _ _ hext.history hext.timing
      (fun g a => carried_send_Q_group hr g) ?_ ?_
    · rw [hfst]
    · rw [hfst]
      exact fun a s hs => hs
  | sources_queried htype _ =>
    have hext := send_Q_extends cfg gaddr ginfo ∅ true (q.deliver msg).env
    refine .put hlook hext.history (fun g gi hne hl a s hs hpos => ?_) ?_ (fun g a hne => ?_)
      (fun a s' hs' => ?_)
    · exact (hothers g gi hne hl a s hs hpos).extends hext
    · exact .send_Q cfg ∅ (by simp)
    · exact carried_send_Q_other hne
    · obtain ⟨s, hs, hpaid, -⟩ :=
        send_Q_retransmission_paid cfg (hinv.groups gaddr ginfo hlook).1 (q.deliver msg).env hs'
      exact ⟨s, hs, hpaid.balance, hpaid.nonneg⟩
  | older_host_gone htype _ hginfo' =>
    subst hginfo'
    exact hsame (by simp [htype]) _ _ (Env.history_notify ..) (List.Subset.refl _)
      (fun g a => by simp) rfl (fun _ _ h => h)
  | newer_host _ _ htype _ =>
    exact hsame (by simp [htype]) _ _ (Env.arm_extends ..).history (Env.arm_extends ..).timing
      (fun g a => by simp) rfl (fun _ _ h => h)

theorem GaddrInfo.source_timer_ne_of_not_references (h : ginfo.references msg = false) :
    ginfo.source_retransmission_timer ≠ some msg := by
  simp only [GaddrInfo.references, Bool.or_eq_false_iff] at h
  exact ne_of_not_same_object h.1.1.2

theorem timer_triggerd_sources {unique : Bool} (hinv : QuerierInv q) (hep : SourceEpisodeInv q)
    (hmem : msg ∈ q.env.timing) (hunique : unique = true → q.m_db.references msg = false)
    (h : timer_triggerd cfg unique msg (q.deliver msg) = .ok q') : SourcesStep q q' := by
  rcases timer_triggerd_cases h with ⟨hu, rfl⟩ | ⟨htype, rfl⟩ | ⟨hnone, rfl⟩ | ⟨g, gi, hg, hl, h⟩
  · refine .of_delivered fun g gi hlook => ?_
    have href := MembershipDb.not_references_of_lookup (hunique hu) hlook
    exact (hep g gi hlook).deliver (GaddrInfo.source_timer_ne_of_not_references href)
  · have hdel := hep.deliver_of_type (show msg.type ≠ RET_SOURCE_TIMER_MSG by simp [htype])
    unfold timer_triggerd_general_query_timer
    split_ifs
    · have hext := send_general_query_extends cfg (q.deliver msg)
      refine ⟨hext.history, fun g a => .of_same rfl ?_, fun g gi hlook a s hs hpos => ?_⟩
      · exact (Env.carried_act ..).trans (Env.carried_add_time ..)
      · exact (hdel g gi hlook a s hs hpos).extends hext
    · exact .of_delivered hdel
  · refine .of_delivered fun g gi hlook => hep.deliver_of_gaddr (fun hg => ?_) hlook
    simp [hnone g hg] at hlook
  · exact timer_triggerd_group_sources hinv hep hmem hg hl h

end Timer

section Run

variable {cfg : Config} {mode : GroupMemProtocol} {q q' : Querier α} {gr : GroupRecordMsg α}
  {e : Event α} {gaddr a : α}

theorem receive_record_history (h : receive_record cfg gr q = .ok q') :
    q.env.trace <+: q'.env.trace := by
  obtain ⟨r, hr, hcase⟩ := receive_record_cases h
  have hstart : q.env.trace <+: r.2.trace := hr ▸ (note_older_host_extends ..).history
  have hnotify : ∀ (b : Bool) (ginfo : GaddrInfo α) (env : Env α),
      env.trace <+: (notify_if b gr.gaddr ginfo env).trace := by
    intro b ginfo env
    unfold notify_if
    split_ifs
    · exact Env.history_notify ..
    · exact List.prefix_rfl
  rcases hcase with ⟨-, -, rfl⟩ | ⟨-, ⟨r', -, rfl, hput⟩ | ⟨r', -, hr', rfl⟩⟩
  · exact hstart
  · obtain ⟨env', hext, henv⟩ := receive_record_in_include_mode_env cfg gr.record_type gr.gaddr
      (compatible_slist r.1 gr) r.1 r.2
    rcases hput with ⟨-, -, rfl⟩ | ⟨-, rfl⟩
    · rw [Querier.del_env, henv]
      exact (hstart.trans hext.history).trans (hnotify ..)
    · rw [Querier.put_env, henv]
      exact (hstart.trans hext.history).trans (hnotify ..)
  · obtain ⟨env', hext, henv⟩ := receive_record_in_exclude_mode_env hr'
    rw [Querier.put_env, henv]
    exact (hstart.trans hext.history).trans (hnotify ..)

theorem Paid.trans {env env₁ env₂ : Env α} {n : ℤ} {s s' : Source α}
    (h : Paid env env₁ gaddr a n s) (h' : Paid env₁ env₂ gaddr a s.retransmission_count s') :
    Paid env env₂ gaddr a n s' where
  balance := by
    have hfirst := h.balance
    have hsecond := h'.balance
    omega
  nonneg := fun hn => h'.nonneg (h.nonneg hn)

theorem querier_step_history (hinv : QuerierInv q) (hep : SourceEpisodeInv q)
    (he : (querier α cfg mode).enabled q e) (h : (querier α cfg mode).step q e = .ok q') :
    q.env.trace <+: q'.env.trace := by
  cases e with
  | record gr => exact receive_record_history h
  | timer msg unique => exact (timer_triggerd_sources hinv hep he.1 he.2 h).history

theorem querier_step_source_episodes (hinv : QuerierInv q) (hep : SourceEpisodeInv q)
    (he : (querier α cfg mode).enabled q e) (h : (querier α cfg mode).step q e = .ok q') :
    SourceEpisodeInv q' := by
  cases e with
  | record gr => exact receive_record_source_episodes hep he h
  | timer msg unique => exact (timer_triggerd_sources hinv hep he.1 he.2 h).episodes

-- A step that neither sets nor resets the counter changes it only by queries that carry the
-- source.
theorem querier_step_conserves (hinv : QuerierInv q) (hep : SourceEpisodeInv q)
    (he : (querier α cfg mode).enabled q e) (h : (querier α cfg mode).step q e = .ok q')
    (hset : ¬ sets_counter cfg gaddr a q e) (hreset : ¬ resets_counter cfg gaddr a q e) :
    q.Conserves q' gaddr a := by
  cases e with
  | record gr =>
    by_cases hg : gr.gaddr = gaddr
    · subst hg
      intro s' hs'
      have hmali := fun hm => hreset ⟨rfl, hm⟩
      obtain ⟨n, hentry, hpaid, -⟩ := receive_record_paid hinv he h a hmali s' hs'
      cases hentry with
      | set hasked hcount => exact absurd ⟨rfl, hasked, hcount⟩ hset
      | kept s hs _ => exact ⟨s, hs, hpaid⟩
    · exact receive_record_conserves_other h (Ne.symm hg)
  | timer msg unique => exact (timer_triggerd_sources hinv hep he.1 he.2 h).conserves gaddr a

-- A step that sets it starts from LLQC and sends the first query.
theorem querier_step_sets_counter (hinv : QuerierInv q)
    (he : (querier α cfg mode).enabled q e) (h : (querier α cfg mode).step q e = .ok q')
    (hset : sets_counter cfg gaddr a q e) {s' : Source α} (hs' : q'.source gaddr a = some s') :
    Paid q.env q'.env gaddr a cfg.tv.last_listener_query_count.toNat s' ∧
      s'.retransmission_count = lowered cfg.tv.last_listener_query_count.toNat := by
  cases e with
  | record gr =>
    obtain ⟨rfl, hasked, hcount⟩ := hset
    have hmali := RouterState.not_mem_mali_set_of_query_set hasked.2
    obtain ⟨n, hentry, hpaid, hsent⟩ := receive_record_paid hinv he h a hmali s' hs'
    cases hentry with
    | set => exact ⟨hpaid, hsent hasked hcount⟩
    | kept s hs hge =>
      have hlt := hcount s hs
      have hge := hge hasked
      omega
  | timer msg unique => exact absurd hset id

theorem source_episode_inv (hq : (querier α cfg mode).Reachable q) : SourceEpisodeInv q := by
  refine hq.invariant_of QuerierInv SourceEpisodeInv (fun q hq => querier_inv hq) ?_ ?_
  · intro g ginfo hlook
    simp [querier, new_querier, send_general_query] at hlook
  · exact fun q e q' hinv hep he hstep => querier_step_source_episodes hinv hep he hstep

-- The part of a run that leaves the counter of a source alone.
def undisturbed (cfg : Config) (mode : GroupMemProtocol) (gaddr a : α) (q : Querier α) :
    Machine (Querier α) (Event α) Fault :=
  ((querier α cfg mode).startAt q).restrict fun q e =>
    ¬ sets_counter cfg gaddr a q e ∧ ¬ resets_counter cfg gaddr a q e

theorem undisturbed_paid {q₀ q₁ : Querier α} (hq₀ : (querier α cfg mode).Reachable q₀)
    (he : (querier α cfg mode).enabled q₀ e) (hstep : (querier α cfg mode).step q₀ e = .ok q₁)
    (hset : sets_counter cfg gaddr a q₀ e)
    (hq : (undisturbed cfg mode gaddr a q₁).Reachable q) :
    q₀.env.trace <+: q.env.trace ∧ ∀ s, q.source gaddr a = some s →
      Paid q₀.env q.env gaddr a cfg.tv.last_listener_query_count.toNat s := by
  have hinv₀ := querier_inv hq₀
  have hep₀ := source_episode_inv hq₀
  have hq₁ := hq₀.step he hstep
  refine hq.invariant_of (fun q => QuerierInv q ∧ SourceEpisodeInv q)
    (fun q => q₀.env.trace <+: q.env.trace ∧ ∀ s, q.source gaddr a = some s →
      Paid q₀.env q.env gaddr a cfg.tv.last_listener_query_count.toNat s) ?_ ⟨?_, ?_⟩ ?_
  · intro q hq
    have hreach := hq₁.of_startAt hq.of_restrict
    exact ⟨querier_inv hreach, source_episode_inv hreach⟩
  · exact querier_step_history hinv₀ hep₀ he hstep
  · exact fun s hs => (querier_step_sets_counter hinv₀ he hstep hset hs).1
  · rintro q e q' ⟨hinv, hep⟩ ⟨htrace, hpaid⟩ ⟨he, hset, hreset⟩ hstep
    refine ⟨htrace.trans (querier_step_history hinv hep he hstep), fun s' hs' => ?_⟩
    obtain ⟨s, hs, h⟩ := querier_step_conserves hinv hep he hstep hset hreset s' hs'
    exact (hpaid s hs).trans h

-- In it the queries that carried the source and the counter add up to LLQC.
theorem undisturbed_carried {q₀ q₁ : Querier α} (hq₀ : (querier α cfg mode).Reachable q₀)
    (he : (querier α cfg mode).enabled q₀ e) (hstep : (querier α cfg mode).step q₀ e = .ok q₁)
    (hset : sets_counter cfg gaddr a q₀ e)
    (hq : (undisturbed cfg mode gaddr a q₁).Reachable q) {s : Source α}
    (hs : q.source gaddr a = some s) :
    ∃ acts, q.env.trace = q₀.env.trace ++ acts ∧ ∃ n : ℕ, s.retransmission_count = n ∧
      acts.countP (Action.carries gaddr a) + n = cfg.tv.last_listener_query_count.toNat := by
  obtain ⟨⟨acts, htrace⟩, hpaid⟩ := undisturbed_paid hq₀ he hstep hset hq
  have hnonneg := (hpaid s hs).nonneg (Int.natCast_nonneg _)
  have hbalance := (hpaid s hs).balance
  rw [Env.carried, ← htrace, List.countP_append, ← Env.carried] at hbalance
  refine ⟨acts, htrace.symm, s.retransmission_count.toNat, ?_, ?_⟩
  · exact (Int.toNat_of_nonneg hnonneg).symm
  · omega

theorem mem_requested_iff (found : Option (GaddrInfo α)) (a : α) :
    a ∈ requested found ↔ a ∈ (router_state found).requested := by
  cases found with
  | none => simp [requested, router_state, RouterState.requested]
  | some ginfo =>
    cases hmode : ginfo.filter_mode <;>
      simp [requested, router_state, GaddrInfo.router_state, hmode, RouterState.requested]

-- The step that sets the counter keeps the source and sends the first query.
theorem sets_counter_first_query (hinv : QuerierInv q) (he : (querier α cfg mode).enabled q e)
    (h : (querier α cfg mode).step q e = .ok q') (hset : sets_counter cfg gaddr a q e) :
    ∃ s, q'.source gaddr a = some s ∧
      s.retransmission_count = ((cfg.tv.last_listener_query_count.toNat - 1 : ℕ) : ℤ) := by
  obtain ⟨s, hs⟩ : ∃ s, q'.source gaddr a = some s := by
    cases e with
    | record gr =>
      obtain ⟨rfl, ⟨hrow, hasked⟩, -⟩ := hset
      have hmem : a ∈ requested (OrdMap.lookup q'.m_db.group_info gr.gaddr) := by
        rcases receive_record_row hinv h rfl with ⟨hcompat, hblock, -⟩ | ⟨-, happlied⟩
        · exact absurd ⟨hcompat, hblock⟩ hrow
        · rw [mem_requested_iff, happlied.state]
          exact RouterState.query_set_subset_requested _ _ _ hasked
      exact OrdSet.mem_iff_find.mp hmem
    | timer msg unique => exact absurd hset id
  have hlow := (querier_step_sets_counter hinv he h hset hs).2
  refine ⟨s, hs, hlow.trans ?_⟩
  unfold lowered
  split_ifs <;> omega

-- The timer of a source with queries to come is on its way, and its delivery asks about the
-- source and counts.
theorem source_retransmission_progress (hq : (querier α cfg mode).Reachable q) {s : Source α}
    {ginfo : GaddrInfo α} (hlook : OrdMap.lookup q.m_db.group_info gaddr = some ginfo)
    (hs : ginfo.include_requested_list.find a = some s) (hpos : 0 < s.retransmission_count) :
    ∃ t ∈ q.env.timing, ginfo.source_retransmission_timer = some t ∧
      (querier α cfg mode).enabled q (.timer t false) ∧
      ∃ q', (querier α cfg mode).step q (.timer t false) = .ok q' ∧
        ∃ s', q'.source gaddr a = some s' ∧
          s'.retransmission_count = s.retransmission_count - 1 ∧
          q'.env.carried gaddr a = q.env.carried gaddr a + 1 := by
  obtain ⟨t, hmem, ht, htype, hgaddr⟩ := source_episode_inv hq gaddr ginfo hlook a s hs hpos
  obtain ⟨q', hstep, hall⟩ :=
    ret_source_timer_queries cfg mode (querier_inv hq) hlook ht htype hgaddr
  exact ⟨t, hmem, ht, ⟨hmem, nofun⟩, q', hstep, hall a s hs hpos⟩

-- So the timers alone bring the counter to zero.
theorem source_retransmissions_end {q₁ : Querier α} (hq₁ : (querier α cfg mode).Reachable q₁)
    {q : Querier α} (hq : (undisturbed cfg mode gaddr a q₁).Reachable q) {s : Source α}
    (hs : q.source gaddr a = some s) (hnonneg : 0 ≤ s.retransmission_count) :
    ∃ (ts : List (TimerMsg α)) (q' : Querier α) (s' : Source α),
      ts.length = s.retransmission_count.toNat ∧
      ((querier α cfg mode).startAt q).Run (ts.map fun t => .timer t false) q' ∧
      (undisturbed cfg mode gaddr a q₁).Reachable q' ∧
      q'.source gaddr a = some s' ∧ s'.retransmission_count = 0 := by
  obtain ⟨n, hn⟩ := Int.eq_ofNat_of_zero_le hnonneg
  induction n generalizing q s with
  | zero =>
    refine ⟨[], q, s, ?_, .nil, hq, hs, hn⟩
    rw [hn]
    rfl
  | succ n ih =>
    have hpos : 0 < s.retransmission_count := by omega
    obtain ⟨ginfo, hlook, hfind⟩ : ∃ ginfo, OrdMap.lookup q.m_db.group_info gaddr = some ginfo ∧
        ginfo.include_requested_list.find a = some s := by
      have hfind : (q.group gaddr).include_requested_list.find a = some s := by
        rw [← requested_group]
        exact hs
      exact ⟨_, Querier.lookup_of_find hfind, hfind⟩
    obtain ⟨t, -, -, henabled, q₂, hstep, s₂, hs₂, hcount, -⟩ :=
      source_retransmission_progress (hq₁.of_startAt hq.of_restrict) hlook hfind hpos
    have hq₂ : (undisturbed cfg mode gaddr a q₁).Reachable q₂ :=
      hq.step (e := .timer t false) ⟨henabled, id, id⟩ hstep
    obtain ⟨ts, q', s', hlen, run, hq', hs', hzero⟩ := ih hq₂ hs₂ (by omega) (by omega)
    refine ⟨t :: ts, q', s', ?_, run.cons henabled hstep, hq', hs', hzero⟩
    rw [List.length_cons, hlen]
    omega

-- A source with queries to come has a timer, and so has the next query, which asks about the
-- source and lowers its counter. The step that sets the counter sends the first query. From it
-- on, as long as the source is in the list and is neither asked about anew nor set to MALI, the
-- queries that carried it and the counter add up to LLQC, and the timers bring the counter to
-- zero.
theorem source_retransmissions_exact (cfg : Config) (mode : GroupMemProtocol) :
    (∀ q : Querier α, (querier α cfg mode).Reachable q → ∀ gaddr ginfo a s,
      OrdMap.lookup q.m_db.group_info gaddr = some ginfo →
      ginfo.include_requested_list.find a = some s → 0 < s.retransmission_count →
      s.shared_source_timer ≠ none ∧
        ∃ t ∈ q.env.timing, ginfo.source_retransmission_timer = some t ∧
          (querier α cfg mode).enabled q (.timer t false) ∧
          ∃ q', (querier α cfg mode).step q (.timer t false) = .ok q' ∧
            ∃ s', q'.source gaddr a = some s' ∧
              s'.retransmission_count = s.retransmission_count - 1 ∧
              q'.env.carried gaddr a = q.env.carried gaddr a + 1) ∧
    ∀ (q₀ q₁ : Querier α) (e : Event α) (gaddr a : α), (querier α cfg mode).Reachable q₀ →
      (querier α cfg mode).enabled q₀ e → (querier α cfg mode).step q₀ e = .ok q₁ →
      sets_counter cfg gaddr a q₀ e →
      (∃ s, q₁.source gaddr a = some s ∧
        s.retransmission_count = ((cfg.tv.last_listener_query_count.toNat - 1 : ℕ) : ℤ)) ∧
      ∀ q, (undisturbed cfg mode gaddr a q₁).Reachable q → ∀ s, q.source gaddr a = some s →
        (∃ acts, q.env.trace = q₀.env.trace ++ acts ∧ ∃ n : ℕ, s.retransmission_count = n ∧
          acts.countP (Action.carries gaddr a) + n =
            cfg.tv.last_listener_query_count.toNat) ∧
        ∃ (ts : List (TimerMsg α)) (q' : Querier α) (acts : List (Action α)),
          ts.length = s.retransmission_count.toNat ∧
          ((querier α cfg mode).startAt q).Run (ts.map fun t => .timer t false) q' ∧
          (∃ s', q'.source gaddr a = some s' ∧ s'.retransmission_count = 0) ∧
          q'.env.trace = q₀.env.trace ++ acts ∧
          acts.countP (Action.carries gaddr a) =
            cfg.tv.last_listener_query_count.toNat := by
  constructor
  · intro q hq gaddr ginfo a s hlook hs hpos
    obtain ⟨st, -, hst, -⟩ := ((querier_inv hq).groups gaddr ginfo hlook).1.armed hs
    exact ⟨hst ▸ Option.some_ne_none st, source_retransmission_progress hq hlook hs hpos⟩
  · intro q₀ q₁ e gaddr a hq₀ he hstep hset
    refine ⟨sets_counter_first_query (querier_inv hq₀) he hstep hset, fun q hq s hs => ?_⟩
    obtain ⟨acts, htrace, n, hn, hcarried⟩ := undisturbed_carried hq₀ he hstep hset hq hs
    obtain ⟨ts, q', s', hlen, run, hq', hs', hzero⟩ :=
      source_retransmissions_end (hq₀.step he hstep) hq hs (by omega)
    obtain ⟨acts', htrace', n', hn', hcarried'⟩ := undisturbed_carried hq₀ he hstep hset hq' hs'
    exact ⟨⟨acts, htrace, n, hn, hcarried⟩, ts, q', acts', hlen, run, ⟨s', hs', hzero⟩, htrace',
      by omega⟩

-- LLQC is 2: a BLOCK, its retransmission, and no query to come.
theorem source_retransmissions_exact_block :
    ∃ q₀ q₁ q : Querier Ipv4Addr,
      (querier Ipv4Addr default_config IGMPv3).Run
        [.record ⟨ALLOW_NEW_SOURCES, 7, sources [3], IGMPv3⟩] q₀ ∧
      receive_record default_config ⟨BLOCK_OLD_SOURCES, 7, sources [3], IGMPv3⟩ q₀ = .ok q₁ ∧
      (∃ ginfo, OrdMap.lookup q₁.m_db.group_info 7 = some ginfo ∧
        ∃ t ∈ q₁.env.timing, ginfo.source_retransmission_timer = some t) ∧
      (querier Ipv4Addr default_config IGMPv3).step q₁
        (.timer ⟨3, RET_SOURCE_TIMER_MSG, some 7, 1000000007, false⟩ false) = .ok q ∧
      ∃ acts, q.env.trace = q₀.env.trace ++ acts ∧ acts.countP (Action.carries 7 3) = 2 := by
  obtain ⟨q₀, hrun₀, hp₀⟩ := Machine.exists_run_of_exec (querier Ipv4Addr default_config IGMPv3)
    [.record ⟨ALLOW_NEW_SOURCES, 7, sources [3], IGMPv3⟩]
    (fun q => (q.group 7).filter_mode = INCLUDE_MODE &&
      !(row_start default_config ⟨BLOCK_OLD_SOURCES, 7, sources [3], IGMPv3⟩
        q).1.is_in_backward_compatibility_mode &&
      (q.source 7 3).any fun s => s.retransmission_count < 1) rfl
  obtain ⟨q₁, hrun₁, he₂, hp₁⟩ := Machine.exists_step_of_exec
    (querier Ipv4Addr default_config IGMPv3)
    [.record ⟨ALLOW_NEW_SOURCES, 7, sources [3], IGMPv3⟩,
      .record ⟨BLOCK_OLD_SOURCES, 7, sources [3], IGMPv3⟩]
    (.timer ⟨3, RET_SOURCE_TIMER_MSG, some 7, 1000000007, false⟩ false)
    (fun q₁ r => ((OrdMap.lookup q₁.m_db.group_info 7).any fun ginfo =>
        (ginfo.include_requested_list.find 3).any fun s => 0 < s.retransmission_count) &&
      r.toOption.any fun q => (q.source 7 3).any fun s => s.retransmission_count = 0)
    (by decide +kernel)
  have hsplit : (querier Ipv4Addr default_config IGMPv3).Run
      ([.record ⟨ALLOW_NEW_SOURCES, 7, sources [3], IGMPv3⟩] ++
        [.record ⟨BLOCK_OLD_SOURCES, 7, sources [3], IGMPv3⟩]) q₁ := hrun₁
  obtain ⟨q', hrun', he₁, hstep₁⟩ := hsplit.snoc_inv
  obtain rfl := hrun'.unique hrun₀
  simp only [Bool.and_eq_true, decide_eq_true_eq, Bool.not_eq_true'] at hp₀ hp₁
  obtain ⟨⟨hmode, hcompat⟩, hp₀⟩ := hp₀
  obtain ⟨s₀, hs₀, hcount₀⟩ := (Option.any_eq_true ..).mp hp₀
  obtain ⟨ginfo, hlook, hp₁'⟩ := (Option.any_eq_true ..).mp hp₁.1
  obtain ⟨s₁, hs₁, hpos⟩ := (Option.any_eq_true ..).mp hp₁'
  obtain ⟨q, hstep₂, hp⟩ := exists_ok_of_any hp₁.2
  obtain ⟨s, hs, hzero⟩ := (Option.any_eq_true ..).mp hp
  rw [decide_eq_true_eq] at hcount₀ hpos hzero
  have hset : sets_counter default_config 7 3 q'
      (.record ⟨BLOCK_OLD_SOURCES, 7, sources [3], IGMPv3⟩) := by
    refine ⟨rfl, ⟨fun h => ?_, ?_⟩, fun s hs => ?_⟩
    · rw [hcompat] at h
      cases h.1
    · have hmem := OrdSet.mem_of_find hs₀
      rw [requested_group] at hmem
      rw [router_state_group, GaddrInfo.router_state_include hmode]
      refine ⟨hmem, ?_⟩
      simp [compatible_slist]
    · obtain rfl := Option.some.inj (hs₀.symm.trans hs)
      exact hcount₀
  have hquiet : (undisturbed default_config IGMPv3 7 3 q₁).enabled q₁
      (.timer ⟨3, RET_SOURCE_TIMER_MSG, some 7, 1000000007, false⟩ false) := ⟨he₂, id, id⟩
  have hstart : (undisturbed default_config IGMPv3 7 3 q₁).Reachable q₁ :=
    Machine.reachable_start
  have hreach := hstart.step hquiet hstep₂
  obtain ⟨harmed, hexact⟩ := @source_retransmissions_exact Ipv4Addr _ default_config IGMPv3
  obtain ⟨-, t, hmem, ht, -⟩ := harmed q₁ hrun₁.reachable 7 ginfo 3 s₁ hlook hs₁ hpos
  obtain ⟨-, hundisturbed⟩ := hexact q' q₁ _ 7 3 hrun'.reachable he₁ hstep₁ hset
  obtain ⟨⟨acts, htrace, n, hn, hcarried⟩, -⟩ := hundisturbed q hreach s hs
  have hllqc : default_config.tv.last_listener_query_count.toNat = 2 := rfl
  refine ⟨q', q₁, q, hrun', hstep₁, ⟨ginfo, hlook, t, hmem, ht⟩, hstep₂, acts, htrace, ?_⟩
  omega

end Run

end Mcproxy
