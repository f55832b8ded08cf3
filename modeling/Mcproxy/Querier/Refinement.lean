import Mcproxy.Querier.Invariant
import Mcproxy.RouterState

namespace Mcproxy

open Container Transition McFilter McastAddrRecordType MessageType GroupMemProtocol

variable {α : Type*} [LinearOrder α]

namespace SourceList

-- The addresses of a list.
def addrs (l : SourceList α) : Set α := { a | a ∈ l }

@[simp] theorem mem_addrs (l : SourceList α) (a : α) : a ∈ l.addrs ↔ a ∈ l := Iff.rfl

@[simp] theorem addrs_add (l r : SourceList α) : (l + r).addrs = l.addrs ∪ r.addrs := by
  ext a
  simp

@[simp] theorem addrs_mul (l r : SourceList α) : (l * r).addrs = l.addrs ∩ r.addrs := by
  ext a
  simp

@[simp] theorem addrs_sub (l r : SourceList α) : (l - r).addrs = l.addrs \ r.addrs := by
  ext a
  simp

@[simp] theorem addrs_empty : (∅ : SourceList α).addrs = ∅ := by
  ext a
  simp [addrs]

end SourceList

-- The state of the router table a record stands for. A group without a record is in
-- INCLUDE mode and nobody listens.
def GaddrInfo.router_state (ginfo : GaddrInfo α) : RouterState α :=
  match ginfo.filter_mode with
  | INCLUDE_MODE => .INCLUDE ginfo.include_requested_list.addrs
  | EXCLUDE_MODE => .EXCLUDE ginfo.include_requested_list.addrs ginfo.exclude_list.addrs

def router_state : Option (GaddrInfo α) → RouterState α
  | none => .INCLUDE ∅
  | some ginfo => ginfo.router_state

section Row

variable {cfg : Config} {gaddr : α} {ginfo : GaddrInfo α} {slist : SourceList α} {env : Env α}

theorem GaddrInfo.router_state_include (h : ginfo.filter_mode = INCLUDE_MODE) :
    ginfo.router_state = .INCLUDE ginfo.include_requested_list.addrs := by
  rw [GaddrInfo.router_state, h]

theorem GaddrInfo.router_state_exclude (h : ginfo.filter_mode = EXCLUDE_MODE) :
    ginfo.router_state =
      .EXCLUDE ginfo.include_requested_list.addrs ginfo.exclude_list.addrs := by
  rw [GaddrInfo.router_state, h]

@[simp] theorem addrs_mali (cfg : Config) (gaddr : α) (slist tmp : SourceList α) (env : Env α) :
    (mali cfg gaddr slist tmp env).1.addrs = slist.addrs := by
  ext a
  simp

@[simp] theorem addrs_send_Q (cfg : Config) (gaddr : α) (ginfo : GaddrInfo α)
    (tmp : SourceList α) (ret : Bool) (env : Env α) :
    (send_Q cfg gaddr ginfo tmp ret env).1.include_requested_list.addrs =
      ginfo.include_requested_list.addrs := by
  ext a
  simp

theorem receive_record_in_include_mode_row (cfg : Config) (record_type : McastAddrRecordType)
    (gaddr : α) (slist : SourceList α) (env : Env α) (hmode : ginfo.filter_mode = INCLUDE_MODE) :
    (receive_record_in_include_mode cfg record_type gaddr slist ginfo env).1.router_state =
      ginfo.router_state.receive record_type slist.addrs := by
  rw [GaddrInfo.router_state_include hmode]
  have hdiff : ∀ A B : Set α, B \ (A ∩ B) = B \ A := fun A B => by
    ext a
    simp
  cases record_type with
  | ALLOW_NEW_SOURCES | MODE_IS_INCLUDE | BLOCK_OLD_SOURCES | CHANGE_TO_INCLUDE_MODE =>
    simp [receive_record_in_include_mode, GaddrInfo.router_state, RouterState.receive, hmode]
  | CHANGE_TO_EXCLUDE_MODE | MODE_IS_EXCLUDE =>
    simp [receive_record_in_include_mode, GaddrInfo.router_state, RouterState.receive,
      mali_filter_timer_fst, hdiff]
  | unknown v => exact GaddrInfo.router_state_include hmode

-- Two rows compute A-Y as X*A + (A-Y): the same set, as X and Y have nothing in common.
theorem receive_record_in_exclude_mode_row {record_type : McastAddrRecordType}
    {r : GaddrInfo α × Env α} (hmode : ginfo.filter_mode = EXCLUDE_MODE)
    (hdisj : ∀ a ∈ ginfo.include_requested_list, a ∉ ginfo.exclude_list)
    (h : receive_record_in_exclude_mode cfg record_type gaddr slist ginfo env = .ok r) :
    r.1.router_state = ginfo.router_state.receive record_type slist.addrs := by
  have hstay := (receive_record_in_exclude_mode_stays h).trans hmode
  have hunion : ∀ A : Set α,
      ginfo.include_requested_list.addrs ∩ A ∪ (A \ ginfo.exclude_list.addrs) =
      A \ ginfo.exclude_list.addrs := fun A =>
    Set.union_eq_self_of_subset_left (fun a ha => ⟨ha.2, hdisj a ha.1⟩)
  rw [GaddrInfo.router_state_exclude hmode, GaddrInfo.router_state_exclude hstay]
  cases record_type with
  | ALLOW_NEW_SOURCES | MODE_IS_INCLUDE =>
    obtain rfl := Except.ok.inj h
    simp [RouterState.receive]
  | BLOCK_OLD_SOURCES =>
    obtain rfl := Except.ok.inj h
    simp [RouterState.receive]
  | CHANGE_TO_EXCLUDE_MODE | MODE_IS_EXCLUDE =>
    obtain rfl := Except.ok.inj h
    simp [RouterState.receive, mali_filter_timer_fst, hunion]
  | CHANGE_TO_INCLUDE_MODE =>
    obtain ⟨r', hr', rfl⟩ := exists_of_map_ok h
    obtain ⟨ft, rt, count, hfst⟩ := send_Q_group_frame hr'
    simp [RouterState.receive, hfst]
  | unknown v =>
    obtain rfl := Except.ok.inj h
    rfl

-- A timer object made and armed between two points of a run.
structure FreshTimer (cfg : Config) (gaddr : α) (duration : ℕ) (env env' : Env α)
    (t : TimerMsg α) : Prop where
  made : env.next_id ≤ t.id
  armed : t ∈ env'.timing
  type : t.type = SOURCE_TIMER_MSG
  gaddr : t.gaddr = some gaddr
  end_time : ∃ n, env.readings ≤ n ∧ n < env'.readings ∧
    t.end_time = after (cfg.clk.reading n) duration

theorem mali_timer_fresh (slist : SourceList α) {env₀ env₁ : Env α} {tmp : SourceList α} {a : α}
    (h₀ : env₀.Extends env) (ha : a ∈ tmp)
    (h₁ : (mali cfg gaddr slist tmp env).2.Extends env₁) :
    FreshTimer cfg gaddr cfg.tv.get_multicast_address_listening_interval env₀ env₁
      (mali_timer cfg gaddr env) := by
  obtain ⟨t, ht, he, htype, hg⟩ := mali_timer_armed cfg gaddr slist tmp env ha
  obtain rfl := Option.some.inj he
  have hlt := mali_readings cfg gaddr slist tmp env
  exact ⟨h₀.next_id, h₁.timing ht, rfl, rfl, env.readings, h₀.readings,
    hlt.trans_le h₁.readings, rfl⟩

theorem FreshTimer.same {duration : ℕ} {env' env'' : Env α} {t : TimerMsg α}
    (h : FreshTimer cfg gaddr duration env env' t) (hs : env'.SameTimers env'') :
    FreshTimer cfg gaddr duration env env'' t :=
  ⟨h.made, hs.timing ▸ h.armed, h.type, h.gaddr, hs.readings ▸ h.end_time⟩

-- What the action column asks of the timers of the requested sources.
structure RowTimers (cfg : Config) (gaddr : α) (env env' : Env α) (old new : SourceList α)
    (M Q : Set α) : Prop where
  fresh : ∀ a ∈ M, ∃ s t, new.find a = some s ∧ s.shared_source_timer = some t ∧
    s.retransmission_count = -1 ∧
    FreshTimer cfg gaddr cfg.tv.get_multicast_address_listening_interval env env' t
  kept : ∀ a s, old.find a = some s → a ∈ new → a ∉ M → a ∉ Q →
    ∃ s', new.find a = some s' ∧ s'.shared_source_timer = s.shared_source_timer

theorem RowTimers.same {env' env'' : Env α} {old new : SourceList α} {M Q : Set α}
    (h : RowTimers cfg gaddr env env' old new M Q) (hs : env'.SameTimers env'') :
    RowTimers cfg gaddr env env'' old new M Q where
  fresh := by
    intro a ha
    obtain ⟨s, t, hs', ht, hc, hf⟩ := h.fresh a ha
    exact ⟨s, t, hs', ht, hc, hf.same hs⟩
  kept := h.kept

-- The rows that set no timer to MALI.
theorem RowTimers.of_kept {env' : Env α} {old new : SourceList α} {Q : Set α}
    (hkept : ∀ a s, old.find a = some s → a ∈ new → a ∉ Q →
      ∃ s', new.find a = some s' ∧ s'.shared_source_timer = s.shared_source_timer) :
    RowTimers cfg gaddr env env' old new ∅ Q where
  fresh := fun a ha => absurd ha (Set.notMem_empty a)
  kept := fun a s hs hnew _ hq => hkept a s hs hnew hq

-- The rows that set (B)=MALI after they added B.
theorem rowTimers_mali {env₀ : Env α} {old l : SourceList α} {Q : Set α} (h₀ : env₀.Extends env)
    (hmem : ∀ a ∈ slist, a ∈ l)
    (hkept : ∀ a s, old.find a = some s → a ∉ slist → a ∉ Q → ∃ s', l.find a = some s' ∧
      s'.shared_source_timer = s.shared_source_timer) :
    RowTimers cfg gaddr env₀ (mali cfg gaddr l slist env).2 old (mali cfg gaddr l slist env).1
      slist.addrs Q where
  fresh := by
    intro a (ha : a ∈ slist)
    obtain ⟨s, hs⟩ := OrdSet.mem_iff_find.mp (hmem a ha)
    refine ⟨set_timer (some (mali_timer cfg gaddr env)) (-1) s, mali_timer cfg gaddr env, ?_, rfl,
      rfl, mali_timer_fresh l h₀ ha (Env.Extends.refl _)⟩
    rw [find_mali, if_pos ha, hs, Option.map_some]
  kept := by
    intro a s hs _ (hm : a ∉ slist) hq
    rw [find_mali, if_neg hm]
    exact hkept a s hs hm hq

-- The row that sets (A-X-Y)=MALI before it writes X := A - Y as X*A + (A-Y).
theorem rowTimers_replace_mali {X Y : SourceList α} {env' : Env α}
    (h₁ : (mali cfg gaddr slist (slist - X - Y) env).2.Extends env') :
    let A := (mali cfg gaddr slist (slist - X - Y) env).1
    RowTimers cfg gaddr env env' X (X * A + (A - Y)) ((slist.addrs \ X.addrs) \ Y.addrs) ∅ where
  fresh := by
    rintro a ⟨⟨(ha : a ∈ slist), (hx : a ∉ X)⟩, (hy : a ∉ Y)⟩
    have htmp : a ∈ slist - X - Y :=
      (SourceList.mem_sub ..).mpr ⟨(SourceList.mem_sub ..).mpr ⟨ha, hx⟩, hy⟩
    obtain ⟨s, hs⟩ := OrdSet.mem_iff_find.mp ha
    refine ⟨set_timer (some (mali_timer cfg gaddr env)) (-1) s, mali_timer cfg gaddr env, ?_, rfl,
      rfl, mali_timer_fresh slist (Env.Extends.refl _) htmp h₁⟩
    rw [SourceList.find_add, SourceList.find_mul, SourceList.find_sub, find_mali, if_pos htmp,
      OrdSet.find_eq_none_iff.mpr hx, if_neg hy, hs]
    simp
  kept := by
    intro a s hs hnew _ _
    have hnew := (SourceList.mem_add ..).mp hnew
    simp only [SourceList.mem_mul, SourceList.mem_sub, mem_mali] at hnew
    have ha : a ∈ slist := hnew.elim And.right And.left
    refine ⟨s, ?_, rfl⟩
    rw [SourceList.find_add, SourceList.find_mul, if_pos ((mem_mali ..).mpr ha), hs,
      Option.some_or]

theorem receive_record_in_include_mode_timers (cfg : Config) (record_type : McastAddrRecordType)
    (gaddr : α) (slist : SourceList α) (env : Env α) (hmode : ginfo.filter_mode = INCLUDE_MODE) :
    RowTimers cfg gaddr env
      (receive_record_in_include_mode cfg record_type gaddr slist ginfo env).2
      ginfo.include_requested_list
      (receive_record_in_include_mode cfg record_type gaddr slist ginfo
        env).1.include_requested_list
      (ginfo.router_state.mali_set record_type slist.addrs)
      (ginfo.router_state.query_set record_type slist.addrs) := by
  rw [GaddrInfo.router_state_include hmode]
  cases record_type with
  | ALLOW_NEW_SOURCES | MODE_IS_INCLUDE =>
    refine (rowTimers_mali (Env.Extends.refl env) ?_ ?_).same ⟨rfl, rfl, rfl⟩
    · exact fun a ha => (SourceList.mem_add ..).mpr (Or.inr ha)
    · intro a s hs _ _
      exact ⟨s, by rw [SourceList.find_add, hs, Option.some_or], rfl⟩
  | BLOCK_OLD_SOURCES =>
    refine .of_kept fun a s hs _ hq => ?_
    exact send_Q_keeps cfg gaddr false env (fun h => hq ((SourceList.mem_mul ..).mp h)) hs
  | CHANGE_TO_EXCLUDE_MODE =>
    refine .of_kept fun a s hs hnew hq => ?_
    exact absurd ((SourceList.mem_mul ..).mp ((mem_send_Q ..).mp hnew)) hq
  | CHANGE_TO_INCLUDE_MODE =>
    refine (rowTimers_mali (send_Q_extends ..) ?_ ?_).same ⟨rfl, rfl, rfl⟩
    · exact fun a ha => (mem_send_Q ..).mpr ((SourceList.mem_add ..).mpr (Or.inr ha))
    · exact fun a s hs hm hq => absurd ⟨OrdSet.mem_of_find hs, hm⟩ hq
  | MODE_IS_EXCLUDE =>
    refine .of_kept fun a s hs hnew _ => ⟨s, ?_, rfl⟩
    have hb := ((SourceList.mem_mul ..).mp hnew).2
    exact (SourceList.find_mul ..).trans (by rw [if_pos hb, hs])
  | unknown v =>
    exact .of_kept fun a s hs _ _ => ⟨s, hs, rfl⟩

theorem receive_record_in_exclude_mode_timers {record_type : McastAddrRecordType}
    {r : GaddrInfo α × Env α} (hmode : ginfo.filter_mode = EXCLUDE_MODE)
    (hdisj : ∀ a ∈ ginfo.include_requested_list, a ∉ ginfo.exclude_list)
    (h : receive_record_in_exclude_mode cfg record_type gaddr slist ginfo env = .ok r) :
    RowTimers cfg gaddr env r.2 ginfo.include_requested_list r.1.include_requested_list
      (ginfo.router_state.mali_set record_type slist.addrs)
      (ginfo.router_state.query_set record_type slist.addrs) := by
  rw [GaddrInfo.router_state_exclude hmode]
  cases record_type with
  | ALLOW_NEW_SOURCES | MODE_IS_INCLUDE =>
    obtain rfl := Except.ok.inj h
    refine (rowTimers_mali (Env.Extends.refl env) ?_ ?_).same ⟨rfl, rfl, rfl⟩
    · exact fun a ha => (SourceList.mem_add ..).mpr (Or.inr ha)
    · intro a s hs _ _
      exact ⟨s, by rw [SourceList.find_add, hs, Option.some_or], rfl⟩
  | BLOCK_OLD_SOURCES =>
    obtain rfl := Except.ok.inj h
    refine .of_kept fun a s hs _ hq => ?_
    refine send_Q_keeps cfg gaddr false env (fun h => hq ((SourceList.mem_sub ..).mp h)) ?_
    exact (SourceList.find_add ..).trans (by rw [hs, Option.some_or])
  | CHANGE_TO_EXCLUDE_MODE =>
    obtain rfl := Except.ok.inj h
    refine .of_kept fun a s hs hnew hq => absurd ?_ hq
    have hy := hdisj a (OrdSet.mem_of_find hs)
    have hnew := (SourceList.mem_add ..).mp ((mem_send_Q ..).mp hnew)
    simp only [SourceList.mem_mul, SourceList.mem_sub] at hnew
    exact hnew.elim (fun h => ⟨h.2, hy⟩) id
  | CHANGE_TO_INCLUDE_MODE =>
    obtain ⟨r', hr', rfl⟩ := exists_of_map_ok h
    obtain ⟨ft, rt, count, hfst⟩ := send_Q_group_frame hr'
    have hext := (send_Q_extends ..).trans (send_Q_group_extends hr')
    refine (rowTimers_mali hext ?_ ?_).same ⟨rfl, rfl, rfl⟩
    · intro a ha
      rw [hfst]
      exact (mem_send_Q ..).mpr ((SourceList.mem_add ..).mpr (Or.inr ha))
    · exact fun a s hs hm hq => absurd ⟨OrdSet.mem_of_find hs, hm⟩ hq
  | MODE_IS_EXCLUDE =>
    obtain rfl := Except.ok.inj h
    exact (rowTimers_replace_mali (mali_filter_timer_extends cfg gaddr ginfo _)).same
      ⟨rfl, rfl, rfl⟩
  | unknown v =>
    obtain rfl := Except.ok.inj h
    exact .of_kept fun a s hs _ _ => ⟨s, hs, rfl⟩

end Row

section ReceiveRecord

variable {cfg : Config} {mode : GroupMemProtocol} {q q' : Querier α} {gr : GroupRecordMsg α}

theorem router_state_group (q : Querier α) (gaddr : α) :
    router_state (OrdMap.lookup q.m_db.group_info gaddr) = (q.group gaddr).router_state := by
  unfold Querier.group
  cases OrdMap.lookup q.m_db.group_info gaddr with
  | none => exact (congrArg RouterState.INCLUDE SourceList.addrs_empty).symm
  | some ginfo => rfl

theorem router_state_note_older_host (cfg : Config) (mode proto : GroupMemProtocol) (gaddr : α)
    (ginfo : GaddrInfo α) (env : Env α) :
    (note_older_host cfg mode proto gaddr ginfo env).1.router_state = ginfo.router_state := by
  obtain ⟨version, timer, hfst⟩ := note_older_host_frame cfg mode proto gaddr ginfo env
  rw [hfst]
  rfl

-- The requested sources of a group.
def requested (found : Option (GaddrInfo α)) : SourceList α :=
  (found.map GaddrInfo.include_requested_list).getD ∅

theorem requested_group (q : Querier α) (gaddr : α) :
    requested (OrdMap.lookup q.m_db.group_info gaddr) = (q.group gaddr).include_requested_list := by
  unfold Querier.group requested
  cases OrdMap.lookup q.m_db.group_info gaddr <;> rfl

-- The row of the table, as far as the sets and the timers of the requested sources go.
structure RowApplied (cfg : Config) (gaddr : α) (env env' : Env α)
    (before after : Option (GaddrInfo α)) (record_type : McastAddrRecordType) (B : Set α) :
    Prop where
  state : router_state after = (router_state before).receive record_type B
  timers : RowTimers cfg gaddr env env' (requested before) (requested after)
    ((router_state before).mali_set record_type B) ((router_state before).query_set record_type B)

-- A BLOCK that is ignored, or the row of the table.
theorem receive_record_row (hinv : QuerierInv q) (h : receive_record cfg gr q = .ok q')
    {r : GaddrInfo α × Env α}
    (hr : r = note_older_host cfg q.m_db.querier_version_mode gr.grp_mem_proto gr.gaddr
      (q.group gr.gaddr) q.env) :
    (r.1.is_in_backward_compatibility_mode = true ∧ gr.record_type = BLOCK_OLD_SOURCES ∧
      OrdMap.lookup q'.m_db.group_info gr.gaddr = some r.1) ∨
    ¬ (r.1.is_in_backward_compatibility_mode = true ∧ gr.record_type = BLOCK_OLD_SOURCES) ∧
    RowApplied cfg gr.gaddr r.2 q'.env (OrdMap.lookup q.m_db.group_info gr.gaddr)
      (OrdMap.lookup q'.m_db.group_info gr.gaddr) gr.record_type
      (compatible_slist r.1 gr).addrs := by
  have hstate : r.1.router_state = (q.group gr.gaddr).router_state :=
    hr ▸ router_state_note_older_host ..
  have hreq : r.1.include_requested_list = (q.group gr.gaddr).include_requested_list := by
    obtain ⟨version, timer, hfst⟩ := note_older_host_frame cfg q.m_db.querier_version_mode
      gr.grp_mem_proto gr.gaddr (q.group gr.gaddr) q.env
    rw [hr, hfst]
  have hdisj := ((hinv.group gr.gaddr).1.note_older_host cfg q.m_db.querier_version_mode
    gr.grp_mem_proto).disjoint
  obtain ⟨r₁, hr₁, hcase⟩ := receive_record_cases h
  obtain rfl := hr.trans hr₁.symm
  rw [← hr] at hdisj
  rcases hcase with ⟨hcompat, hblock, rfl⟩ |
    ⟨hblock, ⟨r', hmode, hr', hcase⟩ | ⟨r', hmode, hr', rfl⟩⟩
  · exact Or.inl ⟨hcompat, hblock, by simp⟩
  · refine Or.inr ⟨hblock, ?_⟩
    have hrow := receive_record_in_include_mode_row cfg gr.record_type gr.gaddr
      (compatible_slist r.1 gr) r.2 hmode
    have htimers := receive_record_in_include_mode_timers cfg gr.record_type gr.gaddr
      (compatible_slist r.1 gr) r.2 hmode
    rw [← hr', hstate, ← router_state_group] at hrow
    rw [← hr', hstate, ← router_state_group, hreq, ← requested_group] at htimers
    rcases hcase with ⟨hm, hempty, rfl⟩ | ⟨-, rfl⟩
    · have hnone : r'.1.include_requested_list.addrs = ∅ := Set.eq_empty_of_forall_notMem hempty
      rw [GaddrInfo.router_state_include hm, hnone] at hrow
      refine ⟨by simpa [router_state] using hrow, fun a ha => ?_, fun a s _ ha => ?_⟩
      · obtain ⟨s, t, hs, -⟩ := htimers.fresh a ha
        exact absurd (OrdSet.mem_of_find hs) (hempty a)
      · simp [requested] at ha
    · refine ⟨?_, ?_⟩
      · simpa [router_state] using hrow
      · simpa [requested] using htimers
  · refine Or.inr ⟨hblock, ?_⟩
    have hrow := receive_record_in_exclude_mode_row hmode hdisj hr'
    have htimers := receive_record_in_exclude_mode_timers hmode hdisj hr'
    rw [hstate, ← router_state_group] at hrow
    rw [hstate, ← router_state_group, hreq, ← requested_group] at htimers
    refine ⟨?_, ?_⟩
    · simpa [router_state] using hrow
    · simpa [requested] using htimers

theorem receive_record_in_exclude_mode_ok {gaddr : α} {ginfo : GaddrInfo α} {slist : SourceList α}
    {env : Env α} (cfg : Config) (record_type : McastAddrRecordType)
    (hft : ginfo.shared_filter_timer ≠ none) :
    ∃ r, receive_record_in_exclude_mode cfg record_type gaddr slist ginfo env = .ok r := by
  cases record_type with
  | CHANGE_TO_INCLUDE_MODE =>
    simp only [receive_record_in_exclude_mode]
    generalize hsend : send_Q cfg gaddr _ _ false env = sq
    have hsame : sq.1.shared_filter_timer = ginfo.shared_filter_timer := by
      rw [← hsend, send_Q_shared_filter_timer]
    cases hq : send_Q_group cfg gaddr sq.1 sq.2 with
    | error f =>
      have herr := (send_Q_group_error_iff.mp hq).2.2.2
      exact absurd (hsame.symm.trans herr) hft
    | ok r => exact ⟨_, rfl⟩
  | _ => exact ⟨_, rfl⟩

-- A record never meets a null filter timer.
theorem receive_record_total (hinv : QuerierInv q) (cfg : Config) (gr : GroupRecordMsg α) :
    ∃ q', receive_record cfg gr q = .ok q' := by
  have hnote := (hinv.group gr.gaddr).1.note_older_host cfg q.m_db.querier_version_mode
    gr.grp_mem_proto
  simp only [receive_record]
  generalize note_older_host cfg q.m_db.querier_version_mode gr.grp_mem_proto gr.gaddr
    (q.group gr.gaddr) q.env = r at hnote ⊢
  cases hmode : r.1.filter_mode with
  | INCLUDE_MODE =>
    dsimp only
    split_ifs <;> exact ⟨_, rfl⟩
  | EXCLUDE_MODE =>
    obtain ⟨t, -, ht, -⟩ := hnote.exclude_mode hmode
    have hft : r.1.shared_filter_timer ≠ none := ht ▸ Option.some_ne_none t
    obtain ⟨r', hr'⟩ := receive_record_in_exclude_mode_ok cfg gr.record_type hft
    dsimp only
    rw [hr']
    split_ifs <;> exact ⟨_, rfl⟩

-- The code computes the row of the table the record calls for.
theorem receive_record_refines_table (cfg : Config) (mode : GroupMemProtocol) (q : Querier α)
    (hq : (querier α cfg mode).Reachable q) (gr : GroupRecordMsg α)
    (hnewest : is_newest_version gr.grp_mem_proto = true) :
    ∃ q', receive_record cfg gr q = .ok q' ∧
      if (q.group gr.gaddr).is_in_backward_compatibility_mode = true ∧
          gr.record_type = BLOCK_OLD_SOURCES then
        router_state (OrdMap.lookup q'.m_db.group_info gr.gaddr) =
            router_state (OrdMap.lookup q.m_db.group_info gr.gaddr) ∧
          requested (OrdMap.lookup q'.m_db.group_info gr.gaddr) =
            requested (OrdMap.lookup q.m_db.group_info gr.gaddr)
      else
        RowApplied cfg gr.gaddr q.env q'.env (OrdMap.lookup q.m_db.group_info gr.gaddr)
          (OrdMap.lookup q'.m_db.group_info gr.gaddr) gr.record_type
          (compatible_slist (q.group gr.gaddr) gr).addrs := by
  have hinv := querier_inv hq
  obtain ⟨q', h⟩ := receive_record_total hinv cfg gr
  refine ⟨q', h, ?_⟩
  have hnote := note_older_host_of_newest hnewest cfg q.m_db.querier_version_mode gr.gaddr
    (q.group gr.gaddr) q.env
  rcases receive_record_row hinv h hnote.symm with ⟨hcompat, hblock, hlook⟩ | ⟨hblock, hrow⟩
  · rw [if_pos ⟨hcompat, hblock⟩, hlook, router_state_group, requested_group]
    exact ⟨rfl, rfl⟩
  · rw [if_neg hblock]
    exact hrow

theorem receive_record_refines_table_is_ex :
    ∃ q q' : Querier Ipv4Addr, (querier Ipv4Addr default_config IGMPv3).Reachable q ∧
      requested (OrdMap.lookup q.m_db.group_info 7) ≠ ∅ ∧
      receive_record default_config ⟨MODE_IS_EXCLUDE, 7, sources [5, 9, 11], IGMPv3⟩ q = .ok q' ∧
      RowApplied default_config 7 q.env q'.env (OrdMap.lookup q.m_db.group_info 7)
        (OrdMap.lookup q'.m_db.group_info 7) MODE_IS_EXCLUDE (sources [5, 9, 11]).addrs := by
  obtain ⟨q, hrun, hp⟩ := Machine.exists_run_of_exec (querier Ipv4Addr default_config IGMPv3)
    [.record ⟨MODE_IS_EXCLUDE, 7, sources [9], IGMPv3⟩,
      .record ⟨ALLOW_NEW_SOURCES, 7, sources [3, 5], IGMPv3⟩]
    (fun q => !(requested (OrdMap.lookup q.m_db.group_info 7)).isEmpty &&
      !(q.group 7).is_in_backward_compatibility_mode) rfl
  simp only [Bool.and_eq_true, Bool.not_eq_true'] at hp
  obtain ⟨q', h, hrow⟩ := receive_record_refines_table default_config IGMPv3 q hrun.reachable
    ⟨MODE_IS_EXCLUDE, 7, sources [5, 9, 11], IGMPv3⟩ rfl
  refine ⟨q, q', hrun.reachable, ?_, h, ?_⟩
  · intro he
    rw [he] at hp
    exact Bool.noConfusion hp.1
  · simpa [compatible_slist, hp.2] using hrow

end ReceiveRecord

end Mcproxy
