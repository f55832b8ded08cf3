import Mcproxy.Querier.Refinement

namespace Mcproxy

open Container Transition McFilter McastAddrRecordType MessageType GroupMemProtocol

variable {α : Type*} [LinearOrder α]

-- While a record has group queries to come, its retransmission timer is under way.
def Episode (env : Env α) (gaddr : α) (ginfo : GaddrInfo α) : Prop :=
  0 < ginfo.group_retransmission_count →
    env.Armed RET_GROUP_TIMER_MSG gaddr ginfo.group_retransmission_timer

def EpisodeInv (q : Querier α) : Prop :=
  ∀ g ginfo, OrdMap.lookup q.m_db.group_info g = some ginfo → Episode q.env g ginfo

-- Queries to come for a group that has no filter timer any more.
def GaddrInfo.orphaned (ginfo : GaddrInfo α) : Prop :=
  ginfo.filter_mode = INCLUDE_MODE ∧ 0 < ginfo.group_retransmission_count

-- The delivery that orphans a group: its filter timer fires between two retransmissions
-- while there are sources left to include.
def filter_timer_overtakes (q : Querier α) : Event α → Bool
  | .record _ => false
  | .timer msg _ =>
    msg.type = FILTER_TIMER_MSG &&
      (msg.gaddr.bind (OrdMap.lookup q.m_db.group_info)).any fun ginfo =>
        same_object ginfo.shared_filter_timer msg && ginfo.filter_mode = EXCLUDE_MODE &&
          !ginfo.include_requested_list.isEmpty && decide (0 < ginfo.group_retransmission_count)

-- What one step makes of the retransmissions of a group: the timer is armed, and `before` is
-- what it takes for the group to be orphaned now.
structure EpisodeStep (before : Prop) (env' : Env α) (gaddr : α) (ginfo' : GaddrInfo α) :
    Prop where
  episode : Episode env' gaddr ginfo'
  orphaned : ginfo'.orphaned → before

def EpisodesStep (overtaken : Prop) (db : MembershipDb α) (q' : Querier α) : Prop :=
  ∀ g ginfo', OrdMap.lookup q'.m_db.group_info g = some ginfo' →
    EpisodeStep (overtaken ∨ ∃ ginfo, OrdMap.lookup db.group_info g = some ginfo ∧ ginfo.orphaned)
      q'.env g ginfo'

section Group

variable {before : Prop} {cfg : Config} {gaddr : α} {ginfo ginfo' : GaddrInfo α}
  {slist : SourceList α} {env env' : Env α} {msg : TimerMsg α}

theorem Episode.mono (h : Episode env gaddr ginfo) (hsub : env.timing ⊆ env'.timing) :
    Episode env' gaddr ginfo :=
  fun hpos => (h hpos).mono hsub

-- The operation does not touch the episode.
theorem EpisodeStep.of_same (h : Episode env gaddr ginfo) (hsub : env.timing ⊆ env'.timing)
    (htimer : ginfo'.group_retransmission_timer = ginfo.group_retransmission_timer)
    (hcount : ginfo'.group_retransmission_count = ginfo.group_retransmission_count)
    (hmode : ginfo'.filter_mode = INCLUDE_MODE → 0 < ginfo.group_retransmission_count → before) :
    EpisodeStep before env' gaddr ginfo' where
  episode := by
    intro hpos
    rw [hcount] at hpos
    rw [htimer]
    exact h.mono hsub hpos
  orphaned := by
    rintro ⟨hm, hpos⟩
    rw [hcount] at hpos
    exact hmode hm hpos

-- `send_Q(gaddr, ginfo)` arms what it announces, and does not get that far without a
-- filter timer.
theorem EpisodeStep.of_send_Q_group {r : GaddrInfo α × Env α}
    (h : send_Q_group cfg gaddr ginfo env = .ok r) (hsub : r.2.timing ⊆ env'.timing)
    (hmode : ginfo.filter_mode = INCLUDE_MODE →
      ginfo.group_retransmission_timer.isSome ∧ ginfo.shared_filter_timer = none)
    (htimer : ginfo'.group_retransmission_timer = r.1.group_retransmission_timer)
    (hcount : ginfo'.group_retransmission_count = r.1.group_retransmission_count)
    (hmode' : ginfo'.filter_mode = r.1.filter_mode) :
    EpisodeStep before env' gaddr ginfo' where
  episode := by
    intro hpos
    rw [hcount] at hpos
    rw [htimer]
    exact (send_Q_group_ret_armed h hpos).mono hsub
  orphaned := by
    rintro ⟨hm, hpos⟩
    obtain ⟨ft, rt, count, hfst⟩ := send_Q_group_frame h
    rw [hmode', hfst] at hm
    obtain ⟨hrt, hft⟩ := hmode hm
    obtain ⟨t, ht⟩ := Option.isSome_iff_exists.mp hrt
    -- an episode under way would have faulted
    have hnot : ¬ 0 < ginfo.group_retransmission_count := by
      intro hlt
      have herr : send_Q_group cfg gaddr ginfo env = .error .null_shared_filter_timer :=
        send_Q_group_error_iff.mpr ⟨rfl, hrt, hlt, hft⟩
      rw [h] at herr
      cases herr
    rcases send_Q_group_cases h with ⟨hpos', -⟩ | ⟨-, hr⟩
    · rw [start_group_queries_of_some ht] at hpos'
      exact absurd hpos' hnot
    · rw [hcount, hr] at hpos
      simp at hpos

theorem receive_record_in_include_mode_episode (cfg : Config) (record_type : McastAddrRecordType)
    (gaddr : α) (slist : SourceList α) (ginfo : GaddrInfo α) (env : Env α) :
    let r := receive_record_in_include_mode cfg record_type gaddr slist ginfo env
    r.1.group_retransmission_timer = ginfo.group_retransmission_timer ∧
      r.1.group_retransmission_count = ginfo.group_retransmission_count := by
  cases record_type <;>
    simp [receive_record_in_include_mode, mali_filter_timer]

theorem receive_record_in_exclude_mode_episode {record_type : McastAddrRecordType}
    {r : GaddrInfo α × Env α} (h : Episode env gaddr ginfo)
    (hmode : ginfo.filter_mode = EXCLUDE_MODE)
    (hr : receive_record_in_exclude_mode cfg record_type gaddr slist ginfo env = .ok r) :
    EpisodeStep before r.2 gaddr r.1 := by
  have hexcl : r.1.filter_mode ≠ INCLUDE_MODE := by
    rw [receive_record_in_exclude_mode_stays hr, hmode]
    decide
  have hsub := receive_record_in_exclude_mode_timing hr
  cases record_type with
  | CHANGE_TO_INCLUDE_MODE =>
    obtain ⟨rg, hrg, rfl⟩ := exists_of_map_ok hr
    have hmali := mali_extends cfg gaddr rg.1.include_requested_list slist rg.2
    refine .of_send_Q_group hrg hmali.timing (fun hm => ?_) rfl rfl rfl
    rw [send_Q_filter_mode] at hm
    exact absurd (hmode.symm.trans hm) (by decide)
  | ALLOW_NEW_SOURCES | MODE_IS_INCLUDE | MODE_IS_EXCLUDE | unknown =>
    obtain rfl := Except.ok.inj hr
    exact .of_same h hsub rfl rfl (fun hm => absurd hm hexcl)
  | BLOCK_OLD_SOURCES | CHANGE_TO_EXCLUDE_MODE =>
    obtain rfl := Except.ok.inj hr
    exact .of_same h hsub (send_Q_group_retransmission_timer ..)
      (send_Q_group_retransmission_count ..) (fun hm => absurd hm hexcl)

end Group

section Step

variable {overtaken : Prop} {cfg : Config} {mode : GroupMemProtocol} {gaddr : α}
  {ginfo ginfo' : GaddrInfo α} {env : Env α} {q q' : Querier α} {msg : TimerMsg α} {e : Event α}

theorem EpisodesStep.of_kept (h : EpisodeInv q) : EpisodesStep overtaken q.m_db q := by
  intro g gi hlook
  exact ⟨h g gi hlook, fun ho => Or.inr ⟨gi, hlook, ho⟩⟩

theorem EpisodesStep.of_delivered (h : EpisodeInv (q.deliver msg)) :
    EpisodesStep overtaken q.m_db (q.deliver msg) :=
  of_kept h

theorem EpisodesStep.put
    (hothers : ∀ g gi, g ≠ gaddr → OrdMap.lookup q.m_db.group_info g = some gi → Episode env g gi)
    (hg : EpisodeStep (overtaken ∨ ∃ ginfo, OrdMap.lookup q.m_db.group_info gaddr = some ginfo ∧
      ginfo.orphaned) env gaddr ginfo') :
    EpisodesStep overtaken q.m_db (q.put gaddr ginfo' env) := by
  refine Querier.forall_put (fun g gi hne hlook => ?_) hg
  exact ⟨hothers g gi hne hlook, fun ho => Or.inr ⟨gi, hlook, ho⟩⟩

theorem EpisodesStep.del
    (hothers : ∀ g gi, g ≠ gaddr → OrdMap.lookup q.m_db.group_info g = some gi → Episode env g gi) :
    EpisodesStep overtaken q.m_db (q.del gaddr env) := by
  refine Querier.forall_del fun g gi hne hlook => ?_
  exact ⟨hothers g gi hne hlook, fun ho => Or.inr ⟨gi, hlook, ho⟩⟩

-- A record that is only now created has no queries to come.
theorem Querier.lookup_of_group (gaddr : α)
    (hpos : 0 < (q.group gaddr).group_retransmission_count) :
    OrdMap.lookup q.m_db.group_info gaddr = some (q.group gaddr) := by
  unfold Querier.group at hpos ⊢
  cases hlook : OrdMap.lookup q.m_db.group_info gaddr with
  | none => simp [hlook, GaddrInfo.new] at hpos
  | some ginfo => rfl

theorem receive_record_episodes {gr : GroupRecordMsg α} (hep : EpisodeInv q)
    (h : receive_record cfg gr q = .ok q') : EpisodesStep overtaken q.m_db q' := by
  obtain ⟨r, hr, hcase⟩ := receive_record_cases h
  have hext : q.env.Extends r.2 := hr ▸ note_older_host_extends ..
  obtain ⟨version, timer, hfst⟩ := note_older_host_frame cfg q.m_db.querier_version_mode
    gr.grp_mem_proto gr.gaddr (q.group gr.gaddr) q.env
  rw [← hr] at hfst
  have hgroup : Episode r.2 gr.gaddr r.1 := by
    intro hpos
    rw [hfst] at hpos ⊢
    exact (hep _ _ (Querier.lookup_of_group gr.gaddr hpos) hpos).extends hext
  have hothers : ∀ env : Env α, r.2.timing ⊆ env.timing → ∀ g gi, g ≠ gr.gaddr →
      OrdMap.lookup q.m_db.group_info g = some gi → Episode env g gi :=
    fun env hsub g gi _ hlook => (hep g gi hlook).mono (List.Subset.trans hext.timing hsub)
  have horphaned : r.1.filter_mode = INCLUDE_MODE → 0 < r.1.group_retransmission_count →
      overtaken ∨ ∃ ginfo, OrdMap.lookup q.m_db.group_info gr.gaddr = some ginfo ∧
        ginfo.orphaned := by
    intro hm hpos
    rw [hfst] at hm hpos
    exact Or.inr ⟨_, Querier.lookup_of_group gr.gaddr hpos, hm, hpos⟩
  rcases hcase with ⟨-, -, rfl⟩ | ⟨-, ⟨r', hmode, hr', hres⟩ | ⟨r', hmode, hr', rfl⟩⟩
  · exact .put (hothers _ (List.Subset.refl _)) ⟨hgroup, fun ho => horphaned ho.1 ho.2⟩
  · have hsub := receive_record_in_include_mode_timing cfg gr.record_type gr.gaddr
      (compatible_slist r.1 gr) r.1 r.2
    obtain ⟨htimer, hcount⟩ := receive_record_in_include_mode_episode cfg gr.record_type gr.gaddr
      (compatible_slist r.1 gr) r.1 r.2
    rw [← hr'] at hsub htimer hcount
    rcases hres with ⟨-, -, rfl⟩ | ⟨-, rfl⟩
    · exact .del (hothers _ hsub)
    · exact .put (hothers _ hsub) (.of_same hgroup hsub htimer hcount fun _ => horphaned hmode)
  · exact .put (hothers _ (receive_record_in_exclude_mode_timing hr'))
      (receive_record_in_exclude_mode_episode hgroup hmode hr')

theorem Episode.deliver (h : Episode q.env gaddr ginfo)
    (hne : ginfo.group_retransmission_timer ≠ some msg) : Episode (q.deliver msg).env gaddr ginfo :=
  fun hpos => (h hpos).deliver hne

theorem EpisodeInv.deliver_of_type (h : EpisodeInv q) (ht : msg.type ≠ RET_GROUP_TIMER_MSG) :
    EpisodeInv (q.deliver msg) :=
  fun g gi hlook hpos => (h g gi hlook hpos).deliver ((h g gi hlook hpos).ne_of_type ht)

theorem EpisodeInv.deliver_others (h : EpisodeInv q) (hg : msg.gaddr = some gaddr) (g : α)
    (gi : GaddrInfo α) (hne : g ≠ gaddr) (hlook : OrdMap.lookup q.m_db.group_info g = some gi) :
    Episode (q.deliver msg).env g gi := by
  intro hpos
  refine (h g gi hlook hpos).deliver ((h g gi hlook hpos).ne_of_gaddr ?_)
  rw [hg]
  exact fun he => hne (Option.some.inj he).symm

theorem timer_triggerd_group_episodes {unique : Bool} (hinv : QuerierInv q) (hep : EpisodeInv q)
    (hmem : msg ∈ q.env.timing) (hgaddr : msg.gaddr = some gaddr)
    (hlook : OrdMap.lookup q.m_db.group_info gaddr = some ginfo)
    (h : timer_triggerd_group cfg gaddr ginfo msg (q.deliver msg) = .ok q') :
    EpisodesStep (filter_timer_overtakes q (.timer msg unique) = true) q.m_db q' := by
  have hothers := hep.deliver_others hgaddr
  -- a handler that leaves the episode of its group as it was
  have hsame : msg.type ≠ RET_GROUP_TIMER_MSG → ∀ (gi : GaddrInfo α) (env : Env α),
      (q.deliver msg).env.timing ⊆ env.timing →
      gi.group_retransmission_timer = ginfo.group_retransmission_timer →
      gi.group_retransmission_count = ginfo.group_retransmission_count →
      gi.filter_mode = ginfo.filter_mode →
      EpisodesStep (filter_timer_overtakes q (.timer msg unique) = true) q.m_db
        ((q.deliver msg).put gaddr gi env) := by
    intro ht gi env hsub htimer hcount hmode
    refine @EpisodesStep.put α _ _ _ _ _ (q.deliver msg) (fun g gi hne hl => ?_)
      (.of_same (hep.deliver_of_type ht gaddr ginfo hlook) hsub htimer hcount
        fun hm hpos => Or.inr ?_)
    · exact (hothers g gi hne hl).mono hsub
    · exact ⟨ginfo, hlook, hmode ▸ hm, hpos⟩
  have hsources : msg.type = SOURCE_TIMER_MSG ∨ msg.type = FILTER_TIMER_MSG →
      msg.type ≠ RET_GROUP_TIMER_MSG := by
    rintro (ht | ht) <;> simp [ht]
  cases timer_triggerd_group_step h with
  | ignored hgroup _ =>
    refine .of_delivered fun g gi hl => ?_
    by_cases hne : g = gaddr
    · subst hne
      obtain rfl := Option.some.inj (hlook.symm.trans hl)
      by_cases ht : msg.type = RET_GROUP_TIMER_MSG
      · exact (hep g ginfo hlook).deliver (ne_of_not_same_object (hgroup ht))
      · exact hep.deliver_of_type ht g ginfo hlook
    · exact hothers g gi hne hl
  | erased => exact @EpisodesStep.del α _ _ _ _ (q.deliver msg) hothers
  | sources_deleted htype hmode hginfo' _ =>
    subst hginfo'
    exact hsame (hsources htype) _ _ (List.Subset.refl _) rfl rfl rfl
  | sources_moved htype hmode hginfo' =>
    subst hginfo'
    exact hsame (hsources htype) _ _ (List.Subset.refl _) rfl rfl rfl
  | filter_expired htype hobj hmode hsome hginfo' =>
    subst hginfo'
    have hdel := hep.deliver_of_type (hsources (Or.inr htype))
    refine @EpisodesStep.put α _ _ _ _ _ (q.deliver msg) hothers
      (.of_same (hdel gaddr ginfo hlook) (List.Subset.refl _) rfl rfl fun _ hpos => Or.inl ?_)
    simp [filter_timer_overtakes, htype, hgaddr, hlook, hobj, hmode, hsome, hpos]
  | shared hused => cases hused.symm.trans (hinv.pending.unused msg hmem)
  | group_queried htype hobj hr =>
    have hext := send_Q_group_extends hr
    refine @EpisodesStep.put α _ _ _ _ _ (q.deliver msg) (fun g gi hne hl => ?_)
      (.of_send_Q_group hr (List.Subset.refl _) (fun hm => ⟨?_, ?_⟩) rfl rfl rfl)
    · exact (hothers g gi hne hl).mono hext.timing
    · cases hrt : ginfo.group_retransmission_timer with
      | none => simp [hrt, same_object] at hobj
      | some t => rfl
    · exact ((hinv.groups gaddr ginfo hlook).1.include_mode hm).2
  | sources_queried htype _ =>
    exact hsame (by simp [htype]) _ _ (send_Q_extends ..).timing (by simp) (by simp) (by simp)
  | older_host_gone htype _ hginfo' =>
    subst hginfo'
    exact hsame (by simp [htype]) _ _ (List.Subset.refl _) rfl rfl rfl
  | newer_host _ _ htype _ =>
    exact hsame (by simp [htype]) _ _ (Env.arm_extends ..).timing rfl rfl rfl

theorem timer_triggerd_episodes {unique : Bool} (hinv : QuerierInv q) (hep : EpisodeInv q)
    (hmem : msg ∈ q.env.timing) (hunique : unique = true → q.m_db.references msg = false)
    (h : timer_triggerd cfg unique msg (q.deliver msg) = .ok q') :
    EpisodesStep (filter_timer_overtakes q (.timer msg unique) = true) q.m_db q' := by
  rcases timer_triggerd_cases h with ⟨hu, rfl⟩ | ⟨htype, rfl⟩ | ⟨hnone, rfl⟩ | ⟨g, gi, hg, hl, h⟩
  · refine .of_delivered fun g gi hlook => ?_
    have href := MembershipDb.not_references_of_lookup (hunique hu) hlook
    exact (hep g gi hlook).deliver (GaddrInfo.ne_of_not_references href).2.1
  · have hdel := hep.deliver_of_type (show msg.type ≠ RET_GROUP_TIMER_MSG by simp [htype])
    unfold timer_triggerd_general_query_timer
    split_ifs
    · refine @EpisodesStep.of_kept α _ _ (send_general_query cfg (q.deliver msg)) ?_
      exact fun g gi hlook => (hdel g gi hlook).mono (send_general_query_extends ..).timing
    · exact .of_delivered hdel
  · refine .of_delivered fun g gi hlook hpos => ?_
    refine (hep g gi hlook hpos).deliver ((hep g gi hlook hpos).ne_of_gaddr fun hg => ?_)
    simp [hnone g hg] at hlook
  · exact timer_triggerd_group_episodes hinv hep hmem hg hl h

theorem querier_step_episodes (hinv : QuerierInv q) (hep : EpisodeInv q)
    (he : (querier α cfg mode).enabled q e) (h : (querier α cfg mode).step q e = .ok q') :
    EpisodesStep (filter_timer_overtakes q e = true) q.m_db q' := by
  cases e with
  | record gr => exact receive_record_episodes hep h
  | timer msg unique => exact timer_triggerd_episodes hinv hep he.1 he.2 h

theorem episode_inv (hq : (querier α cfg mode).Reachable q) : EpisodeInv q := by
  have h := hq.invariant (fun q => QuerierInv q ∧ EpisodeInv q)
    ⟨new_querier_inv cfg mode, fun g ginfo hlook => ?_⟩ ?_
  · exact h.2
  · simp [querier, new_querier, send_general_query] at hlook
  · intro q e q' hinv he hs
    exact ⟨querier_step_inv hinv.1 he hs,
      fun g gi hlook => (querier_step_episodes hinv.1 hinv.2 he hs g gi hlook).episode⟩

-- The overtaking delivery does orphan its group.
theorem orphaned_of_overtaken (hinv : QuerierInv q) (he : (querier α cfg mode).enabled q e)
    (h : (querier α cfg mode).step q e = .ok q') (hover : filter_timer_overtakes q e = true) :
    ∃ g ginfo, OrdMap.lookup q'.m_db.group_info g = some ginfo ∧ ginfo.orphaned := by
  cases e with
  | record gr => cases hover
  | timer msg unique =>
    simp only [filter_timer_overtakes, Bool.and_eq_true, decide_eq_true_eq, Option.any_eq_true,
      Option.bind_eq_some_iff, Bool.not_eq_true'] at hover
    obtain ⟨htype, ginfo, ⟨gaddr, hgaddr, hlook⟩, ⟨⟨hsame, hmode⟩, hne⟩, hpos⟩ := hover
    have hunique : unique = false := by
      cases hu : unique with
      | false => rfl
      | true =>
        have href := MembershipDb.not_references_of_lookup (he.2 hu) hlook
        simp [GaddrInfo.references, hsame] at href
    have hlook' : OrdMap.lookup (q.deliver msg).m_db.group_info gaddr = some ginfo := hlook
    have hstep : timer_triggerd cfg unique msg (q.deliver msg) = .ok q' := h
    have hunused := hinv.pending.unused msg he.1
    simp only [timer_triggerd, hunique, htype, hgaddr, hlook', timer_triggerd_group,
      timer_triggerd_filter_timer, hunused, filter_timer_expired, hsame, hmode, hne] at hstep
    obtain rfl := Except.ok.inj hstep
    refine ⟨gaddr, { ginfo with
      filter_mode := INCLUDE_MODE, shared_filter_timer := none, exclude_list := ∅ }, ?_, rfl, hpos⟩
    simp

-- The retransmission timer of an orphaned group, when it is delivered, finds no filter timer.
theorem orphaned_faults (cfg : Config) (mode : GroupMemProtocol) (hinv : QuerierInv q)
    (hep : EpisodeInv q) (hlook : OrdMap.lookup q.m_db.group_info gaddr = some ginfo)
    (ho : ginfo.orphaned) : ∃ t ∈ q.env.timing, (querier α cfg mode).step q (.timer t false) =
      .error .null_shared_filter_timer := by
  obtain ⟨t, hmem, ht, htype, hgaddr⟩ := hep gaddr ginfo hlook ho.2
  refine ⟨t, hmem, ?_⟩
  have hft := ((hinv.groups gaddr ginfo hlook).1.include_mode ho.1).2
  have herr : send_Q_group cfg gaddr ginfo (q.deliver t).env = .error .null_shared_filter_timer :=
    send_Q_group_error_iff.mpr ⟨rfl, ht ▸ rfl, ho.2, hft⟩
  have hlook' : OrdMap.lookup (q.deliver t).m_db.group_info gaddr = some ginfo := hlook
  change timer_triggerd cfg false t (q.deliver t) = _
  simp only [timer_triggerd, htype, hgaddr, hlook', timer_triggerd_group,
    timer_triggerd_ret_group_timer, ht, same_object_self, herr]
  rfl

theorem orphaned_of_fault (hinv : QuerierInv q) (he : (querier α cfg mode).enabled q e) {f : Fault}
    (h : (querier α cfg mode).step q e = .error f) :
    ∃ g ginfo, OrdMap.lookup q.m_db.group_info g = some ginfo ∧ ginfo.orphaned := by
  cases e with
  | record gr =>
    obtain ⟨q', hok⟩ := receive_record_total hinv cfg gr
    cases hok.symm.trans h
  | timer msg unique =>
    change timer_triggerd cfg unique msg (q.deliver msg) = .error f at h
    have hunused := hinv.pending.unused msg he.1
    unfold timer_triggerd at h
    split_ifs at h
    split at h
    · cases h
    next gaddr hgaddr =>
    split at h
    · cases h
    next ginfo hlook =>
    unfold timer_triggerd_group at h
    split at h
    · simp [timer_triggerd_filter_timer, hunused] at h
    · cases h
    · unfold timer_triggerd_ret_group_timer at h
      split_ifs at h
      cases hr : send_Q_group cfg gaddr ginfo (q.deliver msg).env with
      | ok r => simp [hr, Except.map] at h
      | error f' =>
        obtain ⟨-, -, hpos, hft⟩ := send_Q_group_error_iff.mp hr
        refine ⟨gaddr, ginfo, hlook, ?_, hpos⟩
        cases hmode : ginfo.filter_mode with
        | INCLUDE_MODE => rfl
        | EXCLUDE_MODE =>
          obtain ⟨t, -, ht, -⟩ := (hinv.groups gaddr ginfo hlook).1.exclude_mode hmode
          rw [hft] at ht
          cases ht
    · cases h
    · cases h
    · cases h

end Step

section Run

variable {cfg : Config} {mode : GroupMemProtocol} {q : Querier α}

-- In a reachable state nothing that may be delivered faults unless a group is orphaned.
theorem no_fault_iff_no_orphan (hq : (querier α cfg mode).Reachable q) :
    (∀ e, (querier α cfg mode).enabled q e →
      (querier α cfg mode).step q e ≠ .error .null_shared_filter_timer) ↔
    ∀ g ginfo, OrdMap.lookup q.m_db.group_info g = some ginfo → ¬ ginfo.orphaned := by
  have hinv := querier_inv hq
  constructor
  · intro h g ginfo hlook ho
    obtain ⟨t, hmem, hfault⟩ := orphaned_faults cfg mode hinv (episode_inv hq) hlook ho
    exact h (.timer t false) ⟨hmem, fun hu => by cases hu⟩ hfault
  · intro h e he hfault
    obtain ⟨g, ginfo, hlook, ho⟩ := orphaned_of_fault hinv he hfault
    exact h g ginfo hlook ho

-- All along a run, whatever is delivered next finds the filter timer it asks for, exactly when
-- no filter timer has overtaken the retransmissions of its group.
theorem filter_timer_never_null_iff (cfg : Config) (mode : GroupMemProtocol) (es : List (Event α))
    (q : Querier α) (run : (querier α cfg mode).Run es q) :
    (∀ es' q', es' <+: es → (querier α cfg mode).Run es' q' →
      ∀ e, (querier α cfg mode).enabled q' e →
        (querier α cfg mode).step q' e ≠ .error .null_shared_filter_timer) ↔
    ((querier α cfg mode).restrict fun q e => filter_timer_overtakes q e = false).Run es q := by
  refine Machine.Run.forall_iff_restrict ?_ (fun _ q e q' run hsafe he hs => ?_) run
  · refine (no_fault_iff_no_orphan Machine.reachable_start).mpr fun g ginfo hlook => ?_
    simp [querier, new_querier, send_general_query] at hlook
  · have hq := run.reachable
    have hinv := querier_inv hq
    rw [no_fault_iff_no_orphan hq] at hsafe
    rw [no_fault_iff_no_orphan (hq.step he hs)]
    constructor
    · intro hsafe'
      by_contra hover
      obtain ⟨g, ginfo, hlook, ho⟩ := orphaned_of_overtaken hinv he hs (by simpa using hover)
      exact hsafe' g ginfo hlook ho
    · intro hover g ginfo hlook ho
      have hstep := querier_step_episodes hinv (episode_inv hq) he hs g ginfo hlook
      rcases hstep.orphaned ho with hover' | ⟨ginfo₀, hlook₀, ho₀⟩
      · simp [hover] at hover'
      · exact hsafe g ginfo₀ hlook₀ ho₀

theorem filter_timer_never_null_iff_leave :
    ∃ q : Querier Ipv4Addr,
      (querier Ipv4Addr default_config IGMPv3).Run
        [.record ⟨MODE_IS_EXCLUDE, 7, ∅, IGMPv3⟩,
          .record ⟨ALLOW_NEW_SOURCES, 7, sources [3], IGMPv3⟩,
          .record ⟨CHANGE_TO_INCLUDE_MODE, 7, ∅, IGMPv3⟩] q ∧
      ∀ e, (querier Ipv4Addr default_config IGMPv3).enabled q e →
        (querier Ipv4Addr default_config IGMPv3).step q e ≠ .error .null_shared_filter_timer := by
  obtain ⟨q, hrun, -⟩ := Machine.exists_run_of_exec
    ((querier Ipv4Addr default_config IGMPv3).restrict
      fun q e => filter_timer_overtakes q e = false)
    [.record ⟨MODE_IS_EXCLUDE, 7, ∅, IGMPv3⟩, .record ⟨ALLOW_NEW_SOURCES, 7, sources [3], IGMPv3⟩,
      .record ⟨CHANGE_TO_INCLUDE_MODE, 7, ∅, IGMPv3⟩]
    (fun _ => true) (by decide +kernel)
  refine ⟨q, hrun.of_restrict, ?_⟩
  exact (filter_timer_never_null_iff default_config IGMPv3 _ q hrun.of_restrict).mpr hrun _ q
    List.prefix_rfl hrun.of_restrict

-- LLQC is 2. A leave lowers the filter timer to two seconds and arms the retransmission for
-- after one; two seconds later both are due. The filter timer is handed over first.
theorem overtaken_retransmission_faults :
    ∃ q : Querier Ipv4Addr,
      (querier Ipv4Addr ⟨jumping [17, 17], {}⟩ IGMPv3).Run
        [.record ⟨MODE_IS_EXCLUDE, 7, ∅, IGMPv3⟩,
          .record ⟨ALLOW_NEW_SOURCES, 7, sources [3], IGMPv3⟩,
          .record ⟨CHANGE_TO_INCLUDE_MODE, 7, ∅, IGMPv3⟩,
          .timer ⟨5, FILTER_TIMER_MSG, some 7, 2000000011, false⟩ false] q ∧
      2000000011 ≤ (jumping [17, 17]).reading q.env.readings ∧
      1000000013 ≤ (jumping [17, 17]).reading q.env.readings ∧
      (querier Ipv4Addr ⟨jumping [17, 17], {}⟩ IGMPv3).enabled q
        (.timer ⟨6, RET_GROUP_TIMER_MSG, some 7, 1000000013, false⟩ false) ∧
      (querier Ipv4Addr ⟨jumping [17, 17], {}⟩ IGMPv3).step q
        (.timer ⟨6, RET_GROUP_TIMER_MSG, some 7, 1000000013, false⟩ false) =
          .error .null_shared_filter_timer := by
  obtain ⟨q, hrun, he, hp⟩ := Machine.exists_step_of_exec
    (querier Ipv4Addr ⟨jumping [17, 17], {}⟩ IGMPv3)
    [.record ⟨MODE_IS_EXCLUDE, 7, ∅, IGMPv3⟩, .record ⟨ALLOW_NEW_SOURCES, 7, sources [3], IGMPv3⟩,
      .record ⟨CHANGE_TO_INCLUDE_MODE, 7, ∅, IGMPv3⟩,
      .timer ⟨5, FILTER_TIMER_MSG, some 7, 2000000011, false⟩ false]
    (.timer ⟨6, RET_GROUP_TIMER_MSG, some 7, 1000000013, false⟩ false)
    (fun q r => q.env.readings = 17 &&
      match r with
      | .error f => f = .null_shared_filter_timer
      | .ok _ => false) (by decide +kernel)
  simp only [Bool.and_eq_true, decide_eq_true_eq] at hp
  refine ⟨q, hrun, ?_, ?_, he, ?_⟩
  · rw [hp.1]
    decide +kernel
  · rw [hp.1]
    decide +kernel
  · split at hp
    next f hf => exact hf.trans (congrArg _ (of_decide_eq_true hp.2))
    next => simp at hp

end Run

end Mcproxy
