import Mcproxy.Querier.Refinement

namespace Mcproxy

open Container Transition McFilter McastAddrRecordType MessageType GroupMemProtocol

variable {α : Type*} [LinearOrder α]

-- The sources an answer of `get_group_membership_infos` accepts.
def accept (infos : McFilter × SourceList α) : Set α :=
  match infos.1 with
  | INCLUDE_MODE => infos.2.addrs
  | EXCLUDE_MODE => infos.2.addrsᶜ

-- Filter mode and source addresses of such an answer.
def view (infos : McFilter × SourceList α) : McFilter × List α := (infos.1, infos.2.keys)

section Infos

variable {ginfo ginfo' : GaddrInfo α}

theorem accept_none : accept (membership_infos (none : Option (GaddrInfo α))) = ∅ :=
  SourceList.addrs_empty

theorem membership_infos_of_older_host (h : ginfo.older_host_present_timer.isSome = true) :
    membership_infos (some ginfo) = (EXCLUDE_MODE, ∅) :=
  if_pos h

theorem membership_infos_of_no_older_host (h : ginfo.older_host_present_timer.isSome = false) :
    membership_infos (some ginfo) = match ginfo.filter_mode with
      | INCLUDE_MODE => (INCLUDE_MODE, ginfo.include_requested_list)
      | EXCLUDE_MODE => (EXCLUDE_MODE, ginfo.exclude_list) :=
  if_neg (Bool.not_eq_true _ ▸ h)

-- An older host hides the state of the group.
theorem accept_of_older_host (h : ginfo.older_host_present_timer.isSome = true) :
    accept (membership_infos (some ginfo)) = Set.univ := by
  simp [membership_infos_of_older_host h, accept]

theorem accept_of_no_older_host (h : ginfo.older_host_present_timer.isSome = false) :
    accept (membership_infos (some ginfo)) = ginfo.router_state.accept := by
  rw [membership_infos_of_no_older_host h, GaddrInfo.router_state]
  cases ginfo.filter_mode <;> rfl

theorem router_state_accept_subset (ginfo : GaddrInfo α) :
    ginfo.router_state.accept ⊆ accept (membership_infos (some ginfo)) := by
  cases h : ginfo.older_host_present_timer.isSome with
  | true => exact accept_of_older_host h ▸ Set.subset_univ _
  | false => exact (accept_of_no_older_host h).ge

theorem view_congr (hmode : ginfo'.filter_mode = ginfo.filter_mode)
    (hreq : ginfo.filter_mode = INCLUDE_MODE →
      ∀ a, a ∈ ginfo'.include_requested_list ↔ a ∈ ginfo.include_requested_list)
    (hexcl : ginfo.filter_mode = EXCLUDE_MODE →
      ∀ a, a ∈ ginfo'.exclude_list ↔ a ∈ ginfo.exclude_list)
    (hold : ginfo'.older_host_present_timer.isSome = ginfo.older_host_present_timer.isSome) :
    view (membership_infos (some ginfo')) = view (membership_infos (some ginfo)) := by
  cases hs : ginfo.older_host_present_timer.isSome with
  | true =>
    rw [membership_infos_of_older_host hs, membership_infos_of_older_host (hold.trans hs)]
  | false =>
    rw [membership_infos_of_no_older_host hs, membership_infos_of_no_older_host (hold.trans hs),
      hmode]
    cases hm : ginfo.filter_mode with
    | INCLUDE_MODE => exact congrArg (Prod.mk _) (OrdSet.keys_eq_of_mem_iff (hreq hm))
    | EXCLUDE_MODE => exact congrArg (Prod.mk _) (OrdSet.keys_eq_of_mem_iff (hexcl hm))

-- What is accepted is a matter of the view alone.
theorem accept_eq_of_view_eq {i j : McFilter × SourceList α} (h : view i = view j) :
    accept i = accept j := by
  obtain ⟨hm, hk⟩ := Prod.mk.inj h
  have haddrs : i.2.addrs = j.2.addrs := by
    ext a
    rw [SourceList.mem_addrs, SourceList.mem_addrs, ← OrdSet.mem_keys, ← OrdSet.mem_keys, hk]
  simp only [accept, hm, haddrs]

-- Nobody listens, as far as the record goes.
theorem view_of_empty (hmode : ginfo.filter_mode = INCLUDE_MODE)
    (hempty : ∀ a, a ∉ ginfo.include_requested_list)
    (hold : ginfo.older_host_present_timer = none) :
    view (membership_infos (some ginfo)) = (INCLUDE_MODE, []) := by
  have hkeys : ginfo.include_requested_list.keys = [] :=
    List.eq_nil_iff_forall_not_mem.mpr (fun a ha => hempty a ((OrdSet.mem_keys ..).mp ha))
  rw [membership_infos_of_no_older_host (by rw [hold]; rfl), hmode]
  exact congrArg (Prod.mk _) hkeys

theorem view_none : view (membership_infos (none : Option (GaddrInfo α))) = (INCLUDE_MODE, []) :=
  rfl

end Infos

section Record

variable {cfg : Config} {mode : GroupMemProtocol} {q q' : Querier α} {gr : GroupRecordMsg α}

theorem receive_record_in_include_mode_older_host (cfg : Config)
    (record_type : McastAddrRecordType) (gaddr : α) (slist : SourceList α) (ginfo : GaddrInfo α)
    (env : Env α) :
    (receive_record_in_include_mode cfg record_type gaddr slist ginfo
        env).1.older_host_present_timer = ginfo.older_host_present_timer :=
  congrArg Prod.snd (receive_record_in_include_mode_compatibility ..)

theorem receive_record_in_exclude_mode_older_host {record_type : McastAddrRecordType} {gaddr : α}
    {slist : SourceList α} {ginfo : GaddrInfo α} {env : Env α} {r : GaddrInfo α × Env α}
    (h : receive_record_in_exclude_mode cfg record_type gaddr slist ginfo env = .ok r) :
    r.1.older_host_present_timer = ginfo.older_host_present_timer :=
  congrArg Prod.snd (receive_record_in_exclude_mode_compatibility h)

theorem receive_record_lookup_of_ne (h : receive_record cfg gr q = .ok q') {g : α}
    (hg : g ≠ gr.gaddr) :
    OrdMap.lookup q'.m_db.group_info g = OrdMap.lookup q.m_db.group_info g := by
  obtain ⟨r, -, hcase⟩ := receive_record_cases h
  rcases hcase with ⟨-, -, rfl⟩ | ⟨-, ⟨r', -, -, ⟨-, -, rfl⟩ | ⟨-, rfl⟩⟩ | ⟨r', -, -, rfl⟩⟩ <;>
    simp [hg]

theorem GroupTimerStep.lookup_of_ne {msg : TimerMsg α} {gaddr : α} {ginfo : GaddrInfo α}
    (h : GroupTimerStep cfg gaddr msg ginfo q q') {g : α} (hg : g ≠ gaddr) :
    OrdMap.lookup q'.m_db.group_info g = OrdMap.lookup q.m_db.group_info g := by
  induction h with
  | ignored => rfl
  | shared _ _ _ _ hfirst hsecond => exact hsecond.trans hfirst
  | _ => simp [hg]

-- The leave of an older host that nobody answers to: the compatibility coordination sets
-- the older host timer of a record that is erased at the end.
def stale_leave (q : Querier α) (gr : GroupRecordMsg α) : Prop :=
  is_newest_version gr.grp_mem_proto = false ∧
    is_older_or_equal_version gr.grp_mem_proto q.m_db.querier_version_mode = true ∧
    gr.record_type = CHANGE_TO_INCLUDE_MODE ∧
    (q.group gr.gaddr).filter_mode = INCLUDE_MODE ∧
    (q.group gr.gaddr).include_requested_list.isEmpty = true

instance (q : Querier α) (gr : GroupRecordMsg α) : Decidable (stale_leave q gr) :=
  inferInstanceAs (Decidable (_ ∧ _))

theorem membership_infos_group (q : Querier α) (gaddr : α) :
    membership_infos (some (q.group gaddr)) =
      membership_infos (OrdMap.lookup q.m_db.group_info gaddr) := by
  unfold Querier.group
  cases OrdMap.lookup q.m_db.group_info gaddr <;> rfl

theorem GroupRecordMsg.built_by_receiver.newest_of_silent (h : gr.built_by_receiver mode)
    (hs : notifies gr.record_type = false) : is_newest_version gr.grp_mem_proto = true := by
  rcases h.2 with h | ⟨-, -, h | h⟩
  · exact h.1
  · rw [h] at hs
    cases hs
  · rw [h] at hs
    cases hs

-- The rows without a notification do not change what there is to see.
theorem view_of_silent_include (cfg : Config) {record_type : McastAddrRecordType}
    (hs : notifies record_type = false) (gaddr : α) (slist : SourceList α) (ginfo : GaddrInfo α)
    (env : Env α) :
    view (membership_infos (some
      (receive_record_in_include_mode cfg record_type gaddr slist ginfo env).1)) =
      view (membership_infos (some ginfo)) := by
  cases record_type with
  | BLOCK_OLD_SOURCES =>
    refine view_congr (send_Q_filter_mode ..) (fun _ => mem_send_Q _ _ _ _ _ _) (fun _ a => ?_) ?_
    · rw [receive_record_in_include_mode, send_Q_exclude_list]
    · rw [receive_record_in_include_mode, send_Q_older_host_present_timer]
  | unknown v => rfl
  | _ => cases hs

theorem view_of_silent_exclude {record_type : McastAddrRecordType} {gaddr : α}
    {slist : SourceList α} {ginfo : GaddrInfo α} {env : Env α} {r : GaddrInfo α × Env α}
    (hmode : ginfo.filter_mode = EXCLUDE_MODE) (hs : notifies record_type = false)
    (h : receive_record_in_exclude_mode cfg record_type gaddr slist ginfo env = .ok r) :
    view (membership_infos (some r.1)) = view (membership_infos (some ginfo)) := by
  cases record_type with
  | BLOCK_OLD_SOURCES =>
    obtain rfl := Except.ok.inj h
    refine view_congr (send_Q_filter_mode ..) (fun hm => ?_) (fun _ a => ?_) ?_
    · rw [hmode] at hm
      cases hm
    · rw [send_Q_exclude_list]
    · rw [send_Q_older_host_present_timer]
  | unknown v =>
    obtain rfl := Except.ok.inj h
    rfl
  | _ => cases hs

-- A record that is left without sources was without before.
theorem group_empty_of_emptied {r r' : GaddrInfo α × Env α}
    (hr : r = note_older_host cfg q.m_db.querier_version_mode gr.grp_mem_proto gr.gaddr
      (q.group gr.gaddr) q.env)
    (hmode : r.1.filter_mode = INCLUDE_MODE)
    (hr' : r' = receive_record_in_include_mode cfg gr.record_type gr.gaddr
      (compatible_slist r.1 gr) r.1 r.2)
    (hmode' : r'.1.filter_mode = INCLUDE_MODE)
    (hempty : ∀ a, a ∉ r'.1.include_requested_list) :
    (q.group gr.gaddr).filter_mode = INCLUDE_MODE ∧
      ∀ a, a ∉ (q.group gr.gaddr).include_requested_list := by
  have hsub := RouterState.accept_subset_receive r.1.router_state gr.record_type
    (compatible_slist r.1 gr).addrs
  rw [← receive_record_in_include_mode_row cfg gr.record_type gr.gaddr (compatible_slist r.1 gr)
    r.2 hmode, ← hr', GaddrInfo.router_state_include hmode', GaddrInfo.router_state_include hmode]
    at hsub
  obtain ⟨version, timer, hfst⟩ := note_older_host_frame cfg q.m_db.querier_version_mode
    gr.grp_mem_proto gr.gaddr (q.group gr.gaddr) q.env
  rw [← hr] at hfst
  refine ⟨by rw [← hmode, hfst], fun a ha => hempty a (hsub ?_)⟩
  rw [hfst]
  exact ha

-- An older host is noted in such a record only by the message itself.
theorem older_host_of_emptied (hinv : QuerierInv q) (hgr : gr.built_by_receiver mode)
    {r r' : GaddrInfo α × Env α}
    (hr : r = note_older_host cfg q.m_db.querier_version_mode gr.grp_mem_proto gr.gaddr
      (q.group gr.gaddr) q.env)
    (hmode : r.1.filter_mode = INCLUDE_MODE)
    (hr' : r' = receive_record_in_include_mode cfg gr.record_type gr.gaddr
      (compatible_slist r.1 gr) r.1 r.2)
    (hmode' : r'.1.filter_mode = INCLUDE_MODE)
    (hempty : ∀ a, a ∉ r'.1.include_requested_list) :
    r'.1.older_host_present_timer.isSome = true ↔ stale_leave q gr := by
  have hold : r'.1.older_host_present_timer = r.1.older_host_present_timer := by
    rw [hr', receive_record_in_include_mode_older_host]
  obtain ⟨hgmode, hgempty⟩ := group_empty_of_emptied hr hmode hr' hmode' hempty
  have hnone := (hinv.group gr.gaddr).2 hgmode hgempty
  rw [hold, hr]
  by_cases hacc : (!is_newest_version gr.grp_mem_proto &&
      is_older_or_equal_version gr.grp_mem_proto q.m_db.querier_version_mode) = true
  · simp only [note_older_host, if_pos hacc, Option.isSome_some, true_iff]
    simp only [Bool.and_eq_true, Bool.not_eq_true'] at hacc
    obtain ⟨hnot, hle⟩ := hacc
    refine ⟨hnot, hle, ?_, hgmode, OrdSet.isEmpty_iff.mpr hgempty⟩
    rcases hgr.2 with hnew | ⟨-, -, hex | hin⟩
    · rw [hnew.1] at hnot
      cases hnot
    · rw [hr', hex] at hmode'
      cases hmode'
    · exact hin
  · simp only [note_older_host, if_neg hacc, hnone, Option.isSome_none, Bool.false_eq_true,
      false_iff]
    rintro ⟨hnot, hle, -⟩
    simp [hnot, hle] at hacc

-- Either nothing changes and nobody is told, or the message ends in a notification that
-- shows the record as it is left, unless it is erased after that.
theorem receive_record_notifies (hinv : QuerierInv q) (hgr : gr.built_by_receiver mode)
    (h : receive_record cfg gr q = .ok q') :
    (notifies gr.record_type = false ∧ q.env.Extends q'.env ∧
      view (get_group_membership_infos q'.m_db gr.gaddr) =
        view (get_group_membership_infos q.m_db gr.gaddr)) ∨
    ∃ env' ginfo, q.env.Extends env' ∧
      q'.env = env'.state_change_notification gr.gaddr (some ginfo) ∧
      (OrdMap.lookup q'.m_db.group_info gr.gaddr = some ginfo ∨
        OrdMap.lookup q'.m_db.group_info gr.gaddr = none ∧ ginfo.filter_mode = INCLUDE_MODE ∧
          (∀ a, a ∉ ginfo.include_requested_list) ∧
          (ginfo.older_host_present_timer.isSome = true ↔ stale_leave q gr)) := by
  have hext := note_older_host_extends cfg q.m_db.querier_version_mode gr.grp_mem_proto gr.gaddr
    (q.group gr.gaddr) q.env
  obtain ⟨r, hr, hcase⟩ := receive_record_cases h
  rw [← hr] at hext
  -- a silent row leaves a record that looks like the one it found
  have hsilent : notifies gr.record_type = false → r = (q.group gr.gaddr, q.env) := fun hs =>
    hr.trans (note_older_host_of_newest (hgr.newest_of_silent hs) ..)
  simp only [get_group_membership_infos, ← membership_infos_group q]
  rcases hcase with ⟨-, hblock, rfl⟩ | ⟨-, ⟨r', hmode, hr', hcase⟩ | ⟨r', hmode, hr', rfl⟩⟩
  · have hs : notifies gr.record_type = false := by rw [hblock]; rfl
    obtain rfl := hsilent hs
    exact Or.inl ⟨hs, hext, by simp⟩
  · obtain ⟨env', hext', henv⟩ := receive_record_in_include_mode_env cfg gr.record_type gr.gaddr
      (compatible_slist r.1 gr) r.1 r.2
    rw [← hr'] at henv
    cases hs : notifies gr.record_type with
    | true =>
      rw [hs] at henv
      refine Or.inr ⟨env', r'.1, hext.trans hext', ?_⟩
      rcases hcase with ⟨hm, hempty, rfl⟩ | ⟨-, rfl⟩
      · refine ⟨henv, Or.inr ⟨by simp, hm, hempty, ?_⟩⟩
        exact older_host_of_emptied hinv hgr hr hmode hr' hm hempty
      · exact ⟨henv, Or.inl (by simp)⟩
    | false =>
      rw [hs] at henv
      obtain rfl := hsilent hs
      have hview := view_of_silent_include cfg hs gr.gaddr
        (compatible_slist (q.group gr.gaddr) gr) (q.group gr.gaddr) q.env
      rw [← hr'] at hview
      left
      rcases hcase with ⟨hm, hempty, rfl⟩ | ⟨-, rfl⟩
      · refine ⟨rfl, henv ▸ hext', ?_⟩
        rw [← hview, Querier.lookup_del, if_pos rfl, view_none]
        refine (view_of_empty hm hempty ?_).symm
        have hold := older_host_of_emptied hinv hgr hr hmode hr' hm hempty
        refine Option.not_isSome_iff_eq_none.mp (fun hsome => ?_)
        have hnot := (hold.mp hsome).1
        rw [hgr.newest_of_silent hs] at hnot
        cases hnot
      · refine ⟨rfl, henv ▸ hext', ?_⟩
        rw [← hview, Querier.lookup_put, if_pos rfl]
  · obtain ⟨env', hext', henv⟩ := receive_record_in_exclude_mode_env hr'
    cases hs : notifies gr.record_type with
    | true =>
      rw [hs] at henv
      exact Or.inr ⟨env', r'.1, hext.trans hext', henv, Or.inl (by simp)⟩
    | false =>
      rw [hs] at henv
      obtain rfl := hsilent hs
      have hview := view_of_silent_exclude hmode hs hr'
      refine Or.inl ⟨rfl, henv ▸ hext', ?_⟩
      rw [← hview, Querier.lookup_put, if_pos rfl]

theorem stale_leave_erases (hgr : gr.built_by_receiver mode) (hstale : stale_leave q gr)
    (h : receive_record cfg gr q = .ok q') :
    OrdMap.lookup q'.m_db.group_info gr.gaddr = none := by
  obtain ⟨hnot, -, htype, hgmode, hgempty⟩ := hstale
  have hslist : gr.slist = ∅ := by
    rcases hgr.2 with hnew | ⟨-, hslist, -⟩
    · rw [hnew.1] at hnot
      cases hnot
    · exact hslist
  have hgroup : (q.group gr.gaddr).router_state = .INCLUDE ∅ := by
    rw [GaddrInfo.router_state_include hgmode]
    exact congrArg _ (Set.eq_empty_of_forall_notMem (OrdSet.isEmpty_iff.mp hgempty))
  obtain ⟨r, hr, hcase⟩ := receive_record_cases h
  have hstate : r.1.router_state = .INCLUDE ∅ := by
    rw [hr, router_state_note_older_host, hgroup]
  rcases hcase with ⟨-, hblock, rfl⟩ | ⟨-, ⟨r', hmode, hr', hcase⟩ | ⟨r', hmode, hr', rfl⟩⟩
  · rw [htype] at hblock
    cases hblock
  · have hrow := receive_record_in_include_mode_row cfg gr.record_type gr.gaddr
      (compatible_slist r.1 gr) r.2 hmode
    rw [← hr', hstate, htype] at hrow
    simp only [compatible_slist, htype, hslist, reduceCtorEq, decide_false, Bool.and_false,
      Bool.false_eq_true, if_false, SourceList.addrs_empty, RouterState.receive,
      Set.union_empty] at hrow
    rcases hcase with ⟨-, -, rfl⟩ | ⟨hne, rfl⟩
    · simp
    · -- nothing is left, so the record cannot have been written back
      cases hm : r'.1.filter_mode with
      | INCLUDE_MODE =>
        rw [GaddrInfo.router_state_include hm] at hrow
        obtain ⟨a, ha⟩ := hne hm
        have haddrs := RouterState.INCLUDE.inj hrow
        exact absurd (haddrs ▸ ha : a ∈ (∅ : Set α)) (Set.notMem_empty a)
      | EXCLUDE_MODE =>
        rw [GaddrInfo.router_state_exclude hm] at hrow
        cases hrow
  · rw [GaddrInfo.router_state_exclude hmode] at hstate
    cases hstate

end Record

-- A step nobody is told about and nobody can see.
structure Silent (q q' : Querier α) : Prop where
  env : q.env.Extends q'.env
  same_view : ∀ g, view (get_group_membership_infos q'.m_db g) =
    view (get_group_membership_infos q.m_db g)

-- A step that ends in a notification about one group, of which it accepts less than before.
structure Narrows (q q' : Querier α) (gaddr : α) : Prop where
  env : q'.env =
    q.env.state_change_notification gaddr (OrdMap.lookup q'.m_db.group_info gaddr)
  others : ∀ g, g ≠ gaddr →
    OrdMap.lookup q'.m_db.group_info g = OrdMap.lookup q.m_db.group_info g
  narrower : accept (get_group_membership_infos q'.m_db gaddr) ⊆
    accept (get_group_membership_infos q.m_db gaddr)

section Timer

variable {cfg : Config} {msg : TimerMsg α} {gaddr : α} {ginfo ginfo' : GaddrInfo α}
  {q q' : Querier α}

theorem Silent.refl (q : Querier α) : Silent q q := ⟨Env.Extends.refl _, fun _ => rfl⟩

theorem Silent.put {env : Env α} (hlook : OrdMap.lookup q.m_db.group_info gaddr = some ginfo)
    (henv : q.env.Extends env)
    (hview : view (membership_infos (some ginfo')) = view (membership_infos (some ginfo))) :
    Silent q (q.put gaddr ginfo' env) := by
  refine ⟨henv, fun g => ?_⟩
  simp only [get_group_membership_infos, Querier.lookup_put]
  split_ifs with hg
  · rw [hg, hlook, hview]
  · rfl

theorem Narrows.del (q : Querier α) (gaddr : α) :
    Narrows q (q.del gaddr (q.env.state_change_notification gaddr none)) gaddr := by
  refine ⟨by simp, fun g hg => by simp [hg], ?_⟩
  simp only [get_group_membership_infos, Querier.lookup_del, if_true]
  rw [accept_none]
  exact Set.empty_subset _

theorem Narrows.put (hlook : OrdMap.lookup q.m_db.group_info gaddr = some ginfo)
    (hold : ginfo.older_host_present_timer.isSome = true ∨
      ginfo'.older_host_present_timer.isSome = false ∧
        ginfo'.router_state.accept ⊆ ginfo.router_state.accept) :
    Narrows q (q.put gaddr ginfo' (q.env.state_change_notification gaddr (some ginfo'))) gaddr := by
  refine ⟨by simp, fun g hg => by simp [hg], ?_⟩
  simp only [get_group_membership_infos, Querier.lookup_put, if_true, hlook]
  rcases hold with hold | ⟨hno, hsub⟩
  · exact accept_of_older_host hold ▸ Set.subset_univ _
  · rw [accept_of_no_older_host hno]
    exact hsub.trans (router_state_accept_subset ginfo)

-- The timers of the record keep what it says about older hosts.
theorem Narrows.put_of_state (hlook : OrdMap.lookup q.m_db.group_info gaddr = some ginfo)
    (hold : ginfo'.older_host_present_timer = ginfo.older_host_present_timer)
    (hsub : ginfo'.router_state.accept ⊆ ginfo.router_state.accept) :
    Narrows q (q.put gaddr ginfo' (q.env.state_change_notification gaddr (some ginfo'))) gaddr := by
  refine .put hlook ?_
  cases h : ginfo.older_host_present_timer.isSome with
  | true => exact Or.inl rfl
  | false => exact Or.inr ⟨hold ▸ h, hsub⟩

-- The sources whose timer the message is.
def GaddrInfo.holders (ginfo : GaddrInfo α) (msg : TimerMsg α) : Set α :=
  { a | ∃ s, ginfo.include_requested_list.find a = some s ∧
    same_object s.shared_source_timer msg = true }

theorem addrs_kept (ginfo : GaddrInfo α) (msg : TimerMsg α) :
    SourceList.addrs (ginfo.include_requested_list.filter
      (fun s => !same_object s.shared_source_timer msg)) =
      ginfo.include_requested_list.addrs \ ginfo.holders msg := by
  ext a
  rw [SourceList.mem_addrs, ← OrdSet.isSome_find, OrdSet.find_filter, Set.mem_sdiff,
    SourceList.mem_addrs, ← OrdSet.isSome_find, GaddrInfo.holders]
  cases hs : ginfo.include_requested_list.find a with
  | none => simp
  | some s => simp [hs]

theorem addrs_moved (ginfo : GaddrInfo α) (msg : TimerMsg α) :
    SourceList.addrs (ginfo.exclude_list.insertAll ((ginfo.include_requested_list.filter
      (fun s => same_object s.shared_source_timer msg)).map reset_timer reset_timer_saddr).elems) =
      ginfo.exclude_list.addrs ∪ ginfo.include_requested_list.addrs ∩ ginfo.holders msg := by
  ext a
  rw [SourceList.mem_addrs, ← OrdSet.isSome_find, find_moved, Set.mem_union, Set.mem_inter_iff,
    SourceList.mem_addrs, SourceList.mem_addrs, ← OrdSet.isSome_find, ← OrdSet.isSome_find,
    GaddrInfo.holders]
  cases hs : ginfo.include_requested_list.find a with
  | none => simp
  | some s => simp [hs]

-- A group's timer either is not seen from outside or ends in a notification.
theorem GroupTimerStep.view (h : GroupTimerStep cfg gaddr msg ginfo q q')
    (hlook : OrdMap.lookup q.m_db.group_info gaddr = some ginfo)
    (hdisj : ∀ a ∈ ginfo.include_requested_list, a ∉ ginfo.exclude_list)
    (hunused : msg.is_used_as_source_timer = false) : Silent q q' ∨ Narrows q q' gaddr := by
  have hexpired := RouterState.source_timer_expired_accept_subset (ginfo.holders msg)
    ginfo.router_state
  have holder : same_object ginfo.older_host_present_timer msg = true →
      ginfo.older_host_present_timer.isSome = true := by
    cases ginfo.older_host_present_timer with
    | none => exact fun h => absurd h (by simp [same_object])
    | some t => exact fun _ => rfl
  cases h with
  | ignored => exact Or.inl (.refl q)
  | erased => exact Or.inr (.del q gaddr)
  | @sources_deleted _ ginfo' _ _ hmode hginfo' _ =>
    have hmode' : ginfo'.filter_mode = INCLUDE_MODE := by rw [hginfo', hmode]
    refine Or.inr (.put_of_state hlook (by rw [hginfo']) ?_)
    rw [GaddrInfo.router_state_include hmode] at hexpired ⊢
    rw [GaddrInfo.router_state_include hmode', hginfo']
    exact addrs_kept ginfo msg ▸ hexpired
  | @sources_moved _ ginfo' _ _ hmode hginfo' =>
    have hmode' : ginfo'.filter_mode = EXCLUDE_MODE := by rw [hginfo', hmode]
    refine Or.inr (.put_of_state hlook (by rw [hginfo']) ?_)
    rw [GaddrInfo.router_state_exclude hmode] at hexpired ⊢
    rw [GaddrInfo.router_state_exclude hmode', hginfo']
    exact addrs_moved ginfo msg ▸ hexpired
  | filter_expired _ _ hmode _ hginfo' =>
    subst hginfo'
    have hcons : ginfo.router_state.Consistent := by
      rw [GaddrInfo.router_state_exclude hmode]
      exact Set.disjoint_left.mpr hdisj
    have hsub := RouterState.filter_timer_expired_accept_subset hcons
    refine Or.inr (.put_of_state hlook rfl ?_)
    rw [GaddrInfo.router_state_exclude hmode] at hsub ⊢
    exact hsub
  | shared hused => cases hused.symm.trans hunused
  | group_queried _ _ hr =>
    obtain ⟨ft, rt, count, hfst⟩ := send_Q_group_frame hr
    refine Or.inl (.put hlook (send_Q_group_extends hr) ?_)
    rw [hfst]
    exact view_congr rfl (fun _ _ => Iff.rfl) (fun _ _ => Iff.rfl) rfl
  | sources_queried =>
    refine Or.inl (.put hlook (send_Q_extends ..)
      (view_congr ?_ (fun _ => mem_send_Q _ _ _ _ _ _) ?_ ?_))
    · exact send_Q_filter_mode ..
    · simp
    · simp
  | older_host_gone _ hsame _ => exact Or.inr (.put hlook (Or.inl (holder hsame)))
  | newer_host _ _ _ hsame =>
    refine Or.inl (.put hlook (Env.arm_extends ..) ?_)
    exact view_congr rfl (fun _ _ => Iff.rfl) (fun _ _ => Iff.rfl) (holder hsame).symm

theorem timer_triggerd_view {unique : Bool} (hinv : QuerierInv q) (hmem : msg ∈ q.env.timing)
    (h : timer_triggerd cfg unique msg (q.deliver msg) = .ok q') :
    Silent (q.deliver msg) q' ∨ ∃ gaddr, Narrows (q.deliver msg) q' gaddr := by
  rcases timer_triggerd_cases h with ⟨-, rfl⟩ | ⟨-, rfl⟩ | ⟨-, rfl⟩ | ⟨g, gi, hg, hl, h⟩
  · exact Or.inl (.refl _)
  · unfold timer_triggerd_general_query_timer
    split_ifs
    · exact Or.inl ⟨send_general_query_extends .., fun _ => rfl⟩
    · exact Or.inl (.refl _)
  · exact Or.inl (.refl _)
  · exact ((timer_triggerd_group_step h).view hl (hinv.groups g gi hl).1.disjoint
      (hinv.pending.unused msg hmem)).imp id (fun hn => ⟨g, hn⟩)

end Timer

section Accept

variable {cfg : Config} {mode : GroupMemProtocol} {q q' : Querier α} {gr : GroupRecordMsg α}

theorem note_older_host_older_host (cfg : Config) (mode proto : GroupMemProtocol) (gaddr : α)
    {ginfo : GaddrInfo α} (env : Env α) (h : ginfo.older_host_present_timer.isSome = true) :
    (note_older_host cfg mode proto gaddr ginfo env).1.older_host_present_timer.isSome = true := by
  unfold note_older_host
  split_ifs
  · rfl
  · exact h

-- No record makes the database forget about an older host.
theorem receive_record_keeps_older_host (hinv : QuerierInv q) (h : receive_record cfg gr q = .ok q')
    (hold : (q.group gr.gaddr).older_host_present_timer.isSome = true) :
    ∃ ginfo, OrdMap.lookup q'.m_db.group_info gr.gaddr = some ginfo ∧
      ginfo.older_host_present_timer.isSome = true := by
  obtain ⟨r, hr, hcase⟩ := receive_record_cases h
  have hnote : r.1.older_host_present_timer.isSome = true :=
    hr ▸ note_older_host_older_host cfg q.m_db.querier_version_mode gr.grp_mem_proto gr.gaddr q.env
      hold
  rcases hcase with ⟨-, -, rfl⟩ | ⟨-, ⟨r', hmode, hr', ⟨hm, hempty, rfl⟩ | ⟨-, rfl⟩⟩ |
    ⟨r', -, hr', rfl⟩⟩
  · exact ⟨r.1, by simp, hnote⟩
  · obtain ⟨hgmode, hgempty⟩ := group_empty_of_emptied hr hmode hr' hm hempty
    rw [(hinv.group gr.gaddr).2 hgmode hgempty] at hold
    cases hold
  · refine ⟨r'.1, by simp, ?_⟩
    rw [hr', receive_record_in_include_mode_older_host]
    exact hnote
  · refine ⟨r'.1, by simp, ?_⟩
    rw [receive_record_in_exclude_mode_older_host hr']
    exact hnote

theorem receive_record_widens (hinv : QuerierInv q) (h : receive_record cfg gr q = .ok q') (g : α) :
    accept (get_group_membership_infos q.m_db g) ⊆
      accept (get_group_membership_infos q'.m_db g) := by
  by_cases hg : g = gr.gaddr
  · subst hg
    unfold get_group_membership_infos
    rw [← membership_infos_group]
    cases hold : (q.group gr.gaddr).older_host_present_timer.isSome with
    | true =>
      obtain ⟨ginfo, hlook, hsome⟩ := receive_record_keeps_older_host hinv h hold
      rw [hlook, accept_of_older_host hsome]
      exact Set.subset_univ _
    | false =>
      rw [accept_of_no_older_host hold]
      have hafter : ∀ found : Option (GaddrInfo α),
          (router_state found).accept ⊆ accept (membership_infos found)
        | none => accept_none.ge
        | some ginfo => router_state_accept_subset ginfo
      refine subset_trans ?_ (hafter _)
      rcases receive_record_row hinv h rfl with ⟨-, -, hlook⟩ | ⟨-, hrow⟩
      · rw [hlook, router_state, router_state_note_older_host]
      · rw [hrow.state, router_state_group]
        exact RouterState.accept_subset_receive ..
  · exact (congrArg (fun found => accept (membership_infos found))
      (receive_record_lookup_of_ne h hg)).ge

-- Records only widen what is forwarded, timers only narrow it.
theorem records_widen_timers_narrow (cfg : Config) (mode : GroupMemProtocol) (q : Querier α)
    (hq : (querier α cfg mode).Reachable q) (g : α) :
    (∀ gr : GroupRecordMsg α, gr.built_by_receiver mode →
      ∃ q', receive_record cfg gr q = .ok q' ∧
        accept (get_group_membership_infos q.m_db g) ⊆
          accept (get_group_membership_infos q'.m_db g)) ∧
    (∀ msg unique q', (querier α cfg mode).enabled q (.timer msg unique) →
      (querier α cfg mode).step q (.timer msg unique) = .ok q' →
        accept (get_group_membership_infos q'.m_db g) ⊆
          accept (get_group_membership_infos q.m_db g)) := by
  have hinv := querier_inv hq
  refine ⟨fun gr hgr => ?_, fun msg unique q' he h => ?_⟩
  · obtain ⟨q', h⟩ := receive_record_total hinv cfg gr
    exact ⟨q', h, receive_record_widens hinv h g⟩
  · rcases timer_triggerd_view hinv he.1 h with hs | ⟨gaddr, hn⟩
    · exact (accept_eq_of_view_eq (hs.same_view g)).le
    · by_cases hg : g = gaddr
      · exact hg ▸ hn.narrower
      · exact (congrArg (fun found => accept (membership_infos found)) (hn.others g hg)).le

theorem records_widen_timers_narrow_filter_timer :
    ∃ q q' : Querier Ipv4Addr,
      (querier Ipv4Addr default_config IGMPv3).Reachable q ∧
      view (get_group_membership_infos q.m_db 7) = (EXCLUDE_MODE, [9]) ∧
      view (get_group_membership_infos q'.m_db 7) = (INCLUDE_MODE, [3]) ∧
      accept (get_group_membership_infos q'.m_db 7) ⊆
        accept (get_group_membership_infos q.m_db 7) ∧
      ∃ q'', receive_record default_config ⟨BLOCK_OLD_SOURCES, 7, sources [3], IGMPv3⟩ q = .ok q'' ∧
        accept (get_group_membership_infos q.m_db 7) ⊆
          accept (get_group_membership_infos q''.m_db 7) := by
  obtain ⟨q, hrun, he, hp⟩ := Machine.exists_step_of_exec
    (querier Ipv4Addr default_config IGMPv3)
    [.record ⟨MODE_IS_EXCLUDE, 7, sources [9], IGMPv3⟩,
      .record ⟨ALLOW_NEW_SOURCES, 7, sources [3], IGMPv3⟩]
    (.timer ⟨1, FILTER_TIMER_MSG, some 7, 260000000002, false⟩ false)
    (fun q r => view (get_group_membership_infos q.m_db 7) = (EXCLUDE_MODE, [9]) &&
      r.toOption.any fun q' => view (get_group_membership_infos q'.m_db 7) = (INCLUDE_MODE, [3]))
    rfl
  simp only [Bool.and_eq_true, decide_eq_true_eq] at hp
  obtain ⟨hwiden, hnarrow⟩ := records_widen_timers_narrow default_config IGMPv3 q hrun.reachable 7
  obtain ⟨q', h, hq'⟩ := exists_ok_of_any hp.2
  exact ⟨q, q', hrun.reachable, hp.1, of_decide_eq_true hq', hnarrow _ _ q' he h,
    hwiden ⟨BLOCK_OLD_SOURCES, 7, sources [3], IGMPv3⟩ (by decide)⟩

end Accept

section Notified

-- What the last callback for a group got to see.
def last_notified (g : α) (trace : List (Action α)) : McFilter × List α :=
  trace.foldl (fun seen a =>
    match a with
    | .state_change gaddr infos => if gaddr = g then view infos else seen
    | _ => seen) (INCLUDE_MODE, [])

theorem last_notified_append {g : α} {as : List (Action α)}
    (has : ∀ gaddr infos, .state_change gaddr infos ∉ as) (trace : List (Action α)) :
    last_notified g (trace ++ as) = last_notified g trace := by
  unfold last_notified
  rw [List.foldl_append]
  generalize trace.foldl _ _ = seen
  induction as with
  | nil => rfl
  | cons a as ih =>
    rw [List.foldl_cons]
    have hseen := ih (fun gaddr infos h => has gaddr infos (List.mem_cons_of_mem _ h))
    cases a with
    | state_change gaddr infos => exact absurd (List.mem_cons_self ..) (has gaddr infos)
    | _ => exact hseen

theorem last_notified_extends {env env' : Env α} (h : env.Extends env') (g : α) :
    last_notified g env'.trace = last_notified g env.trace := by
  obtain ⟨as, htrace, has⟩ := h.trace
  rw [htrace, last_notified_append has]

theorem last_notified_notify (env : Env α) (gaddr g : α) (found : Option (GaddrInfo α)) :
    last_notified g (env.state_change_notification gaddr found).trace =
      if gaddr = g then view (membership_infos found) else last_notified g env.trace := by
  simp only [last_notified, Env.state_change_notification, Env.act, List.foldl_append,
    List.foldl_cons, List.foldl_nil]

-- The routing layer knows what there is to know.
def UpToDate (q : Querier α) : Prop :=
  ∀ g, last_notified g q.env.trace = view (get_group_membership_infos q.m_db g)

-- The condition on a step: no leave of an older host for a group without listeners.
def no_stale_leave (q : Querier α) : Event α → Prop
  | .record gr => ¬ stale_leave q gr
  | .timer _ _ => True

instance (q : Querier α) (e : Event α) : Decidable (no_stale_leave q e) :=
  match e with
  | .record gr => inferInstanceAs (Decidable (¬ stale_leave q gr))
  | .timer _ _ => inferInstanceAs (Decidable True)

variable {cfg : Config} {mode : GroupMemProtocol} {q q' : Querier α}

theorem receive_record_up_to_date_iff {gr : GroupRecordMsg α} (hinv : QuerierInv q)
    (hq : UpToDate q) (hgr : gr.built_by_receiver mode) (h : receive_record cfg gr q = .ok q') :
    UpToDate q' ↔ ¬ stale_leave q gr := by
  have hothers : ∀ g, g ≠ gr.gaddr → view (get_group_membership_infos q'.m_db g) =
      view (get_group_membership_infos q.m_db g) := fun g hg =>
    congrArg (fun found => view (membership_infos found)) (receive_record_lookup_of_ne h hg)
  rcases receive_record_notifies hinv hgr h with ⟨hs, hext, hview⟩ |
    ⟨env', ginfo, hext, henv, hcase⟩
  · refine iff_of_true (fun g => ?_) (fun hstale => ?_)
    · rw [last_notified_extends hext, hq g]
      by_cases hg : g = gr.gaddr
      · rw [hg, hview]
      · rw [hothers g hg]
    · rw [hstale.2.2.1] at hs
      cases hs
  · have hself : last_notified gr.gaddr q'.env.trace = view (membership_infos (some ginfo)) := by
      rw [henv, last_notified_notify, if_pos rfl]
    have hiff : UpToDate q' ↔ view (membership_infos (some ginfo)) =
        view (get_group_membership_infos q'.m_db gr.gaddr) := by
      refine ⟨fun hall => hself ▸ hall gr.gaddr, fun hview g => ?_⟩
      by_cases hg : g = gr.gaddr
      · rw [hg, hself, hview]
      · rw [henv, last_notified_notify, if_neg (Ne.symm hg), last_notified_extends hext, hq g,
          hothers g hg]
    rw [hiff, get_group_membership_infos]
    rcases hcase with hlook | ⟨hlook, hm, hempty, hold⟩
    · refine iff_of_true (by rw [hlook]) (fun hstale => ?_)
      rw [stale_leave_erases hgr hstale h] at hlook
      cases hlook
    · rw [hlook, ← hold, view_none]
      cases hsome : ginfo.older_host_present_timer.isSome with
      | true => simp [membership_infos_of_older_host hsome, view]
      | false =>
        have hnone := Option.isSome_eq_false_iff.mp hsome
        rw [Option.isNone_iff_eq_none] at hnone
        simp [view_of_empty hm hempty hnone]

theorem timer_triggerd_up_to_date {msg : TimerMsg α} {unique : Bool} (hinv : QuerierInv q)
    (hq : UpToDate q) (hmem : msg ∈ q.env.timing)
    (h : timer_triggerd cfg unique msg (q.deliver msg) = .ok q') : UpToDate q' := by
  intro g
  rcases timer_triggerd_view hinv hmem h with hs | ⟨gaddr, hn⟩
  · rw [last_notified_extends hs.env, hs.same_view g]
    exact hq g
  · rw [hn.env, last_notified_notify]
    split_ifs with hg
    · rw [hg, get_group_membership_infos]
    · rw [get_group_membership_infos, hn.others g (Ne.symm hg)]
      exact hq g

-- The routing layer is up to date all along a run exactly when the run has no such leave.
theorem up_to_date_iff_no_stale_leave (cfg : Config) (mode : GroupMemProtocol)
    (es : List (Event α)) (q : Querier α) (hrun : (querier α cfg mode).Run es q) :
    (∀ es' q', es' <+: es → (querier α cfg mode).Run es' q' → UpToDate q') ↔
      ((querier α cfg mode).restrict no_stale_leave).Run es q := by
  refine hrun.forall_iff_restrict (fun g => rfl) ?_
  intro _ q e q' run hq he h
  have hinv := querier_inv run.reachable
  cases e with
  | record gr => exact receive_record_up_to_date_iff hinv hq he h
  | timer msg unique =>
    exact iff_of_true (timer_triggerd_up_to_date hinv hq he.1 h) trivial

theorem up_to_date_iff_no_stale_leave_exclude :
    ∃ q : Querier Ipv4Addr,
      (querier Ipv4Addr default_config IGMPv3).Run
        [.record ⟨MODE_IS_EXCLUDE, 7, ∅, IGMPv2⟩,
          .record ⟨CHANGE_TO_INCLUDE_MODE, 7, ∅, IGMPv2⟩] q ∧
      ∀ es' q', es' <+: [.record ⟨MODE_IS_EXCLUDE, 7, ∅, IGMPv2⟩,
          .record ⟨CHANGE_TO_INCLUDE_MODE, 7, ∅, IGMPv2⟩] →
        (querier Ipv4Addr default_config IGMPv3).Run es' q' → UpToDate q' := by
  obtain ⟨q, hrun, -⟩ := Machine.exists_run_of_exec
    ((querier Ipv4Addr default_config IGMPv3).restrict no_stale_leave)
    [.record ⟨MODE_IS_EXCLUDE, 7, ∅, IGMPv2⟩, .record ⟨CHANGE_TO_INCLUDE_MODE, 7, ∅, IGMPv2⟩]
    (fun _ => true) rfl
  exact ⟨q, hrun.of_restrict,
    (up_to_date_iff_no_stale_leave default_config IGMPv3 _ q hrun.of_restrict).mpr hrun⟩

-- An IGMPv2 leave for a group nobody listens to: the callback sees EXCLUDE({}), then the
-- record is erased.
theorem igmpv2_leave_leaves_stale_view :
    ∃ q : Querier Ipv4Addr,
      (querier Ipv4Addr default_config IGMPv3).Run
        [.record ⟨CHANGE_TO_INCLUDE_MODE, 7, ∅, IGMPv2⟩] q ∧
      last_notified 7 q.env.trace = (EXCLUDE_MODE, []) ∧
      view (get_group_membership_infos q.m_db 7) = (INCLUDE_MODE, []) ∧ ¬ UpToDate q := by
  obtain ⟨q, hrun, hp⟩ := Machine.exists_run_of_exec (querier Ipv4Addr default_config IGMPv3)
    [.record ⟨CHANGE_TO_INCLUDE_MODE, 7, ∅, IGMPv2⟩]
    (fun q => last_notified 7 q.env.trace = (EXCLUDE_MODE, []) &&
      view (get_group_membership_infos q.m_db 7) = (INCLUDE_MODE, [])) rfl
  simp only [Bool.and_eq_true, decide_eq_true_eq] at hp
  refine ⟨q, hrun, hp.1, hp.2, fun hall => ?_⟩
  have h := hall 7
  rw [hp.1, hp.2] at h
  cases h

end Notified

end Mcproxy
