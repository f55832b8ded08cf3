import Mcproxy.Querier.Lemmas

namespace Mcproxy

open Container Transition McFilter McastAddrRecordType MessageType GroupMemProtocol

variable {α : Type*} [LinearOrder α]

-- The sources of a record. A handler that has still to give a timer to some sources of the
-- requested list leaves them in `due`.
structure SourceInv (env : Env α) (gaddr : α) (ginfo : GaddrInfo α)
    (due : α → Source α → Prop) : Prop where
  disjoint : ∀ a ∈ ginfo.include_requested_list, a ∉ ginfo.exclude_list
  requested : ∀ a s, ginfo.include_requested_list.find a = some s →
    due a s ∨ env.Armed SOURCE_TIMER_MSG gaddr s.shared_source_timer
  excluded : ∀ a s, ginfo.exclude_list.find a = some s → s.shared_source_timer = none

structure FilterInv (env : Env α) (gaddr : α) (ginfo : GaddrInfo α) : Prop where
  include_mode : ginfo.filter_mode = INCLUDE_MODE →
    (∀ a, a ∉ ginfo.exclude_list) ∧ ginfo.shared_filter_timer = none
  exclude_mode : ginfo.filter_mode = EXCLUDE_MODE →
    env.Armed FILTER_TIMER_MSG gaddr ginfo.shared_filter_timer

-- What holds of the record of one group between two steps.
structure GroupInv (env : Env α) (gaddr : α) (ginfo : GaddrInfo α) : Prop
    extends FilterInv env gaddr ginfo, SourceInv env gaddr ginfo (fun _ _ => False)

section Group

variable {env env' : Env α} {gaddr : α} {ginfo : GaddrInfo α} {due : α → Source α → Prop}

theorem GroupInv.armed (h : GroupInv env gaddr ginfo) {a : α} {s : Source α}
    (hs : ginfo.include_requested_list.find a = some s) :
    env.Armed SOURCE_TIMER_MSG gaddr s.shared_source_timer :=
  (h.requested a s hs).resolve_left id

theorem SourceInv.mono (h : SourceInv env gaddr ginfo due) (hsub : env.timing ⊆ env'.timing) :
    SourceInv env' gaddr ginfo due where
  disjoint := h.disjoint
  requested := fun a s hs => (h.requested a s hs).imp id (fun h => h.mono hsub)
  excluded := h.excluded

theorem FilterInv.mono (h : FilterInv env gaddr ginfo) (hsub : env.timing ⊆ env'.timing) :
    FilterInv env' gaddr ginfo where
  include_mode := h.include_mode
  exclude_mode := fun hm => (h.exclude_mode hm).mono hsub

theorem GroupInv.mono (h : GroupInv env gaddr ginfo) (hsub : env.timing ⊆ env'.timing) :
    GroupInv env' gaddr ginfo :=
  ⟨h.toFilterInv.mono hsub, h.toSourceInv.mono hsub⟩

theorem GroupInv.notify (h : GroupInv env gaddr ginfo) (g : α) (found : Option (GaddrInfo α)) :
    GroupInv (env.state_change_notification g found) gaddr ginfo :=
  h.mono (List.Subset.refl _)

theorem FilterInv.of_include (hmode : ginfo.filter_mode = INCLUDE_MODE)
    (hexcl : ∀ a, a ∉ ginfo.exclude_list) (hft : ginfo.shared_filter_timer = none) :
    FilterInv env gaddr ginfo :=
  ⟨fun _ => ⟨hexcl, hft⟩, fun h => absurd (hmode.symm.trans h) (by decide)⟩

theorem FilterInv.of_exclude (hmode : ginfo.filter_mode = EXCLUDE_MODE)
    (hft : env.Armed FILTER_TIMER_MSG gaddr ginfo.shared_filter_timer) :
    FilterInv env gaddr ginfo :=
  ⟨fun h => absurd (hmode.symm.trans h) (by decide), fun _ => hft⟩

theorem GroupInv.new (env : Env α) (gaddr : α) (mode : GroupMemProtocol) :
    GroupInv env gaddr (.new mode) :=
  ⟨.of_include rfl OrdSet.notMem_empty rfl,
    { disjoint := fun a _ => OrdSet.notMem_empty a
      requested := fun a s hs => by simp [GaddrInfo.new] at hs
      excluded := fun a s hs => by simp [GaddrInfo.new] at hs }⟩

-- A row of the table puts new lists into the record.
theorem SourceInv.of_lists (ginfo : GaddrInfo α) (mode : McFilter) {X Y : SourceList α}
    (hdisj : ∀ a ∈ X, a ∉ Y)
    (hreq : ∀ a s, X.find a = some s →
      due a s ∨ env.Armed SOURCE_TIMER_MSG gaddr s.shared_source_timer)
    (hexcl : ∀ a s, Y.find a = some s → s.shared_source_timer = none) :
    SourceInv env gaddr
      { ginfo with filter_mode := mode, include_requested_list := X, exclude_list := Y } due :=
  ⟨hdisj, hreq, hexcl⟩

end Group

section Ops

variable (cfg : Config) {gaddr : α} {env : Env α} {ginfo : GaddrInfo α} {tmp : SourceList α}
  {due : α → Source α → Prop}

-- `mali` gives an armed timer to every source of its list.
theorem SourceInv.mali (h : SourceInv env gaddr ginfo (fun a _ => a ∈ tmp)) :
    SourceInv (mali cfg gaddr ginfo.include_requested_list tmp env).2 gaddr
      { ginfo with include_requested_list :=
          (mali cfg gaddr ginfo.include_requested_list tmp env).1 } (fun _ _ => False) where
  disjoint := fun a ha => h.disjoint a ((mem_mali ..).mp ha)
  requested := by
    intro a s hs
    right
    rw [find_mali] at hs
    by_cases ha : a ∈ tmp
    · rw [if_pos ha] at hs
      obtain ⟨s₀, -, rfl⟩ := Option.map_eq_some_iff.mp hs
      exact mali_timer_armed cfg gaddr _ tmp env ha
    · rw [if_neg ha] at hs
      exact ((h.requested a s hs).resolve_left ha).extends (mali_extends ..)
  excluded := h.excluded

theorem SourceInv.send_Q {later : α → Prop} (tmp : SourceList α) (ret : Bool)
    (h : SourceInv env gaddr ginfo due)
    (hdue : ∀ a s, due a s → (a ∈ tmp ∧ s.retransmission_count < 1) ∨ later a) :
    SourceInv (send_Q cfg gaddr ginfo tmp ret env).2 gaddr (send_Q cfg gaddr ginfo tmp ret env).1
      (fun a _ => later a) where
  disjoint := by simpa using h.disjoint
  requested := by
    intro a s hs
    obtain ⟨s₀, hs₀, ht⟩ := send_Q_timer hs
    rw [ht]
    split_ifs with hq
    · exact Or.inr (llqt_timer_armed ret hq.1 hs₀ hq.2)
    · rcases h.requested a s₀ hs₀ with hd | harm
      · exact Or.inl ((hdue a s₀ hd).resolve_left hq)
      · exact Or.inr (harm.extends (send_Q_extends ..))
  excluded := by simpa using h.excluded

theorem SourceInv.mali_filter_timer (h : SourceInv env gaddr ginfo due) :
    SourceInv (mali_filter_timer cfg gaddr ginfo env).2 gaddr
      (mali_filter_timer cfg gaddr ginfo env).1 due :=
  let h' := h.mono (mali_filter_timer_extends cfg gaddr ginfo env).timing
  ⟨h'.disjoint, h'.requested, h'.excluded⟩

variable {cfg} in
theorem SourceInv.send_Q_group {r : GaddrInfo α × Env α} (h : SourceInv env gaddr ginfo due)
    (hr : send_Q_group cfg gaddr ginfo env = .ok r) : SourceInv r.2 gaddr r.1 due := by
  have h' := h.mono (send_Q_group_extends hr).timing
  obtain ⟨ft, rt, count, hfst⟩ := send_Q_group_frame hr
  rw [hfst]
  exact ⟨h'.disjoint, h'.requested, h'.excluded⟩

end Ops

section Receive

omit [LinearOrder α] in
theorem Source.fresh.timer {s : Source α} (h : s.fresh) : s.shared_source_timer = none := by
  rw [h]

omit [LinearOrder α] in
theorem Source.fresh.count {s : Source α} (h : s.fresh) : s.retransmission_count < 1 := by
  rw [h]
  simp

variable {cfg : Config} {gaddr : α} {ginfo : GaddrInfo α} {slist : SourceList α} {env : Env α}

theorem receive_record_in_include_mode_inv (cfg : Config) (record_type : McastAddrRecordType)
    (hinv : GroupInv env gaddr ginfo) (hmode : ginfo.filter_mode = INCLUDE_MODE)
    (hfresh : ∀ a s, slist.find a = some s → s.fresh) :
    GroupInv (receive_record_in_include_mode cfg record_type gaddr slist ginfo env).2 gaddr
      (receive_record_in_include_mode cfg record_type gaddr slist ginfo env).1 := by
  obtain ⟨hexcl, hft⟩ := hinv.include_mode hmode
  have hsum : SourceInv env gaddr
      { ginfo with include_requested_list := ginfo.include_requested_list + slist }
      (fun a _ => a ∈ slist) := by
    refine SourceInv.of_lists ginfo ginfo.filter_mode (fun a _ => hexcl a) ?_ hinv.excluded
    intro a s hs
    by_cases ha : a ∈ slist
    · exact Or.inl ha
    · rw [SourceList.find_add, OrdSet.find_eq_none_iff.mpr ha, Option.or_none] at hs
      exact Or.inr (hinv.armed hs)
  have hprod : SourceInv env gaddr { ginfo with
      filter_mode := EXCLUDE_MODE
      include_requested_list := ginfo.include_requested_list * slist
      exclude_list := slist - ginfo.include_requested_list * slist } (fun _ _ => False) := by
    refine SourceInv.of_lists ginfo EXCLUDE_MODE (fun a ha => by simp [ha]) ?_ ?_
    · intro a s hs
      exact Or.inr (hinv.armed (SourceList.find_of_find_mul hs).2)
    · exact fun a s hs => (hfresh a s (SourceList.find_of_find_sub hs).2).timer
  cases record_type with
  | ALLOW_NEW_SOURCES | MODE_IS_INCLUDE =>
    refine .notify ⟨?_, hsum.mali cfg⟩ _ _
    exact .of_include hmode hexcl hft
  | BLOCK_OLD_SOURCES =>
    refine ⟨.of_include ?_ ?_ ?_, hinv.send_Q cfg _ false (fun _ _ h => Or.inr h)⟩
    · exact (send_Q_filter_mode ..).trans hmode
    · simpa only [receive_record_in_include_mode, send_Q_exclude_list] using hexcl
    · exact (send_Q_shared_filter_timer ..).trans hft
  | CHANGE_TO_EXCLUDE_MODE =>
    refine .notify ⟨?_,
      (hprod.send_Q cfg _ false (fun _ _ h => Or.inr h)).mali_filter_timer cfg⟩ _ _
    exact .of_exclude (send_Q_filter_mode ..) (mali_filter_armed ..)
  | CHANGE_TO_INCLUDE_MODE =>
    refine .notify ⟨?_, (hsum.send_Q cfg _ false (fun a s h => Or.inr h)).mali cfg⟩ _ _
    refine .of_include ?_ ?_ ?_
    · exact (send_Q_filter_mode ..).trans hmode
    · simpa only [receive_record_in_include_mode, send_Q_exclude_list] using hexcl
    · exact (send_Q_shared_filter_timer ..).trans hft
  | MODE_IS_EXCLUDE =>
    exact .notify ⟨.of_exclude rfl (mali_filter_armed ..), hprod.mali_filter_timer cfg⟩ _ _
  | unknown v => exact hinv

-- X + A and Y - A: the sources of A are to get a timer.
theorem GroupInv.add_requested (hinv : GroupInv env gaddr ginfo) (A : SourceList α) :
    SourceInv env gaddr { ginfo with
      include_requested_list := ginfo.include_requested_list + A
      exclude_list := ginfo.exclude_list - A } (fun a _ => a ∈ A) := by
  refine SourceInv.of_lists ginfo ginfo.filter_mode ?_ ?_ ?_
  · intro a ha hy
    simp only [SourceList.mem_add, SourceList.mem_sub] at ha hy
    exact hinv.disjoint a (ha.resolve_right hy.2) hy.1
  · intro a s hs
    rcases SourceList.find_of_find_add hs with hx | ⟨-, ha⟩
    · exact Or.inr (hinv.armed hx)
    · exact Or.inl (OrdSet.mem_of_find ha)
  · exact fun a s hs => hinv.excluded a s (SourceList.find_of_find_sub hs).2

-- X + (A-Y): the sources that come in are about to be asked for.
theorem GroupInv.add_queried (hinv : GroupInv env gaddr ginfo)
    (hfresh : ∀ a s, slist.find a = some s → s.fresh) :
    SourceInv env gaddr { ginfo with
      include_requested_list := ginfo.include_requested_list + (slist - ginfo.exclude_list) }
      (fun a s => a ∈ slist - ginfo.exclude_list ∧ s.retransmission_count < 1) := by
  refine SourceInv.of_lists ginfo ginfo.filter_mode ?_ ?_ hinv.excluded
  · intro a ha hy
    simp only [SourceList.mem_add, SourceList.mem_sub, hy, not_true, and_false, or_false] at ha
    exact hinv.disjoint a ha hy
  · intro a s hs
    rcases SourceList.find_of_find_add hs with hx | ⟨-, ha⟩
    · exact Or.inr (hinv.armed hx)
    · have hcount := (hfresh a s (SourceList.find_of_find_sub ha).2).count
      exact Or.inl ⟨OrdSet.mem_of_find ha, hcount⟩

-- X := A - Y, which the two rows for a full list write as X*A + (A-Y), and Y := Y*A.
theorem GroupInv.replace_requested {env' : Env α} {due : α → Source α → Prop}
    (hinv : GroupInv env gaddr ginfo) (hext : env.Extends env') (A : SourceList α)
    (hnew : ∀ a s, a ∉ ginfo.include_requested_list * A →
      (A - ginfo.exclude_list).find a = some s →
      due a s ∨ env'.Armed SOURCE_TIMER_MSG gaddr s.shared_source_timer) :
    SourceInv env' gaddr { ginfo with
      include_requested_list := ginfo.include_requested_list * A + (A - ginfo.exclude_list)
      exclude_list := ginfo.exclude_list * A } due := by
  refine SourceInv.of_lists ginfo ginfo.filter_mode ?_ ?_ ?_
  · intro a ha hy
    simp only [SourceList.mem_add, SourceList.mem_mul, SourceList.mem_sub] at ha hy
    rcases ha with ha | ha
    · exact hinv.disjoint a ha.1 hy.1
    · exact ha.2 hy.1
  · intro a s hs
    rcases SourceList.find_of_find_add hs with hx | ⟨hx, ha⟩
    · exact Or.inr ((hinv.armed (SourceList.find_of_find_mul hx).2).extends hext)
    · exact hnew a s hx ha
  · exact fun a s hs => hinv.excluded a s (SourceList.find_of_find_mul hs).2

-- The row for MODE_IS_EXCLUDE runs `mali` over the sources of A that are in neither list.
theorem GroupInv.replace_requested_mali (cfg : Config) (hinv : GroupInv env gaddr ginfo)
    (A : SourceList α) :
    let m := mali cfg gaddr A (A - ginfo.include_requested_list - ginfo.exclude_list) env
    SourceInv m.2 gaddr { ginfo with
      include_requested_list := ginfo.include_requested_list * m.1 + (m.1 - ginfo.exclude_list)
      exclude_list := ginfo.exclude_list * m.1 } (fun _ _ => False) := by
  intro m
  refine hinv.replace_requested (mali_extends ..) m.1 fun a s hx ha => Or.inr ?_
  obtain ⟨hy, ha⟩ := SourceList.find_of_find_sub ha
  have hmem := OrdSet.mem_of_find ha
  have htmp : a ∈ A - ginfo.include_requested_list - ginfo.exclude_list := by
    simp only [SourceList.mem_mul, hmem, and_true] at hx
    simp only [SourceList.mem_sub, hx, hy, not_false_eq_true, and_true]
    exact (mem_mali ..).mp hmem
  rw [find_mali, if_pos htmp] at ha
  obtain ⟨s₀, -, rfl⟩ := Option.map_eq_some_iff.mp ha
  exact mali_timer_armed cfg gaddr _ _ env htmp

theorem receive_record_in_exclude_mode_inv {record_type : McastAddrRecordType}
    {r : GaddrInfo α × Env α} (hinv : GroupInv env gaddr ginfo)
    (hmode : ginfo.filter_mode = EXCLUDE_MODE) (hfresh : ∀ a s, slist.find a = some s → s.fresh)
    (hr : receive_record_in_exclude_mode cfg record_type gaddr slist ginfo env = .ok r) :
    GroupInv r.2 gaddr r.1 := by
  have hft := hinv.exclude_mode hmode
  have hsum := hinv.add_requested slist
  cases record_type with
  | ALLOW_NEW_SOURCES | MODE_IS_INCLUDE =>
    obtain rfl := Except.ok.inj hr
    have hext := mali_extends cfg gaddr (ginfo.include_requested_list + slist) slist env
    refine .notify ⟨?_, hsum.mali cfg⟩ _ _
    exact .of_exclude hmode (hft.extends hext)
  | BLOCK_OLD_SOURCES =>
    obtain rfl := Except.ok.inj hr
    refine ⟨.of_exclude ((send_Q_filter_mode ..).trans hmode) ?_,
      (hinv.add_queried hfresh).send_Q cfg _ false (fun a s h => Or.inl h)⟩
    rw [send_Q_shared_filter_timer]
    exact hft.extends (send_Q_extends ..)
  | CHANGE_TO_EXCLUDE_MODE =>
    obtain rfl := Except.ok.inj hr
    have hlist := @GroupInv.replace_requested α _ _ _ _ env
      (fun a s => a ∈ ginfo.include_requested_list * slist + (slist - ginfo.exclude_list) ∧
        s.retransmission_count < 1) hinv (.refl _) slist fun a s _ ha => by
      have hmem := OrdSet.mem_of_find ha
      have hcount := (hfresh a s (SourceList.find_of_find_sub ha).2).count
      exact Or.inl ⟨(SourceList.mem_add ..).mpr (Or.inr hmem), hcount⟩
    refine .notify ⟨?_,
      (hlist.send_Q cfg _ false (fun a s h => Or.inl h)).mali_filter_timer cfg⟩ _ _
    exact .of_exclude ((send_Q_filter_mode ..).trans hmode) (mali_filter_armed ..)
  | CHANGE_TO_INCLUDE_MODE =>
    obtain ⟨r', hr', rfl⟩ := exists_of_map_ok hr
    have hq := (hsum.send_Q cfg _ false (fun a s h => Or.inr h)).send_Q_group hr'
    have hft' := send_Q_group_filter_armed hr'
      (by simpa only [send_Q_shared_filter_timer] using hft.extends (send_Q_extends ..))
    have hm : r'.1.filter_mode = EXCLUDE_MODE := by
      obtain ⟨ft, rt, count, hfst⟩ := send_Q_group_frame hr'
      rw [hfst]
      exact (send_Q_filter_mode ..).trans hmode
    refine .notify ⟨?_, hq.mali cfg⟩ _ _
    exact .of_exclude hm (hft'.extends (mali_extends ..))
  | MODE_IS_EXCLUDE =>
    obtain rfl := Except.ok.inj hr
    refine .notify ⟨?_, (hinv.replace_requested_mali cfg slist).mali_filter_timer cfg⟩ _ _
    exact .of_exclude hmode (mali_filter_armed ..)
  | unknown v =>
    obtain rfl := Except.ok.inj hr
    exact hinv

end Receive

-- A record that accepts nothing can be in the database only as long as no older host is
-- known to be there.
def GaddrInfo.Neutral (ginfo : GaddrInfo α) : Prop :=
  ginfo.filter_mode = INCLUDE_MODE → (∀ a, a ∉ ginfo.include_requested_list) →
    ginfo.older_host_present_timer = none

-- The part of the invariant that a step for one group has to leave alone.
structure OthersInv (q : Querier α) (gaddr : α) : Prop where
  groups : ∀ g ginfo, g ≠ gaddr → OrdMap.lookup q.m_db.group_info g = some ginfo →
    GroupInv q.env g ginfo ∧ ginfo.Neutral
  pending : q.env.Pending

structure QuerierInv (q : Querier α) : Prop where
  groups : ∀ g ginfo, OrdMap.lookup q.m_db.group_info g = some ginfo →
    GroupInv q.env g ginfo ∧ ginfo.Neutral
  pending : q.env.Pending

section Database

variable {q : Querier α} {gaddr : α} {ginfo : GaddrInfo α} {env env' : Env α}

theorem QuerierInv.others (h : QuerierInv q) (gaddr : α) : OthersInv q gaddr :=
  ⟨fun g ginfo _ hg => h.groups g ginfo hg, h.pending⟩

theorem OthersInv.put (h : OthersInv q gaddr) (hext : q.env.Extends env')
    (hsame : env'.SameTimers env) (hg : GroupInv env gaddr ginfo) (hn : ginfo.Neutral) :
    QuerierInv (q.put gaddr ginfo env) where
  groups := by
    refine Querier.forall_put (fun g gi hne hlook => ?_) ⟨hg, hn⟩
    obtain ⟨hgi, hni⟩ := h.groups g gi hne hlook
    exact ⟨hgi.mono (hsame.timing ▸ hext.timing), hni⟩
  pending := (h.pending.extends hext).same hsame

theorem OthersInv.del (h : OthersInv q gaddr) (hext : q.env.Extends env')
    (hsame : env'.SameTimers env) : QuerierInv (q.del gaddr env) where
  groups := by
    refine Querier.forall_del fun g gi hne hlook => ?_
    obtain ⟨hgi, hni⟩ := h.groups g gi hne hlook
    exact ⟨hgi.mono (hsame.timing ▸ hext.timing), hni⟩
  pending := (h.pending.extends hext).same hsame

theorem QuerierInv.group (h : QuerierInv q) (gaddr : α) :
    GroupInv q.env gaddr (q.group gaddr) ∧ (q.group gaddr).Neutral := by
  unfold Querier.group
  cases hlook : OrdMap.lookup q.m_db.group_info gaddr with
  | none => exact ⟨GroupInv.new .., fun _ _ => rfl⟩
  | some ginfo => exact h.groups gaddr ginfo hlook

theorem GroupInv.note_older_host (h : GroupInv env gaddr ginfo) (cfg : Config)
    (mode proto : GroupMemProtocol) :
    GroupInv (note_older_host cfg mode proto gaddr ginfo env).2 gaddr
      (note_older_host cfg mode proto gaddr ginfo env).1 := by
  have h' := h.mono (note_older_host_extends cfg mode proto gaddr ginfo env).timing
  obtain ⟨version, timer, hfst⟩ := note_older_host_frame cfg mode proto gaddr ginfo env
  rw [hfst]
  exact ⟨⟨h'.include_mode, h'.exclude_mode⟩, ⟨h'.disjoint, h'.requested, h'.excluded⟩⟩

end Database

section ReceiveRecord

variable {cfg : Config} {mode : GroupMemProtocol} {q q' : Querier α} {gr : GroupRecordMsg α}

theorem GroupRecordMsg.built_by_receiver.fresh (h : gr.built_by_receiver mode)
    (ginfo : GaddrInfo α) (a : α) (s : Source α)
    (hs : (compatible_slist ginfo gr).find a = some s) : s.fresh := by
  unfold compatible_slist at hs
  split_ifs at hs
  · simp at hs
  · rcases h.2 with h | h
    · exact h.2 s (OrdSet.find_eq_some_iff.mp hs).1
    · simp [h.2.1] at hs

theorem GroupRecordMsg.built_by_receiver.newest_of_block (h : gr.built_by_receiver mode)
    (hb : gr.record_type = BLOCK_OLD_SOURCES) : is_newest_version gr.grp_mem_proto = true := by
  rcases h.2 with h | ⟨-, -, h | h⟩
  · exact h.1
  · rw [hb] at h
    cases h
  · rw [hb] at h
    cases h

theorem receive_record_inv (hinv : QuerierInv q) (hgr : gr.built_by_receiver mode)
    (h : receive_record cfg gr q = .ok q') : QuerierInv q' := by
  obtain ⟨hg, hn⟩ := hinv.group gr.gaddr
  have hothers := hinv.others gr.gaddr
  have hnote := hg.note_older_host cfg q.m_db.querier_version_mode gr.grp_mem_proto
  have hext := note_older_host_extends cfg q.m_db.querier_version_mode gr.grp_mem_proto gr.gaddr
    (q.group gr.gaddr) q.env
  obtain ⟨r, hr, hcase⟩ := receive_record_cases h
  rw [← hr] at hnote hext
  rcases hcase with ⟨-, hblock, rfl⟩ | ⟨hblock, ⟨r', hmode, hr', hcase⟩ | ⟨r', hmode, hr', rfl⟩⟩
  · rw [note_older_host_of_newest (hgr.newest_of_block hblock)] at hr
    obtain rfl := hr
    exact hothers.put (Env.Extends.refl _) ⟨rfl, rfl, rfl⟩ hg hn
  · have hinv' := receive_record_in_include_mode_inv cfg gr.record_type hnote hmode
      (hgr.fresh r.1)
    obtain ⟨env', hext', henv⟩ := receive_record_in_include_mode_env cfg gr.record_type gr.gaddr
      (compatible_slist r.1 gr) r.1 r.2
    rw [← hr'] at hinv' henv
    have hsame : env'.SameTimers r'.2 := henv ▸ notify_if_same ..
    rcases hcase with ⟨-, -, rfl⟩ | ⟨hne, rfl⟩
    · exact hothers.del (hext.trans hext') hsame
    · refine hothers.put (hext.trans hext') hsame hinv' ?_
      intro hm hempty
      obtain ⟨a, ha⟩ := hne hm
      exact absurd ha (hempty a)
  · have hinv' := receive_record_in_exclude_mode_inv hnote hmode (hgr.fresh r.1) hr'
    obtain ⟨env', hext', henv⟩ := receive_record_in_exclude_mode_env hr'
    have hsame : env'.SameTimers r'.2 := henv ▸ notify_if_same ..
    refine hothers.put (hext.trans hext') hsame hinv' ?_
    intro hm
    rw [receive_record_in_exclude_mode_stays hr', hmode] at hm
    cases hm

end ReceiveRecord

section Deliver

variable {q : Querier α} {msg : TimerMsg α} {type : MessageType} {gaddr : α}
  {ginfo : GaddrInfo α} {ptr : Option (TimerMsg α)}

theorem Env.Armed.deliver (h : q.env.Armed type gaddr ptr) (hne : ptr ≠ some msg) :
    (q.deliver msg).env.Armed type gaddr ptr := by
  obtain ⟨t, ht, rfl, h⟩ := h
  exact ⟨t, (List.mem_erase_of_ne (fun he => hne (congrArg some he))).mpr ht, rfl, h⟩

theorem Env.Armed.ne_of_type {env : Env α} (h : env.Armed type gaddr ptr) (ht : msg.type ≠ type) :
    ptr ≠ some msg := by
  obtain ⟨t, -, rfl, rfl, -⟩ := h
  exact fun he => ht (Option.some.inj he ▸ rfl)

theorem Env.Armed.ne_of_gaddr {env : Env α} (h : env.Armed type gaddr ptr)
    (hg : msg.gaddr ≠ some gaddr) : ptr ≠ some msg := by
  obtain ⟨t, -, rfl, -, ht⟩ := h
  exact fun he => hg (Option.some.inj he ▸ ht)

theorem FilterInv.deliver (h : FilterInv q.env gaddr ginfo)
    (hne : ginfo.shared_filter_timer ≠ some msg) : FilterInv (q.deliver msg).env gaddr ginfo :=
  ⟨h.include_mode, fun hm => (h.exclude_mode hm).deliver hne⟩

-- The sources that held the delivered timer are left without.
theorem SourceInv.deliver (h : SourceInv q.env gaddr ginfo (fun _ _ => False)) :
    SourceInv (q.deliver msg).env gaddr ginfo (fun _ s => s.shared_source_timer = some msg) where
  disjoint := h.disjoint
  requested := by
    intro a s hs
    by_cases he : s.shared_source_timer = some msg
    · exact Or.inl he
    · exact Or.inr (((h.requested a s hs).resolve_left id).deliver he)
  excluded := h.excluded

theorem SourceInv.deliver_of_type (h : SourceInv q.env gaddr ginfo (fun _ _ => False))
    (ht : msg.type ≠ SOURCE_TIMER_MSG) :
    SourceInv (q.deliver msg).env gaddr ginfo (fun _ _ => False) where
  disjoint := h.disjoint
  requested := fun a s hs =>
    have harm := (h.requested a s hs).resolve_left id
    Or.inr (harm.deliver (harm.ne_of_type ht))
  excluded := h.excluded

theorem FilterInv.deliver_of_type (h : FilterInv q.env gaddr ginfo)
    (ht : msg.type ≠ FILTER_TIMER_MSG) : FilterInv (q.deliver msg).env gaddr ginfo :=
  ⟨h.include_mode, fun hm => (h.exclude_mode hm).deliver ((h.exclude_mode hm).ne_of_type ht)⟩

-- A record that does not refer to the message does not notice.
theorem GroupInv.deliver (h : GroupInv q.env gaddr ginfo)
    (hft : ginfo.shared_filter_timer ≠ some msg)
    (hst : ∀ a s, ginfo.include_requested_list.find a = some s → s.shared_source_timer ≠ some msg) :
    GroupInv (q.deliver msg).env gaddr ginfo :=
  ⟨h.toFilterInv.deliver hft, h.disjoint,
    fun a s hs => Or.inr ((h.armed hs).deliver (hst a s hs)), h.excluded⟩

theorem GroupInv.deliver_of_gaddr (h : GroupInv q.env gaddr ginfo) (hg : msg.gaddr ≠ some gaddr) :
    GroupInv (q.deliver msg).env gaddr ginfo := by
  refine ⟨⟨h.include_mode, fun hm => ?_⟩, h.disjoint, fun a s hs => Or.inr ?_, h.excluded⟩
  · exact (h.exclude_mode hm).deliver ((h.exclude_mode hm).ne_of_gaddr hg)
  · exact (h.armed hs).deliver ((h.armed hs).ne_of_gaddr hg)

theorem QuerierInv.deliver_pending (h : QuerierInv q) (msg : TimerMsg α) :
    (q.deliver msg).env.Pending where
  unused := fun t ht => h.pending.unused t (List.mem_of_mem_erase ht)
  below := fun t ht => h.pending.below t (List.mem_of_mem_erase ht)
  nodup := h.pending.nodup.sublist (List.erase_sublist.map _)

theorem QuerierInv.deliver_others (h : QuerierInv q) (hg : msg.gaddr = some gaddr) :
    OthersInv (q.deliver msg) gaddr where
  groups := by
    intro g gi hne hlook
    obtain ⟨hgi, hn⟩ := h.groups g gi hlook
    refine ⟨hgi.deliver_of_gaddr ?_, hn⟩
    rw [hg]
    exact fun he => hne (Option.some.inj he).symm
  pending := h.deliver_pending msg

theorem OthersInv.keep (h : OthersInv q gaddr)
    (hlook : OrdMap.lookup q.m_db.group_info gaddr = some ginfo)
    (hg : GroupInv q.env gaddr ginfo) (hn : ginfo.Neutral) : QuerierInv q where
  groups := by
    intro g gi hl
    by_cases he : g = gaddr
    · subst he
      obtain rfl := Option.some.inj (hlook.symm.trans hl)
      exact ⟨hg, hn⟩
    · exact h.groups g gi he hl
  pending := h.pending

theorem MembershipDb.not_references_of_lookup (h : q.m_db.references msg = false)
    (hlook : OrdMap.lookup q.m_db.group_info gaddr = some ginfo) :
    ginfo.references msg = false := by
  simp only [MembershipDb.references, Bool.or_eq_false_iff, List.any_eq_false,
    Bool.not_eq_true] at h
  exact h.2 _ (OrdMap.mem_of_lookup hlook)

theorem GaddrInfo.ne_of_not_references (h : ginfo.references msg = false) :
    ginfo.shared_filter_timer ≠ some msg ∧ ginfo.group_retransmission_timer ≠ some msg ∧
      ∀ a s, ginfo.include_requested_list.find a = some s → s.shared_source_timer ≠ some msg := by
  simp only [GaddrInfo.references, Bool.or_eq_false_iff, List.any_eq_false, Bool.not_eq_true] at h
  obtain ⟨⟨⟨⟨⟨hft, -⟩, hrt⟩, -⟩, hreq⟩, -⟩ := h
  refine ⟨ne_of_not_same_object hft, ne_of_not_same_object hrt, fun a s hs => ?_⟩
  exact ne_of_not_same_object (hreq s (OrdSet.find_eq_some_iff.mp hs).1)

-- The database does not refer to the message at all.
theorem QuerierInv.deliver_unreferenced (h : QuerierInv q)
    (href : q.m_db.references msg = false) : QuerierInv (q.deliver msg) where
  groups := by
    intro g gi hlook
    obtain ⟨hgi, hn⟩ := h.groups g gi hlook
    obtain ⟨hft, -, hst⟩ :=
      GaddrInfo.ne_of_not_references (MembershipDb.not_references_of_lookup href hlook)
    exact ⟨hgi.deliver hft hst, hn⟩
  pending := h.deliver_pending msg

end Deliver

section Timer

variable {cfg : Config} {msg : TimerMsg α} {gaddr : α} {ginfo : GaddrInfo α} {q q' : Querier α}

theorem send_general_query_extends (cfg : Config) (q : Querier α) :
    q.env.Extends (send_general_query cfg q).env :=
  (Env.arm_extends ..).trans (Env.act_extends _ (by simp))

theorem QuerierInv.send_general_query (h : QuerierInv q) (cfg : Config) :
    QuerierInv (send_general_query cfg q) where
  groups := by
    intro g gi hlook
    obtain ⟨hgi, hn⟩ := h.groups g gi hlook
    exact ⟨hgi.mono (send_general_query_extends cfg q).timing, hn⟩
  pending := h.pending.extends (send_general_query_extends cfg q)

theorem timer_triggerd_source_timer_inv (hothers : OthersInv q gaddr)
    (hft : FilterInv q.env gaddr ginfo)
    (hsrc : SourceInv q.env gaddr ginfo (fun _ s => s.shared_source_timer = some msg)) :
    QuerierInv (timer_triggerd_source_timer gaddr ginfo msg q) := by
  have hkept : ∀ a s, (ginfo.include_requested_list.filter
      (fun s => !same_object s.shared_source_timer msg)).find a = some s →
      ginfo.include_requested_list.find a = some s ∧
        q.env.Armed SOURCE_TIMER_MSG gaddr s.shared_source_timer := by
    intro a s hs
    rw [OrdSet.find_filter, Option.filter_eq_some_iff] at hs
    have hne := ne_of_not_same_object (by simpa using hs.2)
    exact ⟨hs.1, (hsrc.requested a s hs.1).resolve_left hne⟩
  unfold timer_triggerd_source_timer
  dsimp only
  cases hmode : ginfo.filter_mode with
  | INCLUDE_MODE =>
    dsimp only
    split_ifs with hempty
    · exact hothers.del (Env.Extends.refl _) ⟨rfl, rfl, rfl⟩
    · obtain ⟨hexcl, hnull⟩ := hft.include_mode hmode
      refine hothers.put (Env.Extends.refl _) ⟨rfl, rfl, rfl⟩ (.notify ⟨?_, ?_, ?_, ?_⟩ _ _) ?_
      · exact .of_include rfl hexcl hnull
      · exact fun a _ => hexcl a
      · exact fun a s hs => Or.inr (hkept a s hs).2
      · exact hsrc.excluded
      · intro _ hnone
        exact absurd (OrdSet.isEmpty_iff.mpr hnone) hempty
  | EXCLUDE_MODE =>
    refine hothers.put (Env.Extends.refl _) ⟨rfl, rfl, rfl⟩ (.notify ⟨?_, ?_, ?_, ?_⟩ _ _) ?_
    · exact .of_exclude rfl (hft.exclude_mode hmode)
    · intro a ha hy
      obtain ⟨s, hs⟩ := OrdSet.mem_iff_find.mp ha
      obtain ⟨s', hs'⟩ := OrdSet.mem_iff_find.mp hy
      have hx := (hkept a s hs).1
      rw [OrdSet.find_filter, hx, Option.filter_eq_some_iff] at hs
      have hmiss : same_object s.shared_source_timer msg = false := by simpa using hs.2
      rw [find_moved, hx, Option.filter_some_neg (by simp [hmiss]), Option.map_none,
        Option.or_none] at hs'
      exact hsrc.disjoint a (OrdSet.mem_of_find hx) (OrdSet.mem_of_find hs')
    · exact fun a s hs => Or.inr (hkept a s hs).2
    · intro a s hs
      rw [find_moved, Option.or_eq_some_iff] at hs
      rcases hs with hs | ⟨-, hs⟩
      · exact hsrc.excluded a s hs
      · obtain ⟨s₀, -, rfl⟩ := Option.map_eq_some_iff.mp hs
        rfl
    · intro hm
      cases hm

theorem filter_timer_expired_inv (hothers : OthersInv q gaddr)
    (hlook : OrdMap.lookup q.m_db.group_info gaddr = some ginfo) (hn : ginfo.Neutral)
    (hnull : ginfo.filter_mode = INCLUDE_MODE → ginfo.shared_filter_timer = none)
    (hft : ginfo.shared_filter_timer ≠ some msg → FilterInv q.env gaddr ginfo)
    (hsrc : SourceInv q.env gaddr ginfo (fun _ _ => False)) :
    QuerierInv (filter_timer_expired gaddr ginfo msg q) := by
  unfold filter_timer_expired
  cases hsame : same_object ginfo.shared_filter_timer msg with
  | false => exact hothers.keep hlook ⟨hft (ne_of_not_same_object hsame), hsrc⟩ hn
  | true =>
    cases hmode : ginfo.filter_mode with
    | INCLUDE_MODE =>
      rw [hnull hmode] at hsame
      cases hsame
    | EXCLUDE_MODE =>
      simp only [Bool.not_true, Bool.false_eq_true, if_false]
      split_ifs with hempty
      · exact hothers.del (Env.Extends.refl _) ⟨rfl, rfl, rfl⟩
      · refine hothers.put (Env.Extends.refl _) ⟨rfl, rfl, rfl⟩ (.notify ⟨?_, ?_, ?_, ?_⟩ _ _) ?_
        · exact .of_include rfl OrdSet.notMem_empty rfl
        · exact fun a _ => OrdSet.notMem_empty a
        · exact hsrc.requested
        · exact fun a s hs => by simp at hs
        · intro _ hnone
          exact absurd (OrdSet.isEmpty_iff.mpr hnone) hempty

-- Both retransmission handlers work on a record that keeps its lists and its mode.
theorem timer_triggerd_ret_group_timer_inv (hothers : OthersInv q gaddr)
    (hlook : OrdMap.lookup q.m_db.group_info gaddr = some ginfo) (hn : ginfo.Neutral)
    (hg : GroupInv q.env gaddr ginfo)
    (h : timer_triggerd_ret_group_timer cfg gaddr ginfo msg q = .ok q') : QuerierInv q' := by
  unfold timer_triggerd_ret_group_timer at h
  split_ifs at h with hsame
  · obtain ⟨r, hr, rfl⟩ := exists_of_map_ok h
    have hsrc := hg.toSourceInv.send_Q_group hr
    have hfilter := send_Q_group_filter_armed hr
    have hrt : start_group_queries cfg gaddr ginfo q.env = (ginfo, q.env) := by
      cases hrt : ginfo.group_retransmission_timer with
      | none => simp [hrt, same_object] at hsame
      | some t => exact start_group_queries_of_some hrt
    have hnull := send_Q_group_filter hr
    rw [hrt] at hnull
    have hext := send_Q_group_extends hr
    obtain ⟨ft, rt, count, hfst⟩ := send_Q_group_frame hr
    refine hothers.put hext ⟨rfl, rfl, rfl⟩ ⟨⟨?_, ?_⟩, hsrc⟩ ?_
    · intro hm
      rw [hnull]
      rw [hfst] at hm ⊢
      exact hg.include_mode hm
    · intro hm
      rw [hfst] at hm
      exact hfilter (hg.exclude_mode hm)
    · rw [hfst]
      exact hn
  · obtain rfl := Except.ok.inj h
    exact hothers.keep hlook hg hn

theorem timer_triggerd_ret_source_timer_inv (cfg : Config) (msg : TimerMsg α)
    (hothers : OthersInv q gaddr) (hlook : OrdMap.lookup q.m_db.group_info gaddr = some ginfo)
    (hn : ginfo.Neutral) (hg : GroupInv q.env gaddr ginfo) :
    QuerierInv (timer_triggerd_ret_source_timer cfg gaddr ginfo msg q) := by
  unfold timer_triggerd_ret_source_timer
  split_ifs with hsame
  · have hext := send_Q_extends cfg gaddr ginfo ∅ true q.env
    refine hothers.put hext ⟨rfl, rfl, rfl⟩
      ⟨⟨?_, ?_⟩, hg.send_Q cfg ∅ true (fun _ _ h => Or.inr h)⟩ ?_
    · simpa using hg.include_mode
    · simpa using fun hm => (hg.exclude_mode hm).extends hext
    · intro hm hempty
      simp only [send_Q_filter_mode, mem_send_Q, send_Q_older_host_present_timer] at hm hempty ⊢
      exact hn hm hempty
  · exact hothers.keep hlook hg hn

theorem timer_triggerd_older_host_present_timer_inv (cfg : Config) (msg : TimerMsg α)
    (hothers : OthersInv q gaddr) (hlook : OrdMap.lookup q.m_db.group_info gaddr = some ginfo)
    (hn : ginfo.Neutral) (hg : GroupInv q.env gaddr ginfo) :
    QuerierInv (timer_triggerd_older_host_present_timer cfg gaddr ginfo msg q) := by
  have hsome : same_object ginfo.older_host_present_timer msg = true →
      ginfo.filter_mode = INCLUDE_MODE → ¬ ∀ a, a ∉ ginfo.include_requested_list := by
    intro hsame hm hempty
    rw [hn hm hempty] at hsame
    cases hsame
  unfold timer_triggerd_older_host_present_timer
  split_ifs with hsame hnewest
  · refine hothers.put (Env.Extends.refl _) ⟨rfl, rfl, rfl⟩ (.notify ⟨?_, ?_⟩ _ _) (fun _ _ => rfl)
    · exact ⟨hg.include_mode, hg.exclude_mode⟩
    · exact ⟨hg.disjoint, hg.requested, hg.excluded⟩
  · refine hothers.put (Env.arm_extends ..) ⟨rfl, rfl, rfl⟩
      ⟨⟨hg.include_mode, ?_⟩, hg.disjoint, ?_, hg.excluded⟩ ?_
    · exact fun hm => (hg.exclude_mode hm).extends (Env.arm_extends ..)
    · exact fun a s hs => Or.inr ((hg.armed hs).extends (Env.arm_extends ..))
    · exact fun hm hempty => absurd hempty (hsome hsame hm)
  · exact hothers.keep hlook hg hn

theorem timer_triggerd_group_inv (hinv : QuerierInv q) (hmem : msg ∈ q.env.timing)
    (hgaddr : msg.gaddr = some gaddr)
    (hlook : OrdMap.lookup q.m_db.group_info gaddr = some ginfo)
    (h : timer_triggerd_group cfg gaddr ginfo msg (q.deliver msg) = .ok q') : QuerierInv q' := by
  obtain ⟨hg, hn⟩ := hinv.groups gaddr ginfo hlook
  have hothers := hinv.deliver_others hgaddr
  -- a timer of another kind is not one the record's lists or its mode rest on
  have hkeep : msg.type ≠ FILTER_TIMER_MSG → msg.type ≠ SOURCE_TIMER_MSG →
      GroupInv (q.deliver msg).env gaddr ginfo := fun hf hs =>
    ⟨hg.toFilterInv.deliver_of_type hf, hg.toSourceInv.deliver_of_type hs⟩
  unfold timer_triggerd_group at h
  split at h
  next htype =>
    unfold timer_triggerd_filter_timer at h
    rw [hinv.pending.unused msg hmem, if_neg Bool.false_ne_true] at h
    obtain rfl := Except.ok.inj h
    refine filter_timer_expired_inv hothers hlook hn (fun hm => (hg.include_mode hm).2) ?_ ?_
    · exact hg.toFilterInv.deliver
    · exact hg.toSourceInv.deliver_of_type (by simp [htype])
  next htype =>
    obtain rfl := Except.ok.inj h
    exact timer_triggerd_source_timer_inv hothers
      (hg.toFilterInv.deliver_of_type (by simp [htype])) hg.toSourceInv.deliver
  next htype =>
    exact timer_triggerd_ret_group_timer_inv hothers hlook hn
      (hkeep (by simp [htype]) (by simp [htype])) h
  next htype =>
    obtain rfl := Except.ok.inj h
    exact timer_triggerd_ret_source_timer_inv cfg msg hothers hlook hn
      (hkeep (by simp [htype]) (by simp [htype]))
  next htype =>
    obtain rfl := Except.ok.inj h
    exact timer_triggerd_older_host_present_timer_inv cfg msg hothers hlook hn
      (hkeep (by simp [htype]) (by simp [htype]))
  next hf hs _ _ _ =>
    obtain rfl := Except.ok.inj h
    exact hothers.keep hlook (hkeep hf hs) hn

theorem timer_triggerd_inv {unique : Bool} (hinv : QuerierInv q) (hmem : msg ∈ q.env.timing)
    (hunique : unique = true → q.m_db.references msg = false)
    (h : timer_triggerd cfg unique msg (q.deliver msg) = .ok q') : QuerierInv q' := by
  rcases timer_triggerd_cases h with ⟨hu, rfl⟩ | ⟨htype, rfl⟩ | ⟨hnone, rfl⟩ | ⟨g, gi, hg, hl, h⟩
  · exact hinv.deliver_unreferenced (hunique hu)
  · have hdel : QuerierInv (q.deliver msg) := by
      refine ⟨fun g gi hlook => ?_, hinv.deliver_pending msg⟩
      obtain ⟨hg, hn⟩ := hinv.groups g gi hlook
      exact ⟨⟨hg.toFilterInv.deliver_of_type (by simp [htype]),
        hg.toSourceInv.deliver_of_type (by simp [htype])⟩, hn⟩
    unfold timer_triggerd_general_query_timer
    split_ifs
    · exact hdel.send_general_query cfg
    · exact hdel
  · refine ⟨fun g gi hlook => ?_, hinv.deliver_pending msg⟩
    obtain ⟨hgi, hn⟩ := hinv.groups g gi hlook
    refine ⟨hgi.deliver_of_gaddr (fun hg => ?_), hn⟩
    simp [hnone g hg] at hlook
  · exact timer_triggerd_group_inv hinv hmem hg hl h

end Timer

section Run

theorem new_querier_inv (cfg : Config) (mode : GroupMemProtocol) :
    QuerierInv (new_querier cfg mode : Querier α) := by
  refine QuerierInv.send_general_query ⟨?_, ?_⟩ cfg
  · intro g ginfo hlook
    simp at hlook
  · exact ⟨by simp, by simp, by simp⟩

theorem querier_step_inv {cfg : Config} {mode : GroupMemProtocol} {q q' : Querier α} {e : Event α}
    (hinv : QuerierInv q) (he : (querier α cfg mode).enabled q e)
    (h : (querier α cfg mode).step q e = .ok q') : QuerierInv q' := by
  cases e with
  | record gr => exact receive_record_inv hinv he h
  | timer msg unique => exact timer_triggerd_inv hinv he.1 he.2 h

theorem querier_inv {cfg : Config} {mode : GroupMemProtocol} {q : Querier α}
    (hq : (querier α cfg mode).Reachable q) : QuerierInv q :=
  hq.invariant QuerierInv (new_querier_inv cfg mode) (fun _ _ _ => querier_step_inv)

-- The representation of a group's state, given the timers armed and not yet delivered.
structure GaddrInfo.WellFormed (pending : List (TimerMsg α)) (ginfo : GaddrInfo α) : Prop where
  include_mode : ginfo.filter_mode = INCLUDE_MODE →
    ginfo.exclude_list = ∅ ∧ ginfo.shared_filter_timer = none
  exclude_mode : ginfo.filter_mode = EXCLUDE_MODE →
    (∃ t ∈ pending, ginfo.shared_filter_timer = some t) ∧
      ∀ a ∈ ginfo.include_requested_list, a ∉ ginfo.exclude_list
  requested : ∀ s ∈ ginfo.include_requested_list.elems,
    ∃ t ∈ pending, s.shared_source_timer = some t
  excluded : ∀ s ∈ ginfo.exclude_list.elems, s.shared_source_timer = none

-- No zombies: whatever was received and delivered, and in whatever order.
theorem reachable_well_formed (cfg : Config) (mode : GroupMemProtocol) (q : Querier α)
    (hq : (querier α cfg mode).Reachable q) (gaddr : α) (ginfo : GaddrInfo α)
    (hlook : OrdMap.lookup q.m_db.group_info gaddr = some ginfo) :
    ginfo.WellFormed q.env.timing := by
  obtain ⟨hg, -⟩ := (querier_inv hq).groups gaddr ginfo hlook
  refine ⟨fun hm => ?_, fun hm => ⟨?_, hg.disjoint⟩, fun s hs => ?_, fun s hs => ?_⟩
  · obtain ⟨hexcl, hnull⟩ := hg.include_mode hm
    refine ⟨OrdSet.ext_find fun a => ?_, hnull⟩
    rw [OrdSet.find_eq_none_iff.mpr (hexcl a), OrdSet.find_empty]
  · obtain ⟨t, ht, he, -⟩ := hg.exclude_mode hm
    exact ⟨t, ht, he⟩
  · obtain ⟨t, ht, he, -⟩ := hg.armed (OrdSet.find_eq_some_iff.mpr ⟨hs, rfl⟩)
    exact ⟨t, ht, he⟩
  · exact hg.excluded _ s (OrdSet.find_eq_some_iff.mpr ⟨hs, rfl⟩)

theorem reachable_well_formed_requested :
    ∃ (q : Querier Ipv4Addr) (ginfo : GaddrInfo Ipv4Addr),
      (querier Ipv4Addr default_config IGMPv3).Reachable q ∧
      OrdMap.lookup q.m_db.group_info 7 = some ginfo ∧
      ginfo.include_requested_list.keys = [3, 5] ∧ ginfo.exclude_list.keys = [9] ∧
      ginfo.WellFormed q.env.timing := by
  obtain ⟨q, hrun, hp⟩ := Machine.exists_run_of_exec (querier Ipv4Addr default_config IGMPv3)
    [.record ⟨MODE_IS_EXCLUDE, 7, sources [5, 9], IGMPv3⟩,
      .record ⟨ALLOW_NEW_SOURCES, 7, sources [3, 5], IGMPv3⟩]
    (fun q => (OrdMap.lookup q.m_db.group_info 7).any fun ginfo =>
      ginfo.include_requested_list.keys = [3, 5] && ginfo.exclude_list.keys = [9]) rfl
  obtain ⟨ginfo, hlook, hp⟩ := (Option.any_eq_true ..).mp hp
  simp only [Bool.and_eq_true, decide_eq_true_eq] at hp
  exact ⟨q, ginfo, hrun.reachable, hlook, hp.1, hp.2,
    reachable_well_formed default_config IGMPv3 q hrun.reachable 7 ginfo hlook⟩

end Run

end Mcproxy
