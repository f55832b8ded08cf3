import Mcproxy.Querier.Lemmas

namespace Mcproxy

open Container Transition McFilter McastAddrRecordType MessageType GroupMemProtocol

variable {α : Type*} [LinearOrder α]

section Alive

-- A record in INCLUDE mode is kept for its sources only.
def GaddrInfo.alive (ginfo : GaddrInfo α) : Prop :=
  ginfo.filter_mode = EXCLUDE_MODE ∨ ∃ a, a ∈ ginfo.include_requested_list

def Querier.no_dead_records (q : Querier α) : Prop :=
  ∀ gaddr ginfo, OrdMap.lookup q.m_db.group_info gaddr = some ginfo → ginfo.alive

variable {q q' : Querier α} {gaddr : α} {ginfo ginfo' : GaddrInfo α} {env : Env α}

theorem GaddrInfo.alive.congr (hmode : ginfo'.filter_mode = ginfo.filter_mode)
    (hlist : ∀ a, a ∈ ginfo'.include_requested_list ↔ a ∈ ginfo.include_requested_list)
    (h : ginfo.alive) : ginfo'.alive := by
  rw [alive, hmode]
  exact h.imp_right fun ⟨a, ha⟩ => ⟨a, (hlist a).mpr ha⟩

theorem GaddrInfo.alive_of_include (h : ginfo.filter_mode = INCLUDE_MODE →
    ∃ a, a ∈ ginfo.include_requested_list) : ginfo.alive := by
  cases hmode : ginfo.filter_mode with
  | INCLUDE_MODE => exact Or.inr (h hmode)
  | EXCLUDE_MODE => exact Or.inl hmode

theorem GaddrInfo.not_alive_new (mode : GroupMemProtocol) :
    ¬ (GaddrInfo.new mode : GaddrInfo α).alive := by
  rintro (h | ⟨a, ha⟩)
  · cases h
  · exact OrdSet.notMem_empty a ha

theorem Querier.no_dead_records.put_iff (h : q.no_dead_records) :
    (q.put gaddr ginfo env).no_dead_records ↔ ginfo.alive := by
  constructor
  · intro h'
    refine h' gaddr ginfo ?_
    rw [Querier.lookup_put, if_pos rfl]
  · exact fun halive => Querier.forall_put (fun g gi _ hlook => h g gi hlook) halive

theorem Querier.no_dead_records.del (h : q.no_dead_records) :
    (q.del gaddr env).no_dead_records :=
  Querier.forall_del fun g gi _ hlook => h g gi hlook

end Alive

section Timers

variable {cfg : Config} {gaddr : α} {ginfo : GaddrInfo α} {msg : TimerMsg α} {q q' : Querier α}

-- No timer leaves a record behind that it should have deleted.
theorem GroupTimerStep.alive (hstep : GroupTimerStep cfg gaddr msg ginfo q q')
    (h : q.no_dead_records) (hg : ginfo.alive) : q'.no_dead_records := by
  induction hstep with
  | ignored => exact h
  | erased => exact h.del
  | sources_deleted _ _ _ hsome =>
    exact h.put_iff.mpr (Or.inr (OrdSet.isEmpty_eq_false_iff.mp hsome))
  | sources_moved _ hmode hginfo' =>
    rw [h.put_iff, hginfo']
    exact Or.inl hmode
  | filter_expired _ _ _ hsome hginfo' =>
    rw [h.put_iff, hginfo']
    exact Or.inr (OrdSet.isEmpty_eq_false_iff.mp hsome)
  | shared _ _ hlook _ hfirst hsecond =>
    have h₁ := hfirst h hg
    exact hsecond h₁ (h₁ gaddr _ hlook)
  | group_queried _ _ hr =>
    obtain ⟨ft, rt, count, hfst⟩ := send_Q_group_frame hr
    rw [h.put_iff, hfst]
    exact hg
  | sources_queried =>
    exact h.put_iff.mpr (hg.congr (send_Q_filter_mode ..) fun a => mem_send_Q ..)
  | older_host_gone _ _ hginfo' =>
    rw [h.put_iff, hginfo']
    exact hg
  | newer_host => exact h.put_iff.mpr hg

theorem timer_triggerd_alive {unique : Bool} (h : q.no_dead_records)
    (hstep : timer_triggerd cfg unique msg q = .ok q') : q'.no_dead_records := by
  rcases timer_triggerd_cases hstep with ⟨-, rfl⟩ | ⟨-, rfl⟩ | ⟨-, rfl⟩ | ⟨g, gi, -, hl, hg⟩
  · exact h
  · unfold timer_triggerd_general_query_timer
    split_ifs <;> exact h
  · exact h
  · exact (timer_triggerd_group_step hg).alive h (h g gi hl)

end Timers

section Records

-- A BLOCK for a group without a record that is taken in compatibility mode: the record is
-- created, the message ignored, and the record left as it is.
def leaves_dead_record (q : Querier α) : Event α → Prop
  | .record gr =>
    gr.record_type = BLOCK_OLD_SOURCES ∧ OrdMap.lookup q.m_db.group_info gr.gaddr = none ∧
      (is_newest_version q.m_db.querier_version_mode = false ∨
        is_newest_version gr.grp_mem_proto = false ∧
          is_older_or_equal_version gr.grp_mem_proto q.m_db.querier_version_mode = true)
  | .timer _ _ => False

instance (q : Querier α) (e : Event α) : Decidable (leaves_dead_record q e) :=
  match e with
  | .record _ => inferInstanceAs (Decidable (_ ∧ _))
  | .timer _ _ => inferInstanceAs (Decidable False)

variable {cfg : Config} {gr : GroupRecordMsg α} {q q' : Querier α}

theorem new_in_compatibility_mode_iff (cfg : Config) (mode proto : GroupMemProtocol) (gaddr : α)
    (env : Env α) :
    (note_older_host cfg mode proto gaddr (.new mode) env).1.is_in_backward_compatibility_mode =
        true ↔
      is_newest_version mode = false ∨
        is_newest_version proto = false ∧ is_older_or_equal_version proto mode = true := by
  unfold note_older_host
  split_ifs with hold
  · rw [Bool.and_eq_true, Bool.not_eq_true'] at hold
    simp [GaddrInfo.is_in_backward_compatibility_mode, hold]
  · rw [Bool.and_eq_true, Bool.not_eq_true'] at hold
    simp [GaddrInfo.is_in_backward_compatibility_mode, GaddrInfo.new, hold]

theorem receive_record_alive_iff (h : q.no_dead_records)
    (hstep : receive_record cfg gr q = .ok q') :
    q'.no_dead_records ↔ ¬ leaves_dead_record q (.record gr) := by
  obtain ⟨r, hr, hcase⟩ := receive_record_cases hstep
  obtain ⟨version, timer, hfst⟩ := note_older_host_frame cfg q.m_db.querier_version_mode
    gr.grp_mem_proto gr.gaddr (q.group gr.gaddr) q.env
  rw [← hr] at hfst
  -- The compatibility mode of a record that is new.
  have hnew : OrdMap.lookup q.m_db.group_info gr.gaddr = none →
      (r.1.is_in_backward_compatibility_mode = true ↔
        is_newest_version q.m_db.querier_version_mode = false ∨
          is_newest_version gr.grp_mem_proto = false ∧
            is_older_or_equal_version gr.grp_mem_proto q.m_db.querier_version_mode = true) := by
    intro hnone
    have hgroup : q.group gr.gaddr = .new q.m_db.querier_version_mode := by
      rw [Querier.group, hnone]
      rfl
    rw [hr, hgroup]
    exact new_in_compatibility_mode_iff ..
  rcases hcase with ⟨hcompat, hblock, rfl⟩ | ⟨hignored, hrow⟩
  · rw [h.put_iff, hfst]
    cases hl : OrdMap.lookup q.m_db.group_info gr.gaddr with
    | none =>
      have hdead : ¬ (q.group gr.gaddr).alive := by
        rw [Querier.group, hl]
        exact GaddrInfo.not_alive_new _
      exact iff_of_false hdead (not_not.mpr ⟨hblock, hl, (hnew hl).mp hcompat⟩)
    | some ginfo =>
      have halive : (q.group gr.gaddr).alive := by
        rw [Querier.group, hl]
        exact h gr.gaddr ginfo hl
      refine iff_of_true halive fun hdead => ?_
      cases hl.symm.trans hdead.2.1
  · refine iff_of_true ?_ fun hdead => hignored ⟨(hnew hdead.2.1).mpr hdead.2.2, hdead.1⟩
    rcases hrow with ⟨r', -, -, ⟨-, -, rfl⟩ | ⟨halive, rfl⟩⟩ | ⟨r', hmode, hr', rfl⟩
    · exact h.del
    · exact h.put_iff.mpr (GaddrInfo.alive_of_include halive)
    · exact h.put_iff.mpr (Or.inl ((receive_record_in_exclude_mode_stays hr').trans hmode))

end Records

section Runs

-- Records of any type and any version of the family, with any sources.
def family_enabled (mode : GroupMemProtocol) (q : Querier α) : Event α → Prop
  | .record gr => is_IPv4 gr.grp_mem_proto = is_IPv4 mode
  | .timer msg unique => querier_enabled mode q (.timer msg unique)

instance (mode : GroupMemProtocol) (q : Querier α) (e : Event α) :
    Decidable (family_enabled mode q e) :=
  match e with
  | .record _ => inferInstanceAs (Decidable (_ = _))
  | .timer msg unique => inferInstanceAs (Decidable (querier_enabled mode q (.timer msg unique)))

def family_querier (α : Type*) [LinearOrder α] (cfg : Config) (mode : GroupMemProtocol) :
    Machine (Querier α) (Event α) Fault where
  start := new_querier cfg mode
  enabled := family_enabled mode
  step := querier_step cfg

instance (cfg : Config) (mode : GroupMemProtocol) (q : Querier α) (e : Event α) :
    Decidable ((family_querier α cfg mode).enabled q e) :=
  inferInstanceAs (Decidable (family_enabled mode q e))

variable {cfg : Config} {mode : GroupMemProtocol} {q q' : Querier α}

theorem new_querier_alive (cfg : Config) (mode : GroupMemProtocol) :
    (new_querier cfg mode : Querier α).no_dead_records := by
  intro gaddr ginfo h
  cases h

theorem querier_step_alive_iff {e : Event α} (h : q.no_dead_records)
    (hstep : querier_step cfg q e = .ok q') :
    q'.no_dead_records ↔ ¬ leaves_dead_record q e := by
  cases e with
  | record gr => exact receive_record_alive_iff h hstep
  | timer msg unique =>
    have hdeliver : (q.deliver msg).no_dead_records := h
    exact iff_of_true (timer_triggerd_alive hdeliver hstep) id

-- No state of a run has a dead record just when no step is such a BLOCK.
theorem no_dead_records_iff {es : List (Event α)} (run : (family_querier α cfg mode).Run es q) :
    (∀ es' q', es' <+: es → (family_querier α cfg mode).Run es' q' → q'.no_dead_records) ↔
      ((family_querier α cfg mode).restrict fun q e => ¬ leaves_dead_record q e).Run es q := by
  refine run.forall_iff_restrict (new_querier_alive cfg mode) ?_
  intro _ q e q' _ h _ hstep
  exact querier_step_alive_iff h hstep

theorem no_dead_records_iff_join_and_block : ∃ q : Querier Ipv4Addr,
    ((family_querier Ipv4Addr default_config IGMPv3).restrict fun q e =>
      ¬ leaves_dead_record q e).Run
        [.record ⟨ALLOW_NEW_SOURCES, 7, sources [3], IGMPv3⟩,
          .record ⟨BLOCK_OLD_SOURCES, 8, sources [3], IGMPv3⟩] q ∧
      ∀ es' q', es' <+: [.record ⟨ALLOW_NEW_SOURCES, 7, sources [3], IGMPv3⟩,
          .record ⟨BLOCK_OLD_SOURCES, 8, sources [3], IGMPv3⟩] →
        (family_querier Ipv4Addr default_config IGMPv3).Run es' q' → q'.no_dead_records := by
  obtain ⟨q, run, -⟩ := Machine.exists_run_of_exec
    ((family_querier Ipv4Addr default_config IGMPv3).restrict fun q e => ¬ leaves_dead_record q e)
    [.record ⟨ALLOW_NEW_SOURCES, 7, sources [3], IGMPv3⟩,
      .record ⟨BLOCK_OLD_SOURCES, 8, sources [3], IGMPv3⟩] (fun _ => true) rfl
  exact ⟨q, run, (no_dead_records_iff run.of_restrict).mpr run⟩

-- An IGMPv2 querier keeps an empty record for each group of a BLOCK it ignores.
theorem block_leaves_dead_record : ∃ q : Querier Ipv4Addr,
    (family_querier Ipv4Addr default_config IGMPv2).Run
        [.record ⟨BLOCK_OLD_SOURCES, 7, sources [3], IGMPv3⟩] q ∧
      (OrdMap.lookup q.m_db.group_info 7).map (fun ginfo =>
        (ginfo.filter_mode, ginfo.include_requested_list.keys)) = some (INCLUDE_MODE, []) := by
  obtain ⟨q, run, hq⟩ := Machine.exists_run_of_exec
    (family_querier Ipv4Addr default_config IGMPv2)
    [.record ⟨BLOCK_OLD_SOURCES, 7, sources [3], IGMPv3⟩]
    (fun q => (OrdMap.lookup q.m_db.group_info 7).map (fun ginfo =>
      (ginfo.filter_mode, ginfo.include_requested_list.keys)) = some (INCLUDE_MODE, [])) rfl
  exact ⟨q, run, of_decide_eq_true hq⟩

end Runs

end Mcproxy
