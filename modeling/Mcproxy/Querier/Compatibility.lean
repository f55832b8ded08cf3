import Mcproxy.Querier.DeadRecords
import Mcproxy.Querier.View

namespace Mcproxy

open Container Transition McFilter McastAddrRecordType MessageType GroupMemProtocol

variable {α : Type*} [LinearOrder α]

section Versions

variable {gmp mode : GroupMemProtocol}

theorem get_next_newer_version_family (h : is_newest_version gmp = false) :
    is_IPv4 (get_next_newer_version gmp) = is_IPv4 gmp := by
  cases gmp with
  | IGMPv3 | MLDv2 => cases h
  | _ => rfl

-- The newest version of a family has nothing above it.
theorem eq_of_newest (hfamily : is_IPv4 gmp = is_IPv4 mode)
    (hle : is_older_or_equal_version gmp mode = true) (h : is_newest_version gmp = true) :
    gmp = mode := by
  revert hfamily hle h
  cases gmp <;> cases mode <;> decide

theorem get_next_newer_version_le (hfamily : is_IPv4 gmp = is_IPv4 mode)
    (hle : is_older_or_equal_version gmp mode = true) (hne : gmp ≠ mode) :
    is_older_or_equal_version (get_next_newer_version gmp) mode = true := by
  revert hfamily hle hne
  cases gmp <;> cases mode <;> decide

theorem get_next_newer_version_gt (h : is_newest_version mode = false) :
    is_older_or_equal_version (get_next_newer_version mode) mode = false := by
  cases mode with
  | IGMPv3 | MLDv2 => cases h
  | _ => rfl

end Versions

section Within

-- A version the querier may use for the group, with a way back to `mode`: while it is not
-- there, the older host timer that raises it is armed and not yet delivered.
structure GaddrInfo.Within (mode : GroupMemProtocol) (env : Env α) (gaddr : α)
    (ginfo : GaddrInfo α) : Prop where
  family : is_IPv4 ginfo.compatibility_mode_variable = is_IPv4 mode
  not_newer : is_older_or_equal_version ginfo.compatibility_mode_variable mode = true
  way_back : ginfo.compatibility_mode_variable ≠ mode →
    env.Armed OLDER_HOST_PRESENT_TIMER_MSG gaddr ginfo.older_host_present_timer

def Querier.versions_within (mode : GroupMemProtocol) (q : Querier α) : Prop :=
  ∀ gaddr ginfo, OrdMap.lookup q.m_db.group_info gaddr = some ginfo →
    ginfo.Within mode q.env gaddr

variable {mode : GroupMemProtocol} {q : Querier α} {env env' : Env α} {gaddr : α}
  {ginfo ginfo' : GaddrInfo α}

theorem GaddrInfo.Within.congr (h : ginfo.Within mode env gaddr)
    (hc : ginfo'.compatibility = ginfo.compatibility) (hsub : env.timing ⊆ env'.timing) :
    ginfo'.Within mode env' gaddr := by
  obtain ⟨hversion, htimer⟩ := Prod.mk.inj hc
  refine ⟨hversion ▸ h.family, hversion ▸ h.not_newer, fun hne => ?_⟩
  rw [htimer]
  exact (h.way_back (hversion ▸ hne)).mono hsub

theorem GaddrInfo.within_new (mode : GroupMemProtocol) (env : Env α) (gaddr : α) :
    (GaddrInfo.new mode : GaddrInfo α).Within mode env gaddr :=
  ⟨rfl, decide_eq_true le_rfl, fun hne => absurd rfl hne⟩

theorem Querier.versions_within.group (h : q.versions_within mode)
    (hmode : q.m_db.querier_version_mode = mode) (gaddr : α) :
    (q.group gaddr).Within mode q.env gaddr := by
  unfold Querier.group
  cases hl : OrdMap.lookup q.m_db.group_info gaddr with
  | none => exact hmode ▸ GaddrInfo.within_new _ _ _
  | some ginfo => exact h gaddr ginfo hl

-- Where no timer is taken away, only the record that is written back is to be looked at.
theorem Querier.versions_within.put (h : q.versions_within mode)
    (hsub : q.env.timing ⊆ env.timing) (hg : ginfo.Within mode env gaddr) :
    (q.put gaddr ginfo env).versions_within mode :=
  Querier.forall_put (fun g gi _ hl => (h g gi hl).congr rfl hsub) hg

theorem Querier.versions_within.del (h : q.versions_within mode)
    (hsub : q.env.timing ⊆ env.timing) : (q.del gaddr env).versions_within mode :=
  Querier.forall_del fun g gi _ hl => (h g gi hl).congr rfl hsub

end Within

section Records

variable {cfg : Config} {mode proto : GroupMemProtocol} {q q' : Querier α} {env : Env α}
  {gaddr : α} {ginfo : GaddrInfo α} {gr : GroupRecordMsg α}

theorem note_older_host_within (h : ginfo.Within mode env gaddr)
    (hproto : is_IPv4 proto = is_IPv4 mode) :
    (note_older_host cfg mode proto gaddr ginfo env).1.Within mode
      (note_older_host cfg mode proto gaddr ginfo env).2 gaddr := by
  unfold note_older_host
  split_ifs with hold
  · rw [Bool.and_eq_true] at hold
    exact ⟨hproto, hold.2, fun _ => Env.armed_arm ..⟩
  · exact h

theorem receive_record_within (hmode : q.m_db.querier_version_mode = mode)
    (hproto : is_IPv4 gr.grp_mem_proto = is_IPv4 mode) (h : q.versions_within mode)
    (hstep : receive_record cfg gr q = .ok q') : q'.versions_within mode := by
  obtain ⟨r, hr, hcase⟩ := receive_record_cases hstep
  rw [hmode] at hr
  have hnoted : r.1.Within mode r.2 gr.gaddr := by
    rw [hr]
    exact note_older_host_within (h.group hmode gr.gaddr) hproto
  have hsub : q.env.timing ⊆ r.2.timing := by
    rw [hr]
    exact (note_older_host_extends ..).timing
  rcases hcase with ⟨-, -, rfl⟩ | ⟨-, ⟨r', -, hr', hend⟩ | ⟨r', -, hr', rfl⟩⟩
  · exact h.put hsub hnoted
  · have hrow : r.2.timing ⊆ r'.2.timing := by
      rw [hr']
      exact receive_record_in_include_mode_timing ..
    rcases hend with ⟨-, -, rfl⟩ | ⟨-, rfl⟩
    · exact h.del (List.Subset.trans hsub hrow)
    · refine h.put (List.Subset.trans hsub hrow) (hnoted.congr ?_ hrow)
      rw [hr']
      exact receive_record_in_include_mode_compatibility ..
  · have hrow := receive_record_in_exclude_mode_timing hr'
    exact h.put (List.Subset.trans hsub hrow)
      (hnoted.congr (receive_record_in_exclude_mode_compatibility hr') hrow)

end Records

section Timers

variable {cfg : Config} {mode : GroupMemProtocol} {q q' : Querier α} {gaddr : α}
  {ginfo : GaddrInfo α} {msg : TimerMsg α}

-- The older host timer of a group that is at `mode` already arrives, and `mode` is not the
-- newest version: the group is raised past it.
def raises_past (mode : GroupMemProtocol) (q : Querier α) : Event α → Prop
  | .record _ => False
  | .timer msg _ =>
    is_newest_version mode = false ∧ msg.type = OLDER_HOST_PRESENT_TIMER_MSG ∧
      ∃ ginfo ∈ msg.gaddr.bind (OrdMap.lookup q.m_db.group_info),
        same_object ginfo.older_host_present_timer msg = true ∧
          ginfo.compatibility_mode_variable = mode

instance (mode : GroupMemProtocol) (q : Querier α) (e : Event α) :
    Decidable (raises_past mode q e) :=
  match e with
  | .record _ => inferInstanceAs (Decidable False)
  | .timer _ _ => inferInstanceAs (Decidable (_ ∧ _))

theorem GaddrInfo.Within.deliver (h : ginfo.Within mode q.env gaddr)
    (hne : ginfo.compatibility_mode_variable ≠ mode → ginfo.older_host_present_timer ≠ some msg) :
    ginfo.Within mode (q.deliver msg).env gaddr :=
  ⟨h.family, h.not_newer, fun hold => (h.way_back hold).deliver (hne hold)⟩

theorem Querier.versions_within.deliver_of_type (h : q.versions_within mode)
    (htype : msg.type ≠ OLDER_HOST_PRESENT_TIMER_MSG) : (q.deliver msg).versions_within mode :=
  fun g gi hl => (h g gi hl).deliver fun hold => ((h g gi hl).way_back hold).ne_of_type htype

-- The other timers of a group do not touch its version.
theorem GroupTimerStep.within (hstep : GroupTimerStep cfg gaddr msg ginfo q q')
    (htype : msg.type ≠ OLDER_HOST_PRESENT_TIMER_MSG) (h : q.versions_within mode)
    (hlook : OrdMap.lookup q.m_db.group_info gaddr = some ginfo) : q'.versions_within mode := by
  have hsub (env : Env α) (found : Option (GaddrInfo α)) :
      env.timing ⊆ (env.state_change_notification gaddr found).timing := List.Subset.refl _
  induction hstep with
  | ignored => exact h
  | erased => exact h.del (hsub _ _)
  | sources_deleted _ _ hginfo' | sources_moved _ _ hginfo' | filter_expired _ _ _ _ hginfo' =>
    refine h.put (hsub _ _) ((h gaddr _ hlook).congr ?_ (hsub _ _))
    rw [hginfo']
    rfl
  | shared _ _ hlook₁ _ hfirst hsecond => exact hsecond (hfirst h hlook) hlook₁
  | group_queried _ _ hr =>
    have hext := (send_Q_group_extends hr).timing
    obtain ⟨ft, rt, count, hfst⟩ := send_Q_group_frame hr
    refine h.put hext ((h gaddr _ hlook).congr ?_ hext)
    rw [hfst]
    rfl
  | @sources_queried ginfo q =>
    have hext := (send_Q_extends cfg gaddr ginfo ∅ true q.env).timing
    refine h.put hext ((h gaddr _ hlook).congr ?_ hext)
    simp [GaddrInfo.compatibility]
  | older_host_gone ht => exact absurd ht htype
  | newer_host _ _ ht => exact absurd ht htype

-- The older host timer raises the version by one, and that is too much just at `mode`.
theorem older_host_present_timer_within_iff (h : q.versions_within mode)
    (hgaddr : msg.gaddr = some gaddr)
    (hlook : OrdMap.lookup q.m_db.group_info gaddr = some ginfo) :
    (timer_triggerd_older_host_present_timer cfg gaddr ginfo msg (q.deliver msg)).versions_within
        mode ↔
      ¬ (is_newest_version mode = false ∧ same_object ginfo.older_host_present_timer msg = true ∧
        ginfo.compatibility_mode_variable = mode) := by
  have hg := h gaddr ginfo hlook
  have hothers (g : α) (gi : GaddrInfo α) (hne : g ≠ gaddr)
      (hl : OrdMap.lookup q.m_db.group_info g = some gi) :
      gi.Within mode (q.deliver msg).env g := by
    refine (h g gi hl).deliver fun hold => ((h g gi hl).way_back hold).ne_of_gaddr fun he => ?_
    exact hne (Option.some.inj (he.symm.trans hgaddr))
  unfold timer_triggerd_older_host_present_timer
  split_ifs with hsame hnewest
  · have heq := eq_of_newest hg.family hg.not_newer hnewest
    refine iff_of_true (Querier.forall_put (fun g gi hne hl => ?_) ?_) fun hpast => ?_
    · exact (hothers g gi hne hl).congr rfl (List.Subset.refl _)
    · exact ⟨hg.family, hg.not_newer, fun hne => absurd heq hne⟩
    · rw [heq, hpast.1] at hnewest
      cases hnewest
  · rw [Bool.not_eq_true] at hnewest
    by_cases heq : ginfo.compatibility_mode_variable = mode
    · rw [heq] at hnewest
      refine iff_of_false (fun hwithin => ?_) (not_not.mpr ⟨hnewest, hsame, heq⟩)
      have hpast := (hwithin gaddr _ ((Querier.lookup_put ..).trans (if_pos rfl))).not_newer
      rw [heq, get_next_newer_version_gt hnewest] at hpast
      cases hpast
    · refine iff_of_true (Querier.forall_put (fun g gi hne hl => ?_) ?_) fun hpast => heq hpast.2.2
      · exact (hothers g gi hne hl).congr rfl (Env.arm_extends ..).timing
      · exact ⟨(get_next_newer_version_family hnewest).trans hg.family,
          get_next_newer_version_le hg.family hg.not_newer heq, fun _ => Env.armed_arm ..⟩
  · refine iff_of_true (fun g gi hl => ?_) fun hpast => hsame hpast.2.1
    rcases eq_or_ne g gaddr with rfl | hne
    · obtain rfl := Option.some.inj (hl.symm.trans hlook)
      exact hg.deliver fun _ => ne_of_not_same_object (Bool.eq_false_of_not_eq_true hsame)
    · exact hothers g gi hne hl

theorem GaddrInfo.older_host_of_not_references (h : ginfo.references msg = false) :
    same_object ginfo.older_host_present_timer msg = false := by
  simp only [GaddrInfo.references, Bool.or_eq_false_iff] at h
  exact h.1.1.1.1.2

theorem timer_triggerd_within_iff {unique : Bool} (h : q.versions_within mode)
    (hunique : unique = true → q.m_db.references msg = false)
    (hstep : timer_triggerd cfg unique msg (q.deliver msg) = .ok q') :
    q'.versions_within mode ↔ ¬ raises_past mode q (.timer msg unique) := by
  rcases timer_triggerd_cases hstep with
    ⟨hu, rfl⟩ | ⟨htype, rfl⟩ | ⟨hnone, rfl⟩ | ⟨g, gi, hg, hl, hgroup⟩
  · have hsame (g : α) (gi : GaddrInfo α)
        (hl : OrdMap.lookup q.m_db.group_info g = some gi) :
        same_object gi.older_host_present_timer msg = false :=
      GaddrInfo.older_host_of_not_references
        (MembershipDb.not_references_of_lookup (hunique hu) hl)
    refine iff_of_true (fun g gi hl => ?_) ?_
    · exact (h g gi hl).deliver fun _ => ne_of_not_same_object (hsame g gi hl)
    · rintro ⟨-, -, gi, hgi, hpast, -⟩
      obtain ⟨g, -, hl⟩ := Option.bind_eq_some_iff.mp hgi
      rw [hsame g gi hl] at hpast
      cases hpast
  · have hdel : (q.deliver msg).versions_within mode := h.deliver_of_type (by simp [htype])
    refine iff_of_true ?_ fun hpast => by cases htype.symm.trans hpast.2.1
    unfold timer_triggerd_general_query_timer
    split_ifs
    · exact fun g gi hl => (hdel g gi hl).congr rfl (send_general_query_extends ..).timing
    · exact hdel
  · refine iff_of_true (fun g gi hl => ?_) ?_
    · refine (h g gi hl).deliver fun hold => ((h g gi hl).way_back hold).ne_of_gaddr fun hg => ?_
      cases hl.symm.trans (hnone g hg)
    · rintro ⟨-, -, gi, hgi, -⟩
      obtain ⟨g, hg, hl⟩ := Option.bind_eq_some_iff.mp hgi
      cases hl.symm.trans (hnone g hg)
  · by_cases htype : msg.type = OLDER_HOST_PRESENT_TIMER_MSG
    · simp only [timer_triggerd_group, htype] at hgroup
      obtain rfl := Except.ok.inj hgroup
      rw [older_host_present_timer_within_iff h hg hl]
      simp [raises_past, htype, hg, show OrdMap.lookup q.m_db.group_info g = some gi from hl]
    · refine iff_of_true ?_ fun hpast => htype hpast.2.1
      exact (timer_triggerd_group_step hgroup).within htype (h.deliver_of_type htype) hl

end Timers

section Runs

variable {cfg : Config} {mode : GroupMemProtocol} {q : Querier α}

theorem family_querier_mode (hq : (family_querier α cfg mode).Reachable q) :
    q.m_db.querier_version_mode = mode :=
  hq.invariant (fun q => q.m_db.querier_version_mode = mode) rfl
    fun _ _ _ h _ hstep => (querier_step_role hstep).2.trans h

theorem new_querier_within (cfg : Config) (mode : GroupMemProtocol) :
    (new_querier cfg mode : Querier α).versions_within mode := by
  intro gaddr ginfo h
  cases h

theorem family_querier_step_within_iff {q' : Querier α} {e : Event α}
    (hq : (family_querier α cfg mode).Reachable q) (h : q.versions_within mode)
    (he : (family_querier α cfg mode).enabled q e)
    (hstep : (family_querier α cfg mode).step q e = .ok q') :
    q'.versions_within mode ↔ ¬ raises_past mode q e := by
  cases e with
  | record gr => exact iff_of_true (receive_record_within (family_querier_mode hq) he h hstep) id
  | timer msg unique => exact timer_triggerd_within_iff h he.2 hstep

-- For the newest version of a family no step is excluded.
theorem versions_within_of_newest (hmode : is_newest_version mode = true)
    (hq : (family_querier α cfg mode).Reachable q) : q.versions_within mode := by
  refine hq.invariant_of (family_querier α cfg mode).Reachable _ (fun _ h => h)
    (new_querier_within cfg mode) fun q e q' hq h he hstep => ?_
  rw [family_querier_step_within_iff hq h he hstep]
  cases e with
  | record gr => exact id
  | timer msg unique =>
    rintro ⟨hpast, -⟩
    rw [hmode] at hpast
    cases hpast

-- The versions of all groups stay within `mode` as long as no timer raises one past it.
theorem versions_within_iff {es : List (Event α)} (run : (family_querier α cfg mode).Run es q) :
    (∀ es' q', es' <+: es → (family_querier α cfg mode).Run es' q' → q'.versions_within mode) ↔
      ((family_querier α cfg mode).restrict fun q e => ¬ raises_past mode q e).Run es q := by
  refine run.forall_iff_restrict (new_querier_within cfg mode) ?_
  intro _ q e q' run h he hstep
  exact family_querier_step_within_iff run.reachable h he hstep

-- An IGMPv1 report at an IGMPv2 querier, and the timer that takes it back to IGMPv2.
theorem versions_within_igmpv1_report : ∃ q : Querier Ipv4Addr,
    ((family_querier Ipv4Addr default_config IGMPv2).restrict fun q e =>
      ¬ raises_past IGMPv2 q e).Run
        [.record ⟨MODE_IS_EXCLUDE, 7, sources [], IGMPv1⟩,
          .timer ⟨1, OLDER_HOST_PRESENT_TIMER_MSG, some 7, 260000000002, false⟩ false] q ∧
      (OrdMap.lookup q.m_db.group_info 7).map GaddrInfo.compatibility_mode_variable =
        some IGMPv2 ∧
      ∀ es' q', es' <+: [.record ⟨MODE_IS_EXCLUDE, 7, sources [], IGMPv1⟩,
          .timer ⟨1, OLDER_HOST_PRESENT_TIMER_MSG, some 7, 260000000002, false⟩ false] →
        (family_querier Ipv4Addr default_config IGMPv2).Run es' q' →
          q'.versions_within IGMPv2 := by
  obtain ⟨q, run, hq⟩ := Machine.exists_run_of_exec
    ((family_querier Ipv4Addr default_config IGMPv2).restrict fun q e => ¬ raises_past IGMPv2 q e)
    [.record ⟨MODE_IS_EXCLUDE, 7, sources [], IGMPv1⟩,
      .timer ⟨1, OLDER_HOST_PRESENT_TIMER_MSG, some 7, 260000000002, false⟩ false]
    (fun q => (OrdMap.lookup q.m_db.group_info 7).map GaddrInfo.compatibility_mode_variable =
      some IGMPv2) rfl
  exact ⟨q, run, of_decide_eq_true hq, (versions_within_iff run.of_restrict).mpr run⟩

-- An IGMPv2 querier that hears an IGMPv2 report speaks IGMPv3 when the report is forgotten.
theorem igmpv2_report_raises_to_igmpv3 : ∃ q : Querier Ipv4Addr,
    (family_querier Ipv4Addr default_config IGMPv2).Run
        [.record ⟨MODE_IS_EXCLUDE, 7, sources [], IGMPv2⟩,
          .timer ⟨1, OLDER_HOST_PRESENT_TIMER_MSG, some 7, 260000000002, false⟩ false] q ∧
      (OrdMap.lookup q.m_db.group_info 7).map GaddrInfo.compatibility_mode_variable =
        some IGMPv3 := by
  obtain ⟨q, run, hq⟩ := Machine.exists_run_of_exec
    (family_querier Ipv4Addr default_config IGMPv2)
    [.record ⟨MODE_IS_EXCLUDE, 7, sources [], IGMPv2⟩,
      .timer ⟨1, OLDER_HOST_PRESENT_TIMER_MSG, some 7, 260000000002, false⟩ false]
    (fun q => (OrdMap.lookup q.m_db.group_info 7).map GaddrInfo.compatibility_mode_variable =
      some IGMPv3) rfl
  exact ⟨q, run, of_decide_eq_true hq⟩

end Runs

end Mcproxy
