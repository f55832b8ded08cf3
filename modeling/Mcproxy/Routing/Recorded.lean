import Mcproxy.Routing.Database

namespace Mcproxy

open Container Transition RbRuleMatchingType

variable {α : Type*} [LinearOrder α]

section Records

-- What the database holds of a source: nothing, or its entry and the interface, which one of the
-- timers carries.
inductive Recorded (timers : List (NewSourceTimerMsg α)) (gaddr saddr : α) :
    Option (Source α) → Option ℕ → Prop
  | absent : Recorded timers gaddr saddr none none
  | present (s : Source α) (tm : NewSourceTimerMsg α) (hmem : tm ∈ timers)
      (htimer : s.shared_source_timer = some tm.timer_msg) (hgaddr : tm.m_gaddr = gaddr)
      (hsaddr : tm.m_saddr = saddr) : Recorded timers gaddr saddr (some s) (some tm.m_if_index)

def Matched (timers : List (NewSourceTimerMsg α)) (gaddr : α) (value : SrDataValue α) : Prop :=
  ∀ saddr, Recorded timers gaddr saddr (value.m_source_list.find saddr)
    (OrdMap.lookup value.m_if_map saddr)

-- All groups are matched, and those that `ok` tells of are not empty.
def DataOk (timers : List (NewSourceTimerMsg α)) (ok : α → Prop) (d : SimpleRoutingData α) :
    Prop :=
  ∀ gaddr value, OrdMap.lookup d.m_data gaddr = some value →
    Matched timers gaddr value ∧ (ok gaddr → value.m_source_list.isEmpty = false)

variable {timers timers' : List (NewSourceTimerMsg α)} {gaddr saddr : α} {value : SrDataValue α}
  {d : SimpleRoutingData α} {ok : α → Prop}

omit [LinearOrder α] in
theorem Recorded.mono (hsub : timers ⊆ timers') {s : Option (Source α)} {i : Option ℕ}
    (h : Recorded timers gaddr saddr s i) : Recorded timers' gaddr saddr s i := by
  cases h with
  | absent => exact .absent
  | present s tm hmem htimer hgaddr hsaddr =>
    exact .present s tm (hsub hmem) htimer hgaddr hsaddr

theorem DataOk.mono (h : DataOk timers ok d) (hsub : timers ⊆ timers') : DataOk timers' ok d :=
  fun gaddr value hvalue =>
    ⟨fun saddr => ((h gaddr value hvalue).1 saddr).mono hsub, (h gaddr value hvalue).2⟩

-- The two containers of a group have the same addresses.
theorem Matched.mem_iff (h : Matched timers gaddr value) (saddr : α) :
    saddr ∈ value.m_source_list ↔ saddr ∈ value.m_if_map := by
  have hrec := h saddr
  rw [← not_iff_not, ← OrdSet.find_eq_none_iff, ← OrdMap.lookup_eq_none_iff]
  generalize value.m_source_list.find saddr = s at hrec ⊢
  generalize OrdMap.lookup value.m_if_map saddr = i at hrec ⊢
  cases hrec with
  | absent => simp
  | present => simp

theorem Matched.erase (h : Matched timers gaddr value) (saddr : α) :
    Matched timers gaddr ⟨value.m_source_list.erase saddr, value.m_if_map.erase saddr⟩ := by
  intro a
  simp only [OrdSet.find_erase, OrdMap.lookup_erase]
  split_ifs with ha
  · exact .absent
  · exact h a

-- An entry is rewritten and keeps its timer, or gets one that says the same.
theorem Matched.modify (h : Matched timers gaddr value) (saddr : α) (f : Source α → Source α)
    (hf : ∀ s, (f s).saddr = s.saddr)
    (hkeep : ∀ s i, OrdMap.lookup value.m_if_map saddr = some i →
      Recorded timers gaddr saddr (some s) (some i) →
        Recorded timers gaddr saddr (some (f s)) (some i)) :
    Matched timers gaddr
      { value with m_source_list := value.m_source_list.modify f hf saddr } := by
  intro a
  have hrec := h a
  simp only [OrdSet.find_modify]
  split_ifs with ha
  · subst ha
    generalize value.m_source_list.find a = s at hrec ⊢
    generalize OrdMap.lookup value.m_if_map a = i at hrec hkeep ⊢
    cases hrec with
    | absent => exact .absent
    | present s tm hmem htimer hgaddr hsaddr =>
      exact hkeep s _ rfl (.present s tm hmem htimer hgaddr hsaddr)
  · exact hrec

theorem DataOk.put (h : DataOk timers ok d) (hvalue : Matched timers gaddr value)
    (hne : ok gaddr → value.m_source_list.isEmpty = false) :
    DataOk timers ok (d.put gaddr value) := by
  intro g v hv
  rw [SimpleRoutingData.put, OrdMap.lookup_assign] at hv
  split_ifs at hv with hg
  · obtain rfl := Option.some.inj hv
    exact hg ▸ ⟨hvalue, hne⟩
  · exact h g v hv

-- A source is entered under a timer, in place of what was known of it.
theorem Matched.record {tm : NewSourceTimerMsg α} (h : Matched timers tm.m_gaddr value)
    (htm : tm ∈ timers) {s : Source α} (htimer : s.shared_source_timer = some tm.timer_msg)
    {m_source_list : SourceList α} {m_if_map : OrdMap α ℕ}
    (hlist : ∀ a, m_source_list.find a =
      if a = tm.m_saddr then some s else value.m_source_list.find a)
    (hmap : ∀ a, OrdMap.lookup m_if_map a =
      if a = tm.m_saddr then some tm.m_if_index else OrdMap.lookup value.m_if_map a) :
    Matched timers tm.m_gaddr ⟨m_source_list, m_if_map⟩ ∧ m_source_list.isEmpty = false := by
  constructor
  · intro a
    rw [hlist, hmap]
    split_ifs with ha
    · exact .present s tm htm htimer rfl ha.symm
    · exact h a
  · have hfind := hlist tm.m_saddr
    rw [if_pos rfl] at hfind
    exact OrdSet.isEmpty_eq_false_iff.mpr ⟨_, OrdSet.mem_of_find hfind⟩

theorem DataOk.set_source (h : DataOk timers (fun _ => True) d) {tm : NewSourceTimerMsg α}
    (htm : tm ∈ timers) (mroute_stats : MrouteStats α) :
    DataOk timers (fun _ => True) (d.set_source mroute_stats tm.m_if_index tm.m_gaddr
      { saddr := tm.m_saddr, shared_source_timer := some tm.timer_msg }) := by
  unfold SimpleRoutingData.set_source
  cases hvalue : OrdMap.lookup d.m_data tm.m_gaddr with
  | none =>
    intro g v hv
    rw [OrdMap.lookup_insert (OrdMap.lookup_eq_none_iff.mp hvalue)] at hv
    split_ifs at hv with hg
    · obtain rfl := Option.some.inj hv
      subst hg
      have hempty : Matched timers tm.m_gaddr ⟨∅, ∅⟩ := fun _ => .absent
      exact (hempty.record htm rfl (OrdSet.find_insert_of_notMem (OrdSet.notMem_empty _))
        fun a => OrdMap.lookup_insert (OrdSet.notMem_empty _) a _).imp_right fun hne _ => hne
    · exact h g v hv
  | some value =>
    obtain ⟨hvalue, -⟩ := h _ _ hvalue
    by_cases hmem : tm.m_saddr ∈ value.m_source_list
    · simp only [if_pos hmem, if_pos ((hvalue.mem_iff _).mp hmem)]
      obtain ⟨hmatched, hne⟩ := hvalue.record htm rfl
        (OrdSet.find_insert_erase value.m_source_list (⟨tm.m_saddr, some tm.timer_msg, _⟩))
        fun a => OrdMap.lookup_assign value.m_if_map tm.m_saddr a tm.m_if_index
      exact h.put hmatched fun _ => hne
    · simp only [if_neg hmem, if_neg (mt (hvalue.mem_iff _).mpr hmem)]
      have hlist := OrdSet.find_insert_of_notMem
        (x := (⟨tm.m_saddr, some tm.timer_msg, -1⟩ : Source α)) hmem
      obtain ⟨hmatched, hne⟩ := hvalue.record htm rfl hlist
        fun a => OrdMap.lookup_insert (mt (hvalue.mem_iff _).mpr hmem) a tm.m_if_index
      exact h.put hmatched fun _ => hne

-- The group may have been emptied by an erasure before.
theorem DataOk.del_source (h : DataOk timers (· ≠ gaddr) d) (saddr : α) :
    DataOk timers (fun _ => True) (d.del_source gaddr saddr) := by
  have hothers : ∀ g v, g ≠ gaddr → OrdMap.lookup d.m_data g = some v →
      Matched timers g v ∧ (True → v.m_source_list.isEmpty = false) :=
    fun g v hg hv => (h g v hv).imp_right fun hne _ => hne hg
  unfold SimpleRoutingData.del_source
  cases hvalue : OrdMap.lookup d.m_data gaddr with
  | none =>
    intro g v hv
    refine hothers g v ?_ hv
    rintro rfl
    simp [hvalue] at hv
  | some value =>
    intro g v hv
    dsimp only at hv
    split_ifs at hv with hempty
    · rw [OrdMap.lookup_erase] at hv
      split_ifs at hv with hg
      exact hothers g v hg hv
    · rw [SimpleRoutingData.put, OrdMap.lookup_assign] at hv
      split_ifs at hv with hg
      · obtain rfl := Option.some.inj hv
        subst hg
        exact ⟨(h g value hvalue).1.erase saddr, fun _ => Bool.eq_false_iff.mpr hempty⟩
      · exact hothers g v hg hv

-- A source of the database gets another counter, or a new timer for the same interface.
theorem DataOk.modify (h : DataOk timers (fun _ => True) d)
    (hvalue : OrdMap.lookup d.m_data gaddr = some value) (saddr : α) (f : Source α → Source α)
    (hf : ∀ s, (f s).saddr = s.saddr)
    (hkeep : ∀ s i, OrdMap.lookup value.m_if_map saddr = some i →
      Recorded timers gaddr saddr (some s) (some i) →
        Recorded timers gaddr saddr (some (f s)) (some i)) :
    DataOk timers (fun _ => True) (d.put gaddr
      { value with m_source_list := value.m_source_list.modify f hf saddr }) := by
  obtain ⟨hmatched, hne⟩ := h gaddr value hvalue
  refine h.put (hmatched.modify saddr f hf hkeep) fun _ => ?_
  obtain ⟨a, ha⟩ := OrdSet.isEmpty_eq_false_iff.mp (hne trivial)
  refine OrdSet.isEmpty_eq_false_iff.mpr ⟨a, OrdSet.isSome_find.mp ?_⟩
  rw [OrdSet.find_modify]
  split_ifs
  · rw [Option.isSome_map]
    exact OrdSet.isSome_find.mpr ha
  · exact OrdSet.isSome_find.mpr ha

theorem DataOk.refresh (h : DataOk timers (fun _ => True) d) (mroute_stats : MrouteStats α)
    (gaddr saddr : α) : DataOk timers (fun _ => True)
      (d.refresh_source_or_del_it_if_unused mroute_stats gaddr saddr).1 := by
  have hweak : DataOk timers (· ≠ gaddr) d :=
    fun g v hv => (h g v hv).imp_right fun hne _ => hne trivial
  unfold SimpleRoutingData.refresh_source_or_del_it_if_unused
  cases hvalue : OrdMap.lookup d.m_data gaddr with
  | none => exact h
  | some value =>
    cases hfind : value.m_source_list.find saddr with
    | none =>
      simp only [hfind]
      exact hweak.del_source saddr
    | some s =>
      simp only [hfind]
      split_ifs
      · have herase := (h gaddr value hvalue).1.erase saddr
        exact DataOk.del_source (hweak.put herase fun hg => absurd rfl hg) saddr
      · refine h.modify hvalue saddr _ _ fun s i _ hrec => ?_
        cases hrec with
        | present _ tm hmem htimer hgaddr hsaddr =>
          exact .present _ tm hmem htimer hgaddr hsaddr

theorem get_interface_map_put (d : SimpleRoutingData α) (gaddr : α) (value : SrDataValue α) :
    (d.put gaddr value).get_interface_map gaddr = value.m_if_map := by
  rw [SimpleRoutingData.get_interface_map, SimpleRoutingData.put, OrdMap.lookup_assign, if_pos rfl]

-- A refresh changes a counter only.
theorem get_interface_map_refreshed {mroute_stats : MrouteStats α} {d' : SimpleRoutingData α}
    (h : d.refresh_source_or_del_it_if_unused mroute_stats gaddr saddr = (d', true)) :
    d'.get_interface_map gaddr = d.get_interface_map gaddr := by
  unfold SimpleRoutingData.refresh_source_or_del_it_if_unused at h
  cases hvalue : OrdMap.lookup d.m_data gaddr with
  | none => simp [hvalue] at h
  | some value =>
    cases hfind : value.m_source_list.find saddr with
    | none => simp [hvalue, hfind] at h
    | some s =>
      simp only [hvalue, hfind] at h
      split_ifs at h
      · simp at h
      · rw [← (Prod.mk.inj h).1, get_interface_map_put, SimpleRoutingData.get_interface_map, hvalue]

theorem DataOk.set_shared_source_timer (h : DataOk timers (fun _ => True) d)
    {tm : NewSourceTimerMsg α} (htm : tm ∈ timers)
    (hinterface : OrdMap.lookup (d.get_interface_map tm.m_gaddr) tm.m_saddr =
      some tm.m_if_index) :
    DataOk timers (fun _ => True)
      (d.set_shared_source_timer tm.m_gaddr tm.m_saddr tm.timer_msg) := by
  unfold SimpleRoutingData.set_shared_source_timer
  cases hvalue : OrdMap.lookup d.m_data tm.m_gaddr with
  | none => exact h
  | some value =>
    rw [SimpleRoutingData.get_interface_map, hvalue] at hinterface
    refine h.modify hvalue tm.m_saddr _ _ fun s i hi _ => ?_
    obtain rfl := Option.some.inj (hinterface.symm.trans hi)
    exact .present _ tm htm rfl rfl rfl

-- The timer objects are told apart by their identity, so the timer of a source that arrives names
-- the interface the source is recorded on.
theorem DataOk.interface_of_current (h : DataOk timers ok d)
    (hdistinct : ∀ tm ∈ timers, ∀ tm' ∈ timers, tm.id = tm'.id → tm = tm')
    {tm : NewSourceTimerMsg α} (htm : tm ∈ timers) (hcurrent : is_current d tm = true) :
    OrdMap.lookup (d.get_interface_map tm.m_gaddr) tm.m_saddr = some tm.m_if_index := by
  rw [is_current, SimpleRoutingData.get_available_sources] at hcurrent
  rw [SimpleRoutingData.get_interface_map]
  cases hvalue : OrdMap.lookup d.m_data tm.m_gaddr with
  | none => simp [hvalue] at hcurrent
  | some value =>
    have hrec := (h _ value hvalue).1 tm.m_saddr
    simp only [hvalue] at hcurrent ⊢
    generalize value.m_source_list.find tm.m_saddr = s at hrec hcurrent
    generalize OrdMap.lookup value.m_if_map tm.m_saddr = i at hrec ⊢
    cases hrec with
    | absent => simp at hcurrent
    | present s tm' hmem htimer hgaddr hsaddr =>
      have hid : tm'.id = tm.id := by
        simpa [same_object, htimer, NewSourceTimerMsg.timer_msg] using hcurrent
      rw [hdistinct tm' hmem tm htm hid]

end Records

section Routes

variable {get_if_name : ℕ → String} {get_virtual_if_index : ℕ → ℤ} {r : SimpleMcProxyRouting α}
  {timers : List (NewSourceTimerMsg α)} {d : SimpleRoutingData α} {gaddr : α}

-- The input interface of each source in the list is known.
def InterfacesKnown (d : SimpleRoutingData α) (gaddr : α) (slist : SourceList α) : Prop :=
  ∀ s ∈ slist.elems, (OrdMap.lookup (d.get_interface_map gaddr) s.saddr).isSome = true

theorem interfacesKnown_set_source (mroute_stats : MrouteStats α) (d : SimpleRoutingData α)
    (if_index : ℕ) (gaddr : α) (s : Source α) :
    InterfacesKnown (d.set_source mroute_stats if_index gaddr s) gaddr
      ((∅ : SourceList α).insert { saddr := s.saddr }) := by
  intro s' hs'
  obtain rfl : s' = { saddr := s.saddr } := List.mem_singleton.mp hs'
  suffices hmem : s.saddr ∈ (d.set_source mroute_stats if_index gaddr s).get_interface_map gaddr by
    rw [Option.isSome_iff_ne_none, Ne, OrdMap.lookup_eq_none_iff, not_not]
    exact hmem
  unfold SimpleRoutingData.set_source
  cases hvalue : OrdMap.lookup d.m_data gaddr with
  | none =>
    rw [SimpleRoutingData.get_interface_map,
      OrdMap.lookup_insert (OrdMap.lookup_eq_none_iff.mp hvalue), if_pos rfl]
    exact (OrdSet.mem_insert ..).mpr (Or.inr rfl)
  | some value =>
    simp only [get_interface_map_put]
    split_ifs with hmem
    · exact (OrdSet.mem_insert ..).mpr (Or.inr rfl)
    · exact (OrdSet.mem_insert ..).mpr (Or.inr rfl)

theorem DataOk.interfacesKnown (h : DataOk timers (fun _ => True) d) {slist : SourceList α}
    (hslist : ∀ a, a ∈ slist → a ∈ d.get_available_sources gaddr) :
    InterfacesKnown d gaddr slist := by
  intro s hs
  have hmem := hslist s.saddr (List.mem_map_of_mem hs)
  rw [SimpleRoutingData.get_available_sources] at hmem
  rw [SimpleRoutingData.get_interface_map, Option.isSome_iff_ne_none, Ne,
    OrdMap.lookup_eq_none_iff, not_not]
  cases hvalue : OrdMap.lookup d.m_data gaddr with
  | none =>
    rw [hvalue] at hmem
    exact absurd hmem (OrdSet.notMem_empty _)
  | some value =>
    rw [hvalue] at hmem
    exact ((h gaddr value hvalue).1.mem_iff s.saddr).mp hmem

-- Then no branch for an unknown one is taken.
theorem InterfacesKnown.no_error {slist : SourceList α} (h : InterfacesKnown r.m_data gaddr slist)
    (a : α) : RoutingCall.input_interface_not_found a ∉
      calculate_routes get_if_name get_virtual_if_index r gaddr slist := by
  intro hmem
  rcases List.mem_append.mp hmem with hlog | hset
  · have hnone : (slist.elems.find? fun s =>
        (OrdMap.lookup (r.m_data.get_interface_map gaddr) s.saddr).isNone) = none := by
      refine List.find?_eq_none.mpr fun s hs => ?_
      rw [Option.isNone_iff_eq_none, ← Ne, ← Option.isSome_iff_ne_none]
      exact h s hs
    rw [collect_log, hnone] at hlog
    exact absurd hlog List.not_mem_nil
  · obtain ⟨e, he, hcall⟩ := List.mem_flatMap.mp hset
    obtain ⟨i, hi, -⟩ := mem_collect_interested_interfaces get_if_name r gaddr he
    simp only [set_route, hi] at hcall
    split_ifs at hcall <;> simp at hcall

end Routes

section Invariant

variable {clk : SteadyClock} {get_if_name : ℕ → String} {get_virtual_if_index : ℕ → ℤ}

-- Every timer object is one of a kind.
structure TimersOk (env : RoutingEnv α) : Prop where
  fresh : ∀ tm ∈ env.timers, tm.id < env.next_id
  distinct : ∀ tm ∈ env.timers, ∀ tm' ∈ env.timers, tm.id = tm'.id → tm = tm'

theorem timers_set_source_timer (r : SimpleMcProxyRouting α) (if_index : ℕ) (gaddr saddr : α)
    (env : RoutingEnv α) :
    (set_source_timer clk r if_index gaddr saddr env).2.timers =
      env.timers ++ [(set_source_timer clk r if_index gaddr saddr env).1] := by
  simp [RoutingEnv.timers, set_source_timer]

theorem TimersOk.set_source_timer {env : RoutingEnv α} (h : TimersOk env)
    (r : SimpleMcProxyRouting α) (if_index : ℕ) (gaddr saddr : α) :
    TimersOk (set_source_timer clk r if_index gaddr saddr env).2 := by
  have hold : ∀ tm ∈ env.timers,
      tm.id ≠ (Mcproxy.set_source_timer clk r if_index gaddr saddr env).1.id :=
    fun tm htm => (h.fresh tm htm).ne
  refine ⟨?_, ?_⟩
  · rw [timers_set_source_timer]
    intro tm htm
    rcases List.mem_append.mp htm with htm | htm
    · exact (h.fresh tm htm).trans (Nat.lt_succ_self _)
    · rw [List.mem_singleton.mp htm]
      exact Nat.lt_succ_self _
  · rw [timers_set_source_timer]
    intro tm htm tm' htm' hid
    rcases List.mem_append.mp htm with htm | htm <;>
      rcases List.mem_append.mp htm' with htm' | htm'
    · exact h.distinct tm htm tm' htm' hid
    · exact absurd (List.mem_singleton.mp htm' ▸ hid) (hold tm htm)
    · exact absurd (List.mem_singleton.mp htm ▸ hid.symm) (hold tm' htm')
    · exact (List.mem_singleton.mp htm).trans (List.mem_singleton.mp htm').symm

structure RoutingInv (s : RoutingState α) : Prop where
  data : DataOk s.env.timers (fun _ => True) s.m_data
  timers : TimersOk s.env
  no_error : ∀ a, RoutingCall.input_interface_not_found a ∉ s.env.calls

theorem RoutingInv.call {s : RoutingState α} (h : RoutingInv s) {calls : List (RoutingCall α)}
    (hcalls : ∀ a, RoutingCall.input_interface_not_found a ∉ calls) :
    RoutingInv ⟨s.m_data, s.env.call calls⟩ :=
  ⟨h.data, ⟨h.timers.fresh, h.timers.distinct⟩,
    fun a ha => (List.mem_append.mp ha).elim (h.no_error a) (hcalls a)⟩

theorem no_error_of_records (records : List (SentRecord α)) (a : α) :
    RoutingCall.input_interface_not_found a ∉ records.map RoutingCall.send_record := by
  simp

-- A new timer, and a database that is right with it.
theorem RoutingInv.set_source_timer {s : RoutingState α} (h : RoutingInv s)
    (r : SimpleMcProxyRouting α) (if_index : ℕ) (gaddr saddr : α) {d : SimpleRoutingData α}
    (hd : ∀ timers, s.env.timers ⊆ timers →
      (set_source_timer clk r if_index gaddr saddr s.env).1 ∈ timers →
        DataOk timers (fun _ => True) d) :
    RoutingInv ⟨d, (set_source_timer clk r if_index gaddr saddr s.env).2⟩ := by
  refine ⟨hd _ ?_ ?_, h.timers.set_source_timer r if_index gaddr saddr, h.no_error⟩
  · rw [timers_set_source_timer]
    exact List.subset_append_left _ _
  · rw [timers_set_source_timer]
    exact List.mem_append_right _ (List.mem_singleton_self _)

theorem RoutingInv.step {s s' : RoutingState α} {input : RoutingInput α} (h : RoutingInv s)
    (henabled : (routing α clk get_if_name get_virtual_if_index).enabled s input)
    (hstep : RoutingStep clk get_if_name get_virtual_if_index s input s') : RoutingInv s' := by
  cases hstep with
  | new_source if_index gaddr saddr records hevent nst hnst d hd =>
    have hknown : InterfacesKnown d gaddr ((∅ : SourceList α).insert { saddr := saddr }) := by
      rw [hd]
      exact interfacesKnown_set_source input.mroute_stats s.m_data if_index gaddr _
    refine RoutingInv.call (RoutingInv.call (s := ⟨_, _⟩) ?_ hknown.no_error)
      (no_error_of_records records)
    subst hnst hd
    refine h.set_source_timer _ if_index gaddr saddr fun timers hsub htm => ?_
    exact (h.data.mono hsub).set_source htm input.mroute_stats
  | state_change if_index gaddr records hevent =>
    refine (h.call ?_).call (no_error_of_records records)
    exact (h.data.interfacesKnown fun _ ha => ha).no_error
  | outdated tm unique hevent hold => exact h
  | deleted tm records hevent hcurrent d hd =>
    have hdata := h.data.refresh input.mroute_stats tm.m_gaddr tm.m_saddr
    rw [hd] at hdata
    have hdel : RoutingInv ⟨d, s.env⟩ := ⟨hdata, h.timers, h.no_error⟩
    exact (hdel.call (by simp)).call (no_error_of_records records)
  | refreshed tm hevent hcurrent d hd nst hnst =>
    subst hnst
    have htm : tm ∈ s.env.timers := by simpa [routing, hevent] using henabled
    have hinterface := h.data.interface_of_current h.timers.distinct htm hcurrent
    rw [← get_interface_map_refreshed hd] at hinterface
    refine h.set_source_timer _ tm.m_if_index tm.m_gaddr tm.m_saddr fun timers hsub hnew => ?_
    have hdata := (h.data.mono hsub).refresh input.mroute_stats tm.m_gaddr tm.m_saddr
    rw [hd] at hdata
    exact hdata.set_shared_source_timer hnew hinterface

theorem routing_inv {s : RoutingState α}
    (hs : (routing α clk get_if_name get_virtual_if_index).Reachable s) : RoutingInv s := by
  refine Machine.Reachable.invariant RoutingInv ⟨?_, ⟨?_, ?_⟩, ?_⟩ ?_ hs
  · intro g v hv
    simp [routing] at hv
  · exact List.forall_mem_nil _
  · exact List.forall_mem_nil _
  · exact fun _ => List.not_mem_nil
  · intro s input s' h henabled hstep
    obtain ⟨t, ht, hcases⟩ := routing_step_cases clk get_if_name get_virtual_if_index s input
    obtain rfl := Except.ok.inj (ht.symm.trans hstep)
    exact h.step henabled hcases

-- What the routing can rely on between two events.
structure DatabaseSound (get_if_name : ℕ → String) (s : RoutingState α) : Prop where
  same_addresses : ∀ gaddr value, OrdMap.lookup s.m_data.m_data gaddr = some value →
    value.m_source_list.keys = value.m_if_map.keys
  not_empty : ∀ gaddr value, OrdMap.lookup s.m_data.m_data gaddr = some value →
    value.m_source_list.isEmpty = false
  -- the timer object of a source
  timer : ∀ gaddr value, OrdMap.lookup s.m_data.m_data gaddr = some value →
    ∀ src ∈ value.m_source_list.elems, ∃ tm ∈ s.env.timers,
      src.shared_source_timer = some tm.timer_msg ∧
        (∀ tm' ∈ s.env.timers, tm'.id = tm.id → tm' = tm) ∧
        tm.m_gaddr = gaddr ∧ tm.m_saddr = src.saddr ∧
        OrdMap.lookup value.m_if_map src.saddr = some tm.m_if_index
  no_error : ∀ saddr, RoutingCall.input_interface_not_found saddr ∉ s.env.calls
  -- whatever the instance is, a list of recorded sources gets one entry for each of them
  one_entry : ∀ (m_p : ProxyInstanceState α) (gaddr : α) (slist : SourceList α),
    (∀ saddr, saddr ∈ slist → saddr ∈ s.m_data.get_available_sources gaddr) →
      (collect_interested_interfaces get_if_name ⟨m_p, s.m_data⟩ gaddr slist).map Prod.fst =
          slist.elems ∧
        ∀ e ∈ collect_interested_interfaces get_if_name ⟨m_p, s.m_data⟩ gaddr slist,
          ∃ i, OrdMap.lookup (s.m_data.get_interface_map gaddr) e.1.saddr = some i

theorem database_sound_of_reachable {s : RoutingState α}
    (hs : (routing α clk get_if_name get_virtual_if_index).Reachable s) :
    DatabaseSound get_if_name s := by
  have h := routing_inv hs
  refine ⟨?_, ?_, ?_, h.no_error, ?_⟩
  · intro gaddr value hvalue
    exact OrdSet.keys_eq_of_mem_iff (h.data gaddr value hvalue).1.mem_iff
  · intro gaddr value hvalue
    exact (h.data gaddr value hvalue).2 trivial
  · intro gaddr value hvalue src hsrc
    have hrec := (h.data gaddr value hvalue).1 src.saddr
    rw [OrdSet.find_eq_some_iff.mpr ⟨hsrc, rfl⟩] at hrec
    generalize OrdMap.lookup value.m_if_map src.saddr = i at hrec ⊢
    cases hrec with
    | present _ tm hmem htimer hgaddr hsaddr =>
      exact ⟨tm, hmem, htimer, fun tm' htm' hid => h.timers.distinct tm' htm' tm hmem hid,
        hgaddr, hsaddr, rfl⟩
  · intro m_p gaddr slist hslist
    obtain ⟨hfst, hentries⟩ := collect_interested_interfaces_of_recorded get_if_name
      ⟨m_p, s.m_data⟩ gaddr (h.data.interfacesKnown hslist)
    exact ⟨hfst, fun e he => (hentries e he).imp fun i hi => hi.1⟩

-- For closed runs: an instance with the upstreams 10 and 11 and the downstream 1, and the timers
-- of source 3 of group 7, which the instance arms one after the other.
def two_upstreams_state (rule : RuleBinding) : ProxyInstanceState Ipv4Addr :=
  { m_upstreams := OrdSet.insertAll ∅ [⟨10, {}, 0⟩, ⟨11, {}, 1⟩]
    m_downstreams := OrdSet.insertAll ∅ [(1, ⟨new_querier default_config .IGMPv3, {}⟩)]
    m_upstream_input_rule := some rule }

def first_rule_state : ProxyInstanceState Ipv4Addr :=
  two_upstreams_state (.rule_matching .IT_UPSTREAM "*" .ID_IN RMT_FIRST 0)

def source_timer (id if_index : ℕ) (gaddr saddr : Ipv4Addr) (readings : ℕ) :
    NewSourceTimerMsg Ipv4Addr :=
  ⟨id, if_index, gaddr, saddr, readings + 20000000000⟩

-- The source moves from 10 to 11, its old timer arrives and then the new one, after more packets.
theorem database_sound_after_move : ∃ s : RoutingState Ipv4Addr,
    (routing Ipv4Addr ticking example_a_names (fun i => i)).Reachable s ∧
      (s.m_data.get_interface_map 7).elems = [(3, 11)] ∧ s.env.timers.length = 3 ∧
      DatabaseSound example_a_names s := by
  obtain ⟨s, run, hs⟩ := Machine.exists_run_of_exec
    (routing Ipv4Addr ticking example_a_names (fun i => i))
    [⟨first_rule_state, fun _ _ => none, .event_new_source 10 7 3⟩,
      ⟨first_rule_state, fun _ _ => some 4, .event_new_source 11 7 3⟩,
      ⟨first_rule_state, fun _ _ => some 4,
        .timer_triggerd_maintain_routing_table (source_timer 0 10 7 3 0) false⟩,
      ⟨first_rule_state, fun _ _ => some 5,
        .timer_triggerd_maintain_routing_table (source_timer 1 11 7 3 2) false⟩]
    (fun s => (s.m_data.get_interface_map 7).elems = [(3, 11)] ∧ s.env.timers.length = 3) rfl
  rw [decide_eq_true_eq] at hs
  exact ⟨s, run.reachable, hs.1, hs.2, database_sound_of_reachable run.reachable⟩

end Invariant

end Mcproxy
