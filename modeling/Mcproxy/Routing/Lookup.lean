import Mcproxy.Routing.Recorded

namespace Mcproxy

open Container Transition

variable {α : Type*} [LinearOrder α]

namespace SimpleRoutingData

-- The entry of a source, and the interface it is received on.
def source (d : SimpleRoutingData α) (gaddr saddr : α) : Option (Source α) :=
  (d.get_available_sources gaddr).find saddr

def interface (d : SimpleRoutingData α) (gaddr saddr : α) : Option ℕ :=
  OrdMap.lookup (d.get_interface_map gaddr) saddr

variable {d d' : SimpleRoutingData α} {gaddr saddr : α} {value : SrDataValue α}

theorem source_of_lookup (h : OrdMap.lookup d.m_data gaddr = some value) (saddr : α) :
    d.source gaddr saddr = value.m_source_list.find saddr := by
  rw [source, get_available_sources, h]

theorem source_of_none (h : OrdMap.lookup d.m_data gaddr = none) (saddr : α) :
    d.source gaddr saddr = none := by
  rw [source, get_available_sources, h]
  exact OrdSet.find_eq_none_iff.mpr (OrdSet.notMem_empty saddr)

theorem interface_of_lookup (h : OrdMap.lookup d.m_data gaddr = some value) (saddr : α) :
    d.interface gaddr saddr = OrdMap.lookup value.m_if_map saddr := by
  rw [interface, get_interface_map, h]

theorem interface_of_none (h : OrdMap.lookup d.m_data gaddr = none) (saddr : α) :
    d.interface gaddr saddr = none := by
  rw [interface, get_interface_map, h]
  exact OrdMap.lookup_eq_none_iff.mpr (OrdSet.notMem_empty saddr)

-- Two databases with the same value for a group have the same sources in it.
theorem source_congr (h : OrdMap.lookup d'.m_data gaddr = OrdMap.lookup d.m_data gaddr)
    (saddr : α) : d'.source gaddr saddr = d.source gaddr saddr := by
  rw [source, source, get_available_sources, get_available_sources, h]

theorem interface_congr (h : OrdMap.lookup d'.m_data gaddr = OrdMap.lookup d.m_data gaddr)
    (saddr : α) : d'.interface gaddr saddr = d.interface gaddr saddr := by
  rw [interface, interface, get_interface_map, get_interface_map, h]

theorem lookup_put (d : SimpleRoutingData α) (gaddr g : α) (value : SrDataValue α) :
    OrdMap.lookup (d.put gaddr value).m_data g =
      if g = gaddr then some value else OrdMap.lookup d.m_data g :=
  OrdMap.lookup_assign ..

end SimpleRoutingData

section Recorded

variable {timers : List (NewSourceTimerMsg α)} {ok : α → Prop} {d : SimpleRoutingData α}

-- What is known of a source in a database that is right.
theorem DataOk.recorded (h : DataOk timers ok d) (gaddr saddr : α) :
    Recorded timers gaddr saddr (d.source gaddr saddr) (d.interface gaddr saddr) := by
  cases hvalue : OrdMap.lookup d.m_data gaddr with
  | none =>
    rw [d.source_of_none hvalue, d.interface_of_none hvalue]
    exact .absent
  | some value =>
    rw [d.source_of_lookup hvalue, d.interface_of_lookup hvalue]
    exact (h gaddr value hvalue).1 saddr

theorem DataOk.interface_eq_none_iff (h : DataOk timers ok d) (gaddr saddr : α) :
    d.interface gaddr saddr = none ↔ d.source gaddr saddr = none := by
  have hrec := h.recorded gaddr saddr
  generalize d.source gaddr saddr = s at hrec ⊢
  generalize d.interface gaddr saddr = i at hrec ⊢
  cases hrec with
  | absent => simp
  | present => simp

end Recorded

section Operations

variable {d d' : SimpleRoutingData α} {gaddr saddr : α} {value : SrDataValue α}

-- Nothing changes about a source.
structure SameAt (d d' : SimpleRoutingData α) (gaddr saddr : α) : Prop where
  source : d'.source gaddr saddr = d.source gaddr saddr
  interface : d'.interface gaddr saddr = d.interface gaddr saddr

theorem SameAt.of_lookup {g : α}
    (h : OrdMap.lookup d'.m_data g = OrdMap.lookup d.m_data g) (s : α) : SameAt d d' g s :=
  ⟨SimpleRoutingData.source_congr h s, SimpleRoutingData.interface_congr h s⟩

theorem SameAt.trans {d'' : SimpleRoutingData α} {g s : α} (h : SameAt d d' g s)
    (h' : SameAt d' d'' g s) : SameAt d d'' g s :=
  ⟨h'.source.trans h.source, h'.interface.trans h.interface⟩

-- A value is written back that differs from the old one in a single source.
theorem SameAt.put (hvalue : OrdMap.lookup d.m_data gaddr = some value) {value' : SrDataValue α}
    (hsource : ∀ s, s ≠ saddr → value'.m_source_list.find s = value.m_source_list.find s)
    (hmap : ∀ s, s ≠ saddr → OrdMap.lookup value'.m_if_map s = OrdMap.lookup value.m_if_map s)
    {g s : α} (hother : (g, s) ≠ (gaddr, saddr)) : SameAt d (d.put gaddr value') g s := by
  by_cases hg : g = gaddr
  · subst hg
    have hs : s ≠ saddr := fun h => hother (by rw [h])
    have hput : OrdMap.lookup (d.put g value').m_data g = some value' := by
      rw [SimpleRoutingData.lookup_put, if_pos rfl]
    refine ⟨?_, ?_⟩
    · rw [SimpleRoutingData.source_of_lookup hput, SimpleRoutingData.source_of_lookup hvalue,
        hsource s hs]
    · rw [SimpleRoutingData.interface_of_lookup hput,
        SimpleRoutingData.interface_of_lookup hvalue, hmap s hs]
  · refine .of_lookup ?_ s
    rw [SimpleRoutingData.lookup_put, if_neg hg]

theorem source_put_self (d : SimpleRoutingData α) (gaddr saddr : α) (value : SrDataValue α) :
    (d.put gaddr value).source gaddr saddr = value.m_source_list.find saddr := by
  refine SimpleRoutingData.source_of_lookup ?_ saddr
  rw [SimpleRoutingData.lookup_put, if_pos rfl]

theorem interface_put_self (d : SimpleRoutingData α) (gaddr saddr : α) (value : SrDataValue α) :
    (d.put gaddr value).interface gaddr saddr = OrdMap.lookup value.m_if_map saddr := by
  refine SimpleRoutingData.interface_of_lookup ?_ saddr
  rw [SimpleRoutingData.lookup_put, if_pos rfl]

-- A source is entered; if it was there, its interface is overwritten.
theorem interface_set_source (mroute_stats : MrouteStats α) (d : SimpleRoutingData α)
    (if_index : ℕ) (gaddr : α) (src : Source α) :
    (d.set_source mroute_stats if_index gaddr src).interface gaddr src.saddr = some if_index := by
  unfold SimpleRoutingData.set_source
  cases hvalue : OrdMap.lookup d.m_data gaddr with
  | none =>
    dsimp only
    rw [SimpleRoutingData.interface, SimpleRoutingData.get_interface_map,
      OrdMap.lookup_insert (OrdMap.lookup_eq_none_iff.mp hvalue), if_pos rfl]
    exact (OrdMap.lookup_insert (OrdSet.notMem_empty _) _ _).trans (if_pos rfl)
  | some value =>
    dsimp only
    rw [interface_put_self]
    dsimp only
    split_ifs with hmem
    · rw [OrdMap.lookup_assign, if_pos rfl]
    · rw [OrdMap.lookup_insert hmem, if_pos rfl]

theorem sameAt_set_source (mroute_stats : MrouteStats α) (d : SimpleRoutingData α)
    (if_index : ℕ) (src : Source α) {g s : α} (hother : (g, s) ≠ (gaddr, src.saddr)) :
    SameAt d (d.set_source mroute_stats if_index gaddr src) g s := by
  unfold SimpleRoutingData.set_source
  cases hvalue : OrdMap.lookup d.m_data gaddr with
  | none =>
    dsimp only
    have hnew := OrdMap.lookup_eq_none_iff.mp hvalue
    by_cases hg : g = gaddr
    · subst hg
      have hs : s ≠ src.saddr := fun h => hother (by rw [h])
      have hlook := (OrdMap.lookup_insert hnew g (⟨(∅ : SourceList α).insert src,
        (∅ : OrdMap α ℕ).insert (src.saddr, if_index)⟩ : SrDataValue α)).trans (if_pos rfl)
      refine ⟨?_, ?_⟩
      · rw [SimpleRoutingData.source_of_none hvalue, SimpleRoutingData.source,
          SimpleRoutingData.get_available_sources, hlook]
        exact (OrdSet.find_insert_of_notMem (OrdSet.notMem_empty _) s).trans (if_neg hs)
      · rw [SimpleRoutingData.interface_of_none hvalue, SimpleRoutingData.interface,
          SimpleRoutingData.get_interface_map, hlook]
        exact (OrdMap.lookup_insert (OrdSet.notMem_empty _) s _).trans (if_neg hs)
    · refine .of_lookup ?_ s
      rw [OrdMap.lookup_insert hnew, if_neg hg]
  | some value =>
    refine .put hvalue (fun a ha => ?_) (fun a ha => ?_) hother
    · dsimp only
      generalize to_long _ = count
      split_ifs with hmem
      · exact (OrdSet.find_insert_erase value.m_source_list
          (⟨src.saddr, src.shared_source_timer, count⟩ : Source α) a).trans (if_neg ha)
      · rw [OrdSet.find_insert_of_notMem hmem, if_neg ha]
    · dsimp only
      split_ifs with hmem
      · rw [OrdMap.lookup_assign, if_neg ha]
      · rw [OrdMap.lookup_insert hmem, if_neg ha]

-- The entry of a source is rewritten, its interface stays.
theorem interface_put_modify (hvalue : OrdMap.lookup d.m_data gaddr = some value) (saddr : α)
    (f : Source α → Source α) (hf : ∀ s, (f s).saddr = s.saddr) (g s : α) :
    (d.put gaddr { value with m_source_list := value.m_source_list.modify f hf saddr }).interface
      g s = d.interface g s := by
  by_cases hg : g = gaddr
  · subst hg
    rw [interface_put_self, SimpleRoutingData.interface_of_lookup hvalue]
  · refine SimpleRoutingData.interface_congr ?_ s
    rw [SimpleRoutingData.lookup_put, if_neg hg]

theorem sameAt_put_modify (hvalue : OrdMap.lookup d.m_data gaddr = some value)
    (f : Source α → Source α) (hf : ∀ s, (f s).saddr = s.saddr) {g s : α}
    (hother : (g, s) ≠ (gaddr, saddr)) :
    SameAt d (d.put gaddr { value with
      m_source_list := value.m_source_list.modify f hf saddr }) g s := by
  refine .put hvalue (fun a ha => ?_) (fun a _ => ?_) hother
  · rw [OrdSet.find_modify, if_neg ha]
  · rfl

theorem interface_set_shared_source_timer (d : SimpleRoutingData α) (gaddr saddr : α)
    (timer : TimerMsg α) (g s : α) :
    (d.set_shared_source_timer gaddr saddr timer).interface g s = d.interface g s := by
  unfold SimpleRoutingData.set_shared_source_timer
  cases hvalue : OrdMap.lookup d.m_data gaddr with
  | none => rfl
  | some value => exact interface_put_modify hvalue saddr _ _ g s

theorem source_set_shared_source_timer (d : SimpleRoutingData α) (gaddr saddr : α)
    (timer : TimerMsg α) :
    (d.set_shared_source_timer gaddr saddr timer).source gaddr saddr =
      (d.source gaddr saddr).map fun s => { s with shared_source_timer := some timer } := by
  unfold SimpleRoutingData.set_shared_source_timer
  cases hvalue : OrdMap.lookup d.m_data gaddr with
  | none => simp [SimpleRoutingData.source_of_none hvalue]
  | some value =>
    rw [SimpleRoutingData.source_of_lookup hvalue]
    dsimp only
    rw [source_put_self, OrdSet.find_modify, if_pos rfl]

-- The deletion takes out one source of one group. It may take the group along.
theorem source_del_source (d : SimpleRoutingData α) (gaddr saddr : α) :
    (d.del_source gaddr saddr).source gaddr saddr = none := by
  unfold SimpleRoutingData.del_source
  cases hvalue : OrdMap.lookup d.m_data gaddr with
  | none => exact SimpleRoutingData.source_of_none hvalue saddr
  | some value =>
    dsimp only
    split_ifs with hempty
    · refine SimpleRoutingData.source_of_none ?_ saddr
      rw [OrdMap.lookup_erase, if_pos rfl]
    · rw [source_put_self, OrdSet.find_erase, if_pos rfl]

end Operations

section Deletion

variable {timers : List (NewSourceTimerMsg α)} {d d' : SimpleRoutingData α} {gaddr saddr : α}

theorem sameAt_del_source (h : DataOk timers (· ≠ gaddr) d) {g s : α}
    (hother : (g, s) ≠ (gaddr, saddr)) : SameAt d (d.del_source gaddr saddr) g s := by
  unfold SimpleRoutingData.del_source
  cases hvalue : OrdMap.lookup d.m_data gaddr with
  | none => exact ⟨rfl, rfl⟩
  | some value =>
    dsimp only
    split_ifs with hempty
    · by_cases hg : g = gaddr
      · subst hg
        have hs : s ≠ saddr := fun h => hother (by rw [h])
        have hnone : OrdMap.lookup (d.m_data.erase g) g = none := by
          rw [OrdMap.lookup_erase, if_pos rfl]
        -- the other sources of the group were none
        have hsource : value.m_source_list.find s = none := by
          have herase := OrdSet.find_eq_none_iff.mpr (OrdSet.isEmpty_iff.mp hempty s)
          rwa [OrdSet.find_erase, if_neg hs] at herase
        have hmem := mt ((h g value hvalue).1.mem_iff s).mpr (OrdSet.find_eq_none_iff.mp hsource)
        refine ⟨?_, ?_⟩
        · rw [SimpleRoutingData.source_of_none (d := ⟨d.m_data.erase g⟩) hnone,
            SimpleRoutingData.source_of_lookup hvalue, hsource]
        · rw [SimpleRoutingData.interface_of_none (d := ⟨d.m_data.erase g⟩) hnone,
            SimpleRoutingData.interface_of_lookup hvalue, OrdMap.lookup_eq_none_iff.mpr hmem]
      · refine .of_lookup ?_ s
        rw [OrdMap.lookup_erase, if_neg hg]
    · refine .put hvalue (fun a ha => ?_) (fun a ha => ?_) hother
      · rw [OrdSet.find_erase, if_neg ha]
      · rw [OrdMap.lookup_erase, if_neg ha]

variable {mroute_stats : MrouteStats α}

-- What the expiry of a source's timer does to the database, in its two cases.
theorem refresh_deletes (h : DataOk timers (fun _ => True) d)
    (hdel : d.refresh_source_or_del_it_if_unused mroute_stats gaddr saddr = (d', false)) :
    d'.source gaddr saddr = none ∧ ∀ g s, (g, s) ≠ (gaddr, saddr) → SameAt d d' g s := by
  have hweak : DataOk timers (· ≠ gaddr) d :=
    fun g v hv => (h g v hv).imp_right fun hne _ => hne trivial
  unfold SimpleRoutingData.refresh_source_or_del_it_if_unused at hdel
  cases hvalue : OrdMap.lookup d.m_data gaddr with
  | none =>
    simp only [hvalue] at hdel
    obtain rfl := (Prod.mk.inj hdel).1
    exact ⟨SimpleRoutingData.source_of_none hvalue saddr, fun g s _ => ⟨rfl, rfl⟩⟩
  | some value =>
    cases hfind : value.m_source_list.find saddr with
    | none =>
      simp only [hvalue, hfind] at hdel
      obtain rfl := (Prod.mk.inj hdel).1
      exact ⟨source_del_source d gaddr saddr, fun g s hother => sameAt_del_source hweak hother⟩
    | some src =>
      simp only [hvalue, hfind] at hdel
      split_ifs at hdel
      · obtain rfl := (Prod.mk.inj hdel).1
        refine ⟨source_del_source _ gaddr saddr, fun g s hother => ?_⟩
        have herase := (h gaddr value hvalue).1.erase saddr
        refine SameAt.trans ?_ (sameAt_del_source
          (hweak.put herase fun hg => absurd rfl hg) hother)
        refine .put hvalue (fun a ha => ?_) (fun a ha => ?_) hother
        · rw [OrdSet.find_erase, if_neg ha]
        · rw [OrdMap.lookup_erase, if_neg ha]
      · cases (Prod.mk.inj hdel).2

theorem refresh_keeps
    (hkeep : d.refresh_source_or_del_it_if_unused mroute_stats gaddr saddr = (d', true)) :
    (∀ g s, d'.interface g s = d.interface g s) ∧
      ∀ g s, (g, s) ≠ (gaddr, saddr) → SameAt d d' g s := by
  unfold SimpleRoutingData.refresh_source_or_del_it_if_unused at hkeep
  cases hvalue : OrdMap.lookup d.m_data gaddr with
  | none =>
    simp only [hvalue] at hkeep
    cases (Prod.mk.inj hkeep).2
  | some value =>
    cases hfind : value.m_source_list.find saddr with
    | none =>
      simp only [hvalue, hfind] at hkeep
      cases (Prod.mk.inj hkeep).2
    | some src =>
      simp only [hvalue, hfind] at hkeep
      split_ifs at hkeep
      · cases (Prod.mk.inj hkeep).2
      · obtain rfl := (Prod.mk.inj hkeep).1
        exact ⟨interface_put_modify hvalue saddr _ _,
          fun g s hother => sameAt_put_modify hvalue _ _ hother⟩

-- A source whose counter has not moved is deleted.
theorem refresh_of_idle {src : Source α} (hsrc : d.source gaddr saddr = some src)
    (hidle : to_unsigned_long src.retransmission_count =
      get_current_packet_count mroute_stats gaddr saddr) :
    (d.refresh_source_or_del_it_if_unused mroute_stats gaddr saddr).2 = false := by
  cases hvalue : OrdMap.lookup d.m_data gaddr with
  | none => simp [SimpleRoutingData.source_of_none hvalue] at hsrc
  | some value =>
    rw [SimpleRoutingData.source_of_lookup hvalue] at hsrc
    simp only [SimpleRoutingData.refresh_source_or_del_it_if_unused, hvalue, hsrc, if_pos hidle]

end Deletion

end Mcproxy
