import Mathlib.Data.List.Induction
import Mcproxy.Parser.Configuration
import Mcproxy.Parser.Text
import Mcproxy.Registration

namespace Mcproxy

open Container Transition RbType RbInterfaceType RbInterfaceDirection ConfigMsg
  TokenType

section Messages

variable {α : Type*}

def get_default_priority_interval : ℕ := 100

variable (get_if_index : String → ℕ) (gts : GlobalTableSet) (storage : α → AddrStorage)

-- The loop over the upstreams; `unsigned int` has 32 bits.
def upstream_msgs : (upstream_priority : ℕ) → List InterfaceDefinition →
    Except String (List (ConfigMsg α))
  | _, [] => .ok []
  | upstream_priority, u :: upstreams =>
    if get_if_index u.m_if_name = 0 then .error "interface not found"
    else
      (upstream_msgs ((upstream_priority + get_default_priority_interval) % 2 ^ 32) upstreams).map
        (ADD_UPSTREAM (get_if_index u.m_if_name) (u.interf gts storage) upstream_priority :: ·)

def downstream_msgs : List InterfaceDefinition → Except String (List (ConfigMsg α))
  | [] => .ok []
  | d :: downstreams =>
    if get_if_index d.m_if_name = 0 then .error "interface not found"
    else
      (downstream_msgs downstreams).map
        (ADD_DOWNSTREAM (get_if_index d.m_if_name) (d.interf gts storage) {} :: ·)

-- The messages `start_proxy_instances` gives to one instance, in this order.
def start_msgs (pinstance : InstanceDefinition) : Except String (List (ConfigMsg α)) :=
  match upstream_msgs get_if_index gts storage 0 pinstance.m_upstreams with
  | .error e => .error e
  | .ok upstreams =>
    match downstream_msgs get_if_index gts storage pinstance.m_downstreams with
    | .error e => .error e
    | .ok downstreams =>
      .ok (pinstance.m_global_settings.map (fun r => SET_GLOBAL_RULE_BINDING (some r)) ++
        upstreams ++ downstreams)

end Messages

section Order

variable {α : Type*}

-- The interface whose clock a new querier reads.
def ConfigMsg.clock_index : ConfigMsg α → ℕ
  | ADD_DOWNSTREAM if_index _ _ => if_index
  | _ => 0

-- The kinds of messages an instance is started with.
def is_startup : ConfigMsg α → Prop
  | ADD_UPSTREAM _ _ _ => True
  | ADD_DOWNSTREAM _ _ tv => tv = {}
  | SET_GLOBAL_RULE_BINDING rb => rb.isSome = true
  | _ => False

def RuleBinding.sets (rb : RuleBinding) (direction : RbInterfaceDirection) : Prop :=
  rb.m_rule_binding_type = RBT_RULE_MATCHING ∧ rb.m_interface_type = IT_UPSTREAM ∧
    rb.m_filter_direction = direction

-- Messages that could take each other's place are equal: upstreams with a common interface or
-- priority, downstreams with a common interface, and rules for a common direction.
structure OrderFree (msgs : List (ConfigMsg α)) : Prop where
  upstreams : ∀ {i j : ℕ} {a b : Interface α} {k l : ℕ}, ADD_UPSTREAM i a k ∈ msgs →
    ADD_UPSTREAM j b l ∈ msgs → i = j ∨ k = l → i = j ∧ a = b ∧ k = l
  downstreams : ∀ {i : ℕ} {a b : Interface α}, ADD_DOWNSTREAM i a {} ∈ msgs →
    ADD_DOWNSTREAM i b {} ∈ msgs → a = b
  rules : ∀ {r s : RuleBinding} {direction : RbInterfaceDirection}, direction ≠ ID_WILDCARD →
    SET_GLOBAL_RULE_BINDING (some r) ∈ msgs → SET_GLOBAL_RULE_BINDING (some s) ∈ msgs →
    r.sets direction → s.sets direction → r = s

theorem OrderFree.subset {msgs msgs' : List (ConfigMsg α)} (h : OrderFree msgs)
    (hsub : msgs' ⊆ msgs) : OrderFree msgs' :=
  ⟨fun hu hv => h.upstreams (hsub hu) (hsub hv), fun hu hv => h.downstreams (hsub hu) (hsub hv),
    fun hd hr hs => h.rules hd (hsub hr) (hsub hs)⟩

variable {get_if_index : String → ℕ} {gts : GlobalTableSet} {storage : α → AddrStorage}
  {msgs : List (ConfigMsg α)}

theorem upstream_msgs_startup {upstreams : List InterfaceDefinition} {upstream_priority : ℕ}
    (h : upstream_msgs get_if_index gts storage upstream_priority upstreams = .ok msgs) :
    ∀ msg ∈ msgs, is_startup msg := by
  induction upstreams generalizing upstream_priority msgs with
  | nil =>
    obtain rfl := Except.ok.inj h
    simp
  | cons u upstreams ih =>
    rw [upstream_msgs] at h
    split at h
    · cases h
    · obtain ⟨rest, hrest, rfl⟩ := exists_of_map_ok h
      exact List.forall_mem_cons.mpr ⟨trivial, ih hrest⟩

theorem downstream_msgs_startup {downstreams : List InterfaceDefinition}
    (h : downstream_msgs get_if_index gts storage downstreams = .ok msgs) :
    ∀ msg ∈ msgs, is_startup msg := by
  induction downstreams generalizing msgs with
  | nil =>
    obtain rfl := Except.ok.inj h
    simp
  | cons d downstreams ih =>
    rw [downstream_msgs] at h
    split at h
    · cases h
    · obtain ⟨rest, hrest, rfl⟩ := exists_of_map_ok h
      exact List.forall_mem_cons.mpr ⟨rfl, ih hrest⟩

theorem start_msgs_startup {pinstance : InstanceDefinition}
    (h : start_msgs get_if_index gts storage pinstance = .ok msgs) :
    ∀ msg ∈ msgs, is_startup msg := by
  unfold start_msgs at h
  split at h
  · cases h
  · next upstreams hup =>
    split at h
    · cases h
    · next downstreams hdown =>
      obtain rfl := Except.ok.inj h
      intro msg hmsg
      rcases List.mem_append.mp hmsg with hmsg | hmsg
      · rcases List.mem_append.mp hmsg with hmsg | hmsg
        · obtain ⟨r, -, rfl⟩ := List.mem_map.mp hmsg
          rfl
        · exact upstream_msgs_startup hup msg hmsg
      · exact downstream_msgs_startup hdown msg hmsg

end Order

variable {α : Type*} [LinearOrder α]

section Handling

variable (mode : GroupMemProtocol) (clk : ℕ → SteadyClock)

-- The instance after the messages.
def handle_startup (msgs : List (ConfigMsg α)) : ProxyInstanceState α :=
  msgs.foldl (fun p msg => handle_config mode p (clk msg.clock_index) msg)
    (proxy_instance α mode).start

theorem handle_startup_append (msgs : List (ConfigMsg α)) (msg : ConfigMsg α) :
    handle_startup mode clk (msgs ++ [msg]) =
      handle_config mode (handle_startup mode clk msgs) (clk msg.clock_index) msg := by
  rw [handle_startup, List.foldl_append]
  rfl

def ProxyInstanceState.rule (p : ProxyInstanceState α) :
    RbInterfaceDirection → Option RuleBinding
  | ID_IN => p.m_upstream_input_rule
  | ID_OUT => p.m_upstream_output_rule
  | ID_WILDCARD => none

def ProxyInstanceState.registered (p : ProxyInstanceState α) (if_index : ℕ) : Prop :=
  (vif_calls if_index p.registrations).getLastD false = true ∧
    (receiver_calls if_index p.registrations).getLastD false = true

-- What the order of the messages must not change.
structure SameStartup (p p' : ProxyInstanceState α) : Prop where
  upstreams : p.m_upstreams = p'.m_upstreams
  downstreams : p.m_downstreams = p'.m_downstreams
  registered : ∀ i, p.registered i ↔ p'.registered i
  rules : ∀ direction, p.rule direction = p'.rule direction

end Handling

section Effects

variable {mode : GroupMemProtocol} {p : ProxyInstanceState α}

-- What one message does to the three parts of the state.
theorem add_upstream_frame (i : ℕ) (a : Interface α) (k : ℕ) :
    (add_upstream p i a k).m_downstreams = p.m_downstreams ∧
      ∀ direction, (add_upstream p i a k).rule direction = p.rule direction := by
  unfold add_upstream
  split
  · split_ifs <;> exact ⟨rfl, fun direction => by cases direction <;> rfl⟩
  · exact ⟨rfl, fun _ => rfl⟩

theorem add_downstream_frame (i : ℕ) (a : Interface α) (cfg : Config) :
    (add_downstream mode p i a cfg).m_upstreams = p.m_upstreams ∧
      ∀ direction, (add_downstream mode p i a cfg).rule direction = p.rule direction := by
  unfold add_downstream
  split
  · split_ifs <;> exact ⟨rfl, fun direction => by cases direction <;> rfl⟩
  · exact ⟨rfl, fun _ => rfl⟩

theorem set_global_frame (rb : Option RuleBinding) :
    (set_global_rule_binding p rb).m_upstreams = p.m_upstreams ∧
      (set_global_rule_binding p rb).m_downstreams = p.m_downstreams := by
  unfold set_global_rule_binding
  split
  · exact ⟨rfl, rfl⟩
  · split_ifs
    · split <;> exact ⟨rfl, rfl⟩
    all_goals exact ⟨rfl, rfl⟩

theorem rule_set_global_of_sets {r : RuleBinding} {direction : RbInterfaceDirection}
    (hd : direction ≠ ID_WILDCARD) (h : r.sets direction) :
    (set_global_rule_binding p (some r)).rule direction = some r := by
  obtain ⟨htype, hinterface, rfl⟩ := h
  simp only [set_global_rule_binding, if_pos htype, if_pos hinterface]
  cases hdir : r.m_filter_direction with
  | ID_IN => rfl
  | ID_OUT => rfl
  | ID_WILDCARD => exact absurd hdir hd

theorem rule_set_global_of_not_sets {r : RuleBinding} {direction : RbInterfaceDirection}
    (h : ¬r.sets direction) :
    (set_global_rule_binding p (some r)).rule direction = p.rule direction := by
  simp only [set_global_rule_binding]
  split_ifs with htype hinterface
  · have hdir : r.m_filter_direction ≠ direction := fun hdir => h ⟨htype, hinterface, hdir⟩
    split
    · next heq => cases direction <;> first | rfl | exact absurd heq hdir
    · next heq => cases direction <;> first | rfl | exact absurd heq hdir
    · rfl
  all_goals rfl

theorem mem_add_upstream {i k : ℕ} {a : Interface α} {u : UpstreamInfos α}
    (hu : u ∈ p.m_upstreams.elems) : u ∈ (add_upstream p i a k).m_upstreams.elems := by
  unfold add_upstream
  split
  · split_ifs <;> exact OrdSet.mem_insertList_of_mem _ hu
  · exact hu

theorem mem_add_downstream {i : ℕ} {a : Interface α} {cfg : Config} {d : ℕ × DownstreamInfos α}
    (hd : d ∈ p.m_downstreams.elems) :
    d ∈ (add_downstream mode p i a cfg).m_downstreams.elems := by
  unfold add_downstream
  split
  · split_ifs <;> exact OrdSet.mem_insertList_of_mem _ hd
  · exact hd

-- An upstream is taken up if neither its interface nor its priority is there.
theorem add_upstream_of_free {i k : ℕ} {a : Interface α}
    (hi : ∀ u ∈ p.m_upstreams.elems, u.m_if_index ≠ i)
    (hk : ∀ u ∈ p.m_upstreams.elems, u.m_priority ≠ k) :
    (add_upstream p i a k).m_upstreams.elems.Perm (⟨i, a, k⟩ :: p.m_upstreams.elems) := by
  have hnone : p.m_upstreams.elems.find? (fun ui => ui.m_if_index == i) = none := by
    simpa using hi
  have hfree : k ∉ p.m_upstreams := by
    intro hmem
    obtain ⟨u, hu, hprio⟩ := List.mem_map.mp hmem
    exact hk u hu hprio
  simp only [add_upstream, hnone]
  split_ifs <;> exact OrdSet.insert_perm hfree

theorem add_upstream_of_mem {i k : ℕ} {a : Interface α} {u : UpstreamInfos α}
    (hu : u ∈ p.m_upstreams.elems) (hi : u.m_if_index = i) : add_upstream p i a k = p := by
  unfold add_upstream
  split
  · next hnone => exact absurd hi (by simpa using List.find?_eq_none.mp hnone u hu)
  · rfl

theorem add_downstream_of_free {i : ℕ} {a : Interface α} {cfg : Config}
    (hi : ∀ d ∈ p.m_downstreams.elems, d.1 ≠ i) :
    (add_downstream mode p i a cfg).m_downstreams.elems.Perm
      ((i, ⟨new_querier cfg mode, a⟩) :: p.m_downstreams.elems) := by
  have hfree : i ∉ p.m_downstreams := by
    intro hmem
    obtain ⟨d, hd, hidx⟩ := List.mem_map.mp hmem
    exact hi d hd hidx
  have hnone : OrdMap.lookup p.m_downstreams i = none := by
    rw [OrdMap.lookup, OrdSet.find_eq_none_iff.mpr hfree]
    rfl
  simp only [add_downstream, hnone]
  split_ifs <;> exact OrdSet.insert_perm hfree

theorem add_downstream_of_mem {i : ℕ} {a : Interface α} {cfg : Config}
    {d : ℕ × DownstreamInfos α} (hd : d ∈ p.m_downstreams.elems) (hi : d.1 = i) :
    add_downstream mode p i a cfg = p := by
  have hmem : i ∈ p.m_downstreams := hi ▸ List.mem_map_of_mem hd
  unfold add_downstream
  split
  · next hnone =>
    have hsome := is_downstream_iff.mpr hmem
    simp [ProxyInstance.is_downstream, hnone] at hsome
  · rfl

end Effects

section EndState

-- The state after messages that do not take each other's place, by what is among them.
structure StartState (mode : GroupMemProtocol) (clk : ℕ → SteadyClock)
    (msgs : List (ConfigMsg α)) (p : ProxyInstanceState α) : Prop where
  upstreams : ∀ u : UpstreamInfos α, u ∈ p.m_upstreams.elems ↔
    ADD_UPSTREAM u.m_if_index u.m_interface u.m_priority ∈ msgs
  downstreams : ∀ d : ℕ × DownstreamInfos α, d ∈ p.m_downstreams.elems ↔
    ADD_DOWNSTREAM d.1 d.2.m_interface {} ∈ msgs ∧
      d.2.m_querier = new_querier ⟨clk d.1, {}⟩ mode
  rule : ∀ {direction : RbInterfaceDirection} {r : RuleBinding}, direction ≠ ID_WILDCARD →
    SET_GLOBAL_RULE_BINDING (some r) ∈ msgs → r.sets direction → p.rule direction = some r
  no_rule : ∀ {direction : RbInterfaceDirection},
    (∀ r, SET_GLOBAL_RULE_BINDING (some r) ∈ msgs → ¬r.sets direction) →
    p.rule direction = (proxy_instance α mode).start.rule direction

variable {mode : GroupMemProtocol} {clk : ℕ → SteadyClock} {msgs : List (ConfigMsg α)}
  {p : ProxyInstanceState α}

theorem StartState.step_upstream (h : StartState mode clk msgs p) {i k : ℕ} {a : Interface α}
    (hfree : OrderFree (msgs ++ [ADD_UPSTREAM i a k])) :
    StartState mode clk (msgs ++ [ADD_UPSTREAM i a k]) (add_upstream p i a k) := by
  obtain ⟨hdown, hrule⟩ := add_upstream_frame (p := p) i a k
  have hlast : ADD_UPSTREAM i a k ∈ msgs ++ [ADD_UPSTREAM i a k] := by simp
  -- An upstream that is there and has the interface or the priority is the new one.
  have hsame : ∀ u ∈ p.m_upstreams.elems, u.m_if_index = i ∨ u.m_priority = k →
      u = ⟨i, a, k⟩ := by
    intro u hu hshare
    have hmem : ADD_UPSTREAM u.m_if_index u.m_interface u.m_priority ∈
        msgs ++ [ADD_UPSTREAM i a k] := List.mem_append_left _ ((h.upstreams u).mp hu)
    obtain ⟨hi, ha, hk⟩ := hfree.upstreams hmem hlast hshare
    cases u
    simp_all
  refine ⟨fun u => ?_, fun d => ?_, fun hd hr hs => ?_, fun hno => ?_⟩
  · by_cases hthere : ∃ u ∈ p.m_upstreams.elems, u.m_if_index = i ∨ u.m_priority = k
    · obtain ⟨v, hv, hshare⟩ := hthere
      obtain rfl := hsame v hv hshare
      rw [add_upstream_of_mem hv rfl, h.upstreams, List.mem_append, List.mem_singleton]
      refine ⟨Or.inl, fun hu => hu.elim id fun heq => ?_⟩
      rw [heq]
      exact (h.upstreams _).mp hv
    · have hi : ∀ u ∈ p.m_upstreams.elems, u.m_if_index ≠ i := fun u hu heq =>
        hthere ⟨u, hu, Or.inl heq⟩
      have hk : ∀ u ∈ p.m_upstreams.elems, u.m_priority ≠ k := fun u hu heq =>
        hthere ⟨u, hu, Or.inr heq⟩
      rw [(add_upstream_of_free hi hk).mem_iff, List.mem_cons, h.upstreams, List.mem_append,
        List.mem_singleton, or_comm]
      refine or_congr_right ?_
      cases u
      simp
  · rw [hdown, h.downstreams]
    simp
  · rw [hrule]
    exact h.rule hd (by simpa using hr) hs
  · rw [hrule]
    exact h.no_rule fun r hr => hno r (List.mem_append_left _ hr)

theorem StartState.step_downstream (h : StartState mode clk msgs p) {i : ℕ} {a : Interface α}
    (hfree : OrderFree (msgs ++ [ADD_DOWNSTREAM i a {}])) :
    StartState mode clk (msgs ++ [ADD_DOWNSTREAM i a {}])
      (add_downstream mode p i a ⟨clk i, {}⟩) := by
  have hup : (add_downstream mode p i a ⟨clk i, {}⟩).m_upstreams = p.m_upstreams :=
    (add_downstream_frame i a ⟨clk i, {}⟩).1
  have hrule : ∀ direction,
      (add_downstream mode p i a ⟨clk i, {}⟩).rule direction = p.rule direction :=
    (add_downstream_frame i a ⟨clk i, {}⟩).2
  have hlast : ADD_DOWNSTREAM i a {} ∈ msgs ++ [ADD_DOWNSTREAM i a {}] := by simp
  refine ⟨fun u => ?_, fun d => ?_, fun hd hr hs => ?_, fun hno => ?_⟩
  · rw [hup, h.upstreams]
    simp
  · by_cases hthere : ∃ d ∈ p.m_downstreams.elems, d.1 = i
    · obtain ⟨e, he, rfl⟩ := hthere
      have hmem := ((h.downstreams e).mp he).1
      obtain rfl := hfree.downstreams (List.mem_append_left _ hmem) hlast
      rw [add_downstream_of_mem he rfl, h.downstreams, List.mem_append, List.mem_singleton]
      refine and_congr_left fun _ => ⟨Or.inl, fun hd => hd.elim id fun heq => ?_⟩
      rw [heq]
      exact hmem
    · have hi : ∀ d ∈ p.m_downstreams.elems, d.1 ≠ i := fun d hd heq => hthere ⟨d, hd, heq⟩
      rw [(add_downstream_of_free hi).mem_iff, List.mem_cons, h.downstreams, List.mem_append,
        List.mem_singleton, or_and_right, or_comm]
      refine or_congr_right ?_
      obtain ⟨j, q, b⟩ := d
      simp only [Prod.mk.injEq, DownstreamInfos.mk.injEq, ADD_DOWNSTREAM.injEq, and_true]
      constructor
      · rintro ⟨rfl, rfl, rfl⟩
        exact ⟨⟨rfl, rfl⟩, rfl⟩
      · rintro ⟨⟨rfl, rfl⟩, rfl⟩
        exact ⟨rfl, rfl, rfl⟩
  · rw [hrule]
    exact h.rule hd (by simpa using hr) hs
  · rw [hrule]
    exact h.no_rule fun r hr => hno r (List.mem_append_left _ hr)

theorem StartState.step_rule (h : StartState mode clk msgs p) {r : RuleBinding}
    (hfree : OrderFree (msgs ++ [SET_GLOBAL_RULE_BINDING (some r)])) :
    StartState mode clk (msgs ++ [SET_GLOBAL_RULE_BINDING (some r)])
      (set_global_rule_binding p (some r)) := by
  obtain ⟨hup, hdown⟩ := set_global_frame (p := p) (some r)
  have hlast : SET_GLOBAL_RULE_BINDING (some r) ∈ msgs ++ [SET_GLOBAL_RULE_BINDING (some r)] := by
    simp
  refine ⟨fun u => ?_, fun d => ?_, fun {direction s} hd hs hsets => ?_, fun hno => ?_⟩
  · rw [hup, h.upstreams]
    simp
  · rw [hdown, h.downstreams]
    simp
  · by_cases hr : r.sets direction
    · rw [rule_set_global_of_sets hd hr, hfree.rules hd hlast hs hr hsets]
    · rw [rule_set_global_of_not_sets hr]
      rcases List.mem_append.mp hs with hs | hs
      · exact h.rule hd hs hsets
      · obtain rfl : s = r := by simpa using hs
        exact absurd hsets hr
  · rw [rule_set_global_of_not_sets (hno r hlast)]
    exact h.no_rule fun s hs => hno s (List.mem_append_left _ hs)

theorem handle_startup_state (hfree : OrderFree msgs) (hkind : ∀ msg ∈ msgs, is_startup msg) :
    StartState mode clk msgs (handle_startup mode clk msgs) := by
  induction msgs using List.reverseRecOn with
  | nil =>
    exact ⟨fun u => iff_of_false List.not_mem_nil List.not_mem_nil,
      fun d => iff_of_false List.not_mem_nil fun hd => List.not_mem_nil hd.1,
      fun _ hr => absurd hr List.not_mem_nil, fun _ => rfl⟩
  | append_singleton msgs msg ih =>
    have hstate := ih (hfree.subset (List.subset_append_left _ _))
      fun m hm => hkind m (List.mem_append_left _ hm)
    have hmsg : is_startup msg := hkind msg (by simp)
    rw [handle_startup_append]
    cases msg with
    | ADD_UPSTREAM i a k => exact hstate.step_upstream hfree
    | ADD_DOWNSTREAM i a tv =>
      obtain rfl : tv = {} := hmsg
      exact hstate.step_downstream hfree
    | SET_GLOBAL_RULE_BINDING rb =>
      obtain ⟨r, rfl⟩ := Option.isSome_iff_exists.mp hmsg
      exact hstate.step_rule hfree
    | DEL_UPSTREAM => exact hmsg.elim
    | DEL_DOWNSTREAM => exact hmsg.elim

theorem handle_startup_inv (msgs : List (ConfigMsg α)) :
    InstanceInv (handle_startup mode clk msgs).toProxyInstance := by
  induction msgs using List.reverseRecOn with
  | nil => exact proxy_instance_inv Machine.reachable_start
  | append_singleton msgs msg ih =>
    rw [handle_startup_append]
    exact handle_config_inv ih _ msg

-- A priority that is taken is taken by the same upstream.
theorem handle_startup_follows (hfree : OrderFree msgs) (hkind : ∀ msg ∈ msgs, is_startup msg) :
    RegistrationFollows (handle_startup mode clk msgs) := by
  induction msgs using List.reverseRecOn with
  | nil => exact registration_follows_start
  | append_singleton msgs msg ih =>
    have hfree' := hfree.subset (List.subset_append_left _ _)
    have hkind' : ∀ m ∈ msgs, is_startup m := fun m hm => hkind m (List.mem_append_left _ hm)
    have hclean : registers_cleanly (handle_startup mode clk msgs)
        (.config msg (clk msg.clock_index)) := by
      cases msg with
      | ADD_UPSTREAM i a k =>
        by_contra hbad
        obtain ⟨hnew, htaken⟩ := not_or.mp hbad
        obtain ⟨u, hu, hprio⟩ := List.mem_map.mp (not_not.mp htaken)
        have hmem := ((handle_startup_state hfree' hkind').upstreams u).mp hu
        obtain ⟨rfl, -, -⟩ := hfree.upstreams (List.mem_append_left _ hmem)
          (List.mem_append_right _ (List.mem_singleton_self _)) (Or.inr hprio)
        exact hnew (used_iff.mpr (Or.inl (List.mem_map_of_mem hu)))
      | _ => trivial
    rw [handle_startup_append]
    exact (worker_step_reg mode (handle_startup_inv msgs) hclean rfl).follows (ih hfree' hkind')

theorem same_startup_of_perm (hfree : OrderFree msgs) (hkind : ∀ msg ∈ msgs, is_startup msg)
    {l : List (ConfigMsg α)} (hperm : l.Perm msgs) :
    SameStartup (handle_startup mode clk l) (handle_startup mode clk msgs) := by
  have hfree' := hfree.subset hperm.subset
  have hkind' : ∀ msg ∈ l, is_startup msg := fun msg hmsg => hkind msg (hperm.subset hmsg)
  have hstate : StartState mode clk msgs (handle_startup mode clk msgs) :=
    handle_startup_state hfree hkind
  have hstate' : StartState mode clk l (handle_startup mode clk l) :=
    handle_startup_state hfree' hkind'
  have hup : (handle_startup mode clk l).m_upstreams = (handle_startup mode clk msgs).m_upstreams :=
    OrdSet.ext_mem fun u => by rw [hstate'.upstreams, hstate.upstreams, hperm.mem_iff]
  have hdown : (handle_startup mode clk l).m_downstreams =
      (handle_startup mode clk msgs).m_downstreams :=
    OrdSet.ext_mem fun d => by rw [hstate'.downstreams, hstate.downstreams, hperm.mem_iff]
  refine ⟨hup, hdown, fun i => ?_, fun direction => ?_⟩
  · have hfol : RegistrationFollows (handle_startup mode clk msgs) :=
      handle_startup_follows hfree hkind
    have hfol' : RegistrationFollows (handle_startup mode clk l) :=
      handle_startup_follows hfree' hkind'
    rw [ProxyInstanceState.registered, ProxyInstanceState.registered, hfol'.vif, hfol'.receiver,
      hfol.vif, hfol.receiver, and_self, and_self, used_iff, used_iff, up_indexes, up_indexes, hup,
      hdown]
  · by_cases hd : direction = ID_WILDCARD
    · rw [hd]
      rfl
    · by_cases hr : ∃ r, SET_GLOBAL_RULE_BINDING (some r) ∈ msgs ∧ r.sets direction
      · obtain ⟨r, hr, hsets⟩ := hr
        rw [hstate.rule hd hr hsets, hstate'.rule hd (hperm.mem_iff.mpr hr) hsets]
      · have hno : ∀ r, SET_GLOBAL_RULE_BINDING (some r) ∈ msgs → ¬r.sets direction :=
          fun r hmem hsets => hr ⟨r, hmem, hsets⟩
        rw [hstate.no_rule hno, hstate'.no_rule fun r hmem => hno r (hperm.mem_iff.mp hmem)]

end EndState

section Converse

variable {mode : GroupMemProtocol} {clk : ℕ → SteadyClock} {msgs : List (ConfigMsg α)}
  {p : ProxyInstanceState α}

-- What is in the sets stays there.
theorem handle_config_keeps {msg : ConfigMsg α} (hmsg : is_startup msg) (c : SteadyClock) :
    (∀ u ∈ p.m_upstreams.elems, u ∈ (handle_config mode p c msg).m_upstreams.elems) ∧
      ∀ d ∈ p.m_downstreams.elems, d ∈ (handle_config mode p c msg).m_downstreams.elems := by
  cases msg with
  | ADD_UPSTREAM i a k =>
    refine ⟨fun u => mem_add_upstream, fun d hd => ?_⟩
    rw [handle_config, (add_upstream_frame i a k).1]
    exact hd
  | ADD_DOWNSTREAM i a tv =>
    refine ⟨fun u hu => ?_, fun d => mem_add_downstream⟩
    rw [handle_config, (add_downstream_frame i a ⟨c, tv⟩).1]
    exact hu
  | SET_GLOBAL_RULE_BINDING rb =>
    rw [handle_config, (set_global_frame rb).1, (set_global_frame rb).2]
    exact ⟨fun _ => id, fun _ => id⟩
  | DEL_UPSTREAM => exact hmsg.elim
  | DEL_DOWNSTREAM => exact hmsg.elim

variable (hkind : ∀ msg ∈ msgs, is_startup msg)
  (hsame : ∀ l : List (ConfigMsg α), l.Perm msgs →
    SameStartup (handle_startup mode clk l) (handle_startup mode clk msgs))

include hkind hsame

-- Each message can be the first one, which is not rejected.
theorem mem_upstreams_of_same {i k : ℕ} {a : Interface α} (h : ADD_UPSTREAM i a k ∈ msgs) :
    ⟨i, a, k⟩ ∈ (handle_startup mode clk msgs).m_upstreams.elems := by
  obtain ⟨before, after, rfl⟩ := List.append_of_mem h
  have hperm : (ADD_UPSTREAM i a k :: (before ++ after)).Perm _ := List.perm_middle.symm
  rw [← (hsame _ hperm).upstreams]
  refine List.foldlRecOn
    (motive := fun p : ProxyInstanceState α => ⟨i, a, k⟩ ∈ p.m_upstreams.elems)
    (before ++ after) _ ?_ fun p hp msg hmsg => ?_
  · have hfree := add_upstream_of_free (p := (proxy_instance α mode).start) (i := i) (k := k)
      (a := a) (fun _ hu => absurd hu List.not_mem_nil) (fun _ hu => absurd hu List.not_mem_nil)
    exact hfree.mem_iff.mpr List.mem_cons_self
  · exact (handle_config_keeps (hkind msg (hperm.subset (List.mem_cons_of_mem _ hmsg))) _).1 _ hp

theorem mem_downstreams_of_same {i : ℕ} {a : Interface α} (h : ADD_DOWNSTREAM i a {} ∈ msgs) :
    (i, ⟨new_querier ⟨clk i, {}⟩ mode, a⟩) ∈
      (handle_startup mode clk msgs).m_downstreams.elems := by
  obtain ⟨before, after, rfl⟩ := List.append_of_mem h
  have hperm : (ADD_DOWNSTREAM i a {} :: (before ++ after)).Perm _ := List.perm_middle.symm
  rw [← (hsame _ hperm).downstreams]
  refine List.foldlRecOn
    (motive := fun p : ProxyInstanceState α =>
      (i, ⟨new_querier ⟨clk i, {}⟩ mode, a⟩) ∈ p.m_downstreams.elems)
    (before ++ after) _ ?_ fun p hp msg hmsg => ?_
  · have hfree : ∀ d ∈ (proxy_instance α mode).start.m_downstreams.elems, d.1 ≠ i :=
      fun _ hd => absurd hd List.not_mem_nil
    exact (add_downstream_of_free hfree).mem_iff.mpr List.mem_cons_self
  · exact (handle_config_keeps (hkind msg (hperm.subset (List.mem_cons_of_mem _ hmsg))) _).2 _ hp

omit hkind in
-- Each message can be the last one, whose rule is kept.
theorem rule_of_same {r : RuleBinding} {direction : RbInterfaceDirection}
    (hd : direction ≠ ID_WILDCARD) (h : SET_GLOBAL_RULE_BINDING (some r) ∈ msgs)
    (hsets : r.sets direction) : (handle_startup mode clk msgs).rule direction = some r := by
  obtain ⟨before, after, rfl⟩ := List.append_of_mem h
  have hperm : (before ++ after ++ [SET_GLOBAL_RULE_BINDING (some r)]).Perm _ :=
    (List.perm_append_singleton _ _).trans List.perm_middle.symm
  rw [← (hsame _ hperm).rules, handle_startup_append]
  exact rule_set_global_of_sets hd hsets

theorem orderFree_of_same : OrderFree msgs := by
  refine ⟨fun {i j a b k l} hu hv hshare => ?_, fun {i a b} hu hv => ?_,
    fun {r s direction} hd hr hs hsets hsets' => ?_⟩
  · have hmem := mem_upstreams_of_same hkind hsame hu
    have hmem' := mem_upstreams_of_same hkind hsame hv
    have heq : (⟨i, a, k⟩ : UpstreamInfos α) = ⟨j, b, l⟩ := by
      rcases hshare with hi | hk
      · exact (handle_startup_inv msgs).upstream_eq hmem hmem' hi
      · exact OrdSet.eq_of_key_eq _ hmem hmem' hk
    simpa using heq
  · have heq := OrdSet.eq_of_key_eq _ (mem_downstreams_of_same hkind hsame hu)
      (mem_downstreams_of_same hkind hsame hv) rfl
    simpa using heq
  · have heq := (rule_of_same hsame hd hr hsets).symm.trans (rule_of_same hsame hd hs hsets')
    exact Option.some.inj heq

end Converse

section Start

variable {get_if_index : String → ℕ} {gts : GlobalTableSet} {storage : α → AddrStorage}
  {mode : GroupMemProtocol} {clk : ℕ → SteadyClock} {msgs : List (ConfigMsg α)}

theorem startup_order_iff {pinstance : InstanceDefinition}
    (h : start_msgs get_if_index gts storage pinstance = .ok msgs) :
    (∀ l : List (ConfigMsg α), l.Perm msgs →
        SameStartup (handle_startup mode clk l) (handle_startup mode clk msgs)) ↔
      OrderFree msgs :=
  ⟨orderFree_of_same (start_msgs_startup h),
    fun hfree _ hperm => same_startup_of_perm hfree (start_msgs_startup h) hperm⟩

-- An instance with one interface for each role.
theorem startup_order_two_interfaces :
    ∃ c pinstance, run_parser_cmds (known_addrs [] []) {} ["pinstance p: eth1 ==> eth2"] = .ok c ∧
      pinstance ∈ c.m_inst_def_set ∧
      ∃ msgs : List (ConfigMsg Ipv4Addr),
        start_msgs (fun if_name => if if_name = "eth1" then 1 else 2) c.m_global_table_set
          (fun x => .inet (.ofFin x)) pinstance = .ok msgs ∧
        ∀ l : List (ConfigMsg Ipv4Addr), l.Perm msgs →
          SameStartup (handle_startup .IGMPv3 (fun _ => ticking) l)
            (handle_startup .IGMPv3 (fun _ => ticking) msgs) := by
  have htoks : parser_tokens "pinstance p: eth1 ==> eth2" =
      .ok [tok TT_PINSTANCE, str "p", tok TT_DOUBLE_DOT, str "eth1", tok TT_ARROW, str "eth2"] := by
    decide +kernel
  have hrun : run_parser_cmds (known_addrs [] []) {} ["pinstance p: eth1 ==> eth2"] =
      .ok { m_inst_def_set := [{ m_instance_name := "p", m_upstreams := [{ m_if_name := "eth1" }],
                                 m_downstreams := [{ m_if_name := "eth2" }] }] } := by
    simp only [run_parser_cmds, run_command, htoks]
    rfl
  refine ⟨_, _, hrun, List.mem_singleton_self _, [ADD_UPSTREAM 1 {} 0, ADD_DOWNSTREAM 2 {} {}],
    (and_iff_left_of_imp fun h => (startup_order_iff h).mpr ?_).mpr rfl⟩
  refine ⟨fun hu hv _ => ?_, fun hu hv => ?_, fun _ hr => ?_⟩
  · simp_all
  · simp_all
  · simp at hr

-- An interface that is named twice gets the priority of the message handled first.
theorem repeated_upstream_depends_on_order :
    ∃ c pinstance,
      run_parser_cmds (known_addrs [] []) {} ["pinstance p: eth1 eth1 ==> eth2"] = .ok c ∧
      pinstance ∈ c.m_inst_def_set ∧
      ∃ msgs l : List (ConfigMsg Ipv4Addr),
        start_msgs (fun if_name => if if_name = "eth1" then 1 else 2) c.m_global_table_set
          (fun x => .inet (.ofFin x)) pinstance = .ok msgs ∧ l.Perm msgs ∧
        (handle_startup .IGMPv3 (fun _ => ticking) msgs).m_upstreams.elems.map
          UpstreamInfos.m_priority = [0] ∧
        (handle_startup .IGMPv3 (fun _ => ticking) l).m_upstreams.elems.map
          UpstreamInfos.m_priority = [100] := by
  have htoks : parser_tokens "pinstance p: eth1 eth1 ==> eth2" =
      .ok [tok TT_PINSTANCE, str "p", tok TT_DOUBLE_DOT, str "eth1", str "eth1", tok TT_ARROW,
        str "eth2"] := by
    decide +kernel
  have hrun : run_parser_cmds (known_addrs [] []) {} ["pinstance p: eth1 eth1 ==> eth2"] =
      .ok { m_inst_def_set := [{ m_instance_name := "p",
                                 m_upstreams := [{ m_if_name := "eth1" }, { m_if_name := "eth1" }],
                                 m_downstreams := [{ m_if_name := "eth2" }] }] } := by
    simp only [run_parser_cmds, run_command, htoks]
    rfl
  exact ⟨_, _, hrun, List.mem_singleton_self _,
    [ADD_UPSTREAM 1 {} 0, ADD_UPSTREAM 1 {} 100, ADD_DOWNSTREAM 2 {} {}],
    [ADD_UPSTREAM 1 {} 100, ADD_UPSTREAM 1 {} 0, ADD_DOWNSTREAM 2 {} {}],
    rfl, .swap _ _ _, rfl, rfl⟩

end Start

end Mcproxy
