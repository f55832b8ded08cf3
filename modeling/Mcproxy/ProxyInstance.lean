import Mcproxy.Routing.Aggregation

namespace Mcproxy

open Container Transition GroupMemProtocol RbRuleMatchingType

section Messages

inductive RbType
  | RBT_FILTER
  | RBT_RULE_MATCHING
  | RBT_TIMER_VALUE
  deriving DecidableEq, Repr

inductive RbInterfaceType
  | IT_UPSTREAM
  | IT_DOWNSTREAM
  deriving DecidableEq, Repr

inductive RbInterfaceDirection
  | ID_IN
  | ID_OUT
  | ID_WILDCARD
  deriving DecidableEq, Repr

open RbType RbInterfaceType RbInterfaceDirection

-- A global rule binding, which has no table; all those of an instance have its name.
structure RuleBinding where
  m_rule_binding_type : RbType
  m_interface_type : RbInterfaceType
  m_if_name : String
  m_filter_direction : RbInterfaceDirection
  m_rule_matching_type : RbRuleMatchingType
  m_timeout : ℤ
  deriving DecidableEq, Repr

-- The constructor for a rule matching.
def RuleBinding.rule_matching (interface_type : RbInterfaceType) (if_name : String)
    (filter_direction : RbInterfaceDirection) (rule_matching_type : RbRuleMatchingType)
    (timeout : ℤ) : RuleBinding :=
  ⟨RBT_RULE_MATCHING, interface_type, if_name, filter_direction, rule_matching_type, timeout⟩

-- A config message with the parameters its instruction reads.
inductive ConfigMsg (α : Type*)
  | ADD_DOWNSTREAM (if_index : ℕ) (interf : Interface α) (tv : TimersValues)
  | DEL_DOWNSTREAM (if_index : ℕ)
  | ADD_UPSTREAM (if_index : ℕ) (interf : Interface α) (upstream_priority : ℕ)
  | DEL_UPSTREAM (if_index : ℕ)
  | SET_GLOBAL_RULE_BINDING (rule_binding : Option RuleBinding)

-- The calls that tell the kernel and the receiver about an interface.
inductive Registration
  | add_vif (if_index : ℕ)
  | registrate_interface (if_index : ℕ)
  | del_vif (if_index : ℕ)
  | del_interface (if_index : ℕ)
  deriving DecidableEq, Repr

-- What the worker takes out of the job queue. A new querier comes with the readings the
-- clock will give it.
inductive InstanceMsg (α : Type*) [LinearOrder α]
  | config (msg : ConfigMsg α) (clk : SteadyClock)
  | querier (if_index : ℕ) (e : Event α)

end Messages

open RbType RbInterfaceType RbInterfaceDirection

variable {α : Type*} [LinearOrder α]

-- A proxy instance with its global rules, the timer values and the clock of each querier,
-- and the registrations so far.
structure ProxyInstanceState (α : Type*) [LinearOrder α] extends ProxyInstance α where
  m_upstream_input_rule : Option RuleBinding :=
    some (.rule_matching IT_UPSTREAM "*" ID_IN RMT_FIRST 0)
  m_upstream_output_rule : Option RuleBinding :=
    some (.rule_matching IT_UPSTREAM "*" ID_OUT RMT_ALL 0)
  configs : OrdMap ℕ Config := ∅
  registrations : List Registration := []

def ProxyInstance.is_downstream (pi : ProxyInstance α) (if_index : ℕ) : Bool :=
  (OrdMap.lookup pi.m_downstreams if_index).isSome

section Config

open ConfigMsg Registration

variable (mode : GroupMemProtocol) (p : ProxyInstanceState α)

def ProxyInstanceState.register (calls : List Registration) : ProxyInstanceState α :=
  { p with registrations := p.registrations ++ calls }

def add_downstream (if_index : ℕ) (interf : Interface α) (cfg : Config) : ProxyInstanceState α :=
  match OrdMap.lookup p.m_downstreams if_index with
  | none =>
    let p :=
      if p.is_upstream if_index then p
      else p.register [add_vif if_index, registrate_interface if_index]
    { p with
      m_downstreams := p.m_downstreams.insert (if_index, ⟨new_querier cfg mode, interf⟩)
      configs := OrdMap.assign p.configs if_index cfg }
  | some _ => p

def del_downstream (if_index : ℕ) : ProxyInstanceState α :=
  match OrdMap.lookup p.m_downstreams if_index with
  | some _ =>
    let p :=
      if p.is_upstream if_index then p
      else p.register [del_vif if_index, del_interface if_index]
    { p with m_downstreams := p.m_downstreams.erase if_index }
  | none => p

-- The insertion into the set fails silently if the priority is taken.
def add_upstream (if_index : ℕ) (interf : Interface α) (upstream_priority : ℕ) :
    ProxyInstanceState α :=
  match p.m_upstreams.elems.find? (fun ui => ui.m_if_index == if_index) with
  | none =>
    let p :=
      if p.is_downstream if_index then p
      else p.register [add_vif if_index, registrate_interface if_index]
    { p with m_upstreams := p.m_upstreams.insert ⟨if_index, interf, upstream_priority⟩ }
  | some _ => p

def del_upstream (if_index : ℕ) : ProxyInstanceState α :=
  match p.m_upstreams.elems.find? (fun ui => ui.m_if_index == if_index) with
  | some ui =>
    let p :=
      if p.is_downstream if_index then p
      else p.register [del_vif if_index, del_interface if_index]
    { p with m_upstreams := p.m_upstreams.erase ui.m_priority }
  | none => p

def set_global_rule_binding : Option RuleBinding → ProxyInstanceState α
  | none => p
  | some rb =>
    if rb.m_rule_binding_type = RBT_RULE_MATCHING then
      if rb.m_interface_type = IT_UPSTREAM then
        match rb.m_filter_direction with
        | ID_IN => { p with m_upstream_input_rule := some rb }
        | ID_OUT => { p with m_upstream_output_rule := some rb }
        | ID_WILDCARD => p
      else p
    else p

def handle_config (clk : SteadyClock) : ConfigMsg α → ProxyInstanceState α
  | ADD_DOWNSTREAM if_index interf tv => add_downstream mode p if_index interf ⟨clk, tv⟩
  | DEL_DOWNSTREAM if_index => del_downstream p if_index
  | ADD_UPSTREAM if_index interf upstream_priority =>
    add_upstream p if_index interf upstream_priority
  | DEL_UPSTREAM if_index => del_upstream p if_index
  | SET_GLOBAL_RULE_BINDING rb => set_global_rule_binding p rb

end Config

section Worker

-- A message for an interface without querier is dropped.
def worker_step (mode : GroupMemProtocol) (p : ProxyInstanceState α) :
    InstanceMsg α → Except Fault (ProxyInstanceState α)
  | .config msg clk => .ok (handle_config mode p clk msg)
  | .querier if_index e =>
    match OrdMap.lookup p.m_downstreams if_index, OrdMap.lookup p.configs if_index with
    | some d, some cfg =>
      (querier_step cfg d.m_querier e).map fun q =>
        { p with m_downstreams := OrdMap.assign p.m_downstreams if_index { d with m_querier := q } }
    | _, _ => .ok p

-- Any message may come at any time; a timer can be one of a querier that is gone.
def proxy_instance (α : Type*) [LinearOrder α] (mode : GroupMemProtocol) :
    Machine (ProxyInstanceState α) (InstanceMsg α) Fault where
  start := { m_upstreams := ∅, m_downstreams := ∅ }
  enabled _ _ := True
  step := worker_step mode

instance (mode : GroupMemProtocol) (p : ProxyInstanceState α) (msg : InstanceMsg α) :
    Decidable ((proxy_instance α mode).enabled p msg) :=
  inferInstanceAs (Decidable True)

end Worker

section Invariant

-- No two upstreams share an interface index, and every querier is the querier of its link.
structure InstanceInv (pi : ProxyInstance α) : Prop where
  indexes : (pi.m_upstreams.elems.map UpstreamInfos.m_if_index).Nodup
  queriers : ∀ d ∈ pi.m_downstreams.elems, d.2.m_querier.m_db.is_querier = true

variable {pi : ProxyInstance α} {mode : GroupMemProtocol} {p p' : ProxyInstanceState α}

theorem InstanceInv.upstream_eq (h : InstanceInv pi) {u v : UpstreamInfos α}
    (hu : u ∈ pi.m_upstreams.elems) (hv : v ∈ pi.m_upstreams.elems)
    (heq : u.m_if_index = v.m_if_index) : u = v :=
  List.inj_on_of_nodup_map h.indexes hu hv heq

theorem InstanceInv.insert_downstream (h : InstanceInv pi) {d : ℕ × DownstreamInfos α}
    (hd : d.2.m_querier.m_db.is_querier = true) :
    InstanceInv { pi with m_downstreams := pi.m_downstreams.insert d } := by
  refine ⟨h.indexes, fun d' hd' => ?_⟩
  rcases OrdSet.mem_of_mem_insertList _ hd' with rfl | hd'
  · exact hd
  · exact h.queriers d' hd'

theorem InstanceInv.erase_downstream (h : InstanceInv pi) (if_index : ℕ) :
    InstanceInv { pi with m_downstreams := pi.m_downstreams.erase if_index } :=
  ⟨h.indexes, fun d hd => h.queriers d (List.mem_filter.mp hd).1⟩

theorem InstanceInv.insert_upstream (h : InstanceInv pi) {u : UpstreamInfos α}
    (hu : ∀ v ∈ pi.m_upstreams.elems, v.m_if_index ≠ u.m_if_index) :
    InstanceInv { pi with m_upstreams := pi.m_upstreams.insert u } := by
  refine ⟨?_, h.queriers⟩
  by_cases hp : u.m_priority ∈ pi.m_upstreams
  · rw [OrdSet.insert_of_mem hp]
    exact h.indexes
  · have hperm := (OrdSet.insert_perm hp).map UpstreamInfos.m_if_index
    rw [hperm.nodup_iff, List.map_cons, List.nodup_cons]
    refine ⟨fun hmem => ?_, h.indexes⟩
    obtain ⟨v, hv, heq⟩ := List.mem_map.mp hmem
    exact hu v hv heq

theorem InstanceInv.erase_upstream (h : InstanceInv pi) (priority : ℕ) :
    InstanceInv { pi with m_upstreams := pi.m_upstreams.erase priority } :=
  ⟨h.indexes.sublist (List.filter_sublist.map _), h.queriers⟩

theorem handle_config_inv (hinv : InstanceInv p.toProxyInstance) (clk : SteadyClock)
    (msg : ConfigMsg α) : InstanceInv (handle_config mode p clk msg).toProxyInstance := by
  cases msg with
  | ADD_DOWNSTREAM if_index interf tv =>
    simp only [handle_config, add_downstream]
    split
    · split_ifs <;> exact hinv.insert_downstream rfl
    · exact hinv
  | DEL_DOWNSTREAM if_index =>
    simp only [handle_config, del_downstream]
    split
    · split_ifs <;> exact hinv.erase_downstream if_index
    · exact hinv
  | ADD_UPSTREAM if_index interf upstream_priority =>
    simp only [handle_config, add_upstream]
    split
    · next hnone =>
      have hne : ∀ v ∈ p.m_upstreams.elems, v.m_if_index ≠ if_index := by
        simpa using List.find?_eq_none.mp hnone
      split_ifs <;> exact hinv.insert_upstream hne
    · exact hinv
  | DEL_UPSTREAM if_index =>
    simp only [handle_config, del_upstream]
    split
    · next ui _ => split_ifs <;> exact hinv.erase_upstream ui.m_priority
    · exact hinv
  | SET_GLOBAL_RULE_BINDING rb =>
    simp only [handle_config]
    unfold set_global_rule_binding
    split
    · exact hinv
    · split_ifs
      · split <;> exact hinv
      · exact hinv
      · exact hinv

theorem worker_step_inv (hinv : InstanceInv p.toProxyInstance) {msg : InstanceMsg α}
    (h : worker_step mode p msg = .ok p') : InstanceInv p'.toProxyInstance := by
  cases msg with
  | config msg clk => exact Except.ok.inj h ▸ handle_config_inv hinv clk msg
  | querier if_index e =>
    simp only [worker_step] at h
    split at h
    · next d cfg hd _ =>
      obtain ⟨q, hq, rfl⟩ := exists_of_map_ok h
      have hrole := (querier_step_role hq).1.trans (hinv.queriers _ (OrdMap.mem_of_lookup hd))
      exact (hinv.erase_downstream if_index).insert_downstream hrole
    · exact Except.ok.inj h ▸ hinv

theorem proxy_instance_inv (hp : (proxy_instance α mode).Reachable p) :
    InstanceInv p.toProxyInstance := by
  refine hp.invariant (fun p => InstanceInv p.toProxyInstance) ?_ ?_
  · exact ⟨List.nodup_nil, fun d hd => absurd hd List.not_mem_nil⟩
  · exact fun p msg p' hinv _ h => worker_step_inv hinv h

end Invariant

end Mcproxy
