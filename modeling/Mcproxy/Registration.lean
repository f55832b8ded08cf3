import Mcproxy.ProxyInstance

namespace Mcproxy

open Container Transition GroupMemProtocol

section Calls

open Registration

-- The calls for one interface: `true` adds it, `false` removes it.
def vif_calls (if_index : ℕ) (calls : List Registration) : List Bool :=
  calls.filterMap fun
    | add_vif i => if i = if_index then some true else none
    | del_vif i => if i = if_index then some false else none
    | _ => none

def receiver_calls (if_index : ℕ) (calls : List Registration) : List Bool :=
  calls.filterMap fun
    | registrate_interface i => if i = if_index then some true else none
    | del_interface i => if i = if_index then some false else none
    | _ => none

-- Calls that alternate, the first of which is `next`.
def alternate : (next : Bool) → List Bool → Prop
  | _, [] => True
  | next, c :: calls => c = next ∧ alternate (!next) calls

theorem alternate_append {next b : Bool} {calls : List Bool} :
    alternate next (calls ++ [b]) ↔ alternate next calls ∧ b = !calls.getLastD (!next) := by
  induction calls generalizing next with
  | nil => simp [alternate]
  | cons c calls ih =>
    rw [List.cons_append, alternate, alternate, ih, List.getLastD_cons, Bool.not_not, and_assoc]
    refine and_congr_right fun hc => ?_
    rw [hc]

end Calls

variable {α : Type*} [LinearOrder α] {mode : GroupMemProtocol} {p p' : ProxyInstanceState α}

section Follows

def ProxyInstanceState.used (p : ProxyInstanceState α) (if_index : ℕ) : Prop :=
  p.is_upstream if_index = true ∨ p.is_downstream if_index = true

-- The virtual interfaces and the receiver know the interfaces in use, and no virtual interface
-- is added or removed twice in a row.
structure RegistrationFollows (p : ProxyInstanceState α) : Prop where
  vif : ∀ i, (vif_calls i p.registrations).getLastD false = true ↔ p.used i
  receiver : ∀ i, (receiver_calls i p.registrations).getLastD false = true ↔ p.used i
  alternates : ∀ i, alternate true (vif_calls i p.registrations)

-- What a message can do to the interfaces in use and to the registrations.
inductive RegStep (p p' : ProxyInstanceState α) : Prop
  | keep (hused : ∀ i, p'.used i ↔ p.used i) (hreg : p'.registrations = p.registrations)
  | add (i : ℕ) (hnew : ¬p.used i) (hused : ∀ j, p'.used j ↔ p.used j ∨ j = i)
      (hreg : p'.registrations = p.registrations ++ [.add_vif i, .registrate_interface i])
  | del (i : ℕ) (hold : p.used i) (hused : ∀ j, p'.used j ↔ p.used j ∧ j ≠ i)
      (hreg : p'.registrations = p.registrations ++ [.del_vif i, .del_interface i])

-- A call added to the list of an interface.
def with_call (calls : List Bool) (b : Bool) (here : Bool) : List Bool :=
  if here then calls ++ [b] else calls

section Append

variable (i j : ℕ) (calls : List Registration)

theorem vif_calls_add : vif_calls j (calls ++ [.add_vif i, .registrate_interface i]) =
    with_call (vif_calls j calls) true (j = i) := by
  by_cases h : i = j <;> simp [vif_calls, with_call, h, eq_comm]

theorem vif_calls_del : vif_calls j (calls ++ [.del_vif i, .del_interface i]) =
    with_call (vif_calls j calls) false (j = i) := by
  by_cases h : i = j <;> simp [vif_calls, with_call, h, eq_comm]

theorem receiver_calls_add : receiver_calls j (calls ++ [.add_vif i, .registrate_interface i]) =
    with_call (receiver_calls j calls) true (j = i) := by
  by_cases h : i = j <;> simp [receiver_calls, with_call, h, eq_comm]

theorem receiver_calls_del : receiver_calls j (calls ++ [.del_vif i, .del_interface i]) =
    with_call (receiver_calls j calls) false (j = i) := by
  by_cases h : i = j <;> simp [receiver_calls, with_call, h, eq_comm]

end Append

theorem getLastD_with_call (calls : List Bool) (b here : Bool) :
    (with_call calls b here).getLastD false = if here then b else calls.getLastD false := by
  cases here <;> simp [with_call]

theorem alternate_with_call {calls : List Bool} {b : Bool} (h : alternate true calls)
    {here : Bool} (hb : here = true → b = !calls.getLastD false) :
    alternate true (with_call calls b here) := by
  cases here with
  | false => exact h
  | true => exact alternate_append.mpr ⟨h, hb rfl⟩

theorem RegStep.follows (hstep : RegStep p p') (h : RegistrationFollows p) :
    RegistrationFollows p' := by
  cases hstep with
  | keep hused hreg =>
    refine ⟨fun i => ?_, fun i => ?_, fun i => ?_⟩
    · rw [hreg, hused, h.vif]
    · rw [hreg, hused, h.receiver]
    · rw [hreg]
      exact h.alternates i
  | add i hnew hused hreg =>
    refine ⟨fun j => ?_, fun j => ?_, fun j => ?_⟩
    · rw [hreg, hused, vif_calls_add, getLastD_with_call, ← h.vif]
      by_cases hj : j = i <;> simp [hj]
    · rw [hreg, hused, receiver_calls_add, getLastD_with_call, ← h.receiver]
      by_cases hj : j = i <;> simp [hj]
    · rw [hreg, vif_calls_add]
      refine alternate_with_call (h.alternates j) fun hj => ?_
      obtain rfl : j = i := by simpa using hj
      have hlast := mt (h.vif j).mp hnew
      simpa using hlast
  | del i hold hused hreg =>
    refine ⟨fun j => ?_, fun j => ?_, fun j => ?_⟩
    · rw [hreg, hused, vif_calls_del, getLastD_with_call, ← h.vif]
      by_cases hj : j = i <;> simp [hj]
    · rw [hreg, hused, receiver_calls_del, getLastD_with_call, ← h.receiver]
      by_cases hj : j = i <;> simp [hj]
    · rw [hreg, vif_calls_del]
      refine alternate_with_call (h.alternates j) fun hj => ?_
      obtain rfl : j = i := by simpa using hj
      have hlast := (h.vif j).mpr hold
      simpa using hlast

end Follows

section Steps

open ConfigMsg

-- An upstream with a new interface needs a priority that is not taken.
def registers_cleanly (p : ProxyInstanceState α) : InstanceMsg α → Prop
  | .config (ADD_UPSTREAM if_index _ upstream_priority) _ =>
    p.used if_index ∨ upstream_priority ∉ p.m_upstreams
  | _ => True

instance (p : ProxyInstanceState α) (if_index : ℕ) : Decidable (p.used if_index) :=
  inferInstanceAs (Decidable (_ ∨ _))

instance (p : ProxyInstanceState α) (msg : InstanceMsg α) : Decidable (registers_cleanly p msg) :=
  match msg with
  | .config (ADD_UPSTREAM i _ upstream_priority) _ =>
    inferInstanceAs (Decidable (p.used i ∨ upstream_priority ∉ p.m_upstreams))
  | .config (ADD_DOWNSTREAM _ _ _) _ => inferInstanceAs (Decidable True)
  | .config (DEL_DOWNSTREAM _) _ => inferInstanceAs (Decidable True)
  | .config (DEL_UPSTREAM _) _ => inferInstanceAs (Decidable True)
  | .config (SET_GLOBAL_RULE_BINDING _) _ => inferInstanceAs (Decidable True)
  | .querier _ _ => inferInstanceAs (Decidable True)

-- The interfaces of the upstreams.
def up_indexes (pi : ProxyInstance α) : List ℕ :=
  pi.m_upstreams.elems.map UpstreamInfos.m_if_index

theorem is_upstream_iff {pi : ProxyInstance α} {i : ℕ} :
    pi.is_upstream i = true ↔ i ∈ up_indexes pi := by
  simp [ProxyInstance.is_upstream, up_indexes]

theorem is_downstream_iff {pi : ProxyInstance α} {i : ℕ} :
    pi.is_downstream i = true ↔ i ∈ pi.m_downstreams := by
  rw [ProxyInstance.is_downstream, OrdMap.lookup, Option.isSome_map]
  exact OrdSet.isSome_find

theorem used_iff {i : ℕ} : p.used i ↔ i ∈ up_indexes p.toProxyInstance ∨ i ∈ p.m_downstreams := by
  rw [ProxyInstanceState.used, is_upstream_iff, is_downstream_iff]

theorem mem_up_indexes_insert {pi : ProxyInstance α} {u : UpstreamInfos α}
    (h : u.m_priority ∉ pi.m_upstreams) (j : ℕ) :
    j ∈ up_indexes { pi with m_upstreams := pi.m_upstreams.insert u } ↔
      j ∈ up_indexes pi ∨ j = u.m_if_index := by
  rw [up_indexes, ((OrdSet.insert_perm h).map _).mem_iff, List.map_cons, List.mem_cons, or_comm]
  rfl

theorem mem_up_indexes_erase {pi : ProxyInstance α} (hinv : InstanceInv pi) {u : UpstreamInfos α}
    (hu : u ∈ pi.m_upstreams.elems) (j : ℕ) :
    j ∈ up_indexes { pi with m_upstreams := pi.m_upstreams.erase u.m_priority } ↔
      j ∈ up_indexes pi ∧ j ≠ u.m_if_index := by
  simp only [up_indexes, List.mem_map]
  constructor
  · rintro ⟨v, hv, rfl⟩
    obtain ⟨hmem, hne⟩ := List.mem_filter.mp hv
    refine ⟨⟨v, hmem, rfl⟩, fun heq => ?_⟩
    simp [hinv.upstream_eq hmem hu heq] at hne
  · rintro ⟨⟨v, hv, rfl⟩, hne⟩
    refine ⟨v, List.mem_filter.mpr ⟨hv, ?_⟩, rfl⟩
    have hprio : v.m_priority ≠ u.m_priority := fun h =>
      hne (pi.m_upstreams.eq_of_key_eq hv hu h ▸ rfl)
    simpa using hprio

section Roles

-- One role of the interfaces changes at `i`, the other one does not.
variable {R R' O : ℕ → Prop} {i : ℕ} (hused : ∀ j, p.used j ↔ R j ∨ O j)
  (hused' : ∀ j, p'.used j ↔ R' j ∨ O j)

include hused hused'

theorem RegStep.of_add (hR : ∀ j, R' j ↔ R j ∨ j = i) (hnew : ¬R i)
    (hother : O i → p'.registrations = p.registrations)
    (hfirst : ¬O i →
      p'.registrations = p.registrations ++ [.add_vif i, .registrate_interface i]) :
    RegStep p p' := by
  by_cases hO : O i
  · refine .keep (fun j => ?_) (hother hO)
    rw [hused, hused', hR]
    by_cases hj : j = i
    · simp [hj, hO]
    · simp [hj]
  · refine .add i ?_ (fun j => ?_) (hfirst hO)
    · rw [hused]
      exact not_or.mpr ⟨hnew, hO⟩
    · rw [hused, hused', hR, or_right_comm]

theorem RegStep.of_del (hR : ∀ j, R' j ↔ R j ∧ j ≠ i) (hold : R i)
    (hother : O i → p'.registrations = p.registrations)
    (hlast : ¬O i → p'.registrations = p.registrations ++ [.del_vif i, .del_interface i]) :
    RegStep p p' := by
  by_cases hO : O i
  · refine .keep (fun j => ?_) (hother hO)
    rw [hused, hused', hR]
    by_cases hj : j = i
    · simp [hj, hO]
    · simp [hj]
  · refine .del i ?_ (fun j => ?_) (hlast hO)
    · rw [hused]
      exact Or.inl hold
    · rw [hused, hused', hR]
      by_cases hj : j = i
      · simp [hj, hO]
      · simp [hj]

end Roles

variable (mode p)

theorem add_downstream_reg (i : ℕ) (interf : Interface α) (cfg : Config) :
    RegStep p (add_downstream mode p i interf cfg) := by
  unfold add_downstream
  split
  · next hnone =>
    have hnew : i ∉ p.m_downstreams := by
      rw [← is_downstream_iff]
      simp [ProxyInstance.is_downstream, hnone]
    by_cases hup : p.is_upstream i = true
    · simp only [if_pos hup]
      refine .of_add (fun j => used_iff.trans or_comm) (fun j => used_iff.trans or_comm)
        (fun j => ?_) hnew (fun _ => rfl) (fun hO => absurd (is_upstream_iff.mp hup) hO)
      rw [OrdSet.mem_insert, eq_comm]
    · simp only [if_neg hup]
      refine .of_add (fun j => used_iff.trans or_comm) (fun j => used_iff.trans or_comm)
        (fun j => ?_) hnew (fun hO => absurd (is_upstream_iff.mpr hO) hup) (fun _ => rfl)
      rw [OrdSet.mem_insert, eq_comm]
      rfl
  · exact .keep (fun _ => Iff.rfl) rfl

theorem del_downstream_reg (i : ℕ) : RegStep p (del_downstream p i) := by
  unfold del_downstream
  split
  · next d hsome =>
    have hold : i ∈ p.m_downstreams := by
      rw [← is_downstream_iff]
      simp [ProxyInstance.is_downstream, hsome]
    by_cases hup : p.is_upstream i = true
    · simp only [if_pos hup]
      refine .of_del (fun j => used_iff.trans or_comm) (fun j => used_iff.trans or_comm)
        (fun j => ?_) hold (fun _ => rfl) (fun hO => absurd (is_upstream_iff.mp hup) hO)
      rw [OrdSet.mem_erase, and_comm]
    · simp only [if_neg hup]
      refine .of_del (fun j => used_iff.trans or_comm) (fun j => used_iff.trans or_comm)
        (fun j => ?_) hold (fun hO => absurd (is_upstream_iff.mpr hO) hup) (fun _ => rfl)
      rw [OrdSet.mem_erase, and_comm]
      rfl
  · exact .keep (fun _ => Iff.rfl) rfl

variable {p}

theorem add_upstream_reg {i upstream_priority : ℕ} (interf : Interface α)
    (h : p.used i ∨ upstream_priority ∉ p.m_upstreams) :
    RegStep p (add_upstream p i interf upstream_priority) := by
  unfold add_upstream
  split
  · next hnone =>
    have hnew : i ∉ up_indexes p.toProxyInstance := by
      simpa [up_indexes] using hnone
    by_cases htaken : upstream_priority ∈ p.m_upstreams
    · -- The insertion fails, but the interface is a downstream and nothing is registered.
      have hdown : p.is_downstream i = true := by
        have hused := used_iff.mp (h.resolve_right (not_not.mpr htaken))
        exact is_downstream_iff.mpr (hused.resolve_left hnew)
      simp only [if_pos hdown]
      rw [OrdSet.insert_of_mem htaken]
      exact .keep (fun _ => Iff.rfl) rfl
    · have hins := mem_up_indexes_insert (u := ⟨i, interf, upstream_priority⟩) htaken
      by_cases hdown : p.is_downstream i = true
      · simp only [if_pos hdown]
        exact .of_add (fun _ => used_iff) (fun _ => used_iff) hins hnew (fun _ => rfl)
          (fun hO => absurd (is_downstream_iff.mp hdown) hO)
      · simp only [if_neg hdown]
        exact .of_add (fun _ => used_iff) (fun _ => used_iff) hins hnew
          (fun hO => absurd (is_downstream_iff.mpr hO) hdown) (fun _ => rfl)
  · exact .keep (fun _ => Iff.rfl) rfl

theorem del_upstream_reg (hinv : InstanceInv p.toProxyInstance) (i : ℕ) :
    RegStep p (del_upstream p i) := by
  unfold del_upstream
  split
  · next ui hsome =>
    have hmem := List.mem_of_find?_eq_some hsome
    obtain rfl : ui.m_if_index = i := by simpa using List.find?_some hsome
    have herase := mem_up_indexes_erase hinv hmem
    have hold : ui.m_if_index ∈ up_indexes p.toProxyInstance := List.mem_map_of_mem hmem
    by_cases hdown : p.is_downstream ui.m_if_index = true
    · simp only [if_pos hdown]
      exact .of_del (fun _ => used_iff) (fun _ => used_iff) herase hold (fun _ => rfl)
        (fun hO => absurd (is_downstream_iff.mp hdown) hO)
    · simp only [if_neg hdown]
      exact .of_del (fun _ => used_iff) (fun _ => used_iff) herase hold
        (fun hO => absurd (is_downstream_iff.mpr hO) hdown) (fun _ => rfl)
  · exact .keep (fun _ => Iff.rfl) rfl

theorem set_global_rule_binding_reg (rb : Option RuleBinding) :
    RegStep p (set_global_rule_binding p rb) := by
  unfold set_global_rule_binding
  split
  · exact .keep (fun _ => Iff.rfl) rfl
  · split_ifs
    · split <;> exact .keep (fun _ => Iff.rfl) rfl
    all_goals exact .keep (fun _ => Iff.rfl) rfl

theorem worker_step_reg (hinv : InstanceInv p.toProxyInstance) {msg : InstanceMsg α}
    (hclean : registers_cleanly p msg) (h : worker_step mode p msg = .ok p') : RegStep p p' := by
  cases msg with
  | config msg clk =>
    obtain rfl := Except.ok.inj h
    cases msg with
    | ADD_DOWNSTREAM i interf tv => exact add_downstream_reg mode p i interf ⟨clk, tv⟩
    | DEL_DOWNSTREAM i => exact del_downstream_reg p i
    | ADD_UPSTREAM i interf upstream_priority => exact add_upstream_reg interf hclean
    | DEL_UPSTREAM i => exact del_upstream_reg hinv i
    | SET_GLOBAL_RULE_BINDING rb => exact set_global_rule_binding_reg rb
  | querier i e =>
    simp only [worker_step] at h
    split at h
    · next d cfg hd _ =>
      obtain ⟨q, hq, rfl⟩ := exists_of_map_ok h
      refine .keep (fun j => ?_) rfl
      have hmem : i ∈ p.m_downstreams := is_downstream_iff.mp (by
        simp [ProxyInstance.is_downstream, hd])
      rw [used_iff, used_iff]
      refine or_congr Iff.rfl ?_
      rw [OrdMap.assign, OrdSet.mem_insert, OrdSet.mem_erase]
      by_cases hj : j = i
      · simp [hj, hmem]
      · simp [hj, Ne.symm hj]
    · exact Except.ok.inj h ▸ .keep (fun _ => Iff.rfl) rfl

-- The registrations are left with an interface that is not in use.
theorem not_follows_of_taken {i upstream_priority : ℕ} (interf : Interface α)
    (hnew : ¬p.used i) (htaken : upstream_priority ∈ p.m_upstreams) :
    ¬RegistrationFollows (add_upstream p i interf upstream_priority) := by
  have hup : i ∉ up_indexes p.toProxyInstance := fun h => hnew (used_iff.mpr (Or.inl h))
  have hdown : ¬p.is_downstream i = true := fun h =>
    hnew (used_iff.mpr (Or.inr (is_downstream_iff.mp h)))
  have hnone : p.m_upstreams.elems.find? (fun ui => ui.m_if_index == i) = none := by
    simpa [up_indexes] using hup
  intro hfol
  have hlast := hfol.vif i
  simp only [add_upstream, hnone, if_neg hdown] at hlast
  rw [OrdSet.insert_of_mem htaken] at hlast
  rw [ProxyInstanceState.register, vif_calls_add, getLastD_with_call] at hlast
  exact hnew (hlast.mp (by simp))

end Steps

section Run

theorem registration_follows_start : RegistrationFollows (proxy_instance α mode).start := by
  have hnone : ∀ i, ¬(proxy_instance α mode).start.used i := fun i h =>
    (used_iff.mp h).elim List.not_mem_nil (OrdSet.notMem_empty i)
  exact ⟨fun i => iff_of_false Bool.false_ne_true (hnone i),
    fun i => iff_of_false Bool.false_ne_true (hnone i), fun i => trivial⟩

theorem registration_follows_iff {msgs : List (InstanceMsg α)}
    (run : (proxy_instance α mode).Run msgs p) :
    (∀ msgs' p', msgs' <+: msgs → (proxy_instance α mode).Run msgs' p' →
        RegistrationFollows p') ↔
      ((proxy_instance α mode).restrict registers_cleanly).Run msgs p := by
  refine run.forall_iff_restrict registration_follows_start fun msgs p msg p' run hfol _ h => ?_
  have hinv := proxy_instance_inv run.reachable
  refine ⟨fun hfol' => ?_, fun hclean => (worker_step_reg mode hinv hclean h).follows hfol⟩
  by_contra hbad
  cases msg with
  | config msg clk =>
    cases msg with
    | ADD_UPSTREAM i interf upstream_priority =>
      obtain ⟨hnew, htaken⟩ := not_or.mp hbad
      obtain rfl := Except.ok.inj h
      exact not_follows_of_taken interf hnew (not_not.mp htaken) hfol'
    | _ => exact hbad trivial
  | querier => exact hbad trivial

-- An interface that comes in both roles and leaves one after the other.
theorem registration_follows_both_roles :
    ∃ p, (proxy_instance Ipv4Addr IGMPv3).Run
        [.config (.ADD_UPSTREAM 1 {} 0) ticking, .config (.ADD_DOWNSTREAM 1 {} {}) ticking,
          .config (.DEL_UPSTREAM 1) ticking, .config (.DEL_DOWNSTREAM 1) ticking] p ∧
      RegistrationFollows p := by
  obtain ⟨p, run, -⟩ := Machine.exists_run_of_exec
    ((proxy_instance Ipv4Addr IGMPv3).restrict registers_cleanly)
    [.config (.ADD_UPSTREAM 1 {} 0) ticking, .config (.ADD_DOWNSTREAM 1 {} {}) ticking,
      .config (.DEL_UPSTREAM 1) ticking, .config (.DEL_DOWNSTREAM 1) ticking] (fun _ => true) rfl
  exact ⟨p, run.of_restrict,
    (registration_follows_iff run.of_restrict).mpr run _ p List.prefix_rfl run.of_restrict⟩

-- The second interface has the priority of the first one: it is added and registrated, but is
-- in no set.
theorem taken_priority_leaves_registration :
    ∃ p, (proxy_instance Ipv4Addr IGMPv3).Run
        [.config (.ADD_UPSTREAM 1 {} 0) ticking, .config (.ADD_UPSTREAM 2 {} 0) ticking] p ∧
      (vif_calls 2 p.registrations).getLastD false = true ∧
      (receiver_calls 2 p.registrations).getLastD false = true ∧ ¬p.used 2 := by
  obtain ⟨p, run, hp⟩ := Machine.exists_run_of_exec (proxy_instance Ipv4Addr IGMPv3)
    [.config (.ADD_UPSTREAM 1 {} 0) ticking, .config (.ADD_UPSTREAM 2 {} 0) ticking]
    (fun p => (vif_calls 2 p.registrations).getLastD false = true ∧
      (receiver_calls 2 p.registrations).getLastD false = true ∧ ¬p.used 2) rfl
  exact ⟨p, run, by simpa using hp⟩

end Run

end Mcproxy
