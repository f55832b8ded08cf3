import Mcproxy.Interfaces
import Mcproxy.Startup

namespace Mcproxy

open Container

section Model

def INT_MAX : ℤ := 2 ^ 31 - 1

-- A `proxy_instance` as the loop makes it, with the messages it is given.
structure StartedInstance (α : Type*) where
  m_instance_name : String
  m_table_number : ℤ
  msgs : List (ConfigMsg α)

inductive StartFault
  | thrown (text : String)
  | overflow
  deriving DecidableEq, Repr

-- The counter is raised before it is set back for a single instance.
def next_table_number (size : ℕ) (table_number : ℤ) (pinstance : InstanceDefinition) :
    Except StartFault ℤ :=
  if !pinstance.m_user_selected_table_number then
    if INT_MAX ≤ table_number then .error .overflow
    else if size ≤ 1 then .ok 0
    else .ok (table_number + 1)
  else .ok pinstance.m_table_number

variable {α : Type*} (get_if_index : String → ℕ) (gts : GlobalTableSet) (storage : α → AddrStorage)

def start_instance (table_number : ℤ) (pinstance : InstanceDefinition) :
    Except StartFault (StartedInstance α) :=
  match start_msgs get_if_index gts storage pinstance with
  | .error e => .error (.thrown e)
  | .ok msgs => .ok ⟨pinstance.m_instance_name, table_number, msgs⟩

-- The loop, with the instances it has made so far. An instance whose number is taken does not get
-- into the map and is destroyed.
def start_instances (size : ℕ) : (table_number : ℤ) → List InstanceDefinition →
    List (StartedInstance α) → (m_proxy_instances : OrdMap ℤ (StartedInstance α)) →
    Except StartFault (List (StartedInstance α) × OrdMap ℤ (StartedInstance α))
  | _, [], made, m_proxy_instances => .ok (made, m_proxy_instances)
  | table_number, pinstance :: rest, made, m_proxy_instances =>
    match next_table_number size table_number pinstance with
    | .error e => .error e
    | .ok table_number =>
      match start_instance get_if_index gts storage table_number pinstance with
      | .error e => .error e
      | .ok pr_i =>
        start_instances size table_number rest (made ++ [pr_i])
          (m_proxy_instances.insert (table_number, pr_i))

def start_proxy_instances (inst_set : OrdSet InstanceDefinition.m_instance_name) :
    Except StartFault (List (StartedInstance α) × OrdMap ℤ (StartedInstance α)) :=
  start_instances get_if_index gts storage inst_set.elems.length 0 inst_set.elems [] ∅

end Model

section Numbers

-- The instances without a number of their own in front of the first that has one.
def automatic (insts : List InstanceDefinition) : ℕ :=
  (insts.takeWhile fun inst => !inst.m_user_selected_table_number).length

-- The first and the last number of every chosen number with the instances counted on from it.
def chosen_blocks : List InstanceDefinition → List (ℤ × ℤ)
  | [] => []
  | inst :: rest =>
    if inst.m_user_selected_table_number then
      (inst.m_table_number, inst.m_table_number + automatic rest) :: chosen_blocks rest
    else chosen_blocks rest

-- The same with those counted on from a number in front of all.
def blocks (table_number : ℤ) (insts : List InstanceDefinition) : List (ℤ × ℤ) :=
  (table_number + 1, table_number + automatic insts) :: chosen_blocks insts

-- A block is empty if it ends before it begins.
def InBlock (b : ℤ × ℤ) (x : ℤ) : Prop := b.1 ≤ x ∧ x ≤ b.2

def Apart (a b : ℤ × ℤ) : Prop := ∀ x, InBlock a x → ¬InBlock b x

theorem apart_iff {a b : ℤ × ℤ} :
    Apart a b ↔ a.2 < a.1 ∨ b.2 < b.1 ∨ a.2 < b.1 ∨ b.2 < a.1 := by
  simp only [Apart, InBlock]
  constructor
  · intro h
    by_contra hmeet
    exact h (max a.1 b.1) (by omega) (by omega)
  · intro h x hx hx'
    omega

instance : DecidableRel Apart := fun _ _ => decidable_of_iff _ apart_iff.symm

-- No two blocks have a number in common, and none is counted beyond the largest `int`.
structure SeparateBlocks (blocks : List (ℤ × ℤ)) : Prop where
  apart : blocks.Pairwise Apart
  no_overflow : ∀ b ∈ blocks, b.1 < b.2 → b.2 ≤ INT_MAX

-- What the loop numbers the instances with when there are several.
def number (table_number : ℤ) (inst : InstanceDefinition) : ℤ :=
  if inst.m_user_selected_table_number then inst.m_table_number else table_number + 1

def numbers : ℤ → List InstanceDefinition → List ℤ
  | _, [] => []
  | table_number, inst :: rest =>
    number table_number inst :: numbers (number table_number inst) rest

variable {inst : InstanceDefinition} {rest insts : List InstanceDefinition} {table_number : ℤ}

theorem automatic_of_chosen (h : inst.m_user_selected_table_number = true) :
    automatic (inst :: rest) = 0 := by
  simp [automatic, h]

theorem automatic_of_not_chosen (h : inst.m_user_selected_table_number = false) :
    automatic (inst :: rest) = automatic rest + 1 := by
  simp [automatic, h]

-- The blocks from an instance on, the first of which begins with its own number.
def blocks_from (u : ℤ) (rest : List InstanceDefinition) : List (ℤ × ℤ) :=
  (u, u + automatic rest) :: chosen_blocks rest

-- In front of a chosen number there is an empty block.
theorem blocks_cons :
    blocks table_number (inst :: rest) = blocks_from (number table_number inst) rest ∨
      blocks table_number (inst :: rest) =
        (table_number + 1, table_number) :: blocks_from (number table_number inst) rest := by
  cases h : inst.m_user_selected_table_number with
  | true =>
    right
    simp [blocks, blocks_from, chosen_blocks, automatic_of_chosen h, number, h]
  | false =>
    left
    simp only [blocks, blocks_from, chosen_blocks, automatic_of_not_chosen h, number, h]
    push_cast
    rw [add_right_comm table_number 1, ← add_assoc]

theorem inBlock_iff (u : ℤ) (k : ℕ) (x : ℤ) :
    InBlock (u, u + k) x ↔ x = u ∨ InBlock (u + 1, u + k) x := by
  simp only [InBlock]
  omega

theorem not_inBlock_empty (u x : ℤ) : ¬InBlock (u + 1, u) x := by
  simp only [InBlock]
  omega

def Covered (blocks : List (ℤ × ℤ)) (x : ℤ) : Prop := ∃ b ∈ blocks, InBlock b x

theorem covered_cons {b : ℤ × ℤ} {bs : List (ℤ × ℤ)} {x : ℤ} :
    Covered (b :: bs) x ↔ InBlock b x ∨ Covered bs x := by
  simp only [Covered, List.mem_cons, exists_eq_or_imp]

theorem covered_blocks_cons {x : ℤ} :
    Covered (blocks table_number (inst :: rest)) x ↔
      Covered (blocks_from (number table_number inst) rest) x := by
  obtain hblocks | hblocks := @blocks_cons inst rest table_number
  · rw [hblocks]
  · rw [hblocks, covered_cons]
    exact or_iff_right (not_inBlock_empty table_number x)

theorem apart_blocks_cons :
    (blocks table_number (inst :: rest)).Pairwise Apart ↔
      (blocks_from (number table_number inst) rest).Pairwise Apart := by
  obtain hblocks | hblocks := @blocks_cons inst rest table_number
  · rw [hblocks]
  · rw [hblocks, List.pairwise_cons]
    refine and_iff_right fun b _ x hx => ?_
    exact absurd hx (not_inBlock_empty table_number x)

theorem mem_numbers_iff {x : ℤ} :
    x ∈ numbers table_number insts ↔ Covered (blocks table_number insts) x := by
  induction insts generalizing table_number with
  | nil =>
    have hempty : blocks table_number [] = [(table_number + 1, table_number)] := by
      simp [blocks, automatic, chosen_blocks]
    rw [hempty, covered_cons, or_iff_right (not_inBlock_empty table_number x)]
    simp [numbers, Covered]
  | cons inst rest ih =>
    rw [numbers, List.mem_cons, ih, covered_blocks_cons, blocks, blocks_from, covered_cons,
      covered_cons, inBlock_iff, or_assoc]

-- The numbers are those of the blocks, so they are all different if the blocks are apart; the
-- induction moves the number of an instance from the list into its block.
theorem numbers_nodup_iff :
    (numbers table_number insts).Nodup ↔ (blocks table_number insts).Pairwise Apart := by
  induction insts generalizing table_number with
  | nil => simp [numbers, blocks, chosen_blocks]
  | cons inst rest ih =>
    rw [numbers, List.nodup_cons, ih, mem_numbers_iff, apart_blocks_cons]
    generalize number table_number inst = u
    have hself : ¬InBlock (u + 1, u + automatic rest) u := by
      simp only [InBlock]
      omega
    have hapart : ∀ b, Apart (u, u + automatic rest) b ↔
        ¬InBlock b u ∧ Apart (u + 1, u + automatic rest) b := by
      intro b
      simp only [Apart, inBlock_iff, or_imp, forall_and, forall_eq]
    rw [blocks, blocks_from, List.pairwise_cons, List.pairwise_cons, covered_cons,
      or_iff_right hself]
    simp only [hapart, Covered, not_exists, not_and, forall_and, and_assoc]

-- The counter is never raised beyond the largest `int`.
def CountsOn : ℤ → List InstanceDefinition → Prop
  | _, [] => True
  | table_number, inst :: rest =>
    (inst.m_user_selected_table_number = false → table_number < INT_MAX) ∧
      CountsOn (number table_number inst) rest

theorem counts_on_iff :
    CountsOn table_number insts ↔
      (automatic insts ≠ 0 → table_number + automatic insts ≤ INT_MAX) ∧
        ∀ b ∈ chosen_blocks insts, b.1 < b.2 → b.2 ≤ INT_MAX := by
  induction insts generalizing table_number with
  | nil => simp [CountsOn, automatic, chosen_blocks]
  | cons inst rest ih =>
    rw [CountsOn, ih, chosen_blocks]
    cases h : inst.m_user_selected_table_number with
    | true =>
      rw [automatic_of_chosen h, if_pos rfl, List.forall_mem_cons, number, if_pos h]
      have hblock : inst.m_table_number < inst.m_table_number + automatic rest ↔
          automatic rest ≠ 0 := by omega
      simp [hblock]
    | false =>
      rw [automatic_of_not_chosen h, if_neg Bool.false_ne_true, number, h,
        if_neg Bool.false_ne_true, ← and_assoc, forall_prop_of_true rfl]
      refine and_congr_left' ?_
      push_cast
      omega

theorem separate_blocks_iff :
    SeparateBlocks (blocks 0 insts) ↔ (numbers 0 insts).Nodup ∧ CountsOn 0 insts := by
  rw [numbers_nodup_iff, counts_on_iff]
  have hfirst : ((0 : ℤ) + 1 < 0 + automatic insts → 0 + (automatic insts : ℤ) ≤ INT_MAX) ↔
      (automatic insts ≠ 0 → 0 + (automatic insts : ℤ) ≤ INT_MAX) := by
    unfold INT_MAX
    omega
  constructor
  · rintro ⟨hapart, hover⟩
    obtain ⟨hover₀, hover⟩ := List.forall_mem_cons.mp hover
    exact ⟨hapart, hfirst.mp hover₀, hover⟩
  · rintro ⟨hapart, hover₀, hover⟩
    exact ⟨hapart, List.forall_mem_cons.mpr ⟨hfirst.mpr hover₀, hover⟩⟩

end Numbers

section Messages

variable {α : Type*} (get_if_index : String → ℕ) (gts : GlobalTableSet)
  (storage : α → AddrStorage)

theorem upstream_msgs_ok_iff (upstream_priority : ℕ) (upstreams : List InterfaceDefinition) :
    (∃ msgs, upstream_msgs get_if_index gts storage upstream_priority upstreams = .ok msgs) ↔
      ∀ u ∈ upstreams, get_if_index u.m_if_name ≠ 0 := by
  induction upstreams generalizing upstream_priority with
  | nil => exact iff_of_true ⟨[], rfl⟩ (by simp)
  | cons u upstreams ih =>
    rw [upstream_msgs, List.forall_mem_cons]
    by_cases hu : get_if_index u.m_if_name = 0
    · rw [if_pos hu]
      exact iff_of_false (by simp) fun h => h.1 hu
    · rw [if_neg hu, and_iff_right hu,
        ← ih ((upstream_priority + get_default_priority_interval) % 2 ^ 32)]
      cases upstream_msgs get_if_index gts storage _ upstreams with
      | error e =>
        refine iff_of_false ?_ (by simp)
        rintro ⟨_, hmsgs⟩
        cases hmsgs
      | ok msgs => exact iff_of_true ⟨_, rfl⟩ ⟨_, rfl⟩

theorem downstream_msgs_ok_iff (downstreams : List InterfaceDefinition) :
    (∃ msgs, downstream_msgs get_if_index gts storage downstreams = .ok msgs) ↔
      ∀ d ∈ downstreams, get_if_index d.m_if_name ≠ 0 := by
  induction downstreams with
  | nil => exact iff_of_true ⟨[], rfl⟩ (by simp)
  | cons d downstreams ih =>
    rw [downstream_msgs, List.forall_mem_cons]
    by_cases hd : get_if_index d.m_if_name = 0
    · rw [if_pos hd]
      exact iff_of_false (by simp) fun h => h.1 hd
    · rw [if_neg hd, and_iff_right hd, ← ih]
      cases downstream_msgs get_if_index gts storage downstreams with
      | error e =>
        refine iff_of_false ?_ (by simp)
        rintro ⟨_, hmsgs⟩
        cases hmsgs
      | ok msgs => exact iff_of_true ⟨_, rfl⟩ ⟨_, rfl⟩

-- Every interface of the instance has an index.
def InstanceDefinition.Found (get_if_index : String → ℕ) (inst : InstanceDefinition) : Prop :=
  ∀ interf ∈ inst.interfaces_to_add, get_if_index interf.m_if_name ≠ 0

-- What the loop makes of one instance, or that it leaves by an exception.
theorem start_instance_cases (table_number : ℤ) (inst : InstanceDefinition) :
    (inst.Found get_if_index ∧
      ∃ msgs, start_instance get_if_index gts storage table_number inst =
        .ok ⟨inst.m_instance_name, table_number, msgs⟩) ∨
    (¬ inst.Found get_if_index ∧
      ∃ e, start_instance get_if_index gts storage table_number inst = .error e) := by
  rw [InstanceDefinition.Found, InstanceDefinition.interfaces_to_add, List.forall_mem_append,
    ← upstream_msgs_ok_iff get_if_index gts storage 0 inst.m_upstreams,
    ← downstream_msgs_ok_iff get_if_index gts storage inst.m_downstreams, start_instance,
    start_msgs]
  cases upstream_msgs get_if_index gts storage 0 inst.m_upstreams with
  | error e =>
    right
    refine ⟨?_, _, rfl⟩
    rintro ⟨-, _, hup⟩
    cases hup
  | ok upstreams =>
    cases downstream_msgs get_if_index gts storage inst.m_downstreams with
    | error e =>
      right
      refine ⟨?_, _, rfl⟩
      rintro ⟨⟨_, hdown⟩, -⟩
      cases hdown
    | ok downstreams =>
      left
      exact ⟨⟨⟨_, rfl⟩, _, rfl⟩, _, rfl⟩

end Messages

section Tables

variable {α : Type*} (get_if_index : String → ℕ) (gts : GlobalTableSet)
  (storage : α → AddrStorage)

-- What the instances are put into the map as.
def entries (started : List (StartedInstance α)) : List (ℤ × StartedInstance α) :=
  started.map fun p => (p.m_table_number, p)

-- The loop gets to its end exactly if all interfaces are found and the counter does not overflow,
-- and then it has numbered the instances in their order.
theorem start_instances_cases {size : ℕ} (hsize : 1 < size) (table_number : ℤ)
    (insts : List InstanceDefinition) (made : List (StartedInstance α))
    (m_proxy_instances : OrdMap ℤ (StartedInstance α)) :
    ((∀ inst ∈ insts, inst.Found get_if_index) ∧ CountsOn table_number insts ∧
      ∃ started, start_instances get_if_index gts storage size table_number insts made
          m_proxy_instances = .ok (made ++ started, m_proxy_instances.insertAll (entries started)) ∧
        started.map (·.m_instance_name) = insts.map (·.m_instance_name) ∧
        started.map (·.m_table_number) = numbers table_number insts) ∨
    (¬ ((∀ inst ∈ insts, inst.Found get_if_index) ∧ CountsOn table_number insts) ∧
      ∃ e, start_instances get_if_index gts storage size table_number insts made
        m_proxy_instances = .error e) := by
  induction insts generalizing table_number made m_proxy_instances with
  | nil => exact .inl ⟨nofun, trivial, [], by rw [List.append_nil]; rfl, rfl, rfl⟩
  | cons inst rest ih =>
    rw [List.forall_mem_cons, CountsOn, start_instances]
    by_cases hover : inst.m_user_selected_table_number = false → table_number < INT_MAX
    · have hnext : next_table_number size table_number inst = .ok (number table_number inst) := by
        rw [next_table_number, number]
        cases h : inst.m_user_selected_table_number with
        | true => rfl
        | false =>
          rw [Bool.not_false, if_pos rfl, if_neg (not_le.mpr (hover h)), if_neg (by omega),
            if_neg Bool.false_ne_true]
      rw [hnext]
      obtain ⟨hfound, msgs, hstart⟩ | ⟨hfound, e, hstart⟩ :=
        start_instance_cases get_if_index gts storage (number table_number inst) inst
      · let pr_i : StartedInstance α := ⟨inst.m_instance_name, number table_number inst, msgs⟩
        simp only [hstart]
        obtain ⟨hrest, hcounts, started, hloop, hnames, hnumbers⟩ | ⟨hrest, hloop⟩ :=
          ih (number table_number inst) (made ++ [pr_i])
            (m_proxy_instances.insert (number table_number inst, pr_i))
        · refine .inl ⟨⟨hfound, hrest⟩, ⟨hover, hcounts⟩, pr_i :: started, ?_, ?_, ?_⟩
          · rw [hloop, List.append_assoc]
            rfl
          · rw [List.map_cons, hnames, List.map_cons]
          · rw [List.map_cons, hnumbers, numbers]
        · exact .inr ⟨fun h => hrest ⟨h.1.2, h.2.2⟩, hloop⟩
      · simp only [hstart]
        exact .inr ⟨fun h => hfound h.1.1, _, rfl⟩
    · have hnext : next_table_number size table_number inst = .error .overflow := by
        obtain ⟨hauto, hmax⟩ := Classical.not_imp.mp hover
        rw [next_table_number, hauto, Bool.not_false, if_pos rfl, if_pos (not_lt.mp hmax)]
      rw [hnext]
      exact .inr ⟨fun h => hover h.2.1, _, rfl⟩

-- Every instance is made, has a number that no other has, and is in the map under it.
structure OwnTables (insts : List InstanceDefinition)
    (r : List (StartedInstance α) × OrdMap ℤ (StartedInstance α)) : Prop where
  all_made : r.1.map (·.m_instance_name) = insts.map (·.m_instance_name)
  distinct : (r.1.map (·.m_table_number)).Nodup
  held : ∀ p ∈ r.1, OrdMap.lookup r.2 p.m_table_number = some p

-- Instances with different numbers all stay in the map.
theorem own_tables_iff_nodup {insts : List InstanceDefinition} {started : List (StartedInstance α)}
    (hnames : started.map (·.m_instance_name) = insts.map (·.m_instance_name)) :
    OwnTables insts (started, (∅ : OrdMap ℤ (StartedInstance α)).insertAll (entries started)) ↔
      (started.map (·.m_table_number)).Nodup := by
  refine ⟨OwnTables.distinct, fun hdistinct => ⟨hnames, hdistinct, fun p hp => ?_⟩⟩
  have hkeys : ((entries started).map Prod.fst).Nodup := by
    rw [entries, List.map_map]
    exact hdistinct
  have hperm := OrdSet.insertAll_perm hkeys fun x _ => OrdSet.notMem_empty x.1
  rw [OrdMap.lookup_eq_some_iff, hperm.mem_iff]
  exact List.mem_append_right _ (List.mem_map_of_mem hp)

theorem single_instance_starts_iff {insts : List InstanceDefinition} (hsize : insts.length ≤ 1) :
    (∃ r, start_instances get_if_index gts storage insts.length 0 insts [] ∅ = .ok r ∧
        OwnTables insts r) ↔
      ∀ inst ∈ insts, inst.Found get_if_index := by
  match insts, hsize with
  | [], _ => exact iff_of_true ⟨_, rfl, rfl, List.nodup_nil, nofun⟩ nofun
  | [inst], _ =>
    obtain ⟨number, hnext⟩ : ∃ number, next_table_number 1 0 inst = .ok number := by
      rw [next_table_number]
      cases inst.m_user_selected_table_number with
      | true => exact ⟨_, rfl⟩
      | false => exact ⟨0, rfl⟩
    rw [List.forall_mem_singleton, start_instances, List.length_singleton, hnext]
    obtain ⟨hfound, msgs, hstart⟩ | ⟨hfound, e, hstart⟩ :=
      start_instance_cases get_if_index gts storage number inst
    · simp only [hstart]
      let pr_i : StartedInstance α := ⟨inst.m_instance_name, number, msgs⟩
      have howns : OwnTables [inst] ([pr_i], OrdSet.insertAll ∅ (entries [pr_i])) :=
        (own_tables_iff_nodup rfl).mpr (List.nodup_singleton _)
      exact iff_of_true ⟨_, rfl, howns⟩ hfound
    · simp only [hstart]
      exact iff_of_false nofun hfound

-- Two or more instances get tables of their own exactly if the numbers chosen by the user and
-- those counted on from them, in the order of the names, do not meet.
theorem own_tables_iff (inst_set : OrdSet InstanceDefinition.m_instance_name) :
    (∃ r, start_proxy_instances get_if_index gts storage inst_set = .ok r ∧
        OwnTables inst_set.elems r) ↔
      (∀ inst ∈ inst_set.elems, inst.Found get_if_index) ∧
        (inst_set.elems.length ≤ 1 ∨ SeparateBlocks (blocks 0 inst_set.elems)) := by
  rw [start_proxy_instances]
  rcases Nat.lt_or_ge 1 inst_set.elems.length with hsize | hsize
  · rw [or_iff_right (not_le.mpr hsize), separate_blocks_iff]
    obtain ⟨hfound, hcounts, started, hloop, hnames, hnumbers⟩ | ⟨hfail, e, hloop⟩ :=
      start_instances_cases get_if_index gts storage hsize 0 inst_set.elems [] ∅
    · rw [hloop, and_iff_right hfound, and_iff_left hcounts, ← hnumbers,
        ← own_tables_iff_nodup hnames]
      constructor
      · rintro ⟨r, hr, howns⟩
        obtain rfl := Except.ok.inj hr
        exact howns
      · exact fun howns => ⟨_, rfl, howns⟩
    · rw [hloop]
      exact iff_of_false nofun fun h => hfail ⟨h.1, h.2.2⟩
  · rw [or_iff_left_of_imp fun _ => hsize, and_iff_left hsize]
    exact single_instance_starts_iff get_if_index gts storage hsize

-- An instance without a number and one that has chosen the first number, in this order.
def counted_and_chosen : OrdSet InstanceDefinition.m_instance_name where
  elems :=
    [{ m_instance_name := "a", m_downstreams := [{ m_if_name := "eth0" }] },
      { m_instance_name := "b", m_downstreams := [{ m_if_name := "eth0" }],
        m_table_number := 1, m_user_selected_table_number := true }]
  sorted := List.pairwise_pair.mpr (String.lt_iff_toList_lt.mpr (by decide))

-- The first is counted to the number that the second has chosen, and only the first is kept.
theorem chosen_table_is_taken :
    ∃ r : List (StartedInstance AddrStorage) × OrdMap ℤ (StartedInstance AddrStorage),
      start_proxy_instances (fun _ => 2) [] id counted_and_chosen = .ok r ∧
      r.1.map (fun p => (p.m_instance_name, p.m_table_number)) = [("a", 1), ("b", 1)] ∧
      r.2.elems.map (fun p => (p.1, p.2.m_instance_name)) = [(1, "a")] :=
  ⟨_, rfl, rfl, rfl⟩

end Tables

end Mcproxy
