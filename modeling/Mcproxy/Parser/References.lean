import Mathlib.Logic.Relation
import Mcproxy.Parser.Meaning

namespace Mcproxy

open TokenType ParserType RbInterfaceType RbInterfaceDirection Transition

section Matching

-- What keeps `match` from an answer: the branch of a name that is not there, in which the code
-- returns false, and references without an end.
inductive MatchFault
  | table_not_found (table_name : String)
  | out_of_fuel
  deriving DecidableEq, Repr

abbrev TableRun := String → AddrStorage → AddrStorage → Except MatchFault Bool

section Boxes

variable (ref : String → TableRun)

mutual

def RuleBox.run : RuleBox → TableRun
  | .rule_addr m_if_name m_group m_source, if_name, gaddr, saddr =>
    if m_if_name = "" then .ok (m_group.match gaddr && m_source.match saddr)
    else .ok (m_if_name == if_name && m_group.match gaddr && m_source.match saddr)
  | .rule_table _ m_rule_box_list, if_name, gaddr, saddr =>
    run_boxes m_rule_box_list if_name gaddr saddr
  | .rule_table_ref m_table_name, if_name, gaddr, saddr => ref m_table_name if_name gaddr saddr

-- The boxes behind the first that matches are not asked.
def run_boxes : List RuleBox → TableRun
  | [], _, _, _ => .ok false
  | e :: m_rule_box_list, if_name, gaddr, saddr =>
    match e.run if_name gaddr saddr with
    | .error fault => .error fault
    | .ok true => .ok true
    | .ok false => run_boxes m_rule_box_list if_name gaddr saddr

end

end Boxes

variable (gts : GlobalTableSet)

-- `rule_table_ref::match`, which may make as many calls of itself as it needs.
def run_ref : (fuel : ℕ) → String → TableRun
  | 0, _, _, _, _ => .error .out_of_fuel
  | fuel + 1, table_name, if_name, gaddr, saddr =>
    match gts.get_table table_name with
    | none => .error (.table_not_found table_name)
    | some t => run_boxes (run_ref fuel) t.m_rule_box_list if_name gaddr saddr

def Table.run (fuel : ℕ) (t : Table) : TableRun := run_boxes (run_ref gts fuel) t.m_rule_box_list

end Matching

section References

-- The names a box refers to, those inside inner tables included.
mutual

def RuleBox.refs : RuleBox → List String
  | .rule_addr _ _ _ => []
  | .rule_table _ m_rule_box_list => refs_of m_rule_box_list
  | .rule_table_ref m_table_name => [m_table_name]

def refs_of : List RuleBox → List String
  | [] => []
  | e :: m_rule_box_list => e.refs ++ refs_of m_rule_box_list

end

def Resolved (gts : GlobalTableSet) (t : Table) : Prop :=
  ∀ name ∈ refs_of t.m_rule_box_list, (gts.get_table name).isSome = true

-- The table of the first name has a reference to the second.
def RefersTo (gts : GlobalTableSet) (table_name name : String) : Prop :=
  ∃ t, gts.get_table table_name = some t ∧ name ∈ refs_of t.m_rule_box_list

-- Every table has a new name and refers to older tables only.
inductive Grounded : GlobalTableSet → Prop
  | nil : Grounded []
  | cons {t : Table} {gts : GlobalTableSet} (h : Grounded gts)
      (hnew : gts.get_table t.m_name = none) (hrefs : Resolved gts t) : Grounded (t :: gts)

-- The number of tables up to the one of that name, counted from the oldest.
def rank : GlobalTableSet → String → ℕ
  | [], _ => 0
  | t :: gts, name => if t.m_name = name then gts.length + 1 else rank gts name

variable {gts : GlobalTableSet} {t : Table} {name : String}

theorem rank_le_length (gts : GlobalTableSet) (name : String) : rank gts name ≤ gts.length := by
  induction gts with
  | nil => exact le_rfl
  | cons t gts ih =>
    rw [rank, List.length_cons]
    split_ifs
    · exact le_rfl
    · omega

theorem get_table_isSome_cons (h : (gts.get_table name).isSome = true) (t : Table) :
    (GlobalTableSet.get_table (t :: gts) name).isSome = true := by
  rw [get_table_cons]
  split_ifs
  · rfl
  · exact h

theorem Resolved.cons (h : Resolved gts t) (t' : Table) : Resolved (t' :: gts) t :=
  fun name hname => get_table_isSome_cons (h name hname) t'

theorem Grounded.resolved (h : Grounded gts) : ∀ t ∈ gts, Resolved gts t := by
  induction h with
  | nil => exact nofun
  | @cons t gts _ _ hrefs ih =>
    intro t' ht'
    rcases List.mem_cons.mp ht' with rfl | ht'
    · exact hrefs.cons t'
    · exact (ih t' ht').cons t

theorem get_table_mem (h : gts.get_table name = some t) : t ∈ gts := List.mem_of_find?_eq_some h

-- A name that is found among the older tables is not that of the newest.
theorem rank_cons_of_isSome (hnew : gts.get_table t.m_name = none)
    (h : (gts.get_table name).isSome = true) : rank (t :: gts) name = rank gts name := by
  rw [rank, if_neg]
  rintro rfl
  simp [hnew] at h

theorem rank_pos (h : (gts.get_table name).isSome = true) : 0 < rank gts name := by
  induction gts with
  | nil => cases h
  | cons t gts ih =>
    rw [get_table_cons] at h
    rw [rank]
    split_ifs at h ⊢
    · exact Nat.succ_pos _
    · exact ih h

theorem Grounded.rank_lt (h : Grounded gts) {table_name : String}
    (hr : RefersTo gts table_name name) : rank gts name < rank gts table_name := by
  induction h with
  | nil =>
    obtain ⟨t, ht, -⟩ := hr
    cases ht
  | @cons t gts hgrounded hnew hrefs ih =>
    obtain ⟨t', ht', hname⟩ := hr
    rw [get_table_cons] at ht'
    split_ifs at ht' with heq
    · obtain rfl := Option.some.inj ht'
      rw [rank_cons_of_isSome hnew (hrefs name hname), rank, if_pos heq]
      exact Nat.lt_succ_of_le (rank_le_length gts name)
    · have hold : (gts.get_table name).isSome = true :=
        hgrounded.resolved t' (get_table_mem ht') name hname
      rw [rank_cons_of_isSome hnew hold, rank, if_neg heq]
      exact ih ⟨t', ht', hname⟩

theorem Grounded.rank_lt_of_path (h : Grounded gts) {table_name : String}
    (hpath : Relation.TransGen (RefersTo gts) table_name name) :
    rank gts name < rank gts table_name := by
  induction hpath with
  | single hr => exact h.rank_lt hr
  | tail _ hr ih => exact (h.rank_lt hr).trans ih

end References

section Ends

variable {gts : GlobalTableSet} {t : Table} {if_name : String} {gaddr saddr : AddrStorage}

-- The run of a box ends with the answer that the references inside it give.
mutual

theorem RuleBox.run_ok {ref : String → TableRun} {answer : String → TableFilter} :
    (box : RuleBox) → (∀ name ∈ box.refs,
      ref name if_name gaddr saddr = .ok (answer name if_name gaddr saddr)) →
    box.run ref if_name gaddr saddr = .ok (box.match answer if_name gaddr saddr)
  | .rule_addr m_if_name _ _, _ => by
    rw [RuleBox.run, RuleBox.match]
    split_ifs <;> rfl
  | .rule_table _ m_rule_box_list, h => by
    rw [RuleBox.run, RuleBox.match]
    rw [RuleBox.refs] at h
    exact run_boxes_ok m_rule_box_list h
  | .rule_table_ref m_table_name, h => by
    rw [RuleBox.run, RuleBox.match]
    rw [RuleBox.refs] at h
    exact h m_table_name (List.mem_singleton_self _)

theorem run_boxes_ok {ref : String → TableRun} {answer : String → TableFilter} :
    (boxes : List RuleBox) → (∀ name ∈ refs_of boxes,
      ref name if_name gaddr saddr = .ok (answer name if_name gaddr saddr)) →
    run_boxes ref boxes if_name gaddr saddr = .ok (match_boxes answer boxes if_name gaddr saddr)
  | [], _ => by rw [run_boxes, match_boxes]
  | box :: boxes, h => by
    rw [refs_of, List.forall_mem_append] at h
    rw [run_boxes, match_boxes, box.run_ok h.1]
    cases box.match answer if_name gaddr saddr with
    | true => rfl
    | false => exact run_boxes_ok boxes h.2

end

-- The answer of a reference does not depend on the fuel, as soon as there is one for each table up
-- to the one it names: those it refers to have a smaller rank.
theorem Grounded.run_ref_ok (h : Grounded gts) {name : String}
    (hname : (gts.get_table name).isSome = true) {fuel depth : ℕ} (hfuel : rank gts name ≤ fuel)
    (hdepth : rank gts name ≤ depth) :
    run_ref gts fuel name if_name gaddr saddr =
      .ok (gts.match_ref depth name if_name gaddr saddr) := by
  have hpos := rank_pos hname
  induction fuel generalizing name depth with
  | zero => omega
  | succ fuel ih =>
    cases depth with
    | zero => omega
    | succ depth =>
      obtain ⟨t, ht⟩ := Option.isSome_iff_exists.mp hname
      rw [run_ref, GlobalTableSet.match_ref, ht]
      refine run_boxes_ok t.m_rule_box_list fun name' hname' => ?_
      have hfound : (gts.get_table name').isSome = true :=
        h.resolved t (get_table_mem ht) name' hname'
      have hlt : rank gts name' < rank gts name := h.rank_lt ⟨t, ht, hname'⟩
      exact ih hfound (by omega) (by omega) (rank_pos hfound)

theorem Grounded.table_run_ok (h : Grounded gts) (ht : Resolved gts t) {fuel : ℕ}
    (hfuel : gts.length ≤ fuel) (if_name : String) (gaddr saddr : AddrStorage) :
    t.run gts fuel if_name gaddr saddr = .ok (t.match gts if_name gaddr saddr) :=
  run_boxes_ok t.m_rule_box_list fun name hname =>
    h.run_ref_ok (ht name hname) ((rank_le_length gts name).trans hfuel) (rank_le_length gts name)

end Ends

section Parsed

variable {pton : InetPton} {gmp : GroupMemProtocol} {gts : GlobalTableSet}

-- The boxes made of a text refer to what the text refers to.
mutual

theorem Rule.refs_rule_box (gmp : GroupMemProtocol) : (r : Rule) → (r.rule_box gmp).refs = r.refs
  | .addr _ _ _ => by rw [Rule.rule_box, RuleBox.refs, Rule.refs]
  | .table _ t => by rw [Rule.rule_box, RuleBox.refs, Rule.refs, t.refs_rule_boxes]

theorem TableText.refs_rule_boxes (gmp : GroupMemProtocol) :
    (t : TableText) → refs_of (t.rule_boxes gmp) = t.refs
  | .rules _ rules => by rw [TableText.rule_boxes, TableText.refs, refs_of_rule_boxes gmp rules]
  | .ref _ => by
    rw [TableText.rule_boxes, TableText.refs, refs_of, refs_of, List.append_nil, RuleBox.refs]

theorem refs_of_rule_boxes (gmp : GroupMemProtocol) :
    (rules : List Rule) → refs_of (rule_boxes_of gmp rules) = refs_of_rules rules
  | [] => by rw [rule_boxes_of, refs_of, refs_of_rules]
  | r :: rules => by
    rw [rule_boxes_of, refs_of, refs_of_rules, r.refs_rule_box, refs_of_rule_boxes gmp rules]

end

theorem WritesTable.resolved {text : TableText} {l : List Token}
    (h : WritesTable pton gmp gts text l) : Resolved gts (text.table gmp) :=
  fun name hname => h.refs_resolved name (text.refs_rule_boxes gmp ▸ hname)

theorem parse_table_resolved {toks rest : List Token} {t : Table} (hp : Plain toks)
    (h : parse_table pton gmp gts toks = .ok (t, rest)) : Resolved gts t := by
  obtain ⟨text, htext, rfl, -⟩ := exists_text hp h
  exact htext.resolved

theorem Grounded.add_table (h : Grounded gts) {toks : List Token} (hp : Plain toks)
    {gts' : GlobalTableSet} (hadd : add_table pton gmp gts toks = .ok gts') :
    ∃ t, gts' = t :: gts ∧ Grounded gts' := by
  obtain ⟨text, htext, hnew, rfl⟩ := add_table_eq_ok hp hadd
  exact ⟨text.table gmp, rfl, h.cons hnew htext.resolved⟩

end Parsed

section Bindings

-- The tables of the filters that are bound.
def InterfaceDefinition.tables (interf : InterfaceDefinition) : List Table :=
  (interf.m_input_filter.bind (·.m_table)).toList ++
    (interf.m_output_filter.bind (·.m_table)).toList

def InstanceDefinition.tables (inst : InstanceDefinition) : List Table :=
  (inst.m_upstreams ++ inst.m_downstreams).flatMap InterfaceDefinition.tables

def InstDefSet.tables (ids : InstDefSet) : List Table := ids.flatMap InstanceDefinition.tables

variable {head : BindingHead} {rb : FilterBinding} {ids ids' : InstDefSet} {t : Table}

theorem InstanceDefinition.mem_tables {inst : InstanceDefinition} :
    t ∈ inst.tables ↔ t ∈ inst.m_upstreams.flatMap InterfaceDefinition.tables ∨
      t ∈ inst.m_downstreams.flatMap InterfaceDefinition.tables := by
  rw [InstanceDefinition.tables, List.flatMap_append, List.mem_append]

theorem bind_filter_tables {interfs interfs' : List InterfaceDefinition}
    (h : bind_filter head rb interfs = .ok interfs')
    (ht : t ∈ interfs'.flatMap InterfaceDefinition.tables) :
    t ∈ interfs.flatMap InterfaceDefinition.tables ∨ rb.m_table = some t := by
  induction interfs generalizing interfs' with
  | nil => cases h
  | cons interf rest ih =>
    rw [List.flatMap_cons, List.mem_append]
    by_cases hname : interf.m_if_name = head.if_name
    · rw [bind_filter, if_pos hname] at h
      cases hdir : head.filter_direction with
      | ID_IN =>
        cases hfilter : interf.m_input_filter with
        | some _ => simp [hdir, hfilter, failed] at h
        | none =>
          simp only [hdir, hfilter, Option.isNone_none, if_true] at h
          obtain rfl := Except.ok.inj h
          simp [InterfaceDefinition.tables, hfilter] at ht ⊢
          exact ht.symm
      | ID_OUT =>
        cases hfilter : interf.m_output_filter with
        | some _ => simp [hdir, hfilter, failed] at h
        | none =>
          simp only [hdir, hfilter, Option.isNone_none, if_true] at h
          obtain rfl := Except.ok.inj h
          simp [InterfaceDefinition.tables, hfilter] at ht ⊢
          rcases ht with ht | ht | ht
          · exact .inl (.inl ht)
          · exact .inr ht
          · exact .inl (.inr ht)
      | ID_WILDCARD => simp [hdir, failed] at h
    · rw [bind_filter, if_neg hname] at h
      obtain ⟨rest', hrest, rfl⟩ := exists_of_map_ok h
      rw [List.flatMap_cons, List.mem_append] at ht
      rcases ht with ht | ht
      · exact .inl (.inl ht)
      · exact (ih hrest ht).imp_left .inr

theorem InstDefSet.update_tables {id : InstanceDefinition}
    (ht : t ∈ InstDefSet.tables (InstDefSet.update ids id)) :
    t ∈ InstDefSet.tables ids ∨ t ∈ id.tables := by
  obtain ⟨e, he, hte⟩ := List.mem_flatMap.mp ht
  obtain ⟨e', he', rfl⟩ := List.mem_map.mp he
  split_ifs at hte
  · exact .inr hte
  · exact .inl (List.mem_flatMap.mpr ⟨e', he', hte⟩)

theorem InstDefSet.tables_of_find {id : InstanceDefinition} {name : String}
    (h : InstDefSet.find ids name = some id) (ht : t ∈ id.tables) : t ∈ InstDefSet.tables ids :=
  List.mem_flatMap.mpr ⟨id, List.mem_of_find?_eq_some h, ht⟩

variable {pton : InetPton} {gmp : GroupMemProtocol} {gts : GlobalTableSet} {toks : List Token}

theorem bind_table_tables {filter_type : RbFilterType} (hp : Plain toks)
    (h : bind_table pton gts gmp ids head toks filter_type = .ok ids')
    (ht : t ∈ InstDefSet.tables ids') : t ∈ InstDefSet.tables ids ∨ Resolved gts t := by
  unfold bind_table at h
  obtain ⟨⟨filter_table, rest⟩, hparse, h⟩ := exists_of_bind_ok h
  have hresolved : Resolved gts filter_table := parse_table_resolved hp hparse
  -- what the changed list of interfaces adds is the new filter
  have hnew : ∀ {interfs interfs' : List InterfaceDefinition},
      bind_filter head ⟨filter_type, some filter_table⟩ interfs = .ok interfs' →
      t ∈ interfs'.flatMap InterfaceDefinition.tables →
      t ∈ interfs.flatMap InterfaceDefinition.tables ∨ Resolved gts t := by
    intro interfs interfs' hbind hmem
    refine (bind_filter_tables hbind hmem).imp_right fun htable => ?_
    obtain rfl := Option.some.inj htable
    exact hresolved
  cases hrest : current rest with
  | TT_NIL =>
    cases hfind : InstDefSet.find ids head.instance_name with
    | none => simp [hrest, hfind, failed] at h
    | some id =>
      have hold : t ∈ id.tables → t ∈ InstDefSet.tables ids := InstDefSet.tables_of_find hfind
      rw [InstanceDefinition.mem_tables] at hold
      simp only [hrest, hfind] at h
      cases htype : head.interface_type with
      | IT_UPSTREAM =>
        simp only [htype] at h
        obtain ⟨upstreams, hbind, h⟩ := exists_of_bind_ok h
        obtain rfl := Except.ok.inj h
        rcases InstDefSet.update_tables ht with ht | ht
        · exact .inl ht
        · rcases InstanceDefinition.mem_tables.mp ht with ht | ht
          · exact (hnew hbind ht).imp_left fun hmem => hold (.inl hmem)
          · exact .inl (hold (.inr ht))
      | IT_DOWNSTREAM =>
        simp only [htype] at h
        obtain ⟨downstreams, hbind, h⟩ := exists_of_bind_ok h
        obtain rfl := Except.ok.inj h
        rcases InstDefSet.update_tables ht with ht | ht
        · exact .inl ht
        · rcases InstanceDefinition.mem_tables.mp ht with ht | ht
          · exact .inl (hold (.inl ht))
          · exact (hnew hbind ht).imp_left fun hmem => hold (.inr hmem)
  | _ => simp [hrest, failed] at h

theorem rule_match_binding_tables
    (h : parse_interface_rule_match_binding ids head toks = .ok ids')
    (ht : t ∈ InstDefSet.tables ids') : t ∈ InstDefSet.tables ids := by
  unfold parse_interface_rule_match_binding at h
  obtain ⟨⟨rule_matching_type, timeout, rest⟩, -, h⟩ := exists_of_bind_ok h
  cases hrest : current rest with
  | TT_NIL =>
    cases hfind : InstDefSet.find ids head.instance_name with
    | none => simp [hrest, hfind, failed] at h
    | some id =>
      simp only [hrest, hfind] at h
      obtain rfl := Except.ok.inj h
      rcases InstDefSet.update_tables ht with ht | ht
      · exact ht
      · exact InstDefSet.tables_of_find hfind ht
  | _ => simp [hrest, failed] at h

theorem parse_binding_head_suffix {rest : List Token}
    (h : parse_binding_head ids toks = .ok (head, rest)) : rest = toks.tail.tail.tail.tail := by
  unfold parse_binding_head at h
  split_ifs at h
  · obtain ⟨interface_type, -, h⟩ := exists_of_bind_ok h
    obtain ⟨if_name, -, h⟩ := exists_of_bind_ok h
    obtain ⟨filter_direction, -, h⟩ := exists_of_bind_ok h
    exact (congrArg Prod.snd (Except.ok.inj h)).symm
  · cases h

theorem rule_binding_tables (hp : Plain toks)
    (h : parse_interface_rule_binding pton gts gmp ids toks = .ok ids')
    (ht : t ∈ InstDefSet.tables ids') : t ∈ InstDefSet.tables ids ∨ Resolved gts t := by
  unfold parse_interface_rule_binding at h
  obtain ⟨type, -, h⟩ := exists_of_bind_ok h
  split_ifs at h
  · obtain ⟨⟨head, rest⟩, hhead, h⟩ := exists_of_bind_ok h
    obtain rfl := parse_binding_head_suffix hhead
    have hp' := hp.tail.tail.tail.tail.tail
    generalize toks.tail.tail.tail.tail.tail = rest at h hp'
    have hbinding : ∀ {ids'}, parse_interface_table_binding pton gts gmp ids head rest = .ok ids' →
        t ∈ InstDefSet.tables ids' → t ∈ InstDefSet.tables ids ∨ Resolved gts t := by
      intro ids' h ht
      unfold parse_interface_table_binding at h
      split at h
      · exact bind_table_tables hp'.tail h ht
      · exact bind_table_tables hp'.tail h ht
      · cases h
    dsimp only at h
    split at h
    · exact hbinding h ht
    · exact hbinding h ht
    · exact .inl (rule_match_binding_tables h ht)
    · cases h
  · cases h

theorem parse_interfaces_tables (toks : List Token) :
    (parse_interfaces toks).1.flatMap InterfaceDefinition.tables = [] := by
  rw [parse_interfaces, List.flatMap_map]
  exact List.flatMap_eq_nil_iff.mpr fun _ _ => rfl

-- A new instance has no filters yet.
theorem instance_definition_tables (h : parse_instance_definition ids toks = .ok ids') :
    InstDefSet.tables ids' = InstDefSet.tables ids := by
  unfold parse_instance_definition at h
  split at h
  · cases h
  · split_ifs at h
    · split at h
      · cases h
      · next table_number rest _ =>
        simp only at h
        split_ifs at h
        · split at h
          · cases h
          · next ids₁ hins =>
            obtain rfl := Except.ok.inj h
            unfold InstDefSet.insert at hins
            split_ifs at hins
            obtain rfl := Option.some.inj hins
            rw [InstDefSet.tables, List.flatMap_append, List.flatMap_singleton,
              InstanceDefinition.tables, List.flatMap_append, parse_interfaces_tables,
              parse_interfaces_tables, List.append_nil, List.append_nil]
            rfl
        all_goals cases h
    · cases h

end Bindings

section Configuration

variable {pton : InetPton} {c c' : Configuration}

-- The tables of a configuration: the global ones and those of the bound filters.
def Configuration.tables (c : Configuration) : List Table :=
  c.m_global_table_set ++ InstDefSet.tables c.m_inst_def_set

structure ConfigurationOk (c : Configuration) : Prop where
  grounded : Grounded c.m_global_table_set
  bound : ∀ t ∈ InstDefSet.tables c.m_inst_def_set, Resolved c.m_global_table_set t

theorem ConfigurationOk.run_command (h : ConfigurationOk c) {cmd : String}
    (hcmd : run_command pton c cmd = .ok c') : ConfigurationOk c' := by
  obtain ⟨toks, htoks, hstep⟩ := run_command_step hcmd
  have hp := parser_tokens_plain htoks
  cases hstep with
  | protocol => exact ⟨h.grounded, h.bound⟩
  | instance_definition hids =>
    exact ⟨h.grounded, (instance_definition_tables hids).symm ▸ h.bound⟩
  | table hgts =>
    obtain ⟨t, rfl, hgrounded⟩ := h.grounded.add_table hp hgts
    exact ⟨hgrounded, fun t' ht' => (h.bound t' ht').cons t⟩
  | rule_binding hids =>
    exact ⟨h.grounded, fun t ht => (rule_binding_tables hp hids ht).elim (h.bound t) id⟩

theorem ConfigurationOk.run_parser_cmds (h : ConfigurationOk c) {cmds : List String}
    (hcmds : run_parser_cmds pton c cmds = .ok c') : ConfigurationOk c' := by
  induction cmds generalizing c with
  | nil => exact Except.ok.inj hcmds ▸ h
  | cons cmd cmds ih =>
    obtain ⟨c₁, hcmd, hrest⟩ := run_parser_cmds_cons hcmds
    exact ih (h.run_command hcmd) hrest

-- Every reference leads to a table, no way along references comes back to where it was, and so
-- matching ends with an answer.
structure ReferencesOk (c : Configuration) : Prop where
  resolved : ∀ t ∈ c.tables, Resolved c.m_global_table_set t
  no_cycle : ∀ name, ¬ Relation.TransGen (RefersTo c.m_global_table_set) name name
  match_ends : ∀ t ∈ c.tables, ∀ fuel ≥ c.m_global_table_set.length, ∀ if_name gaddr saddr,
    t.run c.m_global_table_set fuel if_name gaddr saddr =
      .ok (t.match c.m_global_table_set if_name gaddr saddr)

theorem references_well_founded {cmds : List String} (h : run_parser_cmds pton {} cmds = .ok c) :
    ReferencesOk c := by
  have hok : ConfigurationOk c :=
    ConfigurationOk.run_parser_cmds ⟨.nil, fun _ ht => absurd ht List.not_mem_nil⟩ h
  have hresolved : ∀ t ∈ c.tables, Resolved c.m_global_table_set t := by
    intro t ht
    rcases List.mem_append.mp ht with ht | ht
    · exact hok.grounded.resolved t ht
    · exact hok.bound t ht
  refine ⟨hresolved, fun name hpath => ?_, fun t ht fuel hfuel if_name gaddr saddr => ?_⟩
  · exact lt_irrefl _ (hok.grounded.rank_lt_of_path hpath)
  · exact hok.grounded.table_run_ok (hresolved t ht) hfuel if_name gaddr saddr

-- A filter that refers to a table, which refers to another.
theorem references_of_a_filter :
    ∃ c, run_parser_cmds (known_addrs [] []) {} ["table a {(* | *)}", "table b {(table a)}",
        "pinstance p: eth0 ==> eth1",
        "pinstance p upstream eth0 in whitelist table {(table b)}"] = .ok c ∧
      c.tables.map (fun t => refs_of t.m_rule_box_list) = [["a"], [], ["b"]] ∧
      ReferencesOk c := by
  obtain ⟨c, hc, hrefs⟩ := exists_ok_of_any (x := run_parser_cmds (known_addrs [] []) {}
      ["table a {(* | *)}", "table b {(table a)}", "pinstance p: eth0 ==> eth1",
        "pinstance p upstream eth0 in whitelist table {(table b)}"])
    (p := fun c => decide (c.tables.map (fun t => refs_of t.m_rule_box_list) = [["a"], [], ["b"]]))
    (by decide +kernel)
  exact ⟨c, hc, of_decide_eq_true hrefs, references_well_founded hc⟩

end Configuration

end Mcproxy
