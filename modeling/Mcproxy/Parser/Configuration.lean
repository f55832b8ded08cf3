import Mcproxy.Parser.Parser
import Mcproxy.ProxyInstance

namespace Mcproxy

open TokenType ParserType RbFilterType RbInterfaceType RbInterfaceDirection RbRuleMatchingType
  GroupMemProtocol Transition

section Definitions

-- An `interface` of the configuration with the filters bound to it.
structure InterfaceDefinition where
  m_if_name : String
  m_output_filter : Option FilterBinding := none
  m_input_filter : Option FilterBinding := none

structure InstanceDefinition where
  m_instance_name : String
  m_table_number : ℤ := 0
  m_user_selected_table_number : Bool := false
  m_upstreams : List InterfaceDefinition := []
  m_downstreams : List InterfaceDefinition := []
  m_global_settings : List RuleBinding := []

section Filters

variable {α : Type*} (gts : GlobalTableSet) (storage : α → AddrStorage)

-- A bound filter as the interfaces of the instance ask it.
def FilterBinding.interface_filter (rb : FilterBinding) : InterfaceFilter α :=
  fun if_name saddr gaddr => rb.match gts if_name (storage saddr) (storage gaddr)

def InterfaceDefinition.interf (i : InterfaceDefinition) : Interface α where
  m_output_filter := i.m_output_filter.map (FilterBinding.interface_filter gts storage)
  m_input_filter := i.m_input_filter.map (FilterBinding.interface_filter gts storage)

end Filters

-- The set is ordered by the names, which nothing here depends on.
abbrev InstDefSet := List InstanceDefinition

namespace InstDefSet

variable (ids : InstDefSet)

def find (instance_name : String) : Option InstanceDefinition :=
  ids.find? (·.m_instance_name == instance_name)

-- `none` if there is an instance of that name.
def insert (id : InstanceDefinition) : Option InstDefSet :=
  if (find ids id.m_instance_name).isSome then none else some (ids ++ [id])

-- An assignment through the pointer to an instance.
def update (id : InstanceDefinition) : InstDefSet :=
  ids.map fun e => if e.m_instance_name = id.m_instance_name then id else e

end InstDefSet

end Definitions

section InstanceDefinition

def parse_group_mem_proto (toks : List Token) : Except ParserFault GroupMemProtocol :=
  match get_parser_type toks with
  | .error e => .error e
  | .ok type =>
    if type = PT_PROTOCOL ∧ current toks.tail.tail = TT_NIL then
      match current toks.tail with
      | TT_MLDV1 => .ok MLDv1
      | TT_MLDV2 => .ok MLDv2
      | TT_IGMPV1 => .ok IGMPv1
      | TT_IGMPV2 => .ok IGMPv2
      | TT_IGMPV3 => .ok IGMPv3
      | _ => failed
    else failed

-- The number in brackets behind the name, if there is one.
def parse_table_number (toks : List Token) : Except ParserFault (Option ℤ × List Token) :=
  if current toks = TT_LEFT_BRACKET then
    if current toks.tail = TT_STRING ∧ current toks.tail.tail = TT_RIGHT_BRACKET then
      match stoi (current_string toks.tail) with
      | some table_number => .ok (some table_number, toks.tail.tail.tail)
      | none => failed
    else failed
  else .ok (none, toks)

-- A list of interface names.
def parse_interfaces (toks : List Token) : List InterfaceDefinition × List Token :=
  ((toks.takeWhile (·.m_type = TT_STRING)).map fun tok => { m_if_name := tok.m_string },
    toks.dropWhile (·.m_type = TT_STRING))

def parse_instance_definition (ids : InstDefSet) (toks : List Token) :
    Except ParserFault InstDefSet :=
  match get_parser_type toks with
  | .error e => .error e
  | .ok type =>
    if type = PT_INSTANCE_DEFINITION ∧ current toks.tail = TT_STRING then
      match parse_table_number toks.tail.tail with
      | .error e => .error e
      | .ok (table_number, rest) =>
        if current rest = TT_DOUBLE_DOT then
          let (upstreams, rest) := parse_interfaces rest.tail
          if current rest = TT_ARROW then
            let (downstreams, rest) := parse_interfaces rest.tail
            if downstreams ≠ [] ∧ current rest = TT_NIL then
              match InstDefSet.insert ids
                { m_instance_name := current_string toks.tail
                  m_table_number := table_number.getD 0
                  m_user_selected_table_number := table_number.isSome
                  m_upstreams := upstreams
                  m_downstreams := downstreams } with
              | none => failed
              | some ids => .ok ids
            else failed
          else failed
        else failed
    else failed

end InstanceDefinition

section RuleBinding

-- The part of a rule binding in front of what is bound.
structure BindingHead where
  instance_name : String
  interface_type : RbInterfaceType
  if_name : String
  filter_direction : RbInterfaceDirection

def parse_interface_type (toks : List Token) : Except ParserFault RbInterfaceType :=
  match current toks with
  | TT_UPSTREAM => .ok IT_UPSTREAM
  | TT_DOWNSTREAM => .ok IT_DOWNSTREAM
  | _ => failed

def parse_if_name (toks : List Token) : Except ParserFault String :=
  match current toks with
  | TT_STRING => .ok (current_string toks)
  | TT_STAR => .ok "*"
  | _ => failed

def parse_filter_direction (toks : List Token) : Except ParserFault RbInterfaceDirection :=
  match current toks with
  | TT_IN => .ok ID_IN
  | TT_OUT => .ok ID_OUT
  | _ => failed

def parse_binding_head (ids : InstDefSet) (toks : List Token) :
    Except ParserFault (BindingHead × List Token) := do
  if current toks = TT_STRING ∧ (InstDefSet.find ids (current_string toks)).isSome then
    let interface_type ← parse_interface_type toks.tail
    let if_name ← parse_if_name toks.tail.tail
    let filter_direction ← parse_filter_direction toks.tail.tail.tail
    return (⟨current_string toks, interface_type, if_name, filter_direction⟩,
      toks.tail.tail.tail.tail)
  else failed

-- The first interface of that name; a filter is bound only once for each direction.
def bind_filter (head : BindingHead) (rb : FilterBinding) :
    List InterfaceDefinition → Except ParserFault (List InterfaceDefinition)
  | [] => failed
  | interf :: rest =>
    if interf.m_if_name = head.if_name then
      match head.filter_direction with
      | ID_IN =>
        if interf.m_input_filter.isNone then .ok ({ interf with m_input_filter := some rb } :: rest)
        else failed
      | ID_OUT =>
        if interf.m_output_filter.isNone then
          .ok ({ interf with m_output_filter := some rb } :: rest)
        else failed
      | ID_WILDCARD => failed
    else (bind_filter head rb rest).map (interf :: ·)

-- The table behind the kind of the filter, which is bound to an interface of the instance.
def bind_table (pton : InetPton) (gts : GlobalTableSet) (gmp : GroupMemProtocol) (ids : InstDefSet)
    (head : BindingHead) (toks : List Token) (filter_type : RbFilterType) :
    Except ParserFault InstDefSet := do
  let (filter_table, rest) ← parse_table pton gmp gts toks
  match current rest, InstDefSet.find ids head.instance_name with
  | TT_NIL, some id =>
    let rb : FilterBinding := ⟨filter_type, some filter_table⟩
    match head.interface_type with
    | IT_UPSTREAM =>
      let upstreams ← bind_filter head rb id.m_upstreams
      return InstDefSet.update ids { id with m_upstreams := upstreams }
    | IT_DOWNSTREAM =>
      let downstreams ← bind_filter head rb id.m_downstreams
      return InstDefSet.update ids { id with m_downstreams := downstreams }
  | _, _ => failed

def parse_interface_table_binding (pton : InetPton) (gts : GlobalTableSet)
    (gmp : GroupMemProtocol) (ids : InstDefSet) (head : BindingHead) (toks : List Token) :
    Except ParserFault InstDefSet :=
  match current toks with
  | TT_WHITELIST => bind_table pton gts gmp ids head toks.tail FT_WHITELIST
  | TT_BLACKLIST => bind_table pton gts gmp ids head toks.tail FT_BLACKLIST
  | _ => failed

-- The kind of rule matching and, for a mutex, its timeout.
def parse_rule_matching (toks : List Token) :
    Except ParserFault (RbRuleMatchingType × ℤ × List Token) :=
  match current toks with
  | TT_ALL => .ok (RMT_ALL, 0, toks.tail)
  | TT_FIRST => .ok (RMT_FIRST, 0, toks.tail)
  | TT_MUTEX =>
    if current toks.tail = TT_STRING then
      match stoi (current_string toks.tail) with
      | some timeout => .ok (RMT_MUTEX, timeout, toks.tail.tail)
      | none => failed
    else failed
  | _ => failed

def parse_interface_rule_match_binding (ids : InstDefSet) (head : BindingHead)
    (toks : List Token) : Except ParserFault InstDefSet := do
  let (rule_matching_type, timeout, rest) ← parse_rule_matching toks.tail
  match current rest, InstDefSet.find ids head.instance_name with
  | TT_NIL, some id =>
    let rb := RuleBinding.rule_matching head.interface_type head.if_name head.filter_direction
      rule_matching_type timeout
    return InstDefSet.update ids { id with m_global_settings := id.m_global_settings ++ [rb] }
  | _, _ => failed

def parse_interface_rule_binding (pton : InetPton) (gts : GlobalTableSet)
    (gmp : GroupMemProtocol) (ids : InstDefSet) (toks : List Token) :
    Except ParserFault InstDefSet := do
  if (← get_parser_type toks) = PT_INTERFACE_RULE_BINDING then
    let (head, toks) ← parse_binding_head ids toks.tail
    match current toks with
    | TT_WHITELIST | TT_BLACKLIST => parse_interface_table_binding pton gts gmp ids head toks
    | TT_RULE_MATCHING => parse_interface_rule_match_binding ids head toks
    | _ => failed
  else failed

end RuleBinding

section Configuration

structure Configuration where
  m_gmp : GroupMemProtocol := IGMPv3
  m_global_table_set : GlobalTableSet := []
  m_inst_def_set : InstDefSet := []

variable (pton : InetPton)

def run_command (c : Configuration) (cmd : String) : Except ParserFault Configuration := do
  let toks ← parser_tokens cmd
  match ← get_parser_type toks with
  | PT_PROTOCOL =>
    let gmp ← parse_group_mem_proto toks
    return { c with m_gmp := gmp }
  | PT_INSTANCE_DEFINITION =>
    let ids ← parse_instance_definition c.m_inst_def_set toks
    return { c with m_inst_def_set := ids }
  | PT_TABLE =>
    let gts ← add_table pton c.m_gmp c.m_global_table_set toks
    return { c with m_global_table_set := gts }
  | PT_INTERFACE_RULE_BINDING =>
    let ids ← parse_interface_rule_binding pton c.m_global_table_set c.m_gmp c.m_inst_def_set toks
    return { c with m_inst_def_set := ids }

def run_parser_cmds (c : Configuration) : (m_cmds : List String) → Except ParserFault Configuration
  | [] => .ok c
  | cmd :: m_cmds =>
    match run_command pton c cmd with
    | .error e => .error e
    | .ok c => run_parser_cmds c m_cmds

end Configuration

section Commands

variable {pton : InetPton} {c c' : Configuration}

-- Everything a command can do to the configuration.
inductive CommandStep (pton : InetPton) (c : Configuration) (toks : List Token) :
    Configuration → Prop
  | protocol {gmp : GroupMemProtocol} (h : parse_group_mem_proto toks = .ok gmp) :
    CommandStep pton c toks { c with m_gmp := gmp }
  | instance_definition {ids : InstDefSet}
      (h : parse_instance_definition c.m_inst_def_set toks = .ok ids) :
    CommandStep pton c toks { c with m_inst_def_set := ids }
  | table {gts : GlobalTableSet} (h : add_table pton c.m_gmp c.m_global_table_set toks = .ok gts) :
    CommandStep pton c toks { c with m_global_table_set := gts }
  | rule_binding {ids : InstDefSet}
      (h : parse_interface_rule_binding pton c.m_global_table_set c.m_gmp c.m_inst_def_set toks =
        .ok ids) :
    CommandStep pton c toks { c with m_inst_def_set := ids }

theorem run_command_step {cmd : String} (h : run_command pton c cmd = .ok c') :
    ∃ toks, parser_tokens cmd = .ok toks ∧ CommandStep pton c toks c' := by
  unfold run_command at h
  obtain ⟨toks, htoks, h⟩ := exists_of_bind_ok h
  refine ⟨toks, htoks, ?_⟩
  obtain ⟨type, -, h⟩ := exists_of_bind_ok h
  cases type with
  | PT_PROTOCOL =>
    obtain ⟨gmp, hgmp, h⟩ := exists_of_bind_ok h
    exact Except.ok.inj h ▸ .protocol hgmp
  | PT_INSTANCE_DEFINITION =>
    obtain ⟨ids, hids, h⟩ := exists_of_bind_ok h
    exact Except.ok.inj h ▸ .instance_definition hids
  | PT_TABLE =>
    obtain ⟨gts, hgts, h⟩ := exists_of_bind_ok h
    exact Except.ok.inj h ▸ .table hgts
  | PT_INTERFACE_RULE_BINDING =>
    obtain ⟨ids, hids, h⟩ := exists_of_bind_ok h
    exact Except.ok.inj h ▸ .rule_binding hids

theorem run_parser_cmds_cons {cmd : String} {cmds : List String}
    (h : run_parser_cmds pton c (cmd :: cmds) = .ok c') :
    ∃ c₁, run_command pton c cmd = .ok c₁ ∧ run_parser_cmds pton c₁ cmds = .ok c' := by
  rw [run_parser_cmds] at h
  split at h
  · cases h
  · next c₁ hcmd => exact ⟨c₁, hcmd, h⟩

theorem run_parser_cmds_append (cmds cmds' : List String) :
    run_parser_cmds pton c (cmds ++ cmds') =
      (run_parser_cmds pton c cmds).bind fun c' => run_parser_cmds pton c' cmds' := by
  induction cmds generalizing c with
  | nil => rfl
  | cons cmd cmds ih =>
    rw [List.cons_append, run_parser_cmds, run_parser_cmds]
    cases run_command pton c cmd with
    | error e => rfl
    | ok c₁ => exact ih

theorem run_parser_cmds_snoc {c₁ : Configuration} {cmds : List String} {cmd : String}
    (hcmds : run_parser_cmds pton c cmds = .ok c₁) (hcmd : run_command pton c₁ cmd = .ok c') :
    run_parser_cmds pton c (cmds ++ [cmd]) = .ok c' := by
  rw [run_parser_cmds_append, hcmds]
  simp only [Except.bind, run_parser_cmds, hcmd]

end Commands

end Mcproxy
