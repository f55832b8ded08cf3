import Mcproxy.AddrStorage

namespace Mcproxy

open AddrStorage

section AddrMatch

inductive AddrMatch
  | single_addr (m_addr : AddrStorage)
  | addr_range (m_from m_to : AddrStorage)
  deriving DecidableEq, Repr

def is_wildcard (addr : AddrStorage) (addr_family : AddrFamily) : Bool :=
  addr.eq (zero addr_family)

-- A range includes both ends.
def AddrMatch.match : AddrMatch → AddrStorage → Bool
  | single_addr m_addr, addr => addr.eq m_addr || is_wildcard m_addr addr.get_addr_family
  | addr_range m_from m_to, addr =>
    (addr.ge m_from || is_wildcard m_from addr.get_addr_family) &&
      (addr.le m_to || is_wildcard m_to addr.get_addr_family)

end AddrMatch

section RuleBox

-- A `rule_table` has the table inside it, a `rule_table_ref` the name of a global one.
inductive RuleBox
  | rule_addr (m_if_name : String) (m_group m_source : AddrMatch)
  | rule_table (m_name : String) (m_rule_box_list : List RuleBox)
  | rule_table_ref (m_table_name : String)

structure Table where
  m_name : String
  m_rule_box_list : List RuleBox

-- The answer to an interface name, a group and a source.
abbrev TableFilter := String → AddrStorage → AddrStorage → Bool

variable (ref : String → TableFilter)

mutual

def RuleBox.match : RuleBox → TableFilter
  | .rule_addr m_if_name m_group m_source, if_name, gaddr, saddr =>
    if m_if_name = "" then m_group.match gaddr && m_source.match saddr
    else m_if_name == if_name && m_group.match gaddr && m_source.match saddr
  | .rule_table _ m_rule_box_list, if_name, gaddr, saddr =>
    match_boxes m_rule_box_list if_name gaddr saddr
  | .rule_table_ref m_table_name, if_name, gaddr, saddr => ref m_table_name if_name gaddr saddr

def match_boxes : List RuleBox → TableFilter
  | [], _, _, _ => false
  | e :: m_rule_box_list, if_name, gaddr, saddr =>
    if e.match if_name gaddr saddr then true else match_boxes m_rule_box_list if_name gaddr saddr

end

end RuleBox

section GlobalTableSet

-- The set is ordered by the names, which nothing depends on; the newest table stands first.
abbrev GlobalTableSet := List Table

namespace GlobalTableSet

variable (gts : GlobalTableSet)

def get_table (table_name : String) : Option Table := gts.find? (·.m_name == table_name)

-- `none` if there is a table of that name.
def insert (t : Table) : Option GlobalTableSet :=
  if (gts.get_table t.m_name).isSome then none else some (t :: gts)

-- A table can refer to older ones only, so their number bounds the depth of the references.
def match_ref : (depth : ℕ) → String → TableFilter
  | 0, _, _, _, _ => false
  | depth + 1, table_name, if_name, gaddr, saddr =>
    match gts.get_table table_name with
    | none => false
    | some t => match_boxes (match_ref depth) t.m_rule_box_list if_name gaddr saddr

end GlobalTableSet

def Table.match (gts : GlobalTableSet) (t : Table) : TableFilter :=
  match_boxes (gts.match_ref gts.length) t.m_rule_box_list

end GlobalTableSet

section RuleBinding

inductive RbFilterType
  | FT_BLACKLIST
  | FT_WHITELIST
  | FT_UNDEFINED
  deriving DecidableEq, Repr

open RbFilterType

-- The parts of a rule binding that are read of a filter.
structure FilterBinding where
  m_filter_type : RbFilterType
  m_table : Option Table

-- The parameters are named the other way round than those of the table.
def FilterBinding.match (gts : GlobalTableSet) (rb : FilterBinding) : TableFilter :=
  fun if_name saddr gaddr =>
    match rb.m_table with
    | none => false
    | some table =>
      match rb.m_filter_type with
      | FT_BLACKLIST => !table.match gts if_name saddr gaddr
      | FT_WHITELIST => table.match gts if_name saddr gaddr
      | FT_UNDEFINED => false

end RuleBinding

end Mcproxy
