import Mcproxy.Parser.Text
import Mcproxy.Parser.Configuration
import Mcproxy.Routing.Forwarding

namespace Mcproxy

open TokenType AddrFamily AddrStorage Container Transition

section Denotation

variable (gmp : GroupMemProtocol)

-- A star and the zero address are wildcards; at an end of a range they leave it open.
def open_end (b : Bound) : Prop := ∀ a ∈ b, a.value = 0

def Part.denote : Part → AddrStorage → Prop
  | single b, x => open_end b ∨ b = some x
  | range b c, x =>
    (open_end b ∨ ∃ a ∈ b, a.value ≤ x.value) ∧ (open_end c ∨ ∃ a ∈ c, x.value ≤ a.value)
  | cidr b len, x =>
    ∃ lo hi, (bound_addr gmp b).mask len = some lo ∧
      (bound_addr gmp b).broadcast_addr len = some hi ∧
      lo.value ≤ x.value ∧ (x.value ≤ hi.value ∨ hi.value = 0)

-- Which interfaces, groups and sources are meant.
abbrev Meaning := String → AddrStorage → AddrStorage → Prop

-- No name in front of a rule, or that of the input interface.
def applies (n : Option String) (if_name : String) : Prop := ∀ m ∈ n, m = if_name

variable (env : String → Meaning)

mutual

def Rule.denote : Rule → Meaning
  | .addr n group source, if_name, gaddr, saddr =>
    applies n if_name ∧ group.denote gmp gaddr ∧ source.denote gmp saddr
  | .table n t, if_name, gaddr, saddr => applies n if_name ∧ t.denote if_name gaddr saddr

def TableText.denote : TableText → Meaning
  | .rules _ rules, if_name, gaddr, saddr => denote_some rules if_name gaddr saddr
  | .ref name, if_name, gaddr, saddr => env name if_name gaddr saddr

def denote_some : List Rule → Meaning
  | [], _, _, _ => False
  | r :: rules, if_name, gaddr, saddr =>
    r.denote if_name gaddr saddr ∨ denote_some rules if_name gaddr saddr

end

end Denotation

section Tables

-- A table text with the protocol that is set when it is read.
structure ReadTable where
  gmp : GroupMemProtocol
  text : TableText

-- The names of the tables a text refers to.
mutual

def Rule.refs : Rule → List String
  | .addr _ _ _ => []
  | .table _ t => t.refs

def TableText.refs : TableText → List String
  | .rules _ rules => refs_of_rules rules
  | .ref name => [name]

def refs_of_rules : List Rule → List String
  | [] => []
  | r :: rules => r.refs ++ refs_of_rules rules

end

-- No name stands in front of a table, and none is empty.
mutual

def Rule.Unnamed : Rule → Prop
  | .addr n _ _ => n ≠ some ""
  | .table n t => n = none ∧ t.Unnamed

def TableText.Unnamed : TableText → Prop
  | .rules _ rules => unnamed_rules rules
  | .ref _ => True

def unnamed_rules : List Rule → Prop
  | [] => True
  | r :: rules => r.Unnamed ∧ unnamed_rules rules

end

-- The text without the names in front of tables and without empty names.
mutual

def Rule.unprefixed : Rule → Rule
  | .addr n group source => .addr (n.filter (· ≠ "")) group source
  | .table _ t => .table none t.unprefixed

def TableText.unprefixed : TableText → TableText
  | .rules name rules => .rules name (unprefixed_rules rules)
  | .ref name => .ref name

def unprefixed_rules : List Rule → List Rule
  | [] => []
  | r :: rules => r.unprefixed :: unprefixed_rules rules

end

def ReadTable.unprefixed (t : ReadTable) : ReadTable := ⟨t.gmp, t.text.unprefixed⟩

end Tables

section Parts

variable {pton : InetPton} {gmp : GroupMemProtocol}

theorem WritesBound.family {b : Bound} {l : List Token} (h : WritesBound pton gmp b l) :
    (bound_addr gmp b).get_addr_family = get_addr_family gmp := by
  cases b with
  | none => exact get_addr_family_zero _
  | some a => exact Spells.family h

theorem open_end_iff (gmp : GroupMemProtocol) (b : Bound) :
    open_end b ↔ (bound_addr gmp b).value = 0 := by
  cases b with
  | none => simp [open_end, bound_addr]
  | some a => simp [open_end, bound_addr]

theorem WritesPart.match_iff {part : Part} {l : List Token} (h : WritesPart pton gmp part l)
    {x : AddrStorage} (hx : x.get_addr_family = get_addr_family gmp) :
    (part.addr_match gmp).match x = true ↔ part.denote gmp x := by
  have hv := valid_of_family hx
  cases h with
  | @single b l hb =>
    have hfam := hx.trans hb.family.symm
    have hwild : is_wildcard (bound_addr gmp b) x.get_addr_family = true ↔ open_end b := by
      rw [is_wildcard, hfam, eq_zero_iff (valid_of_family hb.family), open_end_iff gmp]
    rw [Part.addr_match, AddrMatch.match, Bool.or_eq_true, hwild, Part.denote, eq_true_iff hv]
    cases b with
    | none => simp [open_end]
    | some a => simp only [bound_addr, Option.some.injEq, eq_comm, or_comm]
  | @range b c l r hb hc =>
    rw [Part.addr_match, addr_range_match_iff (hx.trans hb.family.symm)
      (hx.trans hc.family.symm) hv, Part.denote, open_end_iff gmp b,
      open_end_iff gmp c]
    cases b <;> cases c <;> simp [bound_addr] <;> omega
  | @cidr b l s len hb hs hle hmask hbroad =>
    obtain ⟨lo, hlo⟩ := Option.isSome_iff_exists.mp hmask
    obtain ⟨hi, hhi⟩ := Option.isSome_iff_exists.mp hbroad
    have hlof := (prefix_change_family hlo).trans hb.family
    have hhif := (prefix_change_family hhi).trans hb.family
    rw [Part.addr_match, hlo, hhi, Option.getD_some, Option.getD_some,
      addr_range_match_iff (hx.trans hlof.symm) (hx.trans hhif.symm) hv, Part.denote]
    simp [hlo, hhi]

end Parts

section Boxes

variable {pton : InetPton} {gmp : GroupMemProtocol} {gts : GlobalTableSet}
  {ref : String → TableFilter} {env : String → Meaning} {if_name : String}
  {gaddr saddr : AddrStorage}

-- An empty name is none.
theorem name_matches_iff (n : Option String) (if_name : String) :
    n.getD "" = "" ∨ n.getD "" = if_name ↔ applies (n.filter (· ≠ "")) if_name := by
  cases n with
  | none => simp [applies]
  | some n => by_cases h : n = "" <;> simp [applies, h]

theorem match_rule_addr_iff (n : Option String) (group source : AddrMatch) :
    (RuleBox.rule_addr (n.getD "") group source).match ref if_name gaddr saddr = true ↔
      applies (n.filter (· ≠ "")) if_name ∧ group.match gaddr = true ∧
        source.match saddr = true := by
  rw [RuleBox.match, ← name_matches_iff]
  split
  · next h => simp [h]
  · next h => simp [h, and_assoc]

theorem match_boxes_cons {box : RuleBox} {boxes : List RuleBox} :
    match_boxes ref (box :: boxes) if_name gaddr saddr = true ↔
      box.match ref if_name gaddr saddr = true ∨
        match_boxes ref boxes if_name gaddr saddr = true := by
  rw [match_boxes]
  split
  · next h => simp [h]
  · next h => simp [h]

-- A written text refers to tables that are there when it is read.
mutual

theorem WritesRule.refs_resolved {r : Rule} {l : List Token} (h : WritesRule pton gmp gts r l) :
    ∀ name ∈ r.refs, (gts.get_table name).isSome = true := by
  cases h with
  | addr => exact nofun
  | table ht => exact ht.refs_resolved

theorem WritesTable.refs_resolved {t : TableText} {l : List Token}
    (h : WritesTable pton gmp gts t l) : ∀ name ∈ t.refs, (gts.get_table name).isSome = true := by
  cases h with
  | rules hl => exact hl.refs_resolved
  | ref hname =>
    intro name hmem
    rw [List.mem_singleton.mp hmem]
    exact hname

theorem WritesRules.refs_resolved {rules : List Rule} {l : List Token}
    (h : WritesRules pton gmp gts rules l) :
    ∀ name ∈ refs_of_rules rules, (gts.get_table name).isSome = true := by
  cases h with
  | nil => exact nofun
  | cons hr hl =>
    rw [refs_of_rules, List.forall_mem_append]
    exact ⟨hr.refs_resolved, hl.refs_resolved⟩

end

-- The boxes made of a text mean what the text means without the prefixes the parser drops, if the
-- addresses are of its family and the references are answered as they are meant.
mutual

theorem WritesRule.match_iff {r : Rule} {l : List Token} (h : WritesRule pton gmp gts r l)
    (hg : gaddr.get_addr_family = get_addr_family gmp)
    (hs : saddr.get_addr_family = get_addr_family gmp)
    (hrefs : ∀ name ∈ r.refs, ref name if_name gaddr saddr = true ↔ env name if_name gaddr saddr) :
    (r.rule_box gmp).match ref if_name gaddr saddr = true ↔
      r.unprefixed.denote gmp env if_name gaddr saddr := by
  cases h with
  | addr hgroup hsource =>
    rw [Rule.rule_box, match_rule_addr_iff, hgroup.match_iff hg, hsource.match_iff hs,
      Rule.unprefixed, Rule.denote]
  | table ht =>
    rw [Rule.rule_box, RuleBox.match, ht.match_iff hg hs hrefs, Rule.unprefixed, Rule.denote]
    simp [applies]

theorem WritesTable.match_iff {t : TableText} {l : List Token} (h : WritesTable pton gmp gts t l)
    (hg : gaddr.get_addr_family = get_addr_family gmp)
    (hs : saddr.get_addr_family = get_addr_family gmp)
    (hrefs : ∀ name ∈ t.refs, ref name if_name gaddr saddr = true ↔ env name if_name gaddr saddr) :
    match_boxes ref (t.rule_boxes gmp) if_name gaddr saddr = true ↔
      t.unprefixed.denote gmp env if_name gaddr saddr := by
  cases h with
  | rules hl =>
    rw [TableText.rule_boxes, hl.match_iff hg hs hrefs, TableText.unprefixed, TableText.denote]
  | ref =>
    rw [TableText.rule_boxes, match_boxes_cons, RuleBox.match,
      hrefs _ (List.mem_singleton_self _), TableText.unprefixed, TableText.denote]
    simp [match_boxes]

theorem WritesRules.match_iff {rules : List Rule} {l : List Token}
    (h : WritesRules pton gmp gts rules l)
    (hg : gaddr.get_addr_family = get_addr_family gmp)
    (hs : saddr.get_addr_family = get_addr_family gmp)
    (hrefs : ∀ name ∈ refs_of_rules rules,
      ref name if_name gaddr saddr = true ↔ env name if_name gaddr saddr) :
    match_boxes ref (rule_boxes_of gmp rules) if_name gaddr saddr = true ↔
      denote_some gmp env (unprefixed_rules rules) if_name gaddr saddr := by
  cases h with
  | nil => simp [rule_boxes_of, match_boxes, unprefixed_rules, denote_some]
  | cons hr hl =>
    rw [refs_of_rules, List.forall_mem_append] at hrefs
    rw [rule_boxes_of, match_boxes_cons, hr.match_iff hg hs hrefs.1, hl.match_iff hg hs hrefs.2,
      unprefixed_rules, denote_some]

end

end Boxes

section Unnamed

variable {gmp : GroupMemProtocol} {env env' : String → Meaning} {if_name : String}
  {gaddr saddr : AddrStorage}

-- Where no name is dropped, the text stays as it is.
mutual

theorem Rule.unprefixed_of_unnamed : (r : Rule) → r.Unnamed → r.unprefixed = r
  | .addr n _ _, h => by
    rw [Rule.Unnamed] at h
    rw [Rule.unprefixed]
    cases n with
    | none => rfl
    | some n =>
      have hne : n ≠ "" := fun hn => h (congrArg some hn)
      simp [Option.filter, hne]
  | .table n t, h => by
    rw [Rule.Unnamed] at h
    rw [Rule.unprefixed, t.unprefixed_of_unnamed h.2, h.1]

theorem TableText.unprefixed_of_unnamed : (t : TableText) → t.Unnamed → t.unprefixed = t
  | .rules _ rules, h => by
    rw [TableText.Unnamed] at h
    rw [TableText.unprefixed, unprefixed_rules_of_unnamed rules h]
  | .ref _, _ => by rw [TableText.unprefixed]

theorem unprefixed_rules_of_unnamed : (rules : List Rule) → unnamed_rules rules →
    unprefixed_rules rules = rules
  | [], _ => by rw [unprefixed_rules]
  | r :: rules, h => by
    rw [unnamed_rules] at h
    rw [unprefixed_rules, r.unprefixed_of_unnamed h.1, unprefixed_rules_of_unnamed rules h.2]

end

-- The meaning of a text depends on the names it refers to only.
mutual

theorem Rule.denote_congr : (r : Rule) →
    (∀ name ∈ r.refs, env name if_name gaddr saddr ↔ env' name if_name gaddr saddr) →
    (r.denote gmp env if_name gaddr saddr ↔ r.denote gmp env' if_name gaddr saddr)
  | .addr _ _ _, _ => by rw [Rule.denote, Rule.denote]
  | .table _ t, h => by
    rw [Rule.denote, Rule.denote]
    exact and_congr_right fun _ => t.denote_congr h

theorem TableText.denote_congr : (t : TableText) →
    (∀ name ∈ t.refs, env name if_name gaddr saddr ↔ env' name if_name gaddr saddr) →
    (t.denote gmp env if_name gaddr saddr ↔ t.denote gmp env' if_name gaddr saddr)
  | .rules _ rules, h => by
    rw [TableText.denote, TableText.denote]
    exact denote_some_congr rules h
  | .ref name, h => by
    rw [TableText.denote, TableText.denote]
    exact h name (List.mem_singleton_self _)

theorem denote_some_congr : (rules : List Rule) →
    (∀ name ∈ refs_of_rules rules, env name if_name gaddr saddr ↔ env' name if_name gaddr saddr) →
    (denote_some gmp env rules if_name gaddr saddr ↔
      denote_some gmp env' rules if_name gaddr saddr)
  | [], _ => by rw [denote_some, denote_some]
  | r :: rules, h => by
    rw [refs_of_rules, List.forall_mem_append] at h
    rw [denote_some, denote_some]
    exact or_congr (r.denote_congr h.1) (denote_some_congr rules h.2)

end

end Unnamed

section Commands

variable {pton : InetPton} {cmds : List String} {texts : List ReadTable} {c c' : Configuration}

-- The commands lead to the configuration, and these are the texts of its global tables, the
-- newest first.
inductive Reads (pton : InetPton) : List String → List ReadTable → Configuration → Prop
  | nil : Reads pton [] [] {}
  | table {cmds : List String} {cmd : String} {texts : List ReadTable} {text : TableText}
      {toks : List Token} {c c' : Configuration} (h : Reads pton cmds texts c)
      (hcmd : parser_tokens cmd = .ok toks)
      (ht : WritesTable pton c.m_gmp c.m_global_table_set text toks)
      (hrun : run_command pton c cmd = .ok c') :
    Reads pton (cmds ++ [cmd]) (⟨c.m_gmp, text⟩ :: texts) c'
  | other {cmds : List String} {cmd : String} {texts : List ReadTable} {c c' : Configuration}
      (h : Reads pton cmds texts c) (hrun : run_command pton c cmd = .ok c')
      (hsame : c'.m_global_table_set = c.m_global_table_set) : Reads pton (cmds ++ [cmd]) texts c'

theorem parser_tokens_plain {cmd : String} {toks : List Token} (h : parser_tokens cmd = .ok toks) :
    Plain toks := by
  unfold parser_tokens at h
  split at h
  · cases h
  · next toks' hscan => exact Except.ok.inj h ▸ scanner_plain hscan

theorem insert_eq_some {gts gts' : GlobalTableSet} {t : Table} (h : gts.insert t = some gts') :
    gts.get_table t.m_name = none ∧ gts' = t :: gts := by
  unfold GlobalTableSet.insert at h
  split at h
  · cases h
  · next hnone => exact ⟨by simpa using hnone, (Option.some.inj h).symm⟩

theorem add_table_eq_ok {gmp : GroupMemProtocol} {gts gts' : GlobalTableSet} {toks : List Token}
    (hp : Plain toks) (h : add_table pton gmp gts toks = .ok gts') :
    ∃ text, WritesTable pton gmp gts text toks ∧ gts.get_table text.name = none ∧
      gts' = text.table gmp :: gts := by
  unfold add_table at h
  split at h
  · cases h
  · next t rest hparse =>
    obtain ⟨text, htext, rfl, -⟩ := exists_text hp hparse
    split at h
    · cases h
    · next gts₁ hins =>
      obtain rfl := Except.ok.inj h
      obtain ⟨hnew, rfl⟩ := insert_eq_some hins
      exact ⟨text, htext, hnew, rfl⟩

theorem Reads.run_parser_cmds (h : Reads pton cmds texts c) :
    run_parser_cmds pton {} cmds = .ok c := by
  induction h with
  | nil => rfl
  | table _ _ _ hrun ih => exact run_parser_cmds_snoc ih hrun
  | other _ hrun _ ih => exact run_parser_cmds_snoc ih hrun

theorem get_table_cons (t : Table) (gts : GlobalTableSet) (name : String) :
    GlobalTableSet.get_table (t :: gts) name =
      if t.m_name = name then some t else gts.get_table name := by
  unfold GlobalTableSet.get_table
  by_cases h : t.m_name = name <;> simp [h]

variable {af : AddrFamily} {if_name : String} {gaddr saddr : AddrStorage}

end Commands

section Routing

open RbFilterType RbInterfaceType RbInterfaceDirection

variable {α : Type*} [LinearOrder α]

def Interface.filter (interf : Interface α) : RbInterfaceDirection → Option (InterfaceFilter α)
  | ID_IN => interf.m_input_filter
  | ID_OUT => interf.m_output_filter
  | ID_WILDCARD => none

variable {pton : InetPton}

end Routing

end Mcproxy
