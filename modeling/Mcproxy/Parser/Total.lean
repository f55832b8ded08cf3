import Mcproxy.Parser.OpenText

namespace Mcproxy

open TokenType ParserType AddrFamily AddrStorage

section Seen

-- What the parser reads of a token: the text of strings only.
def Token.seen (t : Token) : Token := if t.m_type = TT_STRING then t else tok t.m_type

-- The result of a parser on the tokens as it sees them.
def seen_rest {β : Type*} (r : Except ParserFault (β × List Token)) :
    Except ParserFault (β × List Token) :=
  r.map fun p => (p.1, p.2.map Token.seen)

@[simp] theorem Token.seen_type (t : Token) : t.seen.m_type = t.m_type := by
  unfold Token.seen
  split_ifs <;> rfl

theorem bare_seen (toks : List Token) : Bare (toks.map Token.seen) := by
  intro t ht hs
  obtain ⟨u, -, rfl⟩ := List.mem_map.mp ht
  rw [Token.seen_type] at hs
  rw [Token.seen, if_neg hs]
  rfl

@[simp] theorem current_seen (toks : List Token) :
    current (toks.map Token.seen) = current toks := by
  cases toks with
  | nil => rfl
  | cons t toks => exact t.seen_type

theorem current_string_seen {toks : List Token} (h : current toks = TT_STRING) :
    current_string (toks.map Token.seen) = current_string toks := by
  cases toks with
  | nil => rfl
  | cons t toks =>
    have ht : t.seen = t := if_pos h
    rw [List.map_cons, ht]
    rfl

@[simp] theorem is_addr_token_seen (t : Token) : is_addr_token t.seen = is_addr_token t := by
  simp [is_addr_token]

theorem addr_text_seen {toks : List Token} (h : ∀ t ∈ toks, is_addr_token t = true) :
    addr_text (toks.map Token.seen) = addr_text toks := by
  unfold addr_text
  rw [List.map_map]
  refine congrArg String.join (List.map_congr_left fun t ht => ?_)
  have htype := h t ht
  rw [Function.comp_apply, Token.seen_type]
  by_cases hs : t.m_type = TT_STRING
  · rw [Token.seen, if_pos hs]
  · obtain hdot | hdot : t.m_type = TT_DOT ∨ t.m_type = TT_DOUBLE_DOT := by
      simpa [is_addr_token, hs] using htype
    · simp [hdot]
    · simp [hdot]

variable (pton : InetPton) (gmp : GroupMemProtocol) (gts : GlobalTableSet)

theorem get_parser_type_seen (toks : List Token) :
    get_parser_type (toks.map Token.seen) = get_parser_type toks := by
  simp only [get_parser_type, ← List.map_tail, current_seen]

theorem ends_part_seen (toks : List Token) :
    ends_part (toks.map Token.seen) ↔ ends_part toks := by
  simp only [ends_part, current_seen]

theorem get_addr_seen (toks : List Token) :
    get_addr pton gmp (toks.map Token.seen) = seen_rest (get_addr pton gmp toks) := by
  have htake : addr_text ((toks.map Token.seen).takeWhile is_addr_token) =
      addr_text (toks.takeWhile is_addr_token) := by
    rw [List.takeWhile_map, ← addr_text_seen fun t ht => List.mem_takeWhile_imp ht]
    simp [Function.comp_def]
  have hdrop : (toks.map Token.seen).dropWhile is_addr_token =
      (toks.dropWhile is_addr_token).map Token.seen := by
    rw [List.dropWhile_map]
    simp [Function.comp_def]
  unfold get_addr
  rw [htake, hdrop]
  dsimp only
  split_ifs <;> rfl

theorem parse_bound_seen (toks : List Token) :
    parse_bound pton gmp (toks.map Token.seen) = seen_rest (parse_bound pton gmp toks) := by
  unfold parse_bound
  rw [current_seen]
  split
  · exact get_addr_seen pton gmp toks
  · rw [← List.map_tail]
    rfl
  · rfl

theorem parse_prefix_len_seen (a : AddrStorage) (toks : List Token) :
    parse_prefix_len a (toks.map Token.seen) = seen_rest (parse_prefix_len a toks) := by
  unfold parse_prefix_len
  by_cases hcur : current toks = TT_STRING
  · rw [if_pos hcur, if_pos ((current_seen toks).trans hcur), current_string_seen hcur]
    cases stoi (current_string toks) with
    | none => rfl
    | some number =>
      dsimp only
      by_cases hbig : (number % 2 ^ 32).toNat > 128
      · rw [if_pos hbig, if_pos hbig]
        rfl
      · rw [if_neg hbig, if_neg hbig]
        cases a.mask (number % 2 ^ 32).toNat with
        | none => rfl
        | some lo =>
          cases a.broadcast_addr (number % 2 ^ 32).toNat with
          | none => rfl
          | some hi =>
            dsimp only
            simp only [← List.map_tail, ends_part_seen]
            split_ifs <;> rfl
  · rw [if_neg hcur, if_neg (by rwa [current_seen])]
    rfl

theorem parse_rule_part_seen (toks : List Token) :
    parse_rule_part pton gmp (toks.map Token.seen) =
      seen_rest (parse_rule_part pton gmp toks) := by
  unfold parse_rule_part
  rw [parse_bound_seen]
  cases parse_bound pton gmp toks with
  | error e => rfl
  | ok r =>
    obtain ⟨addr_from, toks⟩ := r
    simp only [seen_rest, Except.map, current_seen, ends_part_seen, ← List.map_tail,
      parse_prefix_len_seen, parse_bound_seen]
    split_ifs
    · rfl
    · rfl
    · cases parse_bound pton gmp toks.tail with
      | error e => rfl
      | ok r =>
        simp only [ends_part_seen]
        split_ifs <;> rfl
    · rfl

theorem parse_addr_rule_seen (if_name : String) (toks : List Token) :
    parse_addr_rule pton gmp if_name (toks.map Token.seen) =
      seen_rest (parse_addr_rule pton gmp if_name toks) := by
  unfold parse_addr_rule
  rw [parse_rule_part_seen]
  cases parse_rule_part pton gmp toks with
  | error e => rfl
  | ok r =>
    obtain ⟨group, toks⟩ := r
    simp only [seen_rest, Except.map, current_seen, ← List.map_tail, parse_rule_part_seen]
    split_ifs
    · cases parse_rule_part pton gmp toks.tail with
      | error e => rfl
      | ok r =>
        simp only [current_seen]
        split_ifs <;> rfl
    · rfl

theorem table_ref_seen (toks : List Token) :
    table_ref gts (toks.map Token.seen) = seen_rest (table_ref gts toks) := by
  unfold table_ref
  by_cases hcur : current toks = TT_STRING
  · rw [current_seen, current_string_seen hcur, ← List.map_tail]
    split_ifs <;> rfl
  · rw [current_seen, if_neg fun h => hcur h.1, if_neg fun h => hcur h.1]
    rfl

theorem open_table_seen (toks : List Token) :
    open_table (toks.map Token.seen) = seen_rest (open_table toks) := by
  unfold open_table
  rw [current_seen]
  split
  · next hcur =>
    rw [current_string_seen hcur, ← List.map_tail, ← List.map_tail, current_seen]
    split_ifs <;> rfl
  · rw [← List.map_tail]
    rfl
  · rfl

theorem read_if_name_seen (toks : List Token) :
    read_if_name (toks.map Token.seen) =
      ((read_if_name toks).1, (read_if_name toks).2.map Token.seen) := by
  unfold read_if_name
  by_cases hcur : current toks = TT_STRING
  · rw [if_pos hcur, if_pos ((current_seen toks).trans hcur), current_string_seen hcur,
      List.map_tail]
  · rw [if_neg hcur, if_neg (by rwa [current_seen])]

-- The three functions do not look at the other texts.
theorem parse_seen (fuel : ℕ) :
    (∀ inside toks, parse_table_inside pton gmp gts fuel inside (toks.map Token.seen) =
      seen_rest (parse_table_inside pton gmp gts fuel inside toks)) ∧
    (∀ toks, parse_rules pton gmp gts fuel (toks.map Token.seen) =
      seen_rest (parse_rules pton gmp gts fuel toks)) ∧
    ∀ toks, parse_rule pton gmp gts fuel (toks.map Token.seen) =
      seen_rest (parse_rule pton gmp gts fuel toks) := by
  induction fuel with
  | zero => exact ⟨fun _ _ => rfl, fun _ => rfl, fun _ => rfl⟩
  | succ fuel ih =>
    obtain ⟨htable, hrules, hrule⟩ := ih
    refine ⟨fun inside toks => ?_, fun toks => ?_, fun toks => ?_⟩
    · rw [parse_table_inside, parse_table_inside, get_parser_type_seen]
      cases get_parser_type toks with
      | error e => rfl
      | ok type =>
        simp only [← List.map_tail, current_seen, table_ref_seen, open_table_seen]
        split_ifs
        · rfl
        · cases open_table toks.tail with
          | error e => rfl
          | ok r =>
            simp only [seen_rest, Except.map, hrules]
            cases parse_rules pton gmp gts fuel r.2 with
            | error e => rfl
            | ok r =>
              simp only [← List.map_tail, current_seen]
              split_ifs <;> rfl
        · rfl
    · rw [parse_rules, parse_rules, hrule]
      cases parse_rule pton gmp gts fuel toks with
      | error e => rfl
      | ok r =>
        obtain ⟨box, toks⟩ := r
        cases box with
        | none => rfl
        | some box =>
          simp only [seen_rest, Except.map, ← List.map_tail, hrules]
          cases parse_rules pton gmp gts fuel toks.tail <;> rfl
    · rw [parse_rule, parse_rule, current_seen, read_if_name_seen]
      split_ifs
      · simp only [current_seen, ← List.map_tail, htable, parse_addr_rule_seen]
        split_ifs
        · cases parse_table_inside pton gmp gts fuel true (read_if_name toks).2.tail <;> rfl
        · cases parse_addr_rule pton gmp (read_if_name toks).1 (read_if_name toks).2.tail <;> rfl
        · rfl
      · rfl

end Seen

section Tables

variable {pton : InetPton} {gmp : GroupMemProtocol} {gts : GlobalTableSet} {toks : List Token}

-- A table whose text is broken off by a length with a fault.
def TableBreaksOff (pton : InetPton) (gmp : GroupMemProtocol) (gts : GlobalTableSet)
    (fault : ParserFault) (toks : List Token) : Prop :=
  BreaksOff gmp (OpenTable pton gmp gts) fault (toks.map Token.seen)

theorem TableBreaksOff.not_ends {fault : ParserFault} (h : TableBreaksOff pton gmp gts fault toks)
    {β : Type*} : ¬Ends (.error fault : Except ParserFault β) := by
  obtain ⟨_, _, _, -, -, hs⟩ := h
  exact hs.not_ends

theorem parse_table_ends (h : ∀ fault, ¬TableBreaksOff pton gmp gts fault toks) :
    Ends (parse_table pton gmp gts toks) := by
  have hfuel : (toks.map Token.seen).length < toks.length + 2 := by
    rw [List.length_map]
    omega
  have hends : Ends (parse_table_inside pton gmp gts (toks.length + 2) false
      (toks.map Token.seen)) :=
    (endsAt (toks.length + 2)).table (bare_seen toks) hfuel h
  rw [(parse_seen pton gmp gts _).1, seen_rest] at hends
  unfold parse_table
  cases hr : parse_table_inside pton gmp gts (toks.length + 2) false toks with
  | error e => exact hends.of_error (by rw [hr]; rfl)
  | ok r => constructor

theorem parse_table_fault {fault : ParserFault} (h : TableBreaksOff pton gmp gts fault toks) :
    parse_table pton gmp gts toks = .error fault := by
  obtain ⟨l, s, rest, hl, htoks, hs⟩ := h
  have hfuel : l.length < toks.length + 2 := by
    have hlen := congrArg List.length htoks
    simp only [List.length_map, List.length_append] at hlen
    omega
  have hfault := hl.faults hs false rest hfuel
  rw [← htoks, (parse_seen pton gmp gts _).1, seen_rest] at hfault
  unfold parse_table
  cases hr : parse_table_inside pton gmp gts (toks.length + 2) false toks with
  | error e =>
    rw [hr] at hfault
    rw [Except.error.inj hfault]
  | ok r =>
    rw [hr] at hfault
    cases hfault

theorem parse_table_faultsBy (pton : InetPton) (gmp : GroupMemProtocol) (gts : GlobalTableSet)
    (toks : List Token) :
    FaultsBy (parse_table pton gmp gts toks) (TableBreaksOff pton gmp gts · toks) where
  fault h := by
    rw [parse_table_fault h]
    exact ⟨rfl, h.not_ends⟩
  ends := parse_table_ends

end Tables

section EntryPoints

variable {pton : InetPton} {gmp : GroupMemProtocol} {gts : GlobalTableSet} {ids : InstDefSet}
  {toks : List Token}

theorem parse_group_mem_proto_ends (toks : List Token) : Ends (parse_group_mem_proto toks) := by
  unfold parse_group_mem_proto
  cases htype : get_parser_type toks with
  | error e => exact (get_parser_type_ends toks).of_error htype
  | ok type =>
    dsimp only
    split_ifs
    · split <;> constructor
    · constructor

theorem parse_table_number_ends (toks : List Token) : Ends (parse_table_number toks) := by
  unfold parse_table_number
  split_ifs
  · split <;> constructor
  · constructor
  · constructor

theorem parse_instance_definition_ends (ids : InstDefSet) (toks : List Token) :
    Ends (parse_instance_definition ids toks) := by
  unfold parse_instance_definition
  cases htype : get_parser_type toks with
  | error e => exact (get_parser_type_ends toks).of_error htype
  | ok type =>
    dsimp only
    split_ifs
    · cases hnumber : parse_table_number toks.tail.tail with
      | error e => exact (parse_table_number_ends _).of_error hnumber
      | ok r =>
        dsimp only
        split_ifs
        · split <;> constructor
        · constructor
        · constructor
        · constructor
    · constructor

-- The tokens in front of what a rule binding binds.
def BindingStart (ids : InstDefSet) (toks : List Token) : Prop :=
  current toks = TT_STRING ∧ (InstDefSet.find ids (current_string toks)).isSome = true ∧
    (current (toks.drop 1) = TT_UPSTREAM ∨ current (toks.drop 1) = TT_DOWNSTREAM) ∧
    (current (toks.drop 2) = TT_STRING ∨ current (toks.drop 2) = TT_STAR) ∧
    (current (toks.drop 3) = TT_IN ∨ current (toks.drop 3) = TT_OUT)

-- A filter is bound: its table follows.
def BindsTable (ids : InstDefSet) (toks : List Token) : Prop :=
  current toks = TT_PINSTANCE ∧ BindingStart ids (toks.drop 1) ∧
    (current (toks.drop 5) = TT_WHITELIST ∨ current (toks.drop 5) = TT_BLACKLIST)

theorem parse_interface_type_cases (toks : List Token) :
    (current toks = TT_UPSTREAM ∨ current toks = TT_DOWNSTREAM) ∧
        (∃ type, parse_interface_type toks = .ok type) ∨
      ¬(current toks = TT_UPSTREAM ∨ current toks = TT_DOWNSTREAM) ∧
        parse_interface_type toks = failed := by
  unfold parse_interface_type
  cases current toks <;> simp

theorem parse_if_name_cases (toks : List Token) :
    (current toks = TT_STRING ∨ current toks = TT_STAR) ∧
        (∃ name, parse_if_name toks = .ok name) ∨
      ¬(current toks = TT_STRING ∨ current toks = TT_STAR) ∧ parse_if_name toks = failed := by
  unfold parse_if_name
  cases current toks <;> simp

theorem parse_filter_direction_cases (toks : List Token) :
    (current toks = TT_IN ∨ current toks = TT_OUT) ∧
        (∃ direction, parse_filter_direction toks = .ok direction) ∨
      ¬(current toks = TT_IN ∨ current toks = TT_OUT) ∧
        parse_filter_direction toks = failed := by
  unfold parse_filter_direction
  cases current toks <;> simp

theorem parse_binding_head_cases (ids : InstDefSet) (toks : List Token) :
    BindingStart ids toks ∧ (∃ head, parse_binding_head ids toks = .ok (head, toks.drop 4)) ∨
      ¬BindingStart ids toks ∧ parse_binding_head ids toks = failed := by
  have hdrop : toks.tail = toks.drop 1 ∧ toks.tail.tail = toks.drop 2 ∧
      toks.tail.tail.tail = toks.drop 3 ∧ toks.tail.tail.tail.tail = toks.drop 4 := by
    simp [← List.drop_one, List.drop_drop]
  unfold parse_binding_head
  rw [hdrop.2.2.2, hdrop.2.2.1, hdrop.2.1, hdrop.1]
  by_cases hname : current toks = TT_STRING ∧
      (InstDefSet.find ids (current_string toks)).isSome = true
  · rw [if_pos hname]
    rcases parse_interface_type_cases (toks.drop 1) with ⟨htype, type, h⟩ | ⟨htype, h⟩
    · rcases parse_if_name_cases (toks.drop 2) with ⟨hif, name, h'⟩ | ⟨hif, h'⟩
      · rcases parse_filter_direction_cases (toks.drop 3) with ⟨hdir, dir, h''⟩ | ⟨hdir, h''⟩
        · rw [h, h', h'']
          exact .inl ⟨⟨hname.1, hname.2, htype, hif, hdir⟩, _, rfl⟩
        · rw [h, h', h'']
          exact .inr ⟨fun hs => hdir hs.2.2.2.2, rfl⟩
      · rw [h, h']
        exact .inr ⟨fun hs => hif hs.2.2.2.1, rfl⟩
    · rw [h]
      exact .inr ⟨fun hs => htype hs.2.2.1, rfl⟩
  · rw [if_neg hname]
    exact .inr ⟨fun hs => hname ⟨hs.1, hs.2.1⟩, rfl⟩

theorem bind_filter_ends (head : BindingHead) (rb : FilterBinding)
    (interfs : List InterfaceDefinition) : Ends (bind_filter head rb interfs) := by
  induction interfs with
  | nil => constructor
  | cons interf rest ih =>
    unfold bind_filter
    by_cases hname : interf.m_if_name = head.if_name
    · rw [if_pos hname]
      cases head.filter_direction with
      | ID_IN | ID_OUT =>
        dsimp only
        split_ifs <;> constructor
      | ID_WILDCARD => constructor
    · rw [if_neg hname]
      exact ih.map _

theorem bind_table_ends {head : BindingHead} {filter_type : RbFilterType}
    (h : Ends (parse_table pton gmp gts toks)) :
    Ends (bind_table pton gts gmp ids head toks filter_type) := by
  unfold bind_table
  refine h.bind fun r => ?_
  dsimp only
  split
  · split
    · exact (bind_filter_ends ..).bind fun _ => .returns _
    · exact (bind_filter_ends ..).bind fun _ => .returns _
  · constructor

theorem bind_table_fault {head : BindingHead} {filter_type : RbFilterType} {fault : ParserFault}
    (h : parse_table pton gmp gts toks = .error fault) :
    bind_table pton gts gmp ids head toks filter_type = .error fault := by
  unfold bind_table
  rw [h]
  rfl

theorem parse_rule_matching_ends (toks : List Token) : Ends (parse_rule_matching toks) := by
  unfold parse_rule_matching
  split
  · constructor
  · constructor
  · split_ifs
    · split <;> constructor
    · constructor
  · constructor

theorem rule_match_binding_ends (head : BindingHead) (toks : List Token) :
    Ends (parse_interface_rule_match_binding ids head toks) := by
  unfold parse_interface_rule_match_binding
  refine (parse_rule_matching_ends _).bind fun r => ?_
  dsimp only
  split <;> constructor

theorem rule_binding_type (h : current toks = TT_PINSTANCE)
    (hstart : BindingStart ids (toks.drop 1)) :
    get_parser_type toks = .ok PT_INTERFACE_RULE_BINDING := by
  have hdrop : toks.tail.tail = (toks.drop 1).drop 1 := by
    simp [← List.drop_one, List.drop_drop]
  unfold get_parser_type
  rw [h, hdrop]
  dsimp only
  rcases hstart.2.2.1 with htype | htype <;> rw [htype]

theorem pinstance_of_rule_binding (h : get_parser_type toks = .ok PT_INTERFACE_RULE_BINDING) :
    current toks = TT_PINSTANCE := by
  unfold get_parser_type at h
  split at h
  · cases h
  · cases h
  · assumption
  · cases h
  · cases h

-- What follows the direction of a rule binding.
def parse_bound_part (pton : InetPton) (gts : GlobalTableSet) (gmp : GroupMemProtocol)
    (ids : InstDefSet) (head : BindingHead) (toks : List Token) :
    Except ParserFault InstDefSet :=
  match current toks with
  | TT_WHITELIST | TT_BLACKLIST => parse_interface_table_binding pton gts gmp ids head toks
  | TT_RULE_MATCHING => parse_interface_rule_match_binding ids head toks
  | _ => failed

theorem rule_binding_eq (htype : get_parser_type toks = .ok PT_INTERFACE_RULE_BINDING) :
    parse_interface_rule_binding pton gts gmp ids toks =
      parse_binding_head ids toks.tail >>= fun r =>
        parse_bound_part pton gts gmp ids r.1 r.2 := by
  unfold parse_interface_rule_binding
  rw [htype]
  rfl

theorem rule_binding_ends_of_type
    (htype : get_parser_type toks ≠ .ok PT_INTERFACE_RULE_BINDING) :
    Ends (parse_interface_rule_binding pton gts gmp ids toks) := by
  unfold parse_interface_rule_binding
  cases h : get_parser_type toks with
  | error e => exact (get_parser_type_ends toks).of_error h
  | ok type =>
    have hne : type ≠ PT_INTERFACE_RULE_BINDING := by
      rintro rfl
      exact htype h
    change Ends (if type = PT_INTERFACE_RULE_BINDING then _ else failed)
    rw [if_neg hne]
    constructor

theorem bound_part_cases (head : BindingHead) (toks : List Token) :
    (current toks = TT_WHITELIST ∨ current toks = TT_BLACKLIST) ∧
        (∃ filter_type, parse_bound_part pton gts gmp ids head toks =
          bind_table pton gts gmp ids head toks.tail filter_type) ∨
      ¬(current toks = TT_WHITELIST ∨ current toks = TT_BLACKLIST) ∧
        Ends (parse_bound_part pton gts gmp ids head toks) := by
  unfold parse_bound_part parse_interface_table_binding
  cases hlist : current toks with
  | TT_WHITELIST => exact .inl ⟨.inl rfl, _, rfl⟩
  | TT_BLACKLIST => exact .inl ⟨.inr rfl, _, rfl⟩
  | TT_RULE_MATCHING => exact .inr ⟨by simp, rule_match_binding_ends head toks⟩
  | _ => exact .inr ⟨by simp, .failed⟩

-- A rule binding reads a table, or it ends.
theorem rule_binding_cases (pton : InetPton) (gmp : GroupMemProtocol) (gts : GlobalTableSet)
    (ids : InstDefSet) (toks : List Token) :
    BindsTable ids toks ∧ (∃ head filter_type,
        parse_interface_rule_binding pton gts gmp ids toks =
          bind_table pton gts gmp ids head (toks.drop 6) filter_type) ∨
      ¬BindsTable ids toks ∧ Ends (parse_interface_rule_binding pton gts gmp ids toks) := by
  by_cases htype : get_parser_type toks = .ok PT_INTERFACE_RULE_BINDING
  · have hfirst := pinstance_of_rule_binding htype
    rw [rule_binding_eq htype, ← List.drop_one]
    rcases parse_binding_head_cases ids (toks.drop 1) with ⟨hstart, head, h⟩ | ⟨hstart, h⟩
    · have hrest : (toks.drop 1).drop 4 = toks.drop 5 := List.drop_drop
      have htail : (toks.drop 5).tail = toks.drop 6 := List.tail_drop
      rw [h, hrest]
      rcases bound_part_cases head (toks.drop 5) with ⟨hlist, type, hbind⟩ | ⟨hlist, hends⟩
      · rw [htail] at hbind
        exact .inl ⟨⟨hfirst, hstart, hlist⟩, head, type, hbind⟩
      · exact .inr ⟨fun hbinds => hlist hbinds.2.2, hends⟩
    · rw [h]
      exact .inr ⟨fun hbinds => hstart hbinds.2.1, .failed⟩
  · exact .inr ⟨fun hbinds => htype (rule_binding_type hbinds.1 hbinds.2.1),
      rule_binding_ends_of_type htype⟩

theorem rule_binding_faultsBy (pton : InetPton) (gmp : GroupMemProtocol) (gts : GlobalTableSet)
    (ids : InstDefSet) (toks : List Token) :
    FaultsBy (parse_interface_rule_binding pton gts gmp ids toks)
      (BindsTable ids toks ∧ TableBreaksOff pton gmp gts · (toks.drop 6)) := by
  rcases rule_binding_cases pton gmp gts ids toks with ⟨hbinds, head, type, heq⟩ | ⟨hbinds, hends⟩
  · rw [heq]
    refine ⟨fun h => ?_, fun h => bind_table_ends (parse_table_ends fun f hf => h f ⟨hbinds, hf⟩)⟩
    rw [bind_table_fault (parse_table_fault h.2)]
    exact ⟨rfl, h.2.not_ends⟩
  · exact ⟨fun h => absurd h.1 hbinds, fun _ => hends⟩

-- Every entry point returns or throws, unless the length behind a slash has a fault; then the
-- two that read a table end in that fault, and none of them goes on for ever.
theorem parser_ends_iff (pton : InetPton) (gmp : GroupMemProtocol) (gts : GlobalTableSet)
    (ids : InstDefSet) (toks : List Token) :
    Ends (parse_group_mem_proto toks) ∧ Ends (parse_instance_definition ids toks) ∧
      (Ends (parse_table pton gmp gts toks) ↔
        ∀ fault, ¬TableBreaksOff pton gmp gts fault toks) ∧
      (Ends (parse_interface_rule_binding pton gts gmp ids toks) ↔
        ∀ fault, ¬(BindsTable ids toks ∧ TableBreaksOff pton gmp gts fault (toks.drop 6))) ∧
      (parse_table pton gmp gts toks = .error .terminate ↔
        TableBreaksOff pton gmp gts .terminate toks) ∧
      (parse_interface_rule_binding pton gts gmp ids toks = .error .terminate ↔
        BindsTable ids toks ∧ TableBreaksOff pton gmp gts .terminate (toks.drop 6)) ∧
      parse_table pton gmp gts toks ≠ .error .out_of_fuel ∧
      parse_interface_rule_binding pton gts gmp ids toks ≠ .error .out_of_fuel := by
  have htable := parse_table_faultsBy pton gmp gts toks
  have hbinding := rule_binding_faultsBy pton gmp gts ids toks
  have hfuel : ∀ toks, ¬TableBreaksOff pton gmp gts .out_of_fuel toks :=
    fun toks ⟨_, _, _, _, _, hs⟩ => hs
  exact ⟨parse_group_mem_proto_ends toks, parse_instance_definition_ends ids toks,
    htable.ends_iff, hbinding.ends_iff, htable.error_iff not_ends_terminate,
    hbinding.error_iff not_ends_terminate,
    mt (htable.error_iff not_ends_out_of_fuel).mp (hfuel toks),
    fun h => hfuel _ ((hbinding.error_iff not_ends_out_of_fuel).mp h).2⟩

-- A prefix longer than any address terminates the program.
theorem long_prefix_terminates : ∃ toks, scanner "table {(224.0.0.0/129 | *)}" = .ok toks ∧
    parse_table (known_addrs [("224.0.0.0", 0xE0000000)] []) .IGMPv3 [] toks =
      .error .terminate := by
  have haddr : WritesBound (known_addrs [("224.0.0.0", 0xE0000000)] []) .IGMPv3
      (some (inet 0xE0000000))
      [str "224", tok TT_DOT, str "0", tok TT_DOT, str "0", tok TT_DOT, str "0"] :=
    ⟨by decide, by decide, by decide +kernel, by decide⟩
  have hopen : OpenTable (known_addrs [("224.0.0.0", 0xE0000000)] []) .IGMPv3 []
      [tok TT_TABLE, tok TT_LEFT_BRACE, tok TT_LEFT_BRACKET, str "224", tok TT_DOT, str "0",
        tok TT_DOT, str "0", tok TT_DOT, str "0"] :=
    .rules none (.here (.addr none (.group ⟨_, haddr⟩)))
  have hlen : stoi "129" = some 129 := by decide +kernel
  exact ⟨[tok TT_TABLE, tok TT_LEFT_BRACE, tok TT_LEFT_BRACKET, str "224", tok TT_DOT, str "0",
      tok TT_DOT, str "0", tok TT_DOT, str "0", tok TT_SLASH, str "129", tok TT_PIPE, tok TT_STAR,
      tok TT_RIGHT_BRACKET, tok TT_RIGHT_BRACE], by decide +kernel,
    parse_table_fault ⟨_, "129", _, hopen, rfl, 129, hlen, .inr (by decide)⟩⟩

end EntryPoints

end Mcproxy
