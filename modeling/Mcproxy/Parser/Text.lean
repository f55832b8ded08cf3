import Mcproxy.Parser.Prefix

namespace Mcproxy

open TokenType AddrFamily AddrStorage

section Syntax

-- A star or an address.
abbrev Bound := Option AddrStorage

inductive Part
  | single (b : Bound)
  | range (b c : Bound)
  | cidr (b : Bound) (len : ℕ)

-- The text of a table: rules with an optional interface name in front of each, or the name of
-- another table.
mutual

inductive Rule
  | addr (n : Option String) (group source : Part)
  | table (n : Option String) (t : TableText)

inductive TableText
  | rules (name : Option String) (rules : List Rule)
  | ref (name : String)

end

-- The name a global table gets.
def TableText.name : TableText → String
  | .rules name _ => name.getD ""
  | .ref _ => ""

end Syntax

section Boxes

variable (gmp : GroupMemProtocol)

def bound_addr : Bound → AddrStorage
  | none => zero (get_addr_family gmp)
  | some a => a

-- The objects the parser makes of a text.
def Part.addr_match : Part → AddrMatch
  | single b => .single_addr (bound_addr gmp b)
  | range b c => .addr_range (bound_addr gmp b) (bound_addr gmp c)
  | cidr b len =>
    .addr_range (((bound_addr gmp b).mask len).getD unspec)
      (((bound_addr gmp b).broadcast_addr len).getD unspec)

mutual

def Rule.rule_box : Rule → RuleBox
  | .addr n group source => .rule_addr (n.getD "") (group.addr_match gmp) (source.addr_match gmp)
  | .table _ t => .rule_table t.name t.rule_boxes

def TableText.rule_boxes : TableText → List RuleBox
  | .rules _ rules => rule_boxes_of rules
  | .ref name => [.rule_table_ref name]

def rule_boxes_of : List Rule → List RuleBox
  | [] => []
  | r :: rules => r.rule_box :: rule_boxes_of rules

end

def TableText.table (t : TableText) : Table := ⟨t.name, t.rule_boxes gmp⟩

end Boxes

section Writes

def tok (type : TokenType) : Token := { m_type := type }

def str (s : String) : Token := ⟨TT_STRING, s⟩

def name_tokens : Option String → List Token
  | none => []
  | some n => [str n]

variable (pton : InetPton) (gmp : GroupMemProtocol) (gts : GlobalTableSet)

def WritesBound : Bound → List Token → Prop
  | none, toks => toks = [tok TT_STAR]
  | some a, toks => Spells pton gmp toks a

inductive WritesPart : Part → List Token → Prop
  | single {b : Bound} {toks : List Token} (hb : WritesBound pton gmp b toks) :
    WritesPart (.single b) toks
  | range {b c : Bound} {l r : List Token} (hb : WritesBound pton gmp b l)
      (hc : WritesBound pton gmp c r) : WritesPart (.range b c) (l ++ tok TT_RANGE :: r)
  | cidr {b : Bound} {l : List Token} {s : String} {len : ℕ} (hb : WritesBound pton gmp b l)
      (hs : stoi s = some (len : ℤ)) (hle : len ≤ 128)
      (hmask : ((bound_addr gmp b).mask len).isSome = true)
      (hbroad : ((bound_addr gmp b).broadcast_addr len).isSome = true) :
    WritesPart (.cidr b len) (l ++ [tok TT_SLASH, str s])

mutual

inductive WritesRule : Rule → List Token → Prop
  | addr {n : Option String} {group source : Part} {l r : List Token}
      (hg : WritesPart pton gmp group l) (hs : WritesPart pton gmp source r) :
    WritesRule (.addr n group source)
      (name_tokens n ++ tok TT_LEFT_BRACKET :: (l ++ tok TT_PIPE :: (r ++ [tok TT_RIGHT_BRACKET])))
  | table {n : Option String} {t : TableText} {l : List Token} (ht : WritesTable t l) :
    WritesRule (.table n t)
      (name_tokens n ++ tok TT_LEFT_BRACKET :: (l ++ [tok TT_RIGHT_BRACKET]))

inductive WritesTable : TableText → List Token → Prop
  | rules {name : Option String} {rules : List Rule} {l : List Token} (h : WritesRules rules l) :
    WritesTable (.rules name rules)
      (tok TT_TABLE :: (name_tokens name ++ tok TT_LEFT_BRACE :: (l ++ [tok TT_RIGHT_BRACE])))
  | ref {name : String} (h : (gts.get_table name).isSome = true) :
    WritesTable (.ref name) [tok TT_TABLE, str name]

inductive WritesRules : List Rule → List Token → Prop
  | nil : WritesRules [] []
  | cons {r : Rule} {rules : List Rule} {l l' : List Token} (hr : WritesRule r l)
      (h : WritesRules rules l') : WritesRules (r :: rules) (l ++ l')

end

end Writes

section Sound

variable {pton : InetPton} {gmp : GroupMemProtocol} {gts : GlobalTableSet}

abbrev Plain (toks : List Token) : Prop := ∀ tok ∈ toks, tok.Plain

theorem Plain.tail {toks : List Token} (h : Plain toks) : Plain toks.tail := fun t ht =>
  h t (List.mem_of_mem_tail ht)

theorem Plain.of_append {l r : List Token} (h : Plain (l ++ r)) : Plain r := fun t ht =>
  h t (List.mem_append_right _ ht)

-- Only strings have a text.
abbrev Bare (toks : List Token) : Prop :=
  ∀ tok ∈ toks, tok.m_type ≠ TT_STRING → tok.m_string = ""

theorem Plain.bare {toks : List Token} (h : Plain toks) : Bare toks := fun t ht => (h t ht).2

theorem Bare.tail {toks : List Token} (h : Bare toks) : Bare toks.tail := fun t ht =>
  h t (List.mem_of_mem_tail ht)

theorem Bare.of_append {l r : List Token} (h : Bare (l ++ r)) : Bare r := fun t ht =>
  h t (List.mem_append_right _ ht)

theorem cons_of_string {toks : List Token} (h : current toks = TT_STRING) :
    toks = str (current_string toks) :: toks.tail := by
  cases toks with
  | nil => cases h
  | cons t toks =>
    obtain ⟨type, s⟩ := t
    obtain rfl : type = TT_STRING := h
    rfl

theorem cons_of_current {toks : List Token} {type : TokenType} (hp : Bare toks)
    (h : current toks = type) (hs : type ≠ TT_STRING) (hn : type ≠ TT_NIL) :
    toks = tok type :: toks.tail := by
  cases toks with
  | nil => exact absurd h.symm hn
  | cons t toks =>
    obtain ⟨type', s⟩ := t
    obtain rfl : type' = type := h
    obtain rfl : s = "" := hp _ List.mem_cons_self hs
    rfl

theorem get_addr_sound {toks rest : List Token} {a : AddrStorage}
    (hcur : current toks = TT_STRING) (h : get_addr pton gmp toks = .ok (a, rest)) :
    ∃ l, Spells pton gmp l a ∧ toks = l ++ rest := by
  simp only [get_addr] at h
  split_ifs at h with hv hf
  · obtain ⟨rfl, rfl⟩ : _ ∧ _ := by simpa using h
    refine ⟨toks.takeWhile is_addr_token, ⟨?_, fun t ht => List.mem_takeWhile_imp ht, rfl, hf⟩,
      List.takeWhile_append_dropWhile.symm⟩
    rw [cons_of_string hcur]
    rfl
  all_goals cases h

theorem parse_bound_sound {toks rest : List Token} {a : AddrStorage} (hp : Bare toks)
    (h : parse_bound pton gmp toks = .ok (a, rest)) :
    ∃ b l, WritesBound pton gmp b l ∧ toks = l ++ rest ∧ a = bound_addr gmp b := by
  unfold parse_bound at h
  split at h
  · next hcur =>
    obtain ⟨l, hl, htoks⟩ := get_addr_sound hcur h
    exact ⟨some a, l, hl, htoks, rfl⟩
  · next hcur =>
    obtain ⟨rfl, rfl⟩ : _ ∧ _ := by simpa using h
    exact ⟨none, [tok TT_STAR], rfl, cons_of_current hp hcur (by decide) (by decide), rfl⟩
  · cases h

theorem parse_prefix_len_sound {toks rest : List Token} {a : AddrStorage} {m : AddrMatch}
    (h : parse_prefix_len a toks = .ok (m, rest)) :
    ∃ (s : String) (len : ℕ) (lo hi : AddrStorage), stoi s = some (len : ℤ) ∧ len ≤ 128 ∧
      a.mask len = some lo ∧ a.broadcast_addr len = some hi ∧ m = .addr_range lo hi ∧
      toks = str s :: rest ∧ ends_part rest := by
  simp only [parse_prefix_len] at h
  split at h
  · next hcur =>
    split at h
    · cases h
    · next number hn =>
      have hb := stoi_bounds hn
      split at h
      · cases h
      · have hnum : ((number % 2 ^ 32).toNat : ℤ) = number := by omega
        split at h
        · next lo hi hmask hbroad =>
          split at h
          · next hend =>
            obtain ⟨rfl, rfl⟩ : _ ∧ _ := by simpa using h
            exact ⟨_, _, lo, hi, hnum.symm ▸ hn, by omega, hmask, hbroad, rfl,
              cons_of_string hcur, hend⟩
          · cases h
        · cases h
  · cases h

theorem parse_rule_part_sound {toks rest : List Token} {m : AddrMatch} (hp : Bare toks)
    (h : parse_rule_part pton gmp toks = .ok (m, rest)) :
    ∃ part l, WritesPart pton gmp part l ∧ toks = l ++ rest ∧ m = part.addr_match gmp ∧
      ends_part rest := by
  unfold parse_rule_part at h
  split at h
  · cases h
  · next addr_from toks₁ hbound =>
    obtain ⟨b, l, hb, rfl, rfl⟩ := parse_bound_sound hp hbound
    have hp₁ := hp.of_append
    split_ifs at h with hslash hend hrange
    · obtain ⟨s, len, lo, hi, hs, hle, hmask, hbroad, rfl, htail, hend⟩ := parse_prefix_len_sound h
      have hcons := cons_of_current hp₁ hslash (by decide) (by decide)
      refine ⟨.cidr b len, l ++ [tok TT_SLASH, str s], .cidr hb hs hle ?_ ?_, ?_, ?_, hend⟩
      · simp [hmask]
      · simp [hbroad]
      · rw [hcons, htail]
        simp
      · simp [Part.addr_match, hmask, hbroad]
    · obtain ⟨rfl, rfl⟩ : _ ∧ _ := by simpa using h
      exact ⟨.single b, l, .single hb, rfl, rfl, hend⟩
    · have hcons := cons_of_current hp₁ hrange (by decide) (by decide)
      split at h
      · cases h
      · next addr_to toks₂ hbound₂ =>
        obtain ⟨c, r, hc, htail, rfl⟩ := parse_bound_sound hp₁.tail hbound₂
        split_ifs at h with hend
        · obtain ⟨rfl, rfl⟩ : _ ∧ _ := by simpa using h
          refine ⟨.range b c, l ++ tok TT_RANGE :: r, .range hb hc, ?_, rfl, hend⟩
          rw [hcons, htail]
          simp
        · cases h
    · cases h

theorem table_ref_sound {toks rest : List Token} {t : Table}
    (h : table_ref gts toks = .ok (t, rest)) :
    ∃ name, (gts.get_table name).isSome = true ∧ toks = str name :: rest ∧
      t = TableText.table gmp (.ref name) := by
  unfold table_ref at h
  split at h
  · next hcur =>
    obtain ⟨rfl, rfl⟩ : _ ∧ _ := by simpa using h
    exact ⟨_, hcur.2, cons_of_string hcur.1, rfl⟩
  · cases h

theorem open_table_sound {toks rest : List Token} {table_name : String} (hp : Bare toks)
    (h : open_table toks = .ok (table_name, rest)) :
    ∃ name, toks = name_tokens name ++ tok TT_LEFT_BRACE :: rest ∧ table_name = name.getD "" := by
  unfold open_table at h
  split at h
  · next hcur =>
    split at h
    · next hbrace =>
      obtain ⟨rfl, rfl⟩ : _ ∧ _ := by simpa using h
      have hcons := cons_of_string hcur
      have hcons' := cons_of_current hp.tail hbrace (by decide) (by decide)
      refine ⟨some (current_string toks), ?_, rfl⟩
      rw [name_tokens, List.singleton_append, ← hcons', ← hcons]
    · cases h
  · next hcur =>
    obtain ⟨rfl, rfl⟩ : _ ∧ _ := by simpa using h
    exact ⟨none, cons_of_current hp hcur (by decide) (by decide), rfl⟩
  · cases h

theorem parser_type_table {toks : List Token} (h : get_parser_type toks = .ok .PT_TABLE) :
    current toks = TT_TABLE := by
  unfold get_parser_type at h
  split at h
  · cases h
  · assumption
  · split at h <;> cases h
  · cases h
  · cases h

-- What the three functions accept is a text, and they make the objects of that text.
structure SoundAt (pton : InetPton) (gmp : GroupMemProtocol) (gts : GlobalTableSet) (fuel : ℕ) :
    Prop where
  table : ∀ {inside : Bool} {toks rest : List Token} {t : Table}, Bare toks →
    parse_table_inside pton gmp gts fuel inside toks = .ok (t, rest) →
    ∃ text l, WritesTable pton gmp gts text l ∧ toks = l ++ rest ∧ t = text.table gmp ∧
      current rest = table_end inside
  rules : ∀ {toks rest : List Token} {boxes : List RuleBox}, Bare toks →
    parse_rules pton gmp gts fuel toks = .ok (boxes, rest) →
    ∃ rules l, WritesRules pton gmp gts rules l ∧ toks = l ++ rest ∧
      boxes = rule_boxes_of gmp rules
  rule : ∀ {toks rest : List Token} {box : RuleBox}, Bare toks →
    parse_rule pton gmp gts fuel toks = .ok (some box, rest) →
    ∃ r l, WritesRule pton gmp gts r l ∧ toks = l ++ rest.tail ∧ box = r.rule_box gmp
  no_rule : ∀ {toks rest : List Token},
    parse_rule pton gmp gts fuel toks = .ok (none, rest) → rest = toks

variable {fuel : ℕ}

theorem SoundAt.table_succ (ih : SoundAt pton gmp gts fuel) {inside : Bool}
    {toks rest : List Token} {t : Table} (hp : Bare toks)
    (h : parse_table_inside pton gmp gts (fuel + 1) inside toks = .ok (t, rest)) :
    ∃ text l, WritesTable pton gmp gts text l ∧ toks = l ++ rest ∧ t = text.table gmp ∧
      current rest = table_end inside := by
  simp only [parse_table_inside] at h
  split at h
  · cases h
  · next type htype =>
    split at h
    · next htable =>
      subst htable
      have hcons := cons_of_current hp (parser_type_table htype) (by decide) (by decide)
      split at h
      · next hend =>
        obtain ⟨name, hname, htail, ht⟩ := table_ref_sound h
        refine ⟨.ref name, _, .ref hname, ?_, ht, ?_⟩
        · rw [hcons, htail]
          rfl
        · rw [htail] at hend
          exact hend
      · split at h
        · cases h
        · next table_name toks₁ hopen =>
          obtain ⟨name, htail, rfl⟩ := open_table_sound hp.tail hopen
          have hp₁ : Bare toks₁ := by
            have hp' := hp.tail
            rw [htail] at hp'
            exact hp'.of_append.tail
          split at h
          · cases h
          · next boxes toks₂ hrules =>
            obtain ⟨rules, l, hl, rfl, rfl⟩ := ih.rules hp₁ hrules
            split at h
            · next hend =>
              obtain ⟨rfl, rfl⟩ : _ ∧ _ := by simpa using h
              have hbrace := cons_of_current hp₁.of_append hend.1 (by decide) (by decide)
              refine ⟨.rules name rules, _, .rules hl, ?_, rfl, hend.2⟩
              rw [hcons, htail]
              nth_rewrite 1 [hbrace]
              simp
            · cases h
    · cases h

theorem SoundAt.rules_succ (ih : SoundAt pton gmp gts fuel) {toks rest : List Token}
    {boxes : List RuleBox} (hp : Bare toks)
    (h : parse_rules pton gmp gts (fuel + 1) toks = .ok (boxes, rest)) :
    ∃ rules l, WritesRules pton gmp gts rules l ∧ toks = l ++ rest ∧
      boxes = rule_boxes_of gmp rules := by
  simp only [parse_rules] at h
  split at h
  · cases h
  · next toks₁ hrule =>
    obtain ⟨rfl, rfl⟩ : _ ∧ _ := by simpa using h
    exact ⟨[], [], .nil, (ih.no_rule hrule).symm, rfl⟩
  · next box toks₁ hrule =>
    obtain ⟨r, l, hr, rfl, rfl⟩ := ih.rule hp hrule
    split at h
    · cases h
    · next boxes₁ toks₂ hrules =>
      obtain ⟨rfl, rfl⟩ : _ ∧ _ := by simpa using h
      obtain ⟨rules, l', hl', htail, rfl⟩ := ih.rules hp.of_append hrules
      exact ⟨r :: rules, l ++ l', .cons hr hl', by rw [htail, List.append_assoc], rfl⟩

theorem read_if_name_sound {toks : List Token} (hp : Bare toks)
    (hbracket : current (read_if_name toks).2 = TT_LEFT_BRACKET) :
    ∃ n, toks = name_tokens n ++ tok TT_LEFT_BRACKET :: (read_if_name toks).2.tail ∧
      (read_if_name toks).1 = n.getD "" := by
  unfold read_if_name at hbracket ⊢
  split at hbracket
  · next hcur =>
    have hcons := cons_of_string hcur
    have hcons' := cons_of_current hp.tail hbracket (by decide) (by decide)
    refine ⟨some (current_string toks), ?_, by rw [if_pos hcur]; rfl⟩
    rw [if_pos hcur, name_tokens, List.singleton_append, ← hcons', ← hcons]
  · next hcur =>
    rw [if_neg hcur]
    exact ⟨none, cons_of_current hp hbracket (by decide) (by decide), rfl⟩

theorem parse_addr_rule_sound {n : Option String} {toks rest : List Token} {box : RuleBox}
    (hp : Bare toks) (h : parse_addr_rule pton gmp (n.getD "") toks = .ok (box, rest)) :
    ∃ g s l, WritesRule pton gmp gts (.addr n g s)
        (name_tokens n ++ tok TT_LEFT_BRACKET :: l) ∧ toks = l ++ rest.tail ∧
      box = (Rule.addr n g s).rule_box gmp := by
  unfold parse_addr_rule at h
  split at h
  · cases h
  · next group toks₁ hgroup =>
    obtain ⟨g, l, hl, rfl, rfl, -⟩ := parse_rule_part_sound hp hgroup
    split at h
    · next hpipe =>
      have hpipe' := cons_of_current hp.of_append hpipe (by decide) (by decide)
      split at h
      · cases h
      · next source toks₂ hsource =>
        obtain ⟨s, r, hr, htail, rfl, -⟩ := parse_rule_part_sound hp.of_append.tail hsource
        split at h
        · next hend =>
          obtain ⟨rfl, rfl⟩ : _ ∧ _ := by simpa using h
          have hp₂ : Bare toks₂ := by
            have hp₁ := hp.of_append.tail
            rw [htail] at hp₁
            exact hp₁.of_append
          have hend' := cons_of_current hp₂ hend (by decide) (by decide)
          refine ⟨g, s, _, .addr hl hr, ?_, rfl⟩
          rw [hpipe', htail]
          nth_rewrite 1 [hend']
          simp
        · cases h
    · cases h

theorem SoundAt.rule_succ (ih : SoundAt pton gmp gts fuel) {toks rest : List Token} {box : RuleBox}
    (hp : Bare toks) (h : parse_rule pton gmp gts (fuel + 1) toks = .ok (some box, rest)) :
    ∃ r l, WritesRule pton gmp gts r l ∧ toks = l ++ rest.tail ∧ box = r.rule_box gmp := by
  simp only [parse_rule] at h
  split at h
  · split at h
    · next hbracket =>
      obtain ⟨n, hcons, hname⟩ := read_if_name_sound hp hbracket
      rw [hname] at h
      generalize (read_if_name toks).2.tail = toks₁ at h hcons
      have hp₁ : Bare toks₁ := by
        rw [hcons] at hp
        exact hp.of_append.tail
      split at h
      · split at h
        · cases h
        · next t toks₂ htable =>
          obtain ⟨rfl, rfl⟩ : _ ∧ _ := by simpa using h
          obtain ⟨text, l, hl, rfl, rfl, hend⟩ := ih.table hp₁ htable
          have hend' := cons_of_current hp₁.of_append hend (by decide) (by decide)
          refine ⟨.table n text, _, .table hl, ?_, rfl⟩
          rw [hcons]
          nth_rewrite 1 [hend']
          simp [table_end]
      · split at h
        · cases h
        · next rule toks₂ hrule =>
          obtain ⟨rfl, rfl⟩ : _ ∧ _ := by simpa using h
          obtain ⟨g, s, l, hr, rfl, rfl⟩ := parse_addr_rule_sound hp₁ hrule
          exact ⟨.addr n g s, _, hr, by rw [hcons, List.append_assoc]; rfl, rfl⟩
    · cases h
  · simp at h

theorem no_rule_succ {toks rest : List Token}
    (h : parse_rule pton gmp gts (fuel + 1) toks = .ok (none, rest)) : rest = toks := by
  simp only [parse_rule] at h
  split at h
  · split at h
    · split at h
      · split at h <;> simp at h
      · split at h <;> simp at h
    · cases h
  · simpa using h.symm

theorem soundAt (fuel : ℕ) : SoundAt pton gmp gts fuel := by
  induction fuel with
  | zero => refine ⟨fun _ h => ?_, fun _ h => ?_, fun _ h => ?_, fun h => ?_⟩ <;> cases h
  | succ fuel ih => exact ⟨ih.table_succ, ih.rules_succ, ih.rule_succ, no_rule_succ⟩

end Sound

section Complete

variable {pton : InetPton} {gmp : GroupMemProtocol} {gts : GlobalTableSet}

@[simp]
theorem current_tok (type : TokenType) (toks : List Token) : current (tok type :: toks) = type :=
  rfl

@[simp]
theorem current_str (s : String) (toks : List Token) : current (str s :: toks) = TT_STRING := rfl

@[simp]
theorem current_string_str (s : String) (toks : List Token) :
    current_string (str s :: toks) = s := rfl

theorem WritesBound.parse {b : Bound} {l rest : List Token} (h : WritesBound pton gmp b l)
    (hrest : ∀ tok ∈ rest.head?, is_addr_token tok = false) :
    parse_bound pton gmp (l ++ rest) = .ok (bound_addr gmp b, rest) := by
  cases b with
  | none =>
    subst h
    rfl
  | some a => exact parse_bound_append h hrest

theorem not_addr_token_of_ends_part {toks : List Token} (h : ends_part toks) :
    ∀ tok ∈ toks.head?, is_addr_token tok = false := by
  cases toks with
  | nil => simp
  | cons t toks =>
    have ht : t.m_type = TT_RIGHT_BRACKET ∨ t.m_type = TT_PIPE := h
    obtain ht | ht := ht <;> simp [is_addr_token, ht]

theorem WritesPart.parse {part : Part} {l rest : List Token} (h : WritesPart pton gmp part l)
    (hend : ends_part rest) :
    parse_rule_part pton gmp (l ++ rest) = .ok (part.addr_match gmp, rest) := by
  have hnslash : current rest ≠ TT_SLASH := by
    rintro hs
    simp [ends_part, hs] at hend
  cases h with
  | single hb =>
    rw [parse_rule_part, hb.parse (not_addr_token_of_ends_part hend)]
    simp only [if_neg hnslash, if_pos hend]
    rfl
  | range hb hc =>
    rw [parse_rule_part, List.append_assoc, hb.parse (by simp [is_addr_token, tok])]
    simp only [List.cons_append, current_tok, ends_part, reduceCtorEq, or_self, if_false, if_true,
      List.tail_cons, hc.parse (not_addr_token_of_ends_part hend)]
    exact if_pos hend
  | @cidr b l s len hb hs hle hmask hbroad =>
    have hbits : parse_prefix_len (bound_addr gmp b) (str s :: rest) = _ :=
      parse_prefix_len_eq rfl hs hend
    obtain ⟨lo, hlo⟩ := Option.isSome_iff_exists.mp hmask
    obtain ⟨hi, hhi⟩ := Option.isSome_iff_exists.mp hbroad
    rw [parse_rule_part, List.append_assoc, hb.parse (by simp [is_addr_token, tok])]
    simp only [List.cons_append, List.nil_append, current_tok, if_true, List.tail_cons]
    rw [hbits, if_neg (by omega), Int.toNat_natCast, hlo, hhi]
    simp [Part.addr_match, hlo, hhi]

theorem WritesTable.cons {t : TableText} {l : List Token} (h : WritesTable pton gmp gts t l) :
    l = tok TT_TABLE :: l.tail := by
  cases h <;> rfl

-- A rule begins with a name or a bracket.
theorem WritesRule.first {r : Rule} {l : List Token} (h : WritesRule pton gmp gts r l)
    (rest : List Token) :
    current (l ++ rest) = TT_STRING ∨ current (l ++ rest) = TT_LEFT_BRACKET := by
  cases h with
  | @addr n =>
    cases n with
    | none => exact Or.inr rfl
    | some n => exact Or.inl rfl
  | @table n =>
    cases n with
    | none => exact Or.inr rfl
    | some n => exact Or.inl rfl

theorem read_if_name_tokens (n : Option String) (rest : List Token) :
    read_if_name (name_tokens n ++ tok TT_LEFT_BRACKET :: rest) =
      (n.getD "", tok TT_LEFT_BRACKET :: rest) := by
  cases n <;> rfl

theorem open_table_tokens (name : Option String) (rest : List Token) :
    open_table (name_tokens name ++ tok TT_LEFT_BRACE :: rest) = .ok (name.getD "", rest) := by
  cases name <;> rfl

theorem WritesRule.length_pos {r : Rule} {l : List Token} (h : WritesRule pton gmp gts r l) :
    0 < l.length := by
  cases h <;> simp

theorem parse_addr_rule_tokens {group source : Part} {l r rest : List Token} (if_name : String)
    (hg : WritesPart pton gmp group l) (hs : WritesPart pton gmp source r) :
    parse_addr_rule pton gmp if_name (l ++ tok TT_PIPE :: (r ++ tok TT_RIGHT_BRACKET :: rest)) =
      .ok (.rule_addr if_name (group.addr_match gmp) (source.addr_match gmp),
        tok TT_RIGHT_BRACKET :: rest) := by
  rw [parse_addr_rule, hg.parse (Or.inr rfl)]
  simp only [current_tok, if_true, List.tail_cons, hs.parse (Or.inl (current_tok _ _))]

-- A part of a rule is not a table.
theorem WritesPart.first {part : Part} {l : List Token} (h : WritesPart pton gmp part l)
    (rest : List Token) : current (l ++ rest) ≠ TT_TABLE := by
  have bound : ∀ {b l} (rest : List Token), WritesBound pton gmp b l →
      current (l ++ rest) ≠ TT_TABLE := by
    intro b l rest hb
    cases b with
    | none =>
      subst hb
      exact TokenType.noConfusion
    | some a =>
      rw [current_append (by simp [hb.first]), hb.first]
      exact TokenType.noConfusion
  cases h with
  | single hb => exact bound rest hb
  | range hb hc =>
    rw [List.append_assoc]
    exact bound _ hb
  | cidr hb =>
    rw [List.append_assoc]
    exact bound _ hb

-- The token behind the first one of a table with rules is not the one that ends a reference.
theorem WritesRules.not_table_end {rules : List Rule} {l : List Token}
    (h : WritesRules pton gmp gts rules l) (name : Option String) (rest : List Token)
    (inside : Bool) :
    current (name_tokens name ++ tok TT_LEFT_BRACE :: (l ++ tok TT_RIGHT_BRACE :: rest)).tail ≠
      table_end inside := by
  cases name with
  | some name => cases inside <;> exact TokenType.noConfusion
  | none =>
    have hcur : current (l ++ tok TT_RIGHT_BRACE :: rest) = TT_RIGHT_BRACE ∨
        current (l ++ tok TT_RIGHT_BRACE :: rest) = TT_STRING ∨
        current (l ++ tok TT_RIGHT_BRACE :: rest) = TT_LEFT_BRACKET := by
      cases h with
      | nil => exact Or.inl rfl
      | cons hr _ =>
        rw [List.append_assoc]
        exact Or.inr (hr.first _)
    rw [name_tokens, List.nil_append, List.tail_cons]
    obtain h | h | h := hcur <;> rw [h] <;> cases inside <;> exact TokenType.noConfusion

-- The functions find every text again, with fuel for each of its tokens.
mutual

theorem WritesRule.parse {r : Rule} {l : List Token} (h : WritesRule pton gmp gts r l)
    {rest : List Token} {fuel : ℕ} (hfuel : l.length < fuel) :
    parse_rule pton gmp gts fuel (l ++ rest) =
      .ok (some (r.rule_box gmp), tok TT_RIGHT_BRACKET :: rest) := by
  obtain ⟨fuel, rfl⟩ : ∃ k, fuel = k + 1 := ⟨fuel - 1, by omega⟩
  rw [parse_rule, if_pos (h.first rest)]
  cases h with
  | @addr n group source l r hg hs =>
    simp only [List.append_assoc, List.cons_append, List.nil_append, read_if_name_tokens,
      current_tok, if_true, List.tail_cons, if_neg (hg.first _), parse_addr_rule_tokens _ hg hs]
    rfl
  | @table n t l ht =>
    have hlen : l.length < fuel := by
      simp only [List.length_append, List.length_cons] at hfuel
      omega
    have hcur : current (l ++ tok TT_RIGHT_BRACKET :: rest) = TT_TABLE := by
      rw [ht.cons]
      rfl
    have hparse : parse_table_inside pton gmp gts fuel true (l ++ tok TT_RIGHT_BRACKET :: rest) =
        .ok (t.table gmp, tok TT_RIGHT_BRACKET :: rest) := ht.parse rfl hlen
    simp only [List.append_assoc, List.cons_append, List.nil_append, read_if_name_tokens,
      current_tok, if_true, List.tail_cons, hcur, hparse]
    rfl

theorem WritesTable.parse {t : TableText} {l : List Token} (h : WritesTable pton gmp gts t l)
    {inside : Bool} {rest : List Token} (hrest : current rest = table_end inside) {fuel : ℕ}
    (hfuel : l.length < fuel) :
    parse_table_inside pton gmp gts fuel inside (l ++ rest) = .ok (t.table gmp, rest) := by
  obtain ⟨fuel, rfl⟩ : ∃ k, fuel = k + 1 := ⟨fuel - 1, by omega⟩
  have htype : get_parser_type (l ++ rest) = .ok .PT_TABLE := by
    rw [h.cons]
    rfl
  rw [parse_table_inside, htype]
  cases h with
  | ref hname =>
    simp [hrest, table_ref, hname]
    rfl
  | @rules name rules l hl =>
    have hlen : l.length + 1 < fuel := by
      simp only [List.length_append, List.length_cons] at hfuel
      omega
    have hparse : parse_rules pton gmp gts fuel (l ++ tok TT_RIGHT_BRACE :: rest) =
        .ok (rule_boxes_of gmp rules, tok TT_RIGHT_BRACE :: rest) := hl.parse rfl hlen
    simp only [List.append_assoc, List.cons_append, List.nil_append, List.tail_cons,
      if_neg (hl.not_table_end name rest inside), open_table_tokens, hparse, current_tok, hrest,
      and_self, if_true]
    rfl

theorem WritesRules.parse {rules : List Rule} {l : List Token}
    (h : WritesRules pton gmp gts rules l) {rest : List Token}
    (hrest : current rest = TT_RIGHT_BRACE) {fuel : ℕ} (hfuel : l.length + 1 < fuel) :
    parse_rules pton gmp gts fuel (l ++ rest) = .ok (rule_boxes_of gmp rules, rest) := by
  obtain ⟨fuel, rfl⟩ : ∃ k, fuel = k + 1 := ⟨fuel - 1, by omega⟩
  rw [parse_rules]
  cases h with
  | nil =>
    obtain ⟨fuel, rfl⟩ : ∃ k, fuel = k + 1 := ⟨fuel - 1, by omega⟩
    have hnone : parse_rule pton gmp gts (fuel + 1) rest = .ok (none, rest) := by
      rw [parse_rule, if_neg (by simp [hrest])]
    rw [List.nil_append, hnone]
    rfl
  | @cons r rules l l' hr h =>
    have hpos := hr.length_pos
    rw [List.length_append] at hfuel
    have hparse := h.parse hrest (show l'.length + 1 < fuel by omega)
    rw [List.append_assoc, hr.parse (by omega)]
    simp only [List.tail_cons, hparse]
    rfl

end

theorem nil_of_plain {toks : List Token} (hp : Plain toks) (h : current toks = TT_NIL) :
    toks = [] := by
  cases toks with
  | nil => rfl
  | cons t toks => exact absurd h (hp t List.mem_cons_self).1

theorem WritesTable.parse_table {text : TableText} {toks : List Token}
    (h : WritesTable pton gmp gts text toks) :
    parse_table pton gmp gts toks = .ok (text.table gmp, []) := by
  have hparse := h.parse (show current [] = table_end false from rfl)
    (show toks.length < toks.length + 2 by omega)
  rwa [List.append_nil] at hparse

theorem exists_text {fuel : ℕ} {toks rest : List Token} {t : Table} (hp : Plain toks)
    (h : parse_table_inside pton gmp gts fuel false toks = .ok (t, rest)) :
    ∃ text, WritesTable pton gmp gts text toks ∧ t = text.table gmp ∧ rest = [] := by
  obtain ⟨text, l, hl, rfl, rfl, hend⟩ := (soundAt fuel).table hp.bare h
  obtain rfl := nil_of_plain hp.of_append hend
  rw [List.append_nil]
  exact ⟨text, hl, rfl, rfl⟩

end Complete

end Mcproxy
