import Mcproxy.Parser.References

namespace Mcproxy

open TokenType ParserType AddrFamily AddrStorage

section Outcomes

-- The parser returns, or throws one of its two errors.
inductive Ends {β : Type*} : Except ParserFault β → Prop
  | returns (b : β) : Ends (.ok b)
  | failed : Ends (.error (.thrown "failed to parse config file"))
  | disabled : Ends (.error (.thrown "mcproxy is disabled"))

variable {β γ : Type*} {x : Except ParserFault β}

theorem not_ends_terminate : ¬Ends (.error .terminate : Except ParserFault β) := nofun

theorem not_ends_out_of_fuel : ¬Ends (.error .out_of_fuel : Except ParserFault β) := nofun

-- A fault is passed on by what calls.
theorem Ends.of_error {e : ParserFault} (h : Ends x) (hx : x = .error e) :
    Ends (.error e : Except ParserFault γ) := by
  subst hx
  cases h with
  | failed => exact .failed
  | disabled => exact .disabled

theorem Ends.map (h : Ends x) (f : β → γ) : Ends (x.map f) := by
  cases x with
  | error e => exact h.of_error rfl
  | ok b => constructor

theorem Ends.bind {β γ : Type} {x : Except ParserFault β} {f : β → Except ParserFault γ}
    (h : Ends x) (hf : ∀ b, Ends (f b)) : Ends (x >>= f) := by
  cases x with
  | error e => exact h.of_error rfl
  | ok b => exact hf b

-- The faults of the program that a result can be, each with what brings it about.
structure FaultsBy (x : Except ParserFault β) (P : ParserFault → Prop) : Prop where
  fault {f : ParserFault} : P f → x = .error f ∧ ¬Ends x
  ends : (∀ f, ¬P f) → Ends x

theorem FaultsBy.ends_iff {P : ParserFault → Prop} (h : FaultsBy x P) :
    Ends x ↔ ∀ f, ¬P f :=
  ⟨fun hx _ hf => (h.fault hf).2 hx, h.ends⟩

theorem FaultsBy.error_iff {P : ParserFault → Prop} (h : FaultsBy x P) {f : ParserFault}
    (hf : ¬Ends (.error f : Except ParserFault β)) : x = .error f ↔ P f := by
  refine ⟨?_, fun hP => (h.fault hP).1⟩
  rintro rfl
  -- Without a cause the parser would end.
  obtain ⟨f', hP⟩ : ∃ f', P f' := by
    by_contra hnone
    exact hf (h.ends (not_exists.mp hnone))
  rwa [Except.error.inj (h.fault hP).1]

theorem get_parser_type_ends (toks : List Token) : Ends (get_parser_type toks) := by
  unfold get_parser_type
  split
  · constructor
  · constructor
  · split <;> constructor
  · constructor
  · constructor

end Outcomes

section Lengths

variable {pton : InetPton} {gmp : GroupMemProtocol}

-- What the text of a length does to the program: a number that does not lie between 0 and 128
-- terminates it, and with others the masks of the family are undefined.
def LengthFault (gmp : GroupMemProtocol) (s : String) : ParserFault → Prop
  | .terminate => ∃ number, stoi s = some number ∧ (number < 0 ∨ 128 < number)
  | .undefined_shift => ∃ number, stoi s = some number ∧ 0 ≤ number ∧ number ≤ 128 ∧
      ¬maskable (get_addr_family gmp) number.toNat
  | .thrown _ | .out_of_fuel => False

theorem LengthFault.not_ends {s : String} {fault : ParserFault} (h : LengthFault gmp s fault)
    {β : Type*} : ¬Ends (.error fault : Except ParserFault β) := by
  cases fault with
  | terminate | undefined_shift => exact nofun
  | thrown | out_of_fuel => exact h.elim

theorem get_addr_family_cases (gmp : GroupMemProtocol) :
    get_addr_family gmp = AF_INET ∨ get_addr_family gmp = AF_INET6 := by
  cases gmp <;> decide

theorem parse_prefix_len_ends {a : AddrStorage} (ha : a.get_addr_family = get_addr_family gmp)
    {toks : List Token}
    (h : current toks = TT_STRING → ∀ fault, ¬LengthFault gmp (current_string toks) fault) :
    Ends (parse_prefix_len a toks) := by
  unfold parse_prefix_len
  by_cases hcur : current toks = TT_STRING
  · rw [if_pos hcur]
    cases hn : stoi (current_string toks) with
    | none => constructor
    | some number =>
      have hb := stoi_bounds hn
      have hlo : 0 ≤ number := by
        by_contra hlo
        exact h hcur .terminate ⟨number, hn, .inl (by omega)⟩
      have hhi : number ≤ 128 := by
        by_contra hhi
        exact h hcur .terminate ⟨number, hn, .inr (by omega)⟩
      have hm : maskable (get_addr_family gmp) number.toNat := by
        by_contra hm
        exact h hcur .undefined_shift ⟨number, hn, hlo, hhi, hm⟩
      have hle := le_width_of_maskable (get_addr_family_cases gmp) (by omega) hm
      rw [← ha] at hm hle
      obtain ⟨lo, hi, hmask, hbroad, -⟩ := exists_prefix_range hm hle
      have hmod : (number % 2 ^ 32).toNat = number.toNat := by omega
      have hsmall : ¬number.toNat > 128 := by omega
      simp only [hmod, if_neg hsmall, hmask, hbroad]
      split_ifs <;> constructor
  · rw [if_neg hcur]
    constructor

theorem parse_prefix_len_fault {a : AddrStorage} (ha : a.get_addr_family = get_addr_family gmp)
    {s : String} {fault : ParserFault} (hs : LengthFault gmp s fault) (rest : List Token) :
    parse_prefix_len a (str s :: rest) = .error fault := by
  unfold parse_prefix_len
  cases fault with
  | terminate =>
    obtain ⟨number, hn, hbad⟩ := hs
    have hb := stoi_bounds hn
    have hbig : (number % 2 ^ 32).toNat > 128 := by omega
    simp only [current_str, current_string_str, hn, if_true, if_pos hbig]
  | undefined_shift =>
    obtain ⟨number, hn, hlo, hhi, hm⟩ := hs
    have hmod : (number % 2 ^ 32).toNat = number.toNat := by omega
    have hsmall : ¬number.toNat > 128 := by omega
    have hnone : a.mask number.toNat = none :=
      prefix_change_eq_none _ _ (ha ▸ hm) (valid_of_family ha) (by omega)
    simp only [current_str, current_string_str, hn, if_true, hmod, if_neg hsmall, hnone]
  | thrown | out_of_fuel => exact hs.elim

end Lengths

section OpenTexts

variable (pton : InetPton) (gmp : GroupMemProtocol) (gts : GlobalTableSet)

-- Texts that are broken off behind an address or a star, where a length can follow.
def OpenPart (l : List Token) : Prop := ∃ b, WritesBound pton gmp b l

inductive OpenAddr : List Token → Prop
  | group {l : List Token} (h : OpenPart pton gmp l) : OpenAddr l
  | source {group : Part} {l r : List Token} (hg : WritesPart pton gmp group l)
      (h : OpenPart pton gmp r) : OpenAddr (l ++ tok TT_PIPE :: r)

mutual

inductive OpenRule : List Token → Prop
  | addr (n : Option String) {l : List Token} (h : OpenAddr pton gmp l) :
    OpenRule (name_tokens n ++ tok TT_LEFT_BRACKET :: l)
  | table (n : Option String) {l : List Token} (h : OpenTable l) :
    OpenRule (name_tokens n ++ tok TT_LEFT_BRACKET :: l)

inductive OpenTable : List Token → Prop
  | rules (name : Option String) {l : List Token} (h : OpenRules l) :
    OpenTable (tok TT_TABLE :: (name_tokens name ++ tok TT_LEFT_BRACE :: l))

inductive OpenRules : List Token → Prop
  | here {l : List Token} (h : OpenRule l) : OpenRules l
  | later {rule : Rule} {l r : List Token} (hr : WritesRule pton gmp gts rule l)
      (h : OpenRules r) : OpenRules (l ++ r)

end

-- The tokens begin with such a text and a length with a fault.
def BreaksOff (text : List Token → Prop) (fault : ParserFault) (toks : List Token) : Prop :=
  ∃ l s rest, text l ∧ toks = l ++ tok TT_SLASH :: str s :: rest ∧ LengthFault gmp s fault

variable {gmp}

theorem BreaksOff.append {text text' : List Token → Prop} {fault : ParserFault}
    {toks : List Token} (front : List Token) (h : BreaksOff gmp text fault toks)
    (htext : ∀ l, text l → text' (front ++ l)) :
    BreaksOff gmp text' fault (front ++ toks) := by
  obtain ⟨l, s, rest, hl, rfl, hs⟩ := h
  exact ⟨front ++ l, s, rest, htext l hl, (List.append_assoc ..).symm, hs⟩

theorem BreaksOff.append_cons {text text' : List Token → Prop} {fault : ParserFault} {u : Token}
    {toks : List Token} (front : List Token) (h : BreaksOff gmp text fault toks)
    (htext : ∀ l, text l → text' (front ++ u :: l)) :
    BreaksOff gmp text' fault (front ++ u :: toks) := by
  have hcons : ∀ l : List Token, front ++ u :: l = (front ++ [u]) ++ l := fun l => by simp
  rw [hcons]
  exact h.append _ fun l hl => hcons l ▸ htext l hl

end OpenTexts

section EndsUnlessOpen

variable {pton : InetPton} {gmp : GroupMemProtocol} {gts : GlobalTableSet}

theorem parse_bound_ends (toks : List Token) : Ends (parse_bound pton gmp toks) := by
  unfold parse_bound get_addr
  split
  · dsimp only
    split_ifs <;> constructor
  · constructor
  · constructor

theorem bound_addr_family {b : Bound} {l : List Token} (h : WritesBound pton gmp b l) :
    (bound_addr gmp b).get_addr_family = get_addr_family gmp := by
  cases b with
  | none => cases gmp <;> rfl
  | some a => exact Spells.family h

theorem parse_rule_part_ends {toks : List Token} (hp : Bare toks)
    (h : ∀ fault, ¬BreaksOff gmp (OpenPart pton gmp) fault toks) :
    Ends (parse_rule_part pton gmp toks) := by
  unfold parse_rule_part
  cases hbound : parse_bound pton gmp toks with
  | error e => exact (parse_bound_ends toks).of_error hbound
  | ok r =>
    obtain ⟨addr_from, toks₁⟩ := r
    obtain ⟨b, l, hb, rfl, rfl⟩ := parse_bound_sound hp hbound
    dsimp only
    split_ifs with hslash hend hrange
    · refine parse_prefix_len_ends (bound_addr_family hb) fun hcur fault hfault => h fault ?_
      have hcons := cons_of_current hp.of_append hslash (by decide) (by decide)
      refine ⟨l, current_string toks₁.tail, toks₁.tail.tail, ⟨b, hb⟩, ?_, hfault⟩
      rw [← cons_of_string hcur, ← hcons]
    · constructor
    · cases hto : parse_bound pton gmp toks₁.tail with
      | error e => exact (parse_bound_ends _).of_error hto
      | ok r =>
        dsimp only
        split_ifs <;> constructor
    · constructor

theorem parse_addr_rule_ends {if_name : String} {toks : List Token} (hp : Bare toks)
    (h : ∀ fault, ¬BreaksOff gmp (OpenAddr pton gmp) fault toks) :
    Ends (parse_addr_rule pton gmp if_name toks) := by
  unfold parse_addr_rule
  have hgroup : Ends (parse_rule_part pton gmp toks) :=
    parse_rule_part_ends hp fun fault hbreaks => h fault (hbreaks.append [] fun _ hl => .group hl)
  cases hg : parse_rule_part pton gmp toks with
  | error e => exact hgroup.of_error hg
  | ok r =>
    obtain ⟨group, toks₁⟩ := r
    obtain ⟨g, l, hl, rfl, -, -⟩ := parse_rule_part_sound hp hg
    dsimp only
    split_ifs with hpipe
    · have hcons := cons_of_current hp.of_append hpipe (by decide) (by decide)
      have hsource : Ends (parse_rule_part pton gmp toks₁.tail) := by
        refine parse_rule_part_ends hp.of_append.tail fun fault hbreaks => h fault ?_
        rw [hcons]
        exact hbreaks.append_cons l fun _ hr => .source hl hr
      cases hs : parse_rule_part pton gmp toks₁.tail with
      | error e => exact hsource.of_error hs
      | ok r =>
        dsimp only
        split_ifs <;> constructor
    · constructor

-- With a call for every token the three functions end, unless the text is broken off.
structure EndsAt (pton : InetPton) (gmp : GroupMemProtocol) (gts : GlobalTableSet) (fuel : ℕ) :
    Prop where
  table : ∀ {inside : Bool} {toks : List Token}, Bare toks → toks.length < fuel →
    (∀ fault, ¬BreaksOff gmp (OpenTable pton gmp gts) fault toks) →
      Ends (parse_table_inside pton gmp gts fuel inside toks)
  rules : ∀ {toks : List Token}, Bare toks → toks.length + 1 < fuel →
    (∀ fault, ¬BreaksOff gmp (OpenRules pton gmp gts) fault toks) →
      Ends (parse_rules pton gmp gts fuel toks)
  rule : ∀ {toks : List Token}, Bare toks → toks.length < fuel →
    (∀ fault, ¬BreaksOff gmp (OpenRule pton gmp gts) fault toks) →
      Ends (parse_rule pton gmp gts fuel toks)

variable {fuel : ℕ}

theorem table_ref_ends (toks : List Token) : Ends (table_ref gts toks) := by
  unfold table_ref
  split_ifs <;> constructor

theorem open_table_ends (toks : List Token) : Ends (open_table toks) := by
  unfold open_table
  split
  · split_ifs <;> constructor
  · constructor
  · constructor

theorem EndsAt.table_succ (ih : EndsAt pton gmp gts fuel) {inside : Bool} {toks : List Token}
    (hp : Bare toks) (hfuel : toks.length < fuel + 1)
    (h : ∀ fault, ¬BreaksOff gmp (OpenTable pton gmp gts) fault toks) :
    Ends (parse_table_inside pton gmp gts (fuel + 1) inside toks) := by
  rw [parse_table_inside]
  cases htype : get_parser_type toks with
  | error e => exact (get_parser_type_ends toks).of_error htype
  | ok type =>
    dsimp only
    split_ifs with htable href
    · exact table_ref_ends _
    · subst htable
      have hcons := cons_of_current hp (parser_type_table htype) (by decide) (by decide)
      cases hopen : open_table toks.tail with
      | error e => exact (open_table_ends _).of_error hopen
      | ok r =>
        obtain ⟨table_name, toks₁⟩ := r
        obtain ⟨name, htail, rfl⟩ := open_table_sound hp.tail hopen
        rw [htail] at hcons
        subst hcons
        have hrules : Ends (parse_rules pton gmp gts fuel toks₁) := by
          refine ih.rules ?_ ?_ fun fault hbreaks => h fault ?_
          · exact hp.tail.of_append.tail
          · simp only [List.length_cons, List.length_append] at hfuel
            omega
          · exact hbreaks.append_cons (tok TT_TABLE :: name_tokens name) fun _ hl => .rules name hl
        dsimp only
        cases hr : parse_rules pton gmp gts fuel toks₁ with
        | error e => exact hrules.of_error hr
        | ok r =>
          dsimp only
          split_ifs <;> constructor
    · constructor

theorem EndsAt.rules_succ (ih : EndsAt pton gmp gts fuel) {toks : List Token} (hp : Bare toks)
    (hfuel : toks.length + 1 < fuel + 1)
    (h : ∀ fault, ¬BreaksOff gmp (OpenRules pton gmp gts) fault toks) :
    Ends (parse_rules pton gmp gts (fuel + 1) toks) := by
  rw [parse_rules]
  have hrule : Ends (parse_rule pton gmp gts fuel toks) :=
    ih.rule hp (by omega) fun fault hbreaks => h fault (hbreaks.append [] fun _ hl => .here hl)
  cases hr : parse_rule pton gmp gts fuel toks with
  | error e => exact hrule.of_error hr
  | ok r =>
    obtain ⟨box, toks₁⟩ := r
    cases box with
    | none => constructor
    | some box =>
      obtain ⟨rule, l, hl, rfl, -⟩ := (soundAt fuel).rule hp hr
      have hpos := hl.length_pos
      have hrules : Ends (parse_rules pton gmp gts fuel toks₁.tail) := by
        refine ih.rules hp.of_append ?_ fun fault hbreaks =>
          h fault (hbreaks.append l fun _ => .later hl)
        rw [List.length_append] at hfuel
        omega
      dsimp only
      cases hrs : parse_rules pton gmp gts fuel toks₁.tail with
      | error e => exact hrules.of_error hrs
      | ok r => constructor

theorem EndsAt.rule_succ (ih : EndsAt pton gmp gts fuel) {toks : List Token} (hp : Bare toks)
    (hfuel : toks.length < fuel + 1)
    (h : ∀ fault, ¬BreaksOff gmp (OpenRule pton gmp gts) fault toks) :
    Ends (parse_rule pton gmp gts (fuel + 1) toks) := by
  rw [parse_rule]
  split_ifs with hfirst
  · dsimp only
    split_ifs with hbracket htable
    · obtain ⟨n, hcons, -⟩ := read_if_name_sound hp hbracket
      generalize (read_if_name toks).2.tail = toks₁ at hcons ⊢
      subst hcons
      have hinner : Ends (parse_table_inside pton gmp gts fuel true toks₁) := by
        refine ih.table hp.of_append.tail ?_ fun fault hbreaks => h fault ?_
        · simp only [List.length_append, List.length_cons] at hfuel
          omega
        · exact hbreaks.append_cons (name_tokens n) fun _ hl => .table n hl
      cases ht : parse_table_inside pton gmp gts fuel true toks₁ with
      | error e => exact hinner.of_error ht
      | ok r => constructor
    · obtain ⟨n, hcons, -⟩ := read_if_name_sound hp hbracket
      generalize (read_if_name toks).2.tail = toks₁ at hcons ⊢
      subst hcons
      have hinner : Ends (parse_addr_rule pton gmp
          (read_if_name (name_tokens n ++ tok TT_LEFT_BRACKET :: toks₁)).1 toks₁) := by
        refine parse_addr_rule_ends hp.of_append.tail fun fault hbreaks => h fault ?_
        exact hbreaks.append_cons (name_tokens n) fun _ hl => .addr n hl
      cases ht : parse_addr_rule pton gmp
          (read_if_name (name_tokens n ++ tok TT_LEFT_BRACKET :: toks₁)).1 toks₁ with
      | error e => exact hinner.of_error ht
      | ok r => constructor
    · constructor
  · constructor

theorem endsAt (fuel : ℕ) : EndsAt pton gmp gts fuel := by
  induction fuel with
  | zero => exact ⟨fun _ h => by omega, fun _ h => by omega, fun _ h => by omega⟩
  | succ fuel ih => exact ⟨ih.table_succ, ih.rules_succ, ih.rule_succ⟩

end EndsUnlessOpen

section FaultIfOpen

variable {pton : InetPton} {gmp : GroupMemProtocol} {gts : GlobalTableSet} {s : String}
  {fault : ParserFault}

theorem OpenPart.faults {l : List Token} (h : OpenPart pton gmp l) (hs : LengthFault gmp s fault)
    (rest : List Token) :
    parse_rule_part pton gmp (l ++ tok TT_SLASH :: str s :: rest) = .error fault := by
  obtain ⟨b, hb⟩ := h
  rw [parse_rule_part, hb.parse (by simp [is_addr_token, tok])]
  exact parse_prefix_len_fault (bound_addr_family hb) hs rest

theorem OpenAddr.faults {l : List Token} (h : OpenAddr pton gmp l) (hs : LengthFault gmp s fault)
    (if_name : String) (rest : List Token) :
    parse_addr_rule pton gmp if_name (l ++ tok TT_SLASH :: str s :: rest) = .error fault := by
  unfold parse_addr_rule
  cases h with
  | group h =>
    have hfault := h.faults hs rest
    rw [hfault]
  | @source group l r hg h =>
    have hfault := h.faults hs rest
    rw [List.append_assoc, List.cons_append, hg.parse (Or.inr rfl)]
    simp only [current_tok, if_true, List.tail_cons, hfault]

-- What begins with an address is not a table.
theorem OpenAddr.first {l : List Token} (h : OpenAddr pton gmp l) (rest : List Token) :
    current (l ++ rest) ≠ TT_TABLE := by
  cases h with
  | group h =>
    obtain ⟨b, hb⟩ := h
    exact (WritesPart.single hb).first rest
  | source hg h =>
    rw [List.append_assoc]
    exact hg.first _

theorem OpenRule.first {l : List Token} (h : OpenRule pton gmp gts l) (rest : List Token) :
    current (l ++ rest) = TT_STRING ∨ current (l ++ rest) = TT_LEFT_BRACKET := by
  cases h with
  | addr n | table n =>
    cases n with
    | none => exact .inr rfl
    | some n => exact .inl rfl

theorem OpenRules.first {l : List Token} (h : OpenRules pton gmp gts l) (rest : List Token) :
    current (l ++ rest) = TT_STRING ∨ current (l ++ rest) = TT_LEFT_BRACKET := by
  cases h with
  | here h => exact h.first rest
  | later hr h =>
    rw [List.append_assoc]
    exact hr.first _

-- An open table is not taken for a reference.
theorem OpenRules.not_table_end {l : List Token} (h : OpenRules pton gmp gts l)
    (name : Option String) (rest : List Token) (inside : Bool) :
    current (name_tokens name ++ tok TT_LEFT_BRACE :: (l ++ rest)).tail ≠ table_end inside := by
  cases name with
  | some name => cases inside <;> exact TokenType.noConfusion
  | none =>
    rw [name_tokens, List.nil_append, List.tail_cons]
    rcases h.first rest with h | h <;> rw [h] <;> cases inside <;> exact TokenType.noConfusion

mutual

theorem OpenRule.faults {l : List Token} (h : OpenRule pton gmp gts l)
    (hs : LengthFault gmp s fault) (rest : List Token) {fuel : ℕ} (hfuel : l.length < fuel) :
    parse_rule pton gmp gts fuel (l ++ tok TT_SLASH :: str s :: rest) = .error fault := by
  obtain ⟨fuel, rfl⟩ : ∃ k, fuel = k + 1 := ⟨fuel - 1, by omega⟩
  rw [parse_rule, if_pos (h.first _)]
  cases h with
  | @addr n l h =>
    have hfault := h.faults hs (n.getD "") rest
    simp only [List.append_assoc, List.cons_append, read_if_name_tokens, current_tok, if_true,
      List.tail_cons, if_neg (h.first _), hfault]
  | @table n l h =>
    have hlen : l.length < fuel := by
      simp only [List.length_append, List.length_cons] at hfuel
      omega
    have hcur : current (l ++ tok TT_SLASH :: str s :: rest) = TT_TABLE := by
      cases h
      rfl
    have hfault := h.faults hs true rest hlen
    simp only [List.append_assoc, List.cons_append, read_if_name_tokens, current_tok, if_true,
      List.tail_cons, hcur, hfault]
termination_by fuel

theorem OpenTable.faults {l : List Token} (h : OpenTable pton gmp gts l)
    (hs : LengthFault gmp s fault) (inside : Bool) (rest : List Token) {fuel : ℕ}
    (hfuel : l.length < fuel) :
    parse_table_inside pton gmp gts fuel inside
      (l ++ tok TT_SLASH :: str s :: rest) = .error fault := by
  obtain ⟨fuel, rfl⟩ : ∃ k, fuel = k + 1 := ⟨fuel - 1, by omega⟩
  cases h with
  | @rules name l h =>
    have hlen : l.length + 1 < fuel := by
      simp only [List.length_append, List.length_cons] at hfuel
      omega
    have htype : ∀ toks, get_parser_type (tok TT_TABLE :: toks) = .ok PT_TABLE := fun _ => rfl
    have hfault := h.faults hs rest hlen
    rw [parse_table_inside, List.cons_append, htype]
    simp only [List.append_assoc, List.cons_append, List.tail_cons, if_true,
      if_neg (h.not_table_end name _ inside), open_table_tokens, hfault]
termination_by fuel

theorem OpenRules.faults {l : List Token} (h : OpenRules pton gmp gts l)
    (hs : LengthFault gmp s fault) (rest : List Token) {fuel : ℕ} (hfuel : l.length + 1 < fuel) :
    parse_rules pton gmp gts fuel (l ++ tok TT_SLASH :: str s :: rest) = .error fault := by
  obtain ⟨fuel, rfl⟩ : ∃ k, fuel = k + 1 := ⟨fuel - 1, by omega⟩
  rw [parse_rules]
  cases h with
  | here h =>
    have hlen : l.length < fuel := by omega
    have hfault := h.faults hs rest hlen
    rw [hfault]
  | @later rule l r hr h =>
    have hpos := hr.length_pos
    rw [List.length_append] at hfuel
    have hlen : r.length + 1 < fuel := by omega
    have hfault := h.faults hs rest hlen
    rw [List.append_assoc, hr.parse (by omega)]
    simp only [List.tail_cons, hfault]
termination_by fuel

end

end FaultIfOpen

end Mcproxy
