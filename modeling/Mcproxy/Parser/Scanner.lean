import Mathlib.Data.List.TakeWhile
import Mathlib.Data.Nat.Notation

namespace Mcproxy

section Token

inductive TokenType
  | TT_PROTOCOL
  | TT_MLDV1
  | TT_MLDV2
  | TT_IGMPV1
  | TT_IGMPV2
  | TT_IGMPV3
  | TT_PINSTANCE
  | TT_DOUBLE_DOT
  | TT_DOT
  | TT_ARROW
  | TT_UPSTREAM
  | TT_DOWNSTREAM
  | TT_OUT
  | TT_IN
  | TT_BLACKLIST
  | TT_WHITELIST
  | TT_RULE_MATCHING
  | TT_TABLE
  | TT_ALL
  | TT_FIRST
  | TT_MUTEX
  | TT_DISABLE
  | TT_LEFT_BRACE
  | TT_RIGHT_BRACE
  | TT_LEFT_BRACKET
  | TT_RIGHT_BRACKET
  | TT_RANGE
  | TT_SLASH
  | TT_STAR
  | TT_PIPE
  | TT_STRING
  | TT_NIL
  deriving DecidableEq, Repr

open TokenType

structure Token where
  m_type : TokenType := TT_NIL
  m_string : String := ""
  deriving DecidableEq, Repr

-- `std::isspace` in the C locale: the blank and the characters from tab to carriage return.
def isspace (c : Char) : Bool := c == ' ' || (9 ≤ c.toNat && c.toNat ≤ 13)

def is_string (cmp : Char) : Bool := cmp.isAlpha || cmp.isDigit || cmp == '_'

-- The tokens that are one character.
def symbol : Char → Option TokenType
  | ':' => some TT_DOUBLE_DOT
  | '.' => some TT_DOT
  | '{' => some TT_LEFT_BRACE
  | '}' => some TT_RIGHT_BRACE
  | '(' => some TT_LEFT_BRACKET
  | ')' => some TT_RIGHT_BRACKET
  | '-' => some TT_RANGE
  | '/' => some TT_SLASH
  | '*' => some TT_STAR
  | '|' => some TT_PIPE
  | _ => none

def keyword (cmp_str : String) : Option TokenType :=
  match cmp_str with
  | "protocol" => some TT_PROTOCOL
  | "mldv1" => some TT_MLDV1
  | "mldv2" => some TT_MLDV2
  | "igmpv1" => some TT_IGMPV1
  | "igmpv2" => some TT_IGMPV2
  | "igmpv3" => some TT_IGMPV3
  | "pinstance" => some TT_PINSTANCE
  | "upstream" => some TT_UPSTREAM
  | "downstream" => some TT_DOWNSTREAM
  | "rulematching" => some TT_RULE_MATCHING
  | "out" => some TT_OUT
  | "in" => some TT_IN
  | "blacklist" => some TT_BLACKLIST
  | "whitelist" => some TT_WHITELIST
  | "table" => some TT_TABLE
  | "all" => some TT_ALL
  | "first" => some TT_FIRST
  | "mutex" => some TT_MUTEX
  | "disable" => some TT_DISABLE
  | _ => none

-- A keyword in any mixture of cases, or a string.
def word_token (s : List Char) : Token :=
  match keyword (String.ofList (s.map Char.toLower)) with
  | some type => { m_type := type }
  | none => ⟨TT_STRING, String.ofList s⟩

end Token

open TokenType

section Scanner

-- The state of the scanner is what it has not read yet, `m_current_cmd_char` first; behind the
-- last character that one is 0.
def skip_spaces (cmd : List Char) : List Char := cmd.dropWhile isspace

def unsupported_char : String := "failed to scan config file. Unsupported char"

def read_next_token (cmd : List Char) : Except String (Token × List Char) :=
  match skip_spaces cmd with
  | [] => .ok ({}, [])
  | c :: rest =>
    if c = '\x00' then .ok ({}, c :: rest)
    else
      match symbol c with
      | some type => .ok ({ m_type := type }, rest)
      | none =>
        if c = '=' then
          match rest with
          | '=' :: '>' :: rest => .ok ({ m_type := TT_ARROW }, rest)
          | '=' :: rest => .ok ({}, rest)
          | rest => .ok ({}, rest)
        else if c = '"' then
          let inside := fun c => c != '\x00' && c != '"'
          .ok (⟨TT_STRING, String.ofList (rest.takeWhile inside)⟩, (rest.dropWhile inside).tail)
        else if is_string c then
          .ok (word_token (c :: rest.takeWhile is_string), rest.dropWhile is_string)
        else .error unsupported_char

-- The loop ends at the first `TT_NIL`. A token takes a character, so the length of the command
-- is enough.
def fill_token_vec : (fuel : ℕ) → List Char → Except String (List Token)
  | 0, _ => .ok []
  | fuel + 1, cmd =>
    match read_next_token cmd with
    | .error e => .error e
    | .ok (tok, rest) =>
      if tok.m_type = TT_NIL then .ok [] else (fill_token_vec fuel rest).map (tok :: ·)

def scanner (cmd : String) : Except String (List Token) :=
  fill_token_vec (cmd.toList.length + 1) cmd.toList

end Scanner

section Accounts

def Blank (text : List Char) : Prop := ∀ c ∈ text, isspace c = true

-- The texts a token stands for.
inductive Lexeme : Token → List Char → Prop
  | symbol {c : Char} {type : TokenType} (h : symbol c = some type) : Lexeme { m_type := type } [c]
  | arrow : Lexeme { m_type := TT_ARROW } ['=', '=', '>']
  | quoted {s : List Char} (h : '"' ∉ s) :
    Lexeme ⟨TT_STRING, String.ofList s⟩ ('"' :: (s ++ ['"']))
  | word {s : List Char} (hne : s ≠ []) (h : ∀ c ∈ s, is_string c = true) : Lexeme (word_token s) s

-- The tokens account for the text: every character is a blank or belongs to the text of just one
-- token, in order. The quote at the end of the last string may be missing.
inductive Accounts : List Token → List Char → Prop
  | blank {text : List Char} (h : Blank text) : Accounts [] text
  | unterminated {b s : List Char} (hb : Blank b) (h : '"' ∉ s) :
    Accounts [⟨TT_STRING, String.ofList s⟩] (b ++ '"' :: s)
  | token {b l rest : List Char} {tok : Token} {toks : List Token} (hb : Blank b)
      (h : Lexeme tok l) (hrest : Accounts toks rest) : Accounts (tok :: toks) (b ++ (l ++ rest))

-- The first '=' outside of a string that does not begin an arrow, unless a character the scanner
-- does not know comes before it.
def malformed_arrow : (in_string : Bool) → List Char → Bool
  | _, [] => false
  | true, c :: rest => malformed_arrow (c != '"') rest
  | false, '"' :: rest => malformed_arrow true rest
  | false, '=' :: '=' :: '>' :: rest => malformed_arrow false rest
  | false, '=' :: _ => true
  | false, c :: rest =>
    (isspace c || (symbol c).isSome || is_string c) && malformed_arrow false rest

theorem Lexeme.ne_nil {tok : Token} {l : List Char} (h : Lexeme tok l) : l ≠ [] := by
  cases h with
  | symbol => exact List.cons_ne_nil _ _
  | arrow => exact List.cons_ne_nil _ _
  | quoted => exact List.cons_ne_nil _ _
  | word hne => exact hne

theorem symbol_ne_nil {c : Char} {type : TokenType} (h : symbol c = some type) :
    type ≠ TT_NIL := by
  rintro rfl
  unfold symbol at h
  split at h <;> cases h

theorem keyword_ne_nil {s : String} {type : TokenType} (h : keyword s = some type) :
    type ≠ TT_NIL := by
  rintro rfl
  unfold keyword at h
  split at h <;> cases h

theorem word_token_ne_nil (s : List Char) : (word_token s).m_type ≠ TT_NIL := by
  unfold word_token
  split
  · next type h => exact keyword_ne_nil h
  · exact TokenType.noConfusion

theorem Lexeme.ne_TT_NIL {tok : Token} {l : List Char} (h : Lexeme tok l) :
    tok.m_type ≠ TT_NIL := by
  cases h with
  | symbol h => exact symbol_ne_nil h
  | arrow => exact TokenType.noConfusion
  | quoted => exact TokenType.noConfusion
  | word => exact word_token_ne_nil _

end Accounts

section Token

-- Everything one call of `read_next_token` can come to.
inductive Scanned (cmd : List Char) : Except String (Token × List Char) → Prop
  | finished {rest : List Char} (h : Blank cmd) : Scanned cmd (.ok ({}, rest))
  | unsupported {b rest : List Char} {c : Char} (hb : Blank b) (hcmd : cmd = b ++ c :: rest)
      (hspace : isspace c = false) (hsymbol : symbol c = none) (hstring : is_string c = false)
      (harrow : c ≠ '=') (hquote : c ≠ '"') : Scanned cmd (.error unsupported_char)
  | malformed {b rest rest' : List Char} (hb : Blank b) (hcmd : cmd = b ++ '=' :: rest)
      (h : ∀ tail, rest ≠ '=' :: '>' :: tail) : Scanned cmd (.ok ({}, rest'))
  | unterminated {b s : List Char} (hb : Blank b) (hcmd : cmd = b ++ '"' :: s) (h : '"' ∉ s) :
    Scanned cmd (.ok (⟨TT_STRING, String.ofList s⟩, []))
  | token {b l rest : List Char} {tok : Token} (hb : Blank b) (hcmd : cmd = b ++ (l ++ rest))
      (h : Lexeme tok l) : Scanned cmd (.ok (tok, rest))

theorem skip_spaces_split (cmd : List Char) : ∃ b, Blank b ∧ cmd = b ++ skip_spaces cmd :=
  ⟨cmd.takeWhile isspace, fun _ hc => List.mem_takeWhile_imp hc,
    List.takeWhile_append_dropWhile.symm⟩

theorem isspace_of_skip_spaces {cmd rest : List Char} {c : Char}
    (h : skip_spaces cmd = c :: rest) : isspace c = false := by
  have hne : cmd.dropWhile isspace ≠ [] := by
    rw [skip_spaces] at h
    simp [h]
  have hhead := List.head_dropWhile_not isspace hne
  simpa [show cmd.dropWhile isspace = c :: rest from h] using hhead

-- The characters up to the next quote, and what the scanner goes on with.
theorem scanned_string {b rest : List Char} (hb : Blank b) (hnul : '\x00' ∉ rest) :
    Scanned (b ++ '"' :: rest)
      (.ok (⟨TT_STRING, String.ofList (rest.takeWhile fun c => c != '\x00' && c != '"')⟩,
        (rest.dropWhile fun c => c != '\x00' && c != '"').tail)) := by
  have hsplit : rest.takeWhile (fun c => c != '\x00' && c != '"') ++
      rest.dropWhile (fun c => c != '\x00' && c != '"') = rest := List.takeWhile_append_dropWhile
  have hquote : '"' ∉ rest.takeWhile fun c => c != '\x00' && c != '"' := by
    intro hmem
    simpa using List.mem_takeWhile_imp hmem
  cases hdrop : rest.dropWhile (fun c => c != '\x00' && c != '"') with
  | nil =>
    rw [hdrop, List.append_nil] at hsplit
    rw [hsplit] at hquote ⊢
    exact .unterminated hb rfl hquote
  | cons c tail =>
    have hc := List.head_dropWhile_not (fun c => c != '\x00' && c != '"')
      (show rest.dropWhile _ ≠ [] by simp [hdrop])
    simp only [hdrop, List.head_cons] at hc
    have hmem : c ∈ rest := by
      rw [← hsplit, hdrop]
      exact List.mem_append_right _ List.mem_cons_self
    have hc' : c = '"' := by
      by_contra hne
      have hzero : c ≠ '\x00' := fun h => hnul (h ▸ hmem)
      simp [hne, hzero] at hc
    subst hc'
    refine .token hb ?_ (.quoted hquote)
    rw [hdrop] at hsplit
    simp [hsplit]

theorem read_next_token_scanned {cmd : List Char} (hnul : '\x00' ∉ cmd) :
    Scanned cmd (read_next_token cmd) := by
  obtain ⟨b, hb, hcmd⟩ := skip_spaces_split cmd
  unfold read_next_token
  cases hskip : skip_spaces cmd with
  | nil =>
    rw [hskip, List.append_nil] at hcmd
    exact .finished (hcmd ▸ hb)
  | cons c rest =>
    have hspace := isspace_of_skip_spaces hskip
    rw [hskip] at hcmd
    have hc : c ≠ '\x00' := by
      rintro rfl
      exact hnul (hcmd ▸ List.mem_append_right _ List.mem_cons_self)
    have hrest : '\x00' ∉ rest := fun h =>
      hnul (hcmd ▸ List.mem_append_right _ (List.mem_cons_of_mem _ h))
    simp only [if_neg hc]
    cases hsymbol : symbol c with
    | some type => exact .token hb (l := [c]) hcmd (.symbol hsymbol)
    | none =>
      dsimp only
      split_ifs with harrow hquote hstring
      · subst harrow
        split
        · exact .token hb hcmd .arrow
        · next hne => exact .malformed hb hcmd (by simpa using hne)
        · next _ hne => exact .malformed hb hcmd (fun tail h => hne _ h)
      · subst hquote
        rw [hcmd]
        exact scanned_string hb hrest
      · refine .token hb ?_ (.word (List.cons_ne_nil _ _) ?_)
        · simp [hcmd]
        · intro c' hc'
          rcases List.mem_cons.mp hc' with rfl | hc'
          · exact hstring
          · exact List.mem_takeWhile_imp hc'
      · exact .unsupported hb hcmd hspace hsymbol (Bool.of_not_eq_true hstring) harrow
          hquote

end Token

section Plain

-- Only strings carry a text.
def Token.Plain (tok : Token) : Prop :=
  tok.m_type ≠ TT_NIL ∧ (tok.m_type ≠ TT_STRING → tok.m_string = "")

theorem word_token_plain (s : List Char) (h : (word_token s).m_type ≠ TT_STRING) :
    (word_token s).m_string = "" := by
  unfold word_token at h ⊢
  split at h
  · simp
  · exact absurd rfl h

theorem read_next_token_plain {cmd rest : List Char} {tok : Token}
    (h : read_next_token cmd = .ok (tok, rest)) :
    tok.m_type ≠ TT_STRING → tok.m_string = "" := by
  unfold read_next_token at h
  intro hne
  split at h
  · cases h
    rfl
  · split at h
    · cases h
      rfl
    · split at h
      · cases h
        rfl
      · split at h
        · split at h <;> cases h <;> rfl
        · split at h
          · cases h
            exact absurd rfl hne
          · split at h
            · cases h
              exact word_token_plain _ hne
            · cases h

theorem fill_token_vec_plain (fuel : ℕ) {cmd : List Char} {toks : List Token}
    (h : fill_token_vec fuel cmd = .ok toks) : ∀ tok ∈ toks, tok.Plain := by
  induction fuel generalizing cmd toks with
  | zero =>
    cases h
    simp
  | succ fuel ih =>
    simp only [fill_token_vec] at h
    split at h
    · cases h
    · next tok rest hread =>
      split_ifs at h with hnil
      · cases h
        simp
      · cases hfill : fill_token_vec fuel rest with
        | error e => simp [hfill, Except.map] at h
        | ok rest_toks =>
          simp only [hfill, Except.map, Except.ok.injEq] at h
          subst h
          intro tok' hmem
          rcases List.mem_cons.mp hmem with rfl | hmem
          · exact ⟨hnil, read_next_token_plain hread⟩
          · exact ih hfill tok' hmem

theorem scanner_plain {cmd : String} {toks : List Token} (h : scanner cmd = .ok toks) :
    ∀ tok ∈ toks, tok.Plain :=
  fill_token_vec_plain _ h

end Plain

section Arrow

theorem malformed_arrow_inside {s : List Char} (h : '"' ∉ s) (rest : List Char) :
    malformed_arrow true (s ++ rest) = malformed_arrow true rest := by
  induction s with
  | nil => rfl
  | cons c s ih =>
    have hc : c ≠ '"' := fun hc => h (hc ▸ List.mem_cons_self)
    have hs : '"' ∉ s := fun hs => h (List.mem_cons_of_mem _ hs)
    rw [List.cons_append, malformed_arrow, bne_iff_ne.mpr hc, ih hs]

theorem malformed_arrow_cons {c : Char} (harrow : c ≠ '=') (hquote : c ≠ '"') (rest : List Char) :
    malformed_arrow false (c :: rest) =
      ((isspace c || (symbol c).isSome || is_string c) && malformed_arrow false rest) := by
  rw [malformed_arrow]
  · exact fun h => hquote h
  · exact fun _ h => absurd h harrow
  · exact fun h => harrow h

-- No character of a blank, a symbol or a word is a quote or an equals sign.
theorem malformed_arrow_skip {c : Char} (h : (isspace c || (symbol c).isSome || is_string c) = true)
    (rest : List Char) : malformed_arrow false (c :: rest) = malformed_arrow false rest := by
  have harrow : c ≠ '=' := by
    rintro rfl
    exact absurd h (by decide)
  have hquote : c ≠ '"' := by
    rintro rfl
    exact absurd h (by decide)
  rw [malformed_arrow_cons harrow hquote, h, Bool.true_and]

theorem malformed_arrow_blank {b : List Char} (hb : Blank b) (rest : List Char) :
    malformed_arrow false (b ++ rest) = malformed_arrow false rest := by
  induction b with
  | nil => rfl
  | cons c b ih =>
    have hc : isspace c = true := hb c List.mem_cons_self
    rw [List.cons_append, malformed_arrow_skip (by simp [hc])]
    exact ih fun c hc => hb c (List.mem_cons_of_mem _ hc)

theorem malformed_arrow_word {s : List Char} (h : ∀ c ∈ s, is_string c = true)
    (rest : List Char) : malformed_arrow false (s ++ rest) = malformed_arrow false rest := by
  induction s with
  | nil => rfl
  | cons c s ih =>
    have hc : is_string c = true := h c List.mem_cons_self
    rw [List.cons_append, malformed_arrow_skip (by simp [hc])]
    exact ih fun c hc => h c (List.mem_cons_of_mem _ hc)

theorem malformed_arrow_lexeme {tok : Token} {l : List Char} (h : Lexeme tok l)
    (rest : List Char) : malformed_arrow false (l ++ rest) = malformed_arrow false rest := by
  cases h with
  | symbol h => exact malformed_arrow_skip (by simp [h]) rest
  | arrow => rfl
  | @quoted s h =>
    have hquote : malformed_arrow false ('"' :: (s ++ ['"']) ++ rest) =
        malformed_arrow true (s ++ ('"' :: rest)) := by simp [malformed_arrow]
    rw [hquote, malformed_arrow_inside h]
    rfl
  | word _ h => exact malformed_arrow_word h rest

-- A text that tokens account for has no such equals sign.
theorem Accounts.not_malformed {toks : List Token} {text : List Char} (h : Accounts toks text) :
    malformed_arrow false text = false := by
  induction h with
  | @blank text hb =>
    rw [← List.append_nil text, malformed_arrow_blank hb]
    rfl
  | @unterminated b s hb hs =>
    rw [malformed_arrow_blank hb]
    have hinside := malformed_arrow_inside hs []
    rw [List.append_nil] at hinside
    exact hinside
  | token hb hl _ ih => rw [malformed_arrow_blank hb, malformed_arrow_lexeme hl, ih]

end Arrow

section Scan

-- What the loop leaves: an error without a malformed arrow before it, all of the text, or a
-- malformed arrow that it stopped at.
theorem fill_token_vec_spec {fuel : ℕ} {cmd : List Char} (hfuel : cmd.length < fuel)
    (hnul : '\x00' ∉ cmd) :
    (fill_token_vec fuel cmd = .error unsupported_char ∧ malformed_arrow false cmd = false) ∨
      ∃ toks, fill_token_vec fuel cmd = .ok toks ∧
        (Accounts toks cmd ∨ malformed_arrow false cmd = true) := by
  induction fuel generalizing cmd with
  | zero => omega
  | succ fuel ih =>
    have hscan := read_next_token_scanned hnul
    unfold fill_token_vec
    generalize read_next_token cmd = r at hscan
    cases hscan with
    | finished h => exact Or.inr ⟨[], rfl, Or.inl (.blank h)⟩
    | unsupported hb hcmd hspace hsymbol hstring harrow hquote =>
      refine Or.inl ⟨rfl, ?_⟩
      rw [hcmd, malformed_arrow_blank hb, malformed_arrow_cons harrow hquote, hspace, hsymbol,
        hstring]
      rfl
    | @malformed b rest _ hb hcmd h =>
      refine Or.inr ⟨[], rfl, Or.inr ?_⟩
      rw [hcmd, malformed_arrow_blank hb, malformed_arrow]
      exact fun tail hrest => h tail hrest
    | unterminated hb hcmd h =>
      refine Or.inr ⟨_, ?_, Or.inl (hcmd ▸ Accounts.unterminated hb h)⟩
      have hend : fill_token_vec fuel [] = .ok [] := by cases fuel <;> rfl
      simp [hend, Except.map]
    | @token b l rest tok hb hcmd h =>
      have hlen : rest.length < fuel := by
        have hpos := List.length_pos_iff.mpr h.ne_nil
        have htotal := congrArg List.length hcmd
        simp only [List.length_append] at htotal
        omega
      have hrest : '\x00' ∉ rest := fun hr => hnul (hcmd ▸ by simp [hr])
      have hmal : malformed_arrow false cmd = malformed_arrow false rest := by
        rw [hcmd, malformed_arrow_blank hb, malformed_arrow_lexeme h]
      simp only [h.ne_TT_NIL, if_false, hmal]
      rcases ih hlen hrest with ⟨herr, hno⟩ | ⟨toks, hok, hacc⟩
      · exact Or.inl ⟨by rw [herr]; rfl, hno⟩
      · refine Or.inr ⟨tok :: toks, by rw [hok]; rfl, hacc.imp_left fun hacc => ?_⟩
        exact hcmd ▸ Accounts.token hb h hacc

-- The scanner throws or accounts for the command, except for commands with an equals sign that
-- does not begin an arrow: there it stops as if the command had ended.
theorem scanner_accounts_iff (cmd : String) (hnul : '\x00' ∉ cmd.toList) :
    (scanner cmd = .error unsupported_char ∨
      ∃ toks, scanner cmd = .ok toks ∧ Accounts toks cmd.toList) ↔
      malformed_arrow false cmd.toList = false := by
  have hspec := fill_token_vec_spec (Nat.lt_succ_self cmd.toList.length) hnul
  constructor
  · rintro (herr | ⟨toks, -, hacc⟩)
    · rcases hspec with ⟨-, hno⟩ | ⟨toks, hok, -⟩
      · exact hno
      · cases herr.symm.trans hok
    · exact hacc.not_malformed
  · intro hno
    rcases hspec with ⟨herr, -⟩ | ⟨toks, hok, hacc | hmal⟩
    · exact Or.inl herr
    · exact Or.inr ⟨toks, hok, hacc⟩
    · cases hno.symm.trans hmal

theorem scanner_accounts_instance :
    '\x00' ∉ "pinstance a: x ==> y".toList ∧
      (scanner "pinstance a: x ==> y" = .error unsupported_char ∨
        ∃ toks, scanner "pinstance a: x ==> y" = .ok toks ∧
          Accounts toks "pinstance a: x ==> y".toList) :=
  ⟨by decide, (scanner_accounts_iff "pinstance a: x ==> y" (by decide)).mpr (by decide)⟩

-- What stands behind the malformed arrow is gone, and what stands before it is a command.
theorem scanner_drops_text_after_malformed_arrow :
    scanner "protocol IGMPv3 => MLDv2 garbage" = scanner "protocol IGMPv3" ∧
      scanner "protocol IGMPv3" = .ok [{ m_type := TT_PROTOCOL }, { m_type := TT_IGMPV3 }] ∧
      ¬ ∃ toks, scanner "protocol IGMPv3 => MLDv2 garbage" = .ok toks ∧
        Accounts toks "protocol IGMPv3 => MLDv2 garbage".toList := by
  refine ⟨by decide +kernel, by decide +kernel, ?_⟩
  rintro ⟨toks, -, hacc⟩
  exact absurd hacc.not_malformed (by decide)

end Scan

end Mcproxy
