import Mcproxy.Parser.Scanner
import Mcproxy.Parser.Interface

namespace Mcproxy

open TokenType AddrStorage

section Tokens

-- What ends the parsing of a command. `throw;` without an exception at hand terminates the
-- program; `out_of_fuel` belongs to the model.
inductive ParserFault
  | thrown (text : String)
  | terminate
  | undefined_shift
  | out_of_fuel
  deriving DecidableEq, Repr

def failed {β : Type*} : Except ParserFault β := .error (.thrown "failed to parse config file")

-- The state of the parser is the list of tokens from `m_current_token` on; behind the last one
-- the scanner gives `TT_NIL`.
def current (toks : List Token) : TokenType := (toks.headD {}).m_type

def current_string (toks : List Token) : String := (toks.headD {}).m_string

inductive ParserType
  | PT_PROTOCOL
  | PT_INSTANCE_DEFINITION
  | PT_TABLE
  | PT_INTERFACE_RULE_BINDING
  deriving DecidableEq, Repr

open ParserType

def get_parser_type (toks : List Token) : Except ParserFault ParserType :=
  match current toks with
  | TT_PROTOCOL => .ok PT_PROTOCOL
  | TT_TABLE => .ok PT_TABLE
  | TT_PINSTANCE =>
    match current toks.tail.tail with
    | TT_DOUBLE_DOT | TT_LEFT_BRACKET => .ok PT_INSTANCE_DEFINITION
    | TT_UPSTREAM | TT_DOWNSTREAM => .ok PT_INTERFACE_RULE_BINDING
    | _ => failed
  | TT_DISABLE => .error (.thrown "mcproxy is disabled")
  | _ => failed

end Tokens

section Numbers

def digits_value (digits : List Char) : ℕ :=
  digits.foldl (fun n c => 10 * n + (c.toNat - '0'.toNat)) 0

-- `std::stoi`: the number a text begins with, if it is one of an `int`.
def stoi (s : String) : Option ℤ :=
  let text := s.toList.dropWhile isspace
  let negative := text.head? = some '-'
  let signed := negative || text.head? = some '+'
  let digits := (if signed then text.tail else text).takeWhile Char.isDigit
  let value : ℤ := if negative then -digits_value digits else digits_value digits
  if digits = [] then none
  else if -2 ^ 31 ≤ value ∧ value < 2 ^ 31 then some value else none

end Numbers

-- `inet_pton` for the two families.
structure InetPton where
  inet : String → Option (BitVec 32)
  inet6 : String → Option In6Addr

section RulePart

variable (pton : InetPton) (gmp : GroupMemProtocol)

-- `addr_storage(const std::string&)`
def InetPton.addr_storage (s : String) : AddrStorage :=
  if ':' ∈ s.toList then
    match pton.inet6 s with
    | some a => .inet6 a
    | none => unspec
  else
    match pton.inet s with
    | some a => .inet a
    | none => unspec

def is_addr_token (tok : Token) : Bool :=
  tok.m_type = TT_STRING || tok.m_type = TT_DOT || tok.m_type = TT_DOUBLE_DOT

def addr_text (toks : List Token) : String :=
  String.join (toks.map fun tok =>
    match tok.m_type with
    | TT_DOT => "."
    | TT_DOUBLE_DOT => ":"
    | _ => tok.m_string)

def get_addr (toks : List Token) : Except ParserFault (AddrStorage × List Token) :=
  let result := pton.addr_storage (addr_text (toks.takeWhile is_addr_token))
  if result.is_valid then
    if result.get_addr_family = get_addr_family gmp then
      .ok (result, toks.dropWhile is_addr_token)
    else failed
  else failed

def ends_part (toks : List Token) : Prop :=
  current toks = TT_RIGHT_BRACKET ∨ current toks = TT_PIPE

instance (toks : List Token) : Decidable (ends_part toks) :=
  inferInstanceAs (Decidable (_ ∨ _))

-- An address, or the zero address for a star.
def parse_bound (toks : List Token) : Except ParserFault (AddrStorage × List Token) :=
  match current toks with
  | TT_STRING => get_addr pton gmp toks
  | TT_STAR => .ok (zero (get_addr_family gmp), toks.tail)
  | _ => failed

-- The part behind the slash; the `int` of the text is taken as an `unsigned int`.
def parse_prefix_len (addr_from : AddrStorage) (toks : List Token) :
    Except ParserFault (AddrMatch × List Token) :=
  if current toks = TT_STRING then
    match stoi (current_string toks) with
    | none => failed
    | some number =>
      let prefix_len := (number % 2 ^ 32).toNat
      if prefix_len > 128 then .error .terminate
      else
        match addr_from.mask prefix_len, addr_from.broadcast_addr prefix_len with
        | some m_from, some m_to =>
          if ends_part toks.tail then .ok (.addr_range m_from m_to, toks.tail) else failed
        | _, _ => .error .undefined_shift
  else failed

def parse_rule_part (toks : List Token) : Except ParserFault (AddrMatch × List Token) :=
  match parse_bound pton gmp toks with
  | .error e => .error e
  | .ok (addr_from, toks) =>
    if current toks = TT_SLASH then parse_prefix_len addr_from toks.tail
    else if ends_part toks then .ok (.single_addr addr_from, toks)
    else if current toks = TT_RANGE then
      match parse_bound pton gmp toks.tail with
      | .error e => .error e
      | .ok (addr_to, toks) =>
        if ends_part toks then .ok (.addr_range addr_from addr_to, toks) else failed
    else failed

end RulePart

section Table

open ParserType

variable (pton : InetPton) (gmp : GroupMemProtocol) (gts : GlobalTableSet)

-- The token behind a table.
def table_end (inside_rule_box : Bool) : TokenType :=
  if inside_rule_box then TT_RIGHT_BRACKET else TT_NIL

-- The name of a table, if it has one, and its brace.
def open_table (toks : List Token) : Except ParserFault (String × List Token) :=
  match current toks with
  | TT_STRING =>
    if current toks.tail = TT_LEFT_BRACE then .ok (current_string toks, toks.tail.tail) else failed
  | TT_LEFT_BRACE => .ok ("", toks.tail)
  | _ => failed

def table_ref (toks : List Token) : Except ParserFault (Table × List Token) :=
  if current toks = TT_STRING ∧ (gts.get_table (current_string toks)).isSome then
    .ok (⟨"", [.rule_table_ref (current_string toks)]⟩, toks.tail)
  else failed

-- The interface name in front of a rule, if there is one.
def read_if_name (toks : List Token) : String × List Token :=
  if current toks = TT_STRING then (current_string toks, toks.tail) else ("", toks)

-- A group and a source.
def parse_addr_rule (if_name : String) (toks : List Token) :
    Except ParserFault (RuleBox × List Token) :=
  match parse_rule_part pton gmp toks with
  | .error e => .error e
  | .ok (group, toks) =>
    if current toks = TT_PIPE then
      match parse_rule_part pton gmp toks.tail with
      | .error e => .error e
      | .ok (source, toks) =>
        if current toks = TT_RIGHT_BRACKET then .ok (.rule_addr if_name group source, toks)
        else failed
    else failed

mutual

def parse_table_inside : (fuel : ℕ) → (inside_rule_box : Bool) → List Token →
    Except ParserFault (Table × List Token)
  | 0, _, _ => .error .out_of_fuel
  | fuel + 1, inside_rule_box, toks =>
    match get_parser_type toks with
    | .error e => .error e
    | .ok type =>
      if type = PT_TABLE then
        if current toks.tail.tail = table_end inside_rule_box then table_ref gts toks.tail
        else
          match open_table toks.tail with
          | .error e => .error e
          | .ok (table_name, toks) =>
            match parse_rules fuel toks with
            | .error e => .error e
            | .ok (rule_box_list, toks) =>
              if current toks = TT_RIGHT_BRACE ∧ current toks.tail = table_end inside_rule_box then
                .ok (⟨table_name, rule_box_list⟩, toks.tail)
              else failed
      else failed

-- The loop of `parse_table`.
def parse_rules : (fuel : ℕ) → List Token → Except ParserFault (List RuleBox × List Token)
  | 0, _ => .error .out_of_fuel
  | fuel + 1, toks =>
    match parse_rule fuel toks with
    | .error e => .error e
    | .ok (none, toks) => .ok ([], toks)
    | .ok (some tmp_rule, toks) =>
      match parse_rules fuel toks.tail with
      | .error e => .error e
      | .ok (rule_box_list, toks) => .ok (tmp_rule :: rule_box_list, toks)

-- The prefix in front of an inner table is read and not kept.
def parse_rule : (fuel : ℕ) → List Token → Except ParserFault (Option RuleBox × List Token)
  | 0, _ => .error .out_of_fuel
  | fuel + 1, toks =>
    if current toks = TT_STRING ∨ current toks = TT_LEFT_BRACKET then
      let (if_name, toks) := read_if_name toks
      if current toks = TT_LEFT_BRACKET then
        if current toks.tail = TT_TABLE then
          match parse_table_inside fuel true toks.tail with
          | .error e => .error e
          | .ok (t, toks) => .ok (some (.rule_table t.m_name t.m_rule_box_list), toks)
        else
          match parse_addr_rule pton gmp if_name toks.tail with
          | .error e => .error e
          | .ok (rule, toks) => .ok (some rule, toks)
      else failed
    else .ok (none, toks)

end

-- Every round of the recursion takes as many tokens as calls.
def parse_table (toks : List Token) : Except ParserFault (Table × List Token) :=
  parse_table_inside pton gmp gts (toks.length + 2) false toks

-- The constructor: the tokens of a command.
def parser_tokens (cmd : String) : Except ParserFault (List Token) :=
  match scanner cmd with
  | .error e => .error (.thrown e)
  | .ok toks => .ok toks

-- What `run_parser` does with a table.
def add_table (toks : List Token) : Except ParserFault GlobalTableSet :=
  match parse_table pton gmp gts toks with
  | .error e => .error e
  | .ok (t, _) =>
    match gts.insert t with
    | none => .error (.thrown "failed to parse configfile")
    | some gts => .ok gts

end Table

end Mcproxy
