import Mathlib.Algebra.Group.Nat.Defs
import Mathlib.Data.List.DropRight
import Mcproxy.Parser.Scanner
import Mcproxy.Transition.Loop

namespace Mcproxy

open Transition

section Model

def ltrim (s : List Char) : List Char := s.dropWhile isspace

def rtrim (s : List Char) : List Char := s.rdropWhile isspace

def count_chars (s : List Char) (comp : Char) : UInt32 :=
  s.foldl (fun count c => if c == comp then count + 1 else count) 0

-- `std::string::find`; none is `npos`.
def find (s : List Char) (c : Char) (pos : ℕ) : Option ℕ :=
  ((s.drop pos).findIdx? (· == c)).map (pos + ·)

structure Comments where
  script_file : List Char
  cc : Option ℕ

-- A text that ends in a comment is cut off there, and the function returns.
def Comments.round (v : Comments) : Option Comments :=
  match v.cc with
  | none => none
  | some cc =>
    match find v.script_file '\n' (cc + 1) with
    | none => some ⟨v.script_file.take cc, none⟩
    | some eoc =>
      let script_file := v.script_file.take cc ++ v.script_file.drop eoc
      some ⟨script_file, find script_file '#' cc⟩

def delete_comments (rounds : ℕ) (script_file : List Char) : Option (List Char) :=
  (loop Comments.round rounds ⟨script_file, find script_file '#' 0⟩).map Comments.script_file

-- `std::getline`: the characters in front of the delimiter and those behind it; it fails when
-- there is nothing left to read.
def getline (ss : List Char) (delim : Char) : Option (List Char × List Char) :=
  match ss with
  | [] => none
  | _ :: _ => some (ss.takeWhile (· != delim), (ss.dropWhile (· != delim)).tail)

structure Separation where
  ss : List Char
  current_line : UInt32
  result : List (UInt32 × List Char)

def Separation.round (v : Separation) : Option Separation :=
  match getline v.ss ';' with
  | none => none
  | some (item, ss) =>
    let line_count_before := count_chars item '\n'
    let item := ltrim item
    let line_count_after := count_chars item '\n'
    let item := rtrim item
    let line := v.current_line + (line_count_before - line_count_after)
    some ⟨ss, v.current_line + line_count_before,
      if item.isEmpty then v.result else v.result ++ [(line, item)]⟩

def separate_commands (rounds : ℕ) (script_file : List Char) : Option (List (UInt32 × List Char)) :=
  (loop Separation.round rounds ⟨script_file, 1, []⟩).map Separation.result

-- `separate_commands(delete_comments(text))`
def commands (rounds : ℕ) (text : List Char) : Option (List (UInt32 × List Char)) :=
  (delete_comments rounds text).bind (separate_commands rounds)

end Model

section Spec

-- The characters of a text with the lines they stand in.
def located (line : ℕ) : List Char → List (ℕ × Char)
  | [] => []
  | c :: s => (line, c) :: located (if c = '\n' then line + 1 else line) s

-- What is left without the comments; `inside` is whether the text starts in one.
def uncommented {τ : Type} (char : τ → Char) (inside : Bool) : List τ → List τ
  | [] => []
  | x :: s =>
    if char x = '\n' then x :: uncommented char false s
    else if inside || char x == '#' then uncommented char true s
    else x :: uncommented char false s

-- A piece as a command, with the line of its first character that is not blank.
def piece_command (piece : List (ℕ × Char)) : Option (ℕ × List Char) :=
  (piece.find? fun x => !isspace x.2).map fun first => (first.1, rtrim (ltrim (piece.map Prod.snd)))

def piece_commands (text : List (ℕ × Char)) : List (ℕ × List Char) :=
  (text.splitOnP fun x => x.2 == ';').filterMap piece_command

-- The commands of a text with their lines in it.
def text_commands (text : List Char) : List (ℕ × List Char) :=
  piece_commands (uncommented Prod.snd false (located 1 text))

end Spec

section Find

variable {l r s : List Char} {c : Char}

theorem find_eq_none_iff {pos : ℕ} : find s c pos = none ↔ c ∉ s.drop pos := by
  rw [find, Option.map_eq_none_iff, List.findIdx?_eq_none_iff]
  constructor
  · intro h hc
    simpa using h c hc
  · intro h x hx
    exact beq_false_of_ne fun hxc => h (hxc ▸ hx)

theorem findIdx?_append_of_notMem (hl : c ∉ l) (r : List Char) :
    (l ++ r).findIdx? (· == c) = (r.findIdx? (· == c)).map (l.length + ·) := by
  have hnone : find l c 0 = none := find_eq_none_iff.mpr hl
  rw [find, Option.map_eq_none_iff, List.drop_zero] at hnone
  rw [List.findIdx?_append, hnone, Option.none_or]
  simp only [Nat.add_comm]

-- A character that is found stands behind others that are different.
theorem exists_of_find {pos i : ℕ} (h : find s c pos = some i) :
    ∃ l r, s.drop pos = l ++ c :: r ∧ c ∉ l ∧ i = pos + l.length := by
  have hc : c ∈ s.drop pos := by
    by_contra hc
    rw [find_eq_none_iff.mpr hc] at h
    cases h
  obtain ⟨l, r, heq, hl⟩ := List.eq_append_cons_of_mem hc
  refine ⟨l, r, heq, hl, ?_⟩
  rw [find, heq, findIdx?_append_of_notMem hl] at h
  simpa [List.findIdx?_cons] using h.symm

theorem find_append_of_notMem (hl : c ∉ l) : find (l ++ r) c l.length = find (l ++ r) c 0 := by
  rw [find, find, List.drop_left, List.drop_zero, findIdx?_append_of_notMem hl, Option.map_map]
  simp [Function.comp_def]

end Find

section Comments

theorem uncommented_located (inside : Bool) (line : ℕ) (s : List Char) :
    uncommented Prod.snd inside (located line s) = located line (uncommented id inside s) := by
  induction s generalizing inside line with
  | nil => rfl
  | cons c s ih =>
    simp only [located, uncommented, id]
    split_ifs with hnl hc <;> simp [located, hnl, ih]

theorem uncommented_append {l : List Char} (hl : '#' ∉ l) (r : List Char) :
    uncommented id false (l ++ r) = l ++ uncommented id false r := by
  induction l with
  | nil => rfl
  | cons c l ih =>
    rw [List.mem_cons, not_or] at hl
    obtain ⟨hc, hl⟩ := hl
    simp [uncommented, Ne.symm hc, ih hl]

theorem uncommented_eq_self {s : List Char} (hs : '#' ∉ s) : uncommented id false s = s := by
  simpa [uncommented] using uncommented_append hs []

theorem uncommented_comment {l : List Char} (hl : '\n' ∉ l) (r : List Char) :
    uncommented id true (l ++ r) = uncommented id true r := by
  induction l with
  | nil => rfl
  | cons c l ih =>
    rw [List.mem_cons, not_or] at hl
    obtain ⟨hc, hl⟩ := hl
    simp [uncommented, Ne.symm hc, ih hl]

theorem length_uncommented_le (inside : Bool) (s : List Char) :
    (uncommented id inside s).length ≤ s.length := by
  induction s generalizing inside with
  | nil => exact le_rfl
  | cons c s ih =>
    simp only [uncommented]
    split_ifs
    · exact Nat.succ_le_succ (ih false)
    · exact (ih true).trans (Nat.le_succ _)
    · exact Nat.succ_le_succ (ih false)

-- One round takes out the first comment, up to its line end or the end of the text.
theorem Comments.round_some {v v' : Comments} (hcc : v.cc = find v.script_file '#' 0)
    (h : v.round = some v') :
    v'.cc = find v'.script_file '#' 0 ∧
      uncommented id false v'.script_file = uncommented id false v.script_file ∧
      v'.script_file.length < v.script_file.length := by
  obtain ⟨s, cc⟩ := v
  cases cc with
  | none => cases h
  | some cc =>
    obtain ⟨l, r, hs, hl, hlen⟩ := exists_of_find hcc.symm
    rw [List.drop_zero] at hs
    rw [Nat.zero_add] at hlen
    subst hs hlen
    have hdrop : (l ++ '#' :: r).drop (l.length + 1) = r := by simp
    have htake : (l ++ '#' :: r).take l.length = l := List.take_left
    simp only [round] at h
    split at h
    · rename_i hnone
      rw [find_eq_none_iff, hdrop] at hnone
      obtain rfl := Option.some.inj h
      have hend : uncommented id true r = [] := by
        simpa [uncommented] using uncommented_comment hnone []
      refine ⟨?_, ?_, ?_⟩
      · rw [htake]
        exact (find_eq_none_iff.mpr hl).symm
      · rw [htake, uncommented_eq_self hl, uncommented_append hl]
        simp [uncommented, hend]
      · simp
    · rename_i eoc hsome
      obtain ⟨m, t, hr, hm, heoc⟩ := exists_of_find hsome
      rw [hdrop] at hr
      subst hr heoc
      obtain rfl := Option.some.inj h
      have hrest : (l ++ '#' :: (m ++ '\n' :: t)).drop (l.length + 1 + m.length) = '\n' :: t := by
        rw [← List.drop_drop, hdrop, List.drop_left]
      rw [htake, hrest]
      refine ⟨find_append_of_notMem hl, ?_, ?_⟩
      · rw [uncommented_append hl, uncommented_append hl]
        simp [uncommented, uncommented_comment hm]
      · simp only [List.length_append, List.length_cons]
        omega

theorem Comments.cc_eq_none {v : Comments} (h : v.round = none) : v.cc = none := by
  cases hcc : v.cc with
  | none => rfl
  | some cc =>
    simp only [round, hcc] at h
    split at h <;> cases h

theorem delete_comments_eq (text : List Char) {rounds : ℕ} (hr : text.length ≤ rounds) :
    delete_comments rounds text = some (uncommented id false text) := by
  let inv : Comments → Prop := fun v =>
    v.cc = find v.script_file '#' 0 ∧
      uncommented id false v.script_file = uncommented id false text
  have hround : ∀ v v' : Comments, inv v → v.round = some v' → inv v' ∧
      v'.script_file.length < v.script_file.length := by
    rintro v v' ⟨hcc, htext⟩ h
    obtain ⟨hcc', htext', hlt⟩ := Comments.round_some hcc h
    exact ⟨⟨hcc', htext'.trans htext⟩, hlt⟩
  have hend : ∀ v : Comments, inv v → v.round = none →
      v.script_file = uncommented id false text := by
    rintro v ⟨hcc, htext⟩ hnone
    have hcomment : '#' ∉ v.script_file :=
      find_eq_none_iff.mp (hcc.symm.trans (Comments.cc_eq_none hnone))
    rw [← htext, uncommented_eq_self hcomment]
  have hstart : inv ⟨text, find text '#' 0⟩ := ⟨rfl, rfl⟩
  exact loop_map_eq hround hend hstart hr

end Comments

section Pieces

theorem newlines_cons (c : Char) (s : List Char) :
    (c :: s).count '\n' = [c].count '\n' + s.count '\n' := by
  rw [← List.count_append, List.singleton_append]

theorem located_cons (line : ℕ) (c : Char) (s : List Char) :
    located line (c :: s) = (line, c) :: located (line + [c].count '\n') s := by
  rw [located, List.count_singleton]
  by_cases hc : c = '\n'
  · rw [if_pos hc, if_pos (beq_iff_eq.mpr hc)]
  · rw [if_neg hc, if_neg (mt beq_iff_eq.mp hc), Nat.add_zero]

theorem located_append (line : ℕ) (l r : List Char) :
    located line (l ++ r) = located line l ++ located (line + l.count '\n') r := by
  induction l generalizing line with
  | nil => rfl
  | cons c l ih =>
    rw [List.cons_append, located_cons, located_cons, ih, newlines_cons c l, Nat.add_assoc,
      List.cons_append]

@[simp]
theorem map_snd_located (line : ℕ) (s : List Char) : (located line s).map Prod.snd = s := by
  induction s generalizing line with
  | nil => rfl
  | cons c s ih => simp [located, ih]

theorem count_ltrim_le (s : List Char) : (ltrim s).count '\n' ≤ s.count '\n' :=
  (List.dropWhile_sublist _).count_le _

-- The first character that is not blank is where `ltrim` stops.
theorem find?_located (line : ℕ) (s : List Char) :
    (located line s).find? (fun x => !isspace x.2) =
      (ltrim s).head?.map fun c => (line + (s.count '\n' - (ltrim s).count '\n'), c) := by
  induction s generalizing line with
  | nil => rfl
  | cons c s ih =>
    rw [located_cons]
    by_cases hc : isspace c = true
    · have hle := count_ltrim_le s
      have htrim : ltrim (c :: s) = ltrim s := List.dropWhile_cons_of_pos hc
      rw [List.find?_cons_of_neg (by simp [hc]), ih, htrim, newlines_cons c s,
        Nat.add_sub_assoc hle, Nat.add_assoc]
    · have htrim : ltrim (c :: s) = c :: s := List.dropWhile_cons_of_neg hc
      rw [List.find?_cons_of_pos (by simp [hc]), htrim]
      simp

theorem rtrim_ltrim_eq_nil_iff (s : List Char) : rtrim (ltrim s) = [] ↔ ltrim s = [] := by
  refine ⟨fun h => ?_, fun h => by rw [h]; rfl⟩
  rw [rtrim, List.rdropWhile_eq_nil_iff] at h
  by_contra hne
  have hhead : isspace ((ltrim s).head hne) = false := List.head_dropWhile_not isspace hne
  exact absurd (h _ (List.head_mem hne)) (by simp [hhead])

theorem piece_command_located (line : ℕ) (item : List Char) :
    piece_command (located line item) =
      if (rtrim (ltrim item)).isEmpty then none
      else some (line + (item.count '\n' - (ltrim item).count '\n'), rtrim (ltrim item)) := by
  rw [piece_command, find?_located, map_snd_located]
  simp only [List.isEmpty_iff, rtrim_ltrim_eq_nil_iff]
  cases h : ltrim item with
  | nil => rfl
  | cons c s => simp

end Pieces

section Separation

theorem count_chars_eq (s : List Char) (comp : Char) :
    count_chars s comp = UInt32.ofNat (s.count comp) := by
  have hfold : ∀ count : ℕ,
      s.foldl (fun count c => if c == comp then count + 1 else count) (UInt32.ofNat count) =
        UInt32.ofNat (count + s.count comp) := by
    induction s with
    | nil => exact fun _ => rfl
    | cons c s ih =>
      intro count
      rw [List.foldl_cons, List.count_cons]
      by_cases hc : (c == comp) = true
      · have hnext : UInt32.ofNat count + 1 = UInt32.ofNat (count + 1) :=
          (UInt32.ofNat_add count 1).symm
        rw [if_pos hc, if_pos hc, hnext, ih, Nat.add_assoc, Nat.add_comm 1]
      · rw [if_neg hc, if_neg hc, ih, Nat.add_zero]
  rw [← Nat.zero_add (s.count comp)]
  exact hfold 0

theorem getline_some {ss item rest : List Char} {delim : Char}
    (h : getline ss delim = some (item, rest)) :
    delim ∉ item ∧ rest.length < ss.length ∧
      (ss = item ++ delim :: rest ∨ ss = item ∧ rest = []) := by
  have hsplit : ss.takeWhile (· != delim) ++ ss.dropWhile (· != delim) = ss :=
    List.takeWhile_append_dropWhile
  have hdelim : delim ∉ ss.takeWhile (· != delim) := by
    intro hmem
    simpa using List.mem_takeWhile_imp hmem
  have hitem : item = ss.takeWhile (· != delim) ∧ rest = (ss.dropWhile (· != delim)).tail ∧
      ss ≠ [] := by
    cases ss with
    | nil => cases h
    | cons c ss =>
      obtain ⟨rfl, rfl⟩ := Prod.mk.inj (Option.some.inj h)
      exact ⟨rfl, rfl, List.cons_ne_nil c ss⟩
  obtain ⟨rfl, rfl, hne⟩ := hitem
  refine ⟨hdelim, ?_⟩
  cases hd : ss.dropWhile (· != delim) with
  | nil =>
    rw [hd, List.append_nil] at hsplit
    exact ⟨List.length_pos_iff.mpr hne, Or.inr ⟨hsplit.symm, rfl⟩⟩
  | cons c rest =>
    have hc : c = delim := by
      have hhead := List.head_dropWhile_not (· != delim) (hd ▸ List.cons_ne_nil c rest)
      simpa [hd] using hhead
    subst hc
    rw [hd] at hsplit
    refine ⟨?_, Or.inl hsplit.symm⟩
    rw [← hsplit]
    simp
    omega

theorem piece_commands_located {ss item rest : List Char} {line : ℕ}
    (h : getline ss ';' = some (item, rest)) :
    piece_commands (located line ss) = (piece_command (located line item)).toList ++
      piece_commands (located (line + item.count '\n') rest) := by
  obtain ⟨hitem, -, hss⟩ := getline_some h
  have hnone : ∀ x ∈ located line item, (x.2 == ';') = false := by
    intro x hx
    have hmem : x.2 ∈ item := map_snd_located line item ▸ List.mem_map_of_mem hx
    exact beq_false_of_ne fun hx => hitem (hx ▸ hmem)
  rcases hss with rfl | ⟨rfl, rfl⟩
  · have hsep : [';'].count '\n' = 0 := rfl
    rw [located_append, located_cons, hsep, Nat.add_zero, piece_commands,
      List.splitOnP_append_cons_of_forall_mem hnone _ rfl, List.filterMap_cons]
    cases piece_command (located line item) with
    | none => rfl
    | some command => rfl
  · rw [piece_commands, List.splitOnP_eq_singleton hnone, List.filterMap_cons]
    cases piece_command (located line ss) with
    | none => rfl
    | some command => rfl

-- One round reads one piece; what it adds and what is left make up what was left before.
theorem Separation.round_some {v v' : Separation} {line : ℕ}
    (hline : v.current_line = UInt32.ofNat line) (h : v.round = some v') :
    ∃ line', v'.current_line = UInt32.ofNat line' ∧
      v'.result ++ (piece_commands (located line' v'.ss)).map (Prod.map UInt32.ofNat id) =
        v.result ++ (piece_commands (located line v.ss)).map (Prod.map UInt32.ofNat id) ∧
      v'.ss.length < v.ss.length := by
  simp only [round] at h
  split at h
  · cases h
  · rename_i item ss hget
    obtain rfl := Option.some.inj h
    have hle := count_ltrim_le item
    refine ⟨line + item.count '\n', ?_, ?_, (getline_some hget).2.1⟩
    · simp only [hline, count_chars_eq, UInt32.ofNat_add]
    · simp only [piece_commands_located hget, piece_command_located, hline, count_chars_eq,
        ← UInt32.ofNat_sub hle, ← UInt32.ofNat_add]
      split_ifs
      · simp
      · simp

theorem Separation.ss_eq_nil {v : Separation} (h : v.round = none) : v.ss = [] := by
  cases hss : v.ss with
  | nil => rfl
  | cons c ss => simp [round, getline, hss] at h

theorem separate_commands_eq (text : List Char) {rounds : ℕ} (hr : text.length ≤ rounds) :
    separate_commands rounds text =
      some ((piece_commands (located 1 text)).map (Prod.map UInt32.ofNat id)) := by
  let inv : Separation → Prop := fun v => ∃ line, v.current_line = UInt32.ofNat line ∧
    v.result ++ (piece_commands (located line v.ss)).map (Prod.map UInt32.ofNat id) =
      (piece_commands (located 1 text)).map (Prod.map UInt32.ofNat id)
  have hround : ∀ v v' : Separation, inv v → v.round = some v' → inv v' ∧
      v'.ss.length < v.ss.length := by
    rintro v v' ⟨line, hline, hresult⟩ h
    obtain ⟨line', hline', hresult', hlt⟩ := Separation.round_some hline h
    exact ⟨⟨line', hline', hresult'.trans hresult⟩, hlt⟩
  have hend : ∀ v : Separation, inv v → v.round = none →
      v.result = (piece_commands (located 1 text)).map (Prod.map UInt32.ofNat id) := by
    rintro v ⟨line, -, hresult⟩ hnone
    rw [Separation.ss_eq_nil hnone] at hresult
    simpa [located, piece_commands, piece_command] using hresult
  have hstart : inv ⟨text, 1, []⟩ := ⟨1, rfl, rfl⟩
  exact loop_map_eq hround hend hstart hr

end Separation

section Main

theorem commands_eq (text : List Char) {rounds : ℕ} (hr : text.length ≤ rounds) :
    commands rounds text = some ((text_commands text).map (Prod.map UInt32.ofNat id)) := by
  have hlen := (length_uncommented_le false text).trans hr
  rw [commands, delete_comments_eq text hr, Option.bind_some, separate_commands_eq _ hlen,
    text_commands, uncommented_located]

-- Both loops end. The commands are those of the text, and so are their lines, as far as an
-- `unsigned int` can tell.
theorem commands_exact (text : List Char) (more : ℕ) :
    ∃ cmds, commands (text.length + more) text = some cmds ∧
      cmds.map Prod.snd = (text_commands text).map Prod.snd ∧
      cmds.map (fun c => c.1.toNat) = (text_commands text).map fun c => c.1 % 2 ^ 32 := by
  refine ⟨_, commands_eq text (Nat.le_add_right _ _), ?_, ?_⟩
  · rw [List.map_map]
    rfl
  · rw [List.map_map]
    rfl

theorem text_commands_newlines (k : ℕ) :
    text_commands (List.replicate k '\n' ++ ['a']) = [(1 + k, ['a'])] := by
  have hmem : ∀ c ∈ List.replicate k '\n' ++ ['a'], c = '\n' ∨ c = 'a' := by
    intro c hc
    rcases List.mem_append.mp hc with hc | hc
    · exact Or.inl (List.eq_of_mem_replicate hc)
    · exact Or.inr (List.mem_singleton.mp hc)
  have hcomment : '#' ∉ List.replicate k '\n' ++ ['a'] := by
    intro hc
    rcases hmem _ hc with h | h
    · exact absurd h (by decide)
    · exact absurd h (by decide)
  have hpiece : ∀ x ∈ located 1 (List.replicate k '\n' ++ ['a']), (x.2 == ';') = false := by
    intro x hx
    have hx := List.mem_map_of_mem (f := Prod.snd) hx
    rw [map_snd_located] at hx
    rcases hmem _ hx with h | h
    · rw [h]
      rfl
    · rw [h]
      rfl
  have htrim : ltrim (List.replicate k '\n' ++ ['a']) = ['a'] := by
    rw [ltrim, List.dropWhile_append_of_pos]
    · rfl
    · intro c hc
      rw [List.eq_of_mem_replicate hc]
      rfl
  have hcount : (List.replicate k '\n' ++ ['a']).count '\n' = k := by
    rw [List.count_append, List.count_replicate_self]
    rfl
  rw [text_commands, uncommented_located, uncommented_eq_self hcomment, piece_commands,
    List.splitOnP_eq_singleton hpiece, List.filterMap_cons, piece_command_located, htrim, hcount]
  rfl

-- A command in the line behind 2^32 - 1 others is said to stand in line 0.
theorem line_number_wraps : ∃ text : List Char, (∀ c ∈ text, c.toNat < 128) ∧
    text_commands text = [(2 ^ 32, ['a'])] ∧
    ∀ more, commands (text.length + more) text = some [(0, ['a'])] := by
  refine ⟨List.replicate (2 ^ 32 - 1) '\n' ++ ['a'], ?_, ?_, fun more => ?_⟩
  · intro c hc
    rcases List.mem_append.mp hc with hc | hc
    · rw [List.eq_of_mem_replicate hc]
      decide
    · rw [List.mem_singleton.mp hc]
      decide
  · exact text_commands_newlines (2 ^ 32 - 1)
  · rw [commands_eq _ (Nat.le_add_right _ _), text_commands_newlines]
    rfl

end Main

end Mcproxy
