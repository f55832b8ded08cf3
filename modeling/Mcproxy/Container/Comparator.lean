import Mathlib.Data.List.Induction
import Mcproxy.Container.OrdSet

namespace Mcproxy.Container.Comparator

section Model

variable {τ κ : Type*} (lt : κ → κ → Bool) (key : τ → κ)

-- Keys that a container which only compares cannot tell apart.
def equivalent (a b : κ) : Bool := !lt a b && !lt b a

-- The new element goes in front of the first larger one, unless an equivalent one is there.
def insert (x : τ) : List τ → List τ
  | [] => [x]
  | y :: ys =>
    if lt (key x) (key y) then x :: y :: ys
    else if lt (key y) (key x) then y :: insert x ys
    else y :: ys

def erase (k : κ) (l : List τ) : List τ := l.filter fun x => !equivalent lt (key x) k

inductive Call (τ κ : Type*)
  | insert (x : τ)
  | erase (k : κ)

def call (l : List τ) : Call τ κ → List τ
  | .insert x => insert lt key x l
  | .erase k => erase lt key k l

-- What calls make of an empty container.
def calls (cs : List (Call τ κ)) : List τ := cs.foldl (call lt key) []

def Call.about : Call τ κ → κ
  | .insert x => key x
  | .erase k => k

end Model

section Spec

variable {τ κ : Type*} (same : κ → κ → Prop) (key : τ → κ)

-- Whether a set of keys that knows which of them are the same holds `k` after a call.
def Call.after (k : κ) (before : Prop) : Call τ κ → Prop
  | .insert x => before ∨ same (key x) k
  | .erase k' => before ∧ ¬same k' k

def Holds (k : κ) (cs : List (Call τ κ)) : Prop := cs.foldl (Call.after same key k) False

end Spec

section Rank

variable {τ κ ν : Type*} [LinearOrder ν] {lt : κ → κ → Bool} {key : τ → κ} {rank : κ → ν}
  {ok : κ → Prop}

-- On the keys in use the comparison is that of a linear order.
def Ranks (lt : κ → κ → Bool) (rank : κ → ν) (ok : κ → Prop) : Prop :=
  ∀ a b, ok a → ok b → (lt a b = true ↔ rank a < rank b)

theorem Ranks.equivalent_iff (h : Ranks lt rank ok) {a b : κ} (ha : ok a) (hb : ok b) :
    equivalent lt a b = true ↔ rank a = rank b := by
  rw [equivalent, Bool.and_eq_true, Bool.not_eq_true', Bool.not_eq_true', ← Bool.not_eq_true,
    ← Bool.not_eq_true, h a b ha hb, h b a hb ha, not_lt, not_lt, and_comm, le_antisymm_iff]

theorem Ranks.insert_eq (h : Ranks lt rank ok) {x : τ} (hx : ok (key x)) {l : List τ}
    (hl : ∀ y ∈ l, ok (key y)) :
    insert lt key x l = OrdSet.insertList (fun y => rank (key y)) x l := by
  induction l with
  | nil => rfl
  | cons y ys ih =>
    obtain ⟨hy, hys⟩ := List.forall_mem_cons.mp hl
    rw [insert, OrdSet.insertList, ih hys]
    simp only [h _ _ hx hy, h _ _ hy hx]
    rcases lt_trichotomy (rank (key x)) (rank (key y)) with hlt | heq | hgt
    · rw [if_pos hlt, if_pos hlt]
    · rw [if_neg heq.not_lt, if_neg heq.not_gt, if_neg heq.not_lt, if_pos heq]
    · rw [if_neg hgt.not_gt, if_pos hgt, if_neg hgt.not_gt, if_neg hgt.ne']

theorem Ranks.erase_eq (h : Ranks lt rank ok) {k : κ} (hk : ok k) {l : List τ}
    (hl : ∀ y ∈ l, ok (key y)) :
    erase lt key k l = l.filter fun y => decide (rank (key y) ≠ rank k) := by
  refine List.filter_congr fun y hy => ?_
  rw [Bool.eq_iff_iff, Bool.not_eq_true', ← Bool.not_eq_true, h.equivalent_iff (hl y hy) hk,
    decide_eq_true_eq]

-- Such a container holds the keys that were put in and not taken out, each of them once.
theorem Ranks.calls_spec (h : Ranks lt rank ok) {same : κ → κ → Prop}
    (hsame : ∀ a b, ok a → ok b → (same a b ↔ rank a = rank b)) (cs : List (Call τ κ))
    (hcs : ∀ c ∈ cs, ok (c.about key)) :
    ∃ s : OrdSet (fun y => rank (key y)), s.elems = calls lt key cs ∧
      (∀ y ∈ s.elems, ok (key y)) ∧ ∀ k, ok k → (rank k ∈ s ↔ Holds same key k cs) := by
  induction cs using List.reverseRecOn with
  | nil => exact ⟨∅, rfl, by simp [EmptyCollection.emptyCollection], fun k _ => by simp [Holds]⟩
  | append_singleton cs c ih =>
    obtain ⟨s, hs, hok, hholds⟩ := ih fun c hc => hcs c (List.mem_append_left _ hc)
    have hc : ok (c.about key) := hcs c (List.mem_append_right _ List.mem_cons_self)
    have hcalls : calls lt key (cs ++ [c]) = call lt key s.elems c := by
      rw [hs, calls, List.foldl_append]
      rfl
    have hafter : ∀ k, ok k → (Holds same key k (cs ++ [c]) ↔
        c.after same key k (rank k ∈ s)) := by
      intro k hk
      rw [Holds, List.foldl_append, hholds k hk]
      rfl
    cases c with
    | insert x =>
      have hx : ok (key x) := hc
      refine ⟨s.insert x, ?_, ?_, fun k hk => ?_⟩
      · rw [hcalls, call, h.insert_eq hx hok]
        rfl
      · intro y hy
        rcases OrdSet.mem_of_mem_insertList _ hy with rfl | hy
        · exact hx
        · exact hok y hy
      · rw [hafter k hk, Call.after, hsame _ _ hx hk, OrdSet.mem_insert]
    | erase k' =>
      have hk' : ok k' := hc
      refine ⟨s.erase (rank k'), ?_, ?_, fun k hk => ?_⟩
      · rw [hcalls, call, h.erase_eq hk' hok]
        rfl
      · exact fun y hy => hok y (List.mem_of_mem_filter hy)
      · rw [hafter k hk, Call.after, hsame _ _ hk' hk, OrdSet.mem_erase, and_comm, ne_comm]

end Rank

end Mcproxy.Container.Comparator
