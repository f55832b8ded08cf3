import Mathlib.Order.Lattice
import Mcproxy.AddrStorage.Comparison
import Mcproxy.SourceList
import Mcproxy.Transition.Loop

namespace Mcproxy

open AddrFamily Container Transition

section FamilyAddr

-- The addresses of one family, in the order of `operator<`.
@[ext]
structure FamilyAddr (family : AddrFamily) where
  addr : AddrStorage
  addr_family : addr.get_addr_family = family

namespace FamilyAddr

variable {family : AddrFamily}

theorem value_injective :
    Function.Injective fun a : FamilyAddr family => a.addr.value := by
  intro a b h
  exact FamilyAddr.ext (AddrStorage.eq_of_value_eq (a.addr_family.trans b.addr_family.symm) h)

instance : LinearOrder (FamilyAddr family) := LinearOrder.lift' _ value_injective

theorem lt_iff (a b : FamilyAddr family) : a.addr.lt b.addr = true ↔ a < b :=
  AddrStorage.lt_iff (a.addr_family.trans b.addr_family.symm)

theorem eq_iff (hf : family ≠ AF_UNSPEC) (a b : FamilyAddr family) :
    a.addr.eq b.addr = true ↔ a = b := by
  rw [AddrStorage.eq_true_iff (AddrStorage.is_valid_of_family hf a.addr_family), FamilyAddr.ext_iff]

end FamilyAddr

end FamilyAddr

namespace SourceList

variable {family : AddrFamily}

section Model

-- `operator==` and `operator<` of two sources.
def source_eq (l r : Source (FamilyAddr family)) : Bool := l.saddr.addr.eq r.saddr.addr

def source_lt (l r : Source (FamilyAddr family)) : Bool := l.saddr.addr.lt r.saddr.addr

-- `operator+=`; `operator+` makes it on a copy of `l`, as the two operators below do.
def add_assign (l r : List (Source (FamilyAddr family))) : List (Source (FamilyAddr family)) :=
  r.foldl (fun l e => Comparator.insert source_lt id e l) l

-- `operator-=`
def sub_assign (l r : List (Source (FamilyAddr family))) : List (Source (FamilyAddr family)) :=
  r.foldl (fun l e => Comparator.erase source_lt id e l) l

-- The variables of `operator*=`: the elements of `l` before `cur_l`, those from `cur_l` on, and
-- those of `r` from `cur_r` on.
structure Cursors (family : AddrFamily) where
  kept : List (Source (FamilyAddr family))
  cur_l : List (Source (FamilyAddr family))
  cur_r : List (Source (FamilyAddr family))

-- One round of the loop; none when its condition fails.
def Cursors.round (c : Cursors family) : Option (Cursors family) :=
  match c.cur_l, c.cur_r with
  | x :: xs, y :: ys =>
    if source_eq x y then some ⟨c.kept ++ [x], xs, ys⟩
    else if source_lt x y then some ⟨c.kept, xs, y :: ys⟩
    else some ⟨c.kept, x :: xs, ys⟩
  | _, _ => none

-- `operator*=`: behind the loop the elements from `cur_l` on are erased.
def mul_assign (rounds : ℕ) (l r : List (Source (FamilyAddr family))) :
    Option (List (Source (FamilyAddr family))) :=
  (loop Cursors.round rounds ⟨[], l, r⟩).map Cursors.kept

end Model

section Spec

-- A list made of `l` and `r`, with the addresses that `op` selects and the left payload.
structure Combines (op : Prop → Prop → Prop) (l r : SourceList (FamilyAddr family))
    (result : List (Source (FamilyAddr family))) : Prop where
  sorted : result.Pairwise fun x y => x.saddr.addr.lt y.saddr.addr = true
  addrs : ∀ a, a ∈ result.map Source.saddr ↔ op (a ∈ l) (a ∈ r)
  left : ∀ x ∈ result, x.saddr ∈ l → x ∈ l.elems
  right : ∀ x ∈ result, x.saddr ∉ l → x ∈ r.elems

end Spec

section Sets

theorem source_lt_ranks :
    Comparator.Ranks source_lt (Source.saddr : Source (FamilyAddr family) → _) fun _ => True :=
  fun a b _ _ => FamilyAddr.lt_iff a.saddr b.saddr

theorem add_assign_eq (l : SourceList (FamilyAddr family)) (r : List (Source (FamilyAddr family))) :
    add_assign l.elems r = (l.insertAll r).elems := by
  induction r generalizing l with
  | nil => rfl
  | cons e r ih =>
    have hinsert : Comparator.insert source_lt id e l.elems = (l.insert e).elems :=
      source_lt_ranks.insert_eq trivial fun _ _ => trivial
    rw [add_assign, List.foldl_cons, hinsert]
    exact ih (l.insert e)

theorem sub_assign_eq (l : SourceList (FamilyAddr family)) (r : List (Source (FamilyAddr family))) :
    sub_assign l.elems r = (l.eraseAll (r.map Source.saddr)).elems := by
  induction r generalizing l with
  | nil => rfl
  | cons e r ih =>
    have herase : Comparator.erase source_lt id e l.elems = (l.erase e.saddr).elems :=
      source_lt_ranks.erase_eq trivial fun _ _ => trivial
    rw [sub_assign, List.foldl_cons, herase]
    exact ih (l.erase e.saddr)

end Sets

section Loop

-- What the loop has kept and will keep stays the same, and every round moves a cursor.
theorem Cursors.round_some (hf : family ≠ AF_UNSPEC) {c c' : Cursors family}
    (h : c.round = some c') :
    c'.kept ++ inter_loop c'.cur_l c'.cur_r = c.kept ++ inter_loop c.cur_l c.cur_r ∧
      c'.cur_l.length + c'.cur_r.length < c.cur_l.length + c.cur_r.length := by
  obtain ⟨kept, l, r⟩ := c
  cases l with
  | nil => simp [round] at h
  | cons x xs =>
    cases r with
    | nil => simp [round] at h
    | cons y ys =>
      simp only [round, source_eq, source_lt, FamilyAddr.eq_iff hf, FamilyAddr.lt_iff] at h
      simp only [inter_loop, inter_from]
      split_ifs at h ⊢ <;> cases h
      · simp
        omega
      · simp
      · simp [inter_loop]

theorem Cursors.round_none {c : Cursors family} (h : c.round = none) :
    inter_loop c.cur_l c.cur_r = [] := by
  obtain ⟨kept, l, r⟩ := c
  cases l with
  | nil => rfl
  | cons x xs =>
    cases r with
    | nil => rfl
    | cons y ys =>
      simp only [round] at h
      split_ifs at h

theorem mul_assign_eq (hf : family ≠ AF_UNSPEC) (l r : SourceList (FamilyAddr family)) {rounds : ℕ}
    (hr : l.elems.length + r.elems.length ≤ rounds) :
    mul_assign rounds l.elems r.elems = some (l * r).elems := by
  let inv : Cursors family → Prop := fun c =>
    c.kept ++ inter_loop c.cur_l c.cur_r = (l * r).elems
  have hround : ∀ c c' : Cursors family, inv c → c.round = some c' → inv c' ∧
      c'.cur_l.length + c'.cur_r.length < c.cur_l.length + c.cur_r.length := by
    intro c c' hc h
    obtain ⟨hkeep, hlt⟩ := Cursors.round_some hf h
    exact ⟨hkeep.trans hc, hlt⟩
  have hend : ∀ c : Cursors family, inv c → c.round = none → c.kept = (l * r).elems := by
    intro c hc hnone
    rw [← hc, Cursors.round_none hnone, List.append_nil]
  have hstart : inv ⟨[], l.elems, r.elems⟩ := rfl
  exact loop_map_eq hround hend hstart hr

end Loop

section Main

theorem combines_of_find {op : Prop → Prop → Prop} {l r s : SourceList (FamilyAddr family)}
    (hmem : ∀ a, a ∈ s ↔ op (a ∈ l) (a ∈ r))
    (hfind : ∀ a x, s.find a = some x → l.find a = some x ∨ a ∉ l ∧ r.find a = some x) :
    Combines op l r s.elems where
  sorted := s.sorted.imp fun h => (FamilyAddr.lt_iff _ _).mpr h
  addrs := hmem
  left x hx hl := by
    rcases hfind x.saddr x (OrdSet.find_eq_some_iff.mpr ⟨hx, rfl⟩) with h | h
    · exact (OrdSet.find_eq_some_iff.mp h).1
    · exact absurd hl h.1
  right x hx hl := by
    rcases hfind x.saddr x (OrdSet.find_eq_some_iff.mpr ⟨hx, rfl⟩) with h | h
    · exact absurd (OrdSet.mem_of_find h) hl
    · exact (OrdSet.find_eq_some_iff.mp h.2).1

theorem operators_combine (hf : family ≠ AF_UNSPEC) (l r : SourceList (FamilyAddr family)) :
    Combines (fun p q => p ∨ q) l r (add_assign l.elems r.elems) ∧
    (∃ m, (∀ rounds, l.elems.length + r.elems.length ≤ rounds →
        mul_assign rounds l.elems r.elems = some m) ∧ Combines (fun p q => p ∧ q) l r m) ∧
    Combines (fun p q => p ∧ ¬q) l r (sub_assign l.elems r.elems) := by
  refine ⟨?_, ⟨(l * r).elems, fun _ hr => mul_assign_eq hf l r hr, ?_⟩, ?_⟩
  · rw [add_assign_eq]
    exact combines_of_find (s := l + r) (mem_add l r) fun _ _ => find_of_find_add
  · exact combines_of_find (mem_mul l r) fun _ _ h => Or.inl (find_of_find_mul h).2
  · rw [sub_assign_eq]
    exact combines_of_find (s := l - r) (mem_sub l r) fun _ _ h => Or.inl (find_of_find_sub h).2

def counted (count : ℤ) (addrs : List (BitVec 32)) : SourceList (FamilyAddr AF_INET) :=
  OrdSet.insertAll ∅ (addrs.map fun a => ⟨⟨.inet a, rfl⟩, none, count⟩)

-- Of the address that both lists hold, it is the left counter that stays.
theorem operators_combine_overlapping :
    Combines (fun p q => p ∨ q) (counted 2 [1, 2]) (counted 0 [2, 3])
      ((counted 2 [1, 2]).elems ++ (counted 0 [3]).elems) ∧
    mul_assign 4 (counted 2 [1, 2]).elems (counted 0 [2, 3]).elems =
      some (counted 2 [2]).elems ∧
    Combines (fun p q => p ∧ q) (counted 2 [1, 2]) (counted 0 [2, 3]) (counted 2 [2]).elems ∧
    Combines (fun p q => p ∧ ¬q) (counted 2 [1, 2]) (counted 0 [2, 3])
      (counted 2 [1]).elems := by
  have hmul : mul_assign 4 (counted 2 [1, 2]).elems (counted 0 [2, 3]).elems =
      some (counted 2 [2]).elems := by decide
  obtain ⟨hadd, ⟨m, hm, hand⟩, hsub⟩ :=
    operators_combine (show AF_INET ≠ AF_UNSPEC by decide) (counted 2 [1, 2]) (counted 0 [2, 3])
  have heq : m = (counted 2 [2]).elems :=
    Option.some.inj ((hm 4 (by decide)).symm.trans hmul)
  exact ⟨hadd, hmul, heq ▸ hand, hsub⟩

end Main

end SourceList

end Mcproxy
