import Mcproxy.Container.OrdSet
import Mcproxy.Def

namespace Mcproxy

open Container

inductive MessageType
  | INIT_MSG
  | TEST_MSG
  | EXIT_MSG
  | FILTER_TIMER_MSG
  | SOURCE_TIMER_MSG
  | NEW_SOURCE_MSG
  | NEW_SOURCE_TIMER_MSG
  | RET_GROUP_TIMER_MSG
  | RET_SOURCE_TIMER_MSG
  | OLDER_HOST_PRESENT_TIMER_MSG
  | GENERAL_QUERY_TIMER_MSG
  | CONFIG_MSG
  | GROUP_RECORD_MSG
  | DEBUG_MSG
  deriving DecidableEq, Repr

-- A shared timer message. Objects are told apart by `id`, as the source tells them
-- apart by their address; a general query timer has no group address.
structure TimerMsg (α : Type*) where
  id : ℕ
  type : MessageType
  gaddr : Option α
  end_time : ℕ
  is_used_as_source_timer : Bool := false
  deriving DecidableEq, Repr

structure Source (α : Type*) where
  saddr : α
  shared_source_timer : Option (TimerMsg α) := none
  retransmission_count : ℤ := -1
  deriving DecidableEq, Repr

-- `std::set<source>`: sources are compared by their address only.
abbrev SourceList (α : Type*) [LinearOrder α] := OrdSet (Source.saddr : Source α → α)

namespace SourceList

variable {α : Type*} [LinearOrder α]

-- `l.insert(r.cbegin(), r.cend())`
def union (l r : SourceList α) : SourceList α := l.insertAll r.elems

-- The loop of `operator*=` while `cur_l` stays at one element `x`: `rest` is what it
-- does from the next element of `l` on. When `r` is exhausted the tail of `l` goes.
def inter_from (x : Source α) (rest : List (Source α) → List (Source α)) :
    List (Source α) → List (Source α)
  | [] => []
  | y :: ys =>
    if x.saddr = y.saddr then x :: rest ys
    else if x.saddr < y.saddr then rest (y :: ys)
    else inter_from x rest ys

def inter_loop : List (Source α) → List (Source α) → List (Source α)
  | [] => fun _ => []
  | x :: xs => inter_from x (inter_loop xs)

theorem inter_from_sublist (x : Source α) (rest : List (Source α) → List (Source α))
    (xs : List (Source α)) (hrest : ∀ r, (rest r).Sublist xs) (r : List (Source α)) :
    (inter_from x rest r).Sublist (x :: xs) := by
  induction r with
  | nil => exact List.nil_sublist _
  | cons y ys ih =>
    simp only [inter_from]
    split_ifs
    · exact (hrest ys).cons_cons x
    · exact (hrest (y :: ys)).cons x
    · exact ih

theorem inter_loop_sublist (l r : List (Source α)) : (inter_loop l r).Sublist l := by
  induction l generalizing r with
  | nil => exact List.nil_sublist _
  | cons x xs ih => exact inter_from_sublist x _ xs ih r

def inter (l r : SourceList α) : SourceList α :=
  ⟨inter_loop l.elems r.elems, l.sorted.sublist (inter_loop_sublist _ _)⟩

-- `for (auto e : r) l.erase(e)`
def diff (l r : SourceList α) : SourceList α := l.eraseAll (r.elems.map Source.saddr)

instance : Add (SourceList α) := ⟨union⟩

instance : Mul (SourceList α) := ⟨inter⟩

instance : Sub (SourceList α) := ⟨diff⟩

section Algebra

-- While `cur_l` stays at `x`, the loop keeps `x` exactly when `r` still holds its address.
theorem mem_inter_from {x z : Source α} {xs r : List (Source α)}
    {rest : List (Source α) → List (Source α)}
    (hx : ∀ y ∈ xs, x.saddr < y.saddr) (hr : r.Pairwise (fun a b => a.saddr < b.saddr))
    (hrest : ∀ r : List (Source α), r.Pairwise (fun a b => a.saddr < b.saddr) →
      (z ∈ rest r ↔ z ∈ xs ∧ z.saddr ∈ r.map Source.saddr)) :
    z ∈ inter_from x rest r ↔ z ∈ x :: xs ∧ z.saddr ∈ r.map Source.saddr := by
  have hle : z ∈ x :: xs → x.saddr ≤ z.saddr := by
    intro hz
    rcases List.mem_cons.mp hz with rfl | hz
    · exact le_rfl
    · exact (hx z hz).le
  induction r with
  | nil => simp [inter_from]
  | cons y ys ih =>
    obtain ⟨hy, hys⟩ := List.pairwise_cons.mp hr
    simp only [inter_from, List.map_cons, List.mem_cons]
    split_ifs with heq hlt
    · rw [List.mem_cons, hrest ys hys]
      constructor
      · rintro (rfl | ⟨hz, hzr⟩)
        · exact ⟨Or.inl rfl, Or.inl heq⟩
        · exact ⟨Or.inr hz, Or.inr hzr⟩
      · rintro ⟨rfl | hz, hzr⟩
        · exact Or.inl rfl
        · exact Or.inr ⟨hz, hzr.resolve_left (fun h => (hx z hz).ne (heq.trans h.symm))⟩
    · rw [hrest (y :: ys) hr, List.map_cons, List.mem_cons]
      refine and_congr_left fun hzr => (or_iff_right ?_).symm
      rintro rfl
      rcases hzr with h | h
      · exact hlt.ne h
      · obtain ⟨w, hw, hwz⟩ := List.mem_map.mp h
        exact (hlt.trans (hy w hw)).ne hwz.symm
    · have hyx : y.saddr < x.saddr := lt_of_le_of_ne (not_lt.mp hlt) (Ne.symm heq)
      refine (ih hys).trans ?_
      rw [List.mem_cons]
      refine and_congr_right fun hz => (or_iff_right ?_).symm
      exact fun h => (hyx.trans_le (hle (List.mem_cons.mpr hz))).ne h.symm

theorem mem_inter_loop {z : Source α} {l r : List (Source α)}
    (hl : l.Pairwise (fun a b => a.saddr < b.saddr))
    (hr : r.Pairwise (fun a b => a.saddr < b.saddr)) :
    z ∈ inter_loop l r ↔ z ∈ l ∧ z.saddr ∈ r.map Source.saddr := by
  induction l generalizing r with
  | nil => simp [inter_loop]
  | cons x xs ih =>
    obtain ⟨hx, hxs⟩ := List.pairwise_cons.mp hl
    exact mem_inter_from hx hr fun r hr => ih hxs hr

-- Of two sources with the same address, every operator keeps the one on the left.
theorem find_add (l r : SourceList α) (a : α) : (l + r).find a = (l.find a).or (r.find a) :=
  OrdSet.find_insertAll l r a

theorem find_mul (l r : SourceList α) (a : α) :
    (l * r).find a = if a ∈ r then l.find a else none := by
  apply Option.ext
  intro s
  rw [OrdSet.find_eq_some_iff]
  change s ∈ inter_loop l.elems r.elems ∧ s.saddr = a ↔ _
  rw [mem_inter_loop l.sorted r.sorted]
  split_ifs with ha
  · rw [OrdSet.find_eq_some_iff]
    constructor
    · exact fun h => ⟨h.1.1, h.2⟩
    · rintro ⟨hs, rfl⟩
      exact ⟨⟨hs, ha⟩, rfl⟩
  · simp only [iff_false]
    rintro ⟨⟨-, hs⟩, rfl⟩
    exact ha hs

theorem find_sub (l r : SourceList α) (a : α) :
    (l - r).find a = if a ∈ r then none else l.find a :=
  OrdSet.find_eraseAll l (r.elems.map Source.saddr) a

@[simp] theorem mem_add (l r : SourceList α) (a : α) : a ∈ l + r ↔ a ∈ l ∨ a ∈ r := by
  simp only [← OrdSet.isSome_find, find_add, Option.isSome_or, Bool.or_eq_true]

@[simp] theorem mem_mul (l r : SourceList α) (a : α) : a ∈ l * r ↔ a ∈ l ∧ a ∈ r := by
  rw [← OrdSet.isSome_find, find_mul, ← OrdSet.isSome_find (s := l)]
  split_ifs with h <;> simp [h]

@[simp] theorem mem_sub (l r : SourceList α) (a : α) : a ∈ l - r ↔ a ∈ l ∧ a ∉ r := by
  rw [← OrdSet.isSome_find, find_sub, ← OrdSet.isSome_find (s := l)]
  split_ifs with h <;> simp [h]

-- Where an element of a sum, a product or a difference comes from.
theorem find_of_find_add {l r : SourceList α} {a : α} {s : Source α}
    (h : (l + r).find a = some s) : l.find a = some s ∨ a ∉ l ∧ r.find a = some s := by
  rw [find_add, Option.or_eq_some_iff] at h
  exact h.imp id (fun h => ⟨OrdSet.find_eq_none_iff.mp h.1, h.2⟩)

theorem find_of_find_mul {l r : SourceList α} {a : α} {s : Source α}
    (h : (l * r).find a = some s) : a ∈ r ∧ l.find a = some s := by
  rw [find_mul] at h
  split_ifs at h with ha
  exact ⟨ha, h⟩

theorem find_of_find_sub {l r : SourceList α} {a : α} {s : Source α}
    (h : (l - r).find a = some s) : a ∉ r ∧ l.find a = some s := by
  rw [find_sub] at h
  split_ifs at h with ha
  exact ⟨ha, h⟩

end Algebra

end SourceList

end Mcproxy
