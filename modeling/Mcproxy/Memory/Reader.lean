import Mathlib.Data.Nat.Notation
import Mathlib.Tactic.TypeStar

namespace Mcproxy.Memory

universe u v

-- A computation that reads a memory cell by cell. It can look at the memory in no other way.
inductive Reader (ν : Type v) (β : Type u) : Type (max u v)
  | pure (result : β)
  | read (addr : ℕ) (next : ν → Reader ν β)

namespace Reader

variable {ν : Type v} {β γ : Type u}

def bind : Reader ν β → (β → Reader ν γ) → Reader ν γ
  | .pure b, f => f b
  | .read addr next, f => .read addr fun x => (next x).bind f

instance : Monad (Reader ν) where
  pure := .pure
  bind := bind

def run (m : ℕ → ν) : Reader ν β → β
  | .pure b => b
  | .read addr next => (next (m addr)).run m

-- The addresses it reads, in order.
def reads (m : ℕ → ν) : Reader ν β → List ℕ
  | .pure _ => []
  | .read addr next => addr :: (next (m addr)).reads m

-- It stays below the address `n`.
def Within (n : ℕ) (m : ℕ → ν) (p : Reader ν β) : Prop := ∀ addr ∈ p.reads m, addr < n

variable {m m' : ℕ → ν} {n : ℕ}

@[simp] theorem run_pure (b : β) : (Pure.pure b : Reader ν β).run m = b := rfl

@[simp] theorem run_bind (p : Reader ν β) (f : β → Reader ν γ) :
    (p >>= f).run m = (f (p.run m)).run m := by
  induction p with
  | pure b => rfl
  | read addr next ih => exact ih (m addr)

theorem reads_bind (p : Reader ν β) (f : β → Reader ν γ) :
    (p >>= f).reads m = p.reads m ++ (f (p.run m)).reads m := by
  induction p with
  | pure b => rfl
  | read addr next ih => exact congrArg (addr :: ·) (ih (m addr))

@[simp] theorem within_pure (b : β) : Within n m (Pure.pure b : Reader ν β) :=
  fun _ h => absurd h List.not_mem_nil

theorem within_bind (p : Reader ν β) (f : β → Reader ν γ) :
    Within n m (p >>= f) ↔ Within n m p ∧ Within n m (f (p.run m)) := by
  unfold Within
  rw [reads_bind]
  constructor
  · intro h
    exact ⟨fun a ha => h a (List.mem_append_left _ ha),
      fun a ha => h a (List.mem_append_right _ ha)⟩
  · rintro ⟨hp, hf⟩ a ha
    exact (List.mem_append.mp ha).elim (hp a) (hf a)

-- Two memories that agree on what is read of the one cannot be told apart.
theorem run_congr (p : Reader ν β) (h : ∀ addr ∈ p.reads m, m addr = m' addr) :
    p.run m = p.run m' ∧ p.reads m = p.reads m' := by
  induction p with
  | pure b => exact ⟨rfl, rfl⟩
  | read addr next ih =>
    have haddr : m addr = m' addr := h addr List.mem_cons_self
    obtain ⟨hrun, hreads⟩ := ih (m addr) fun a ha => h a (List.mem_cons_of_mem _ ha)
    simp only [run, reads, ← haddr]
    exact ⟨hrun, congrArg (addr :: ·) hreads⟩

theorem Within.congr {p : Reader ν β} (h : Within n m p) (hm : ∀ addr < n, m addr = m' addr) :
    Within n m' p ∧ p.run m = p.run m' := by
  obtain ⟨hrun, hreads⟩ := run_congr p fun addr ha => hm addr (h addr ha)
  refine ⟨?_, hrun⟩
  unfold Within
  rw [← hreads]
  exact h

end Reader

section Cells

variable {ν : Type v} {m : ℕ → ν} {n : ℕ}

-- One cell
def cell (addr : ℕ) : Reader ν ν := .read addr .pure

@[simp] theorem run_cell (addr : ℕ) : (cell addr).run m = m addr := rfl

@[simp] theorem within_cell (addr : ℕ) : (cell addr).Within n m ↔ addr < n := by
  simp [Reader.Within, cell, Reader.reads]

theorem within_cell_bind {β : Type v} (addr : ℕ) (f : ν → Reader ν β) :
    (cell addr >>= f).Within n m ↔ addr < n ∧ (f (m addr)).Within n m :=
  (Reader.within_bind ..).trans (and_congr_left' (within_cell addr))

-- `len` cells in a row
def cells (addr : ℕ) : (len : ℕ) → Reader ν (List ν)
  | 0 => return []
  | len + 1 => do
    let x ← cell addr
    let xs ← cells (addr + 1) len
    return x :: xs

theorem within_cells (addr len : ℕ) :
    (cells addr len : Reader ν (List ν)).Within n m ↔ len = 0 ∨ addr + len ≤ n := by
  induction len generalizing addr with
  | zero => simp [cells]
  | succ len ih =>
    simp only [cells, Reader.within_bind, within_cell, ih, Reader.within_pure, and_true]
    omega

end Cells

section Prefix

variable {ν : Type v} {β : Type u}

-- The memory begins with the given cells.
def Holds (m : ℕ → ν) (l : List ν) : Prop := ∀ i (h : i < l.length), m i = l[i]

-- What lies behind the first cells makes no difference.
def Contained (p : Reader ν β) (l : List ν) : Prop :=
  ∀ m m', Holds m l → Holds m' l → p.Within l.length m ∧ p.run m = p.run m'

-- The memory that has nothing of interest behind them.
def fill (x : ν) (l : List ν) (i : ℕ) : ν := l.getD i x

theorem holds_fill (x : ν) (l : List ν) : Holds (fill x l) l := by
  intro i hi
  simp [fill, hi]

-- It is enough to look at one of the memories.
theorem contained_iff (p : Reader ν β) (l : List ν) (x : ν) :
    Contained p l ↔ p.Within l.length (fill x l) := by
  constructor
  · intro h
    exact (h _ _ (holds_fill x l) (holds_fill x l)).1
  · intro h m m' hm hm'
    have hfill : ∀ {m₁}, Holds m₁ l → ∀ i < l.length, fill x l i = m₁ i := by
      intro m₁ h₁ i hi
      rw [holds_fill x l i hi, h₁ i hi]
    obtain ⟨hwithin, hrun⟩ := h.congr (hfill hm)
    exact ⟨hwithin, hrun.symm.trans (h.congr (hfill hm')).2⟩

end Prefix

section At

variable {ν : Type v} {m : ℕ → ν}

-- The cells from an address on.
def HoldsAt (m : ℕ → ν) : (addr : ℕ) → List ν → Prop
  | _, [] => True
  | addr, x :: l => m addr = x ∧ HoldsAt m (addr + 1) l

theorem holdsAt_append {addr : ℕ} {l r : List ν} :
    HoldsAt m addr (l ++ r) ↔ HoldsAt m addr l ∧ HoldsAt m (addr + l.length) r := by
  induction l generalizing addr with
  | nil => simp [HoldsAt]
  | cons x l ih =>
    have hlen : addr + 1 + l.length = addr + (l.length + 1) := by omega
    rw [List.cons_append, HoldsAt, HoldsAt, ih, List.length_cons, hlen, and_assoc]

theorem Holds.holdsAt {l : List ν} (h : Holds m l) : HoldsAt m 0 l := by
  -- a cell further on in the list is a cell further on in the memory
  have hfrom : ∀ (l : List ν) (addr : ℕ), (∀ i (hi : i < l.length), m (addr + i) = l[i]) →
      HoldsAt m addr l := by
    intro l
    induction l with
    | nil => exact fun _ _ => trivial
    | cons x l ih =>
      intro addr hcells
      refine ⟨hcells 0 (by simp), ih (addr + 1) fun i hi => ?_⟩
      have hcell := hcells (i + 1) (by simpa using hi)
      rw [Nat.add_right_comm]
      exact hcell
  exact hfrom l 0 fun i hi => (Nat.zero_add i).symm ▸ h i hi

theorem HoldsAt.run_cells {addr : ℕ} {l : List ν} (h : HoldsAt m addr l) :
    (cells addr l.length).run m = l := by
  induction l generalizing addr with
  | nil => rfl
  | cons x l ih =>
    simp only [List.length_cons, cells, Reader.run_bind, run_cell, Reader.run_pure]
    rw [h.1, ih h.2]

end At

end Mcproxy.Memory
