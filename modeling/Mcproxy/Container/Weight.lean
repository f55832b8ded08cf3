import Mathlib.Algebra.Order.BigOperators.Group.List
import Mathlib.Algebra.Order.Ring.Nat
import Mcproxy.Container.OrdSet

namespace Mcproxy.Container.OrdSet

variable {τ κ : Type*} [LinearOrder κ] {key : τ → κ}

-- The sum of what the elements weigh, as a measure of what is still to be done about them.
def weight (w : τ → ℕ) (s : OrdSet key) : ℕ := (s.elems.map w).sum

variable {w : τ → ℕ} (s : OrdSet key)

theorem weight_filter_le (p : τ → Bool) : (s.filter p).weight w ≤ s.weight w :=
  (List.filter_sublist.map w).sum_le_sum fun _ _ => Nat.zero_le _

variable {f : τ → τ} (hf : ∀ x, key (f x) = key x)

theorem weight_map_le (hle : ∀ x ∈ s.elems, w (f x) ≤ w x) :
    (s.map f hf).weight w ≤ s.weight w := by
  unfold weight map
  rw [List.map_map]
  exact List.sum_le_sum hle

theorem weight_map_lt (hle : ∀ x ∈ s.elems, w (f x) ≤ w x)
    (hlt : ∃ x ∈ s.elems, w (f x) < w x) : (s.map f hf).weight w < s.weight w := by
  unfold weight map
  rw [List.map_map]
  exact List.sum_lt_sum _ _ hle hlt

end Mcproxy.Container.OrdSet
