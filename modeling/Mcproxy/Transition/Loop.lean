import Mathlib.Data.Nat.Notation

namespace Mcproxy.Transition

section Loop

variable {σ : Type*} (round : σ → Option σ)

-- A loop whose round gives the variables behind it, or none when the condition fails; it is
-- given up, with none, after a number of rounds.
def loop : ℕ → σ → Option σ
  | 0, s => if (round s).isNone then some s else none
  | rounds + 1, s =>
    match round s with
    | none => some s
    | some s => loop rounds s

variable {round}

-- Rounds that keep an invariant and lower a measure come to an end, and the invariant holds there.
theorem loop_spec {inv : σ → Prop} {measure : σ → ℕ}
    (hround : ∀ s s', inv s → round s = some s' → inv s' ∧ measure s' < measure s)
    {rounds : ℕ} {s : σ} (hs : inv s) (hr : measure s ≤ rounds) :
    ∃ s', loop round rounds s = some s' ∧ inv s' ∧ round s' = none := by
  induction rounds generalizing s with
  | zero =>
    have hnone : round s = none := by
      rw [Option.eq_none_iff_forall_ne_some]
      intro s' h
      have hlt := (hround s s' hs h).2
      omega
    exact ⟨s, by simp [loop, hnone], hs, hnone⟩
  | succ rounds ih =>
    cases h : round s with
    | none => exact ⟨s, by simp [loop, h], hs, h⟩
    | some s₁ =>
      obtain ⟨hs₁, hlt⟩ := hround s s₁ hs h
      obtain ⟨s', hloop, hs', hend⟩ := ih hs₁ (by omega)
      exact ⟨s', by simpa [loop, h] using hloop, hs', hend⟩

-- For a function that runs such a loop and returns something of the variables.
theorem loop_map_eq {β : Type*} {result : σ → β} {b : β} {inv : σ → Prop} {measure : σ → ℕ}
    (hround : ∀ s s', inv s → round s = some s' → inv s' ∧ measure s' < measure s)
    (hend : ∀ s, inv s → round s = none → result s = b) {rounds : ℕ} {s : σ} (hs : inv s)
    (hr : measure s ≤ rounds) : (loop round rounds s).map result = some b := by
  obtain ⟨s', hloop, hs', hnone⟩ := loop_spec hround hs hr
  rw [hloop, Option.map_some, hend s' hs' hnone]

end Loop

end Mcproxy.Transition
