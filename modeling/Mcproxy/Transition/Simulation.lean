import Mcproxy.Transition.Machine

namespace Mcproxy.Transition.Machine

variable {σ ε φ τ δ ψ : Type*}

-- Whatever `M` does in one step, `N` can do in some number of steps, possibly none.
structure Simulates (M : Machine σ ε φ) (N : Machine τ δ ψ) (R : σ → τ → Prop) : Prop where
  start : R M.start N.start
  step : ∀ s t e s', M.Reachable s → N.Reachable t → R s t → M.enabled s e →
    M.step s e = .ok s' → ∃ t', (N.startAt t).Reachable t' ∧ R s' t'

variable {M : Machine σ ε φ} {N : Machine τ δ ψ} {R : σ → τ → Prop} {s : σ} {t t' : τ} {e : δ}

theorem Simulates.reachable (h : Simulates M N R) (hs : M.Reachable s) :
    ∃ t, N.Reachable t ∧ R s t := by
  obtain ⟨es, run⟩ := hs
  induction run with
  | nil => exact ⟨N.start, reachable_start, h.start⟩
  | snoc run he hstep ih =>
    obtain ⟨t, ht, hR⟩ := ih
    obtain ⟨t', ht', hR'⟩ := h.step _ t _ _ run.reachable ht hR he hstep
    exact ⟨t', ht.of_startAt ht', hR'⟩

-- The two shortest ways to match a step.
theorem stays (N : Machine τ δ ψ) (t : τ) : (N.startAt t).Reachable t :=
  reachable_start (M := N.startAt t)

theorem moves (he : N.enabled t e) (hstep : N.step t e = .ok t') :
    (N.startAt t).Reachable t' :=
  Reachable.step (M := N.startAt t) (N.stays t) he hstep

section Trace

variable {β : Type*} {obs : σ → ε → List β} {es : List ε} {bs : List β} {s' : σ} {d : ε}

-- A run with what is observed of its steps, each in the state it was taken in.
inductive Traced (M : Machine σ ε φ) (obs : σ → ε → List β) : List ε → List β → σ → Prop
  | nil : M.Traced obs [] [] M.start
  | snoc {es : List ε} {bs : List β} {s s' : σ} {e : ε} (run : M.Traced obs es bs s)
      (henabled : M.enabled s e) (hstep : M.step s e = .ok s') :
      M.Traced obs (es ++ [e]) (bs ++ obs s e) s'

theorem Traced.run (h : M.Traced obs es bs s) : M.Run es s := by
  induction h with
  | nil => exact .nil
  | snoc _ he hstep ih => exact ih.snoc he hstep

-- Every run is observed in one way.
theorem Run.traced (obs : σ → ε → List β) (run : M.Run es s) : ∃ bs, M.Traced obs es bs s := by
  induction run with
  | nil => exact ⟨[], .nil⟩
  | snoc _ he hstep ih =>
    obtain ⟨bs, htraced⟩ := ih
    exact ⟨_, htraced.snoc he hstep⟩

-- If each step changes what a state stands for the way its observations say, a run does.
theorem Traced.foldl_eq (f : τ → β → τ) (abs : σ → τ)
    (hstep : ∀ s e s', M.Reachable s → M.enabled s e → M.step s e = .ok s' →
      abs s' = (obs s e).foldl f (abs s))
    (h : M.Traced obs es bs s) : abs s = bs.foldl f (abs M.start) := by
  induction h with
  | nil => rfl
  | snoc run he hs ih =>
    rw [hstep _ _ _ run.run.reachable he hs, ih, List.foldl_append]

end Trace

end Mcproxy.Transition.Machine
