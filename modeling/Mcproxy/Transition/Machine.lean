import Mathlib.Data.List.Basic

namespace Mcproxy.Transition

-- A labelled transition system. `enabled` says which labels can occur in a state,
-- `step` is what the system then does: the next state, or a fault that ends the run.
structure Machine (σ ε φ : Type*) where
  start : σ
  enabled : σ → ε → Prop
  step : σ → ε → Except φ σ

theorem exists_of_map_ok {φ β γ : Type*} {x : Except φ β} {f : β → γ} {c : γ}
    (h : x.map f = .ok c) : ∃ b, x = .ok b ∧ f b = c := by
  cases x with
  | error e => cases h
  | ok b => exact ⟨b, rfl, Except.ok.inj h⟩

theorem ok_of_mapError_ok {φ ψ β : Type*} {x : Except φ β} {f : φ → ψ} {b : β}
    (h : x.mapError f = .ok b) : x = .ok b := by
  cases x with
  | error e => cases h
  | ok b' => exact congrArg Except.ok (Except.ok.inj h)

theorem exists_of_bind_ok.{u, v} {φ : Type u} {β γ : Type v} {x : Except φ β}
    {f : β → Except φ γ} {c : γ} (h : (x >>= f) = .ok c) : ∃ b, x = .ok b ∧ f b = .ok c := by
  cases x with
  | error e => cases h
  | ok b => exact ⟨b, rfl, h⟩

theorem exists_ok_of_any {φ β : Type*} {x : Except φ β} {p : β → Bool}
    (h : x.toOption.any p = true) : ∃ b, x = .ok b ∧ p b = true := by
  cases x with
  | error e => cases h
  | ok b => exact ⟨b, rfl, h⟩

namespace Machine

variable {σ ε φ : Type*}

-- The labels a run took from the start, oldest first, and the state it reached.
inductive Run (M : Machine σ ε φ) : List ε → σ → Prop
  | nil : M.Run [] M.start
  | snoc {es : List ε} {s s' : σ} {e : ε} (run : M.Run es s) (henabled : M.enabled s e)
      (hstep : M.step s e = .ok s') : M.Run (es ++ [e]) s'

def Reachable (M : Machine σ ε φ) (s : σ) : Prop := ∃ es, M.Run es s

variable {M : Machine σ ε φ} {es : List ε} {s s' : σ} {e : ε}

theorem Run.reachable (run : M.Run es s) : M.Reachable s := ⟨es, run⟩

theorem reachable_start : M.Reachable M.start := ⟨[], .nil⟩

theorem Reachable.step (hs : M.Reachable s) (he : M.enabled s e) (hstep : M.step s e = .ok s') :
    M.Reachable s' := by
  obtain ⟨es, run⟩ := hs
  exact ⟨es ++ [e], run.snoc he hstep⟩

-- The induction every safety result goes through.
theorem Reachable.invariant (inv : σ → Prop) (hstart : inv M.start)
    (hkeep : ∀ s e s', inv s → M.enabled s e → M.step s e = .ok s' → inv s')
    (hs : M.Reachable s) : inv s := by
  obtain ⟨es, run⟩ := hs
  induction run with
  | nil => exact hstart
  | snoc run he hstep ih => exact hkeep _ _ _ ih he hstep

-- An invariant may lean on one that is already known of all reachable states.
theorem Reachable.invariant_of (base inv : σ → Prop) (hbase : ∀ s, M.Reachable s → base s)
    (hstart : inv M.start)
    (hkeep : ∀ s e s', base s → inv s → M.enabled s e → M.step s e = .ok s' → inv s')
    (hs : M.Reachable s) : inv s := by
  obtain ⟨es, run⟩ := hs
  induction run with
  | nil => exact hstart
  | snoc run he hstep ih => exact hkeep _ _ _ (hbase _ run.reachable) ih he hstep

-- The runs all of whose steps meet a condition on the state before and the label.
def restrict (M : Machine σ ε φ) (C : σ → ε → Prop) : Machine σ ε φ :=
  { M with enabled := fun s e => M.enabled s e ∧ C s e }

instance (M : Machine σ ε φ) (C : σ → ε → Prop) [∀ s e, Decidable (M.enabled s e)]
    [∀ s e, Decidable (C s e)] (s : σ) (e : ε) : Decidable ((M.restrict C).enabled s e) :=
  inferInstanceAs (Decidable (_ ∧ _))

theorem Run.of_restrict {C : σ → ε → Prop} (run : (M.restrict C).Run es s) : M.Run es s := by
  induction run with
  | nil => exact .nil
  | snoc _ he hstep ih => exact ih.snoc he.1 hstep

theorem Reachable.of_restrict {C : σ → ε → Prop} (hs : (M.restrict C).Reachable s) :
    M.Reachable s := by
  obtain ⟨es, run⟩ := hs
  exact ⟨es, run.of_restrict⟩

theorem Reachable.restrict_mono {C D : σ → ε → Prop} (h : ∀ s e, C s e → D s e)
    (hs : (M.restrict C).Reachable s) : (M.restrict D).Reachable s :=
  Reachable.invariant (M := M.restrict C) (M.restrict D).Reachable
    (reachable_start (M := M.restrict D))
    (fun s e _ ht he hstep => Reachable.step (M := M.restrict D) ht ⟨he.1, h s e he.2⟩ hstep) hs

-- The same system, watched from a later state on.
def startAt (M : Machine σ ε φ) (s : σ) : Machine σ ε φ := { M with start := s }

instance (M : Machine σ ε φ) (s₀ : σ) [∀ s e, Decidable (M.enabled s e)] (s : σ) (e : ε) :
    Decidable ((M.startAt s₀).enabled s e) :=
  inferInstanceAs (Decidable (M.enabled s e))

theorem Reachable.of_startAt (hs : M.Reachable s) (hs' : (M.startAt s).Reachable s') :
    M.Reachable s' :=
  Reachable.invariant (M := M.startAt s) M.Reachable hs
    (fun _ _ _ h he hstep => h.step he hstep) hs'

-- A step in front of a run that is watched from the state behind it.
theorem Run.cons (run : (M.startAt s).Run es s') {s₀ : σ} (he : M.enabled s₀ e)
    (hstep : M.step s₀ e = .ok s) : (M.startAt s₀).Run (e :: es) s' := by
  induction run with
  | nil =>
    have start : (M.startAt s₀).Run [] s₀ := .nil
    exact start.snoc he hstep
  | snoc _ he' hstep' ih => exact Run.snoc (M := M.startAt s₀) ih he' hstep'

theorem Run.snoc_inv (run : M.Run (es ++ [e]) s') :
    ∃ s, M.Run es s ∧ M.enabled s e ∧ M.step s e = .ok s' := by
  generalize hl : es ++ [e] = l at run
  cases run with
  | nil => simp at hl
  | snoc run he hstep =>
    obtain ⟨rfl, hlast⟩ := List.append_inj' hl rfl
    obtain rfl := List.singleton_inj.mp hlast
    exact ⟨_, run, he, hstep⟩

-- A rank that no step raises and that the counted steps lower bounds how many of them there are.
theorem Run.countP_add_rank_le {counted : ε → Bool} (rank : σ → ℕ)
    (hlower : ∀ s e s', M.Reachable s → M.enabled s e → M.step s e = .ok s' →
      rank s' + (if counted e then 1 else 0) ≤ rank s)
    (run : M.Run es s) : es.countP counted + rank s ≤ rank M.start := by
  induction run with
  | nil => simp
  | snoc run he hstep ih =>
    have hlast := hlower _ _ _ run.reachable he hstep
    rw [List.countP_append, List.countP_singleton]
    omega

-- The labels determine the state.
theorem Run.unique (run : M.Run es s) (run' : M.Run es s') : s = s' := by
  induction run generalizing s' with
  | nil =>
    generalize hl : [] = l at run'
    cases run' with
    | nil => rfl
    | snoc => simp at hl
  | snoc run he hstep ih =>
    obtain ⟨t, run', -, hstep'⟩ := run'.snoc_inv
    obtain rfl := ih run'
    exact Except.ok.inj (hstep.symm.trans hstep')

-- If the condition on a step is just what it takes to keep a property of the history and the
-- state, then the property holds all along a run exactly when the condition holds of all its
-- steps.
theorem Run.forall_iff_restrict {C : σ → ε → Prop} {inv : List ε → σ → Prop}
    (hstart : inv [] M.start)
    (hstep : ∀ es s e s', M.Run es s → inv es s → M.enabled s e → M.step s e = .ok s' →
      (inv (es ++ [e]) s' ↔ C s e))
    (run : M.Run es s) :
    (∀ es' s', es' <+: es → M.Run es' s' → inv es' s') ↔ (M.restrict C).Run es s := by
  induction run with
  | nil =>
    refine ⟨fun _ => .nil, fun _ es' s' hpre run' => ?_⟩
    obtain rfl := List.prefix_nil.mp hpre
    exact Run.unique .nil run' ▸ hstart
  | @snoc es s s' e run he hs ih =>
    constructor
    · intro hall
      have hpre := ih.mp (fun es' t h => hall es' t (h.trans (List.prefix_append _ _)))
      have hinv := hall es s (List.prefix_append _ _) run
      have hinv' := hall _ s' List.prefix_rfl (run.snoc he hs)
      exact hpre.snoc ⟨he, (hstep es s e s' run hinv he hs).mp hinv'⟩ hs
    · intro hrun es' t hpre run'
      obtain ⟨s₀, hrun, hC, hs₀⟩ := hrun.snoc_inv
      obtain rfl := hrun.of_restrict.unique run
      have hall := ih.mpr hrun
      rcases List.prefix_concat_iff.mp hpre with rfl | hpre
      · obtain rfl := run'.unique (run.snoc he hs)
        exact (hstep es _ e _ run (hall es _ List.prefix_rfl run) he hs).mpr hC.2
      · exact hall es' t hpre run'

section Exec

variable [∀ s e, Decidable (M.enabled s e)]

-- Running a list of labels: `none` as soon as one is not enabled or faults.
def execFrom (M : Machine σ ε φ) [∀ s e, Decidable (M.enabled s e)] : σ → List ε → Option σ
  | s, [] => some s
  | s, e :: es =>
    if M.enabled s e then
      match M.step s e with
      | .ok s' => M.execFrom s' es
      | .error _ => none
    else none

def exec (M : Machine σ ε φ) [∀ s e, Decidable (M.enabled s e)] (es : List ε) : Option σ :=
  M.execFrom M.start es

theorem Run.append_of_execFrom {fs : List ε} (run : M.Run es s)
    (h : M.execFrom s fs = some s') : M.Run (es ++ fs) s' := by
  induction fs generalizing es s with
  | nil =>
    cases h
    simpa using run
  | cons f fs ih =>
    simp only [execFrom] at h
    split_ifs at h with hf
    cases hs : M.step s f with
    | error => simp [hs] at h
    | ok t =>
      rw [hs] at h
      simpa using ih (run.snoc hf hs) h

theorem run_of_exec (h : M.exec es = some s) : M.Run es s := by
  simpa using Run.nil.append_of_execFrom h

-- For closed runs: what a computation finds in the state it reaches holds of a run.
theorem exists_run_of_exec (M : Machine σ ε φ) [∀ s e, Decidable (M.enabled s e)] (es : List ε)
    (p : σ → Bool) (h : (M.exec es).any p = true) : ∃ s, M.Run es s ∧ p s = true := by
  cases he : M.exec es with
  | none => simp [he] at h
  | some s => exact ⟨s, run_of_exec he, by simpa [he] using h⟩

-- The same with one more step, for what a single step does in a state that is reached.
theorem exists_step_of_exec (M : Machine σ ε φ) [∀ s e, Decidable (M.enabled s e)] (es : List ε)
    (e : ε) (p : σ → Except φ σ → Bool)
    (h : (M.exec es).any (fun s => decide (M.enabled s e) && p s (M.step s e)) = true) :
    ∃ s, M.Run es s ∧ M.enabled s e ∧ p s (M.step s e) = true := by
  obtain ⟨s, run, hs⟩ := M.exists_run_of_exec es _ h
  simp only [Bool.and_eq_true, decide_eq_true_eq] at hs
  exact ⟨s, run, hs.1, hs.2⟩

end Exec

end Machine

end Mcproxy.Transition
