import Mathlib.Logic.Function.Basic

namespace Mcproxy.Container

namespace Journal

variable {ε κ ν : Type*} [DecidableEq κ] (writes : ε → Option (κ × ν))

-- An entry of a journal writes at one key or at none.
def write (m : κ → ν) (e : ε) : κ → ν := (writes e).elim m fun w => Function.update m w.1 w.2

-- What stands at the keys after the entries.
def replay (m : κ → ν) (es : List ε) : κ → ν := es.foldl (write writes) m

variable {writes} {m : κ → ν} {es : List ε} {e : ε} {k : κ} {v : ν}

theorem write_self (hw : writes e = some (k, v)) : write writes m e k = v := by
  rw [write, hw]
  exact Function.update_self k v m

theorem write_other (h : ∀ v, writes e ≠ some (k, v)) : write writes m e k = m k := by
  unfold write
  cases hw : writes e with
  | none => rfl
  | some w =>
    refine Function.update_of_ne ?_ w.2 m
    rintro rfl
    exact h w.2 hw

theorem replay_append (m : κ → ν) (es es' : List ε) :
    replay writes m (es ++ es') = replay writes (replay writes m es) es' :=
  List.foldl_append

-- A key that no entry writes at.
theorem replay_other (h : ∀ e ∈ es, ∀ v, writes e ≠ some (k, v)) : replay writes m es k = m k := by
  induction es generalizing m with
  | nil => rfl
  | cons e es ih =>
    obtain ⟨hfirst, hrest⟩ := List.forall_mem_cons.mp h
    exact (ih hrest).trans (write_other hfirst)

-- A key at which every entry that writes there writes the same.
theorem replay_of_mem (he : e ∈ es) (hw : writes e = some (k, v))
    (hsame : ∀ e ∈ es, ∀ v', writes e = some (k, v') → v' = v) : replay writes m es k = v := by
  induction es generalizing m e with
  | nil => exact absurd he List.not_mem_nil
  | cons first es ih =>
    obtain ⟨-, hrest⟩ := List.forall_mem_cons.mp hsame
    by_cases hlater : ∃ e ∈ es, ∃ v', writes e = some (k, v')
    · obtain ⟨e', he', v', hw'⟩ := hlater
      obtain rfl := hrest e' he' v' hw'
      exact ih he' hw' hrest
    · -- nothing is written there after the first entry
      have hlast : ∀ e ∈ es, ∀ v', writes e ≠ some (k, v') := fun e' he' v' hw' =>
        hlater ⟨e', he', v', hw'⟩
      rcases List.mem_cons.mp he with rfl | he
      · exact (replay_other hlast).trans (write_self hw)
      · exact absurd hw (hlast e he v)

end Journal

end Mcproxy.Container
