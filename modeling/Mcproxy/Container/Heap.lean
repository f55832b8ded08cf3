import Mathlib.Data.List.Perm.Basic
import Mathlib.Order.Lattice

namespace Mcproxy.Container.Heap

variable {τ κ : Type*} [LinearOrder κ] (key : τ → κ)

-- A binary heap in a vector as libstdc++ keeps it, the element with the least key in front.
-- The sifts move a hole instead of swapping; what the vector holds at the hole is stale.

-- `__push_heap` with `topIndex` 0.
def siftUp (l : List τ) (hole : ℕ) (value : τ) : List τ :=
  if h : 0 < hole ∧ hole < l.length then
    if key value < key l[(hole - 1) / 2] then
      siftUp (l.set hole l[(hole - 1) / 2]) ((hole - 1) / 2) value
    else l.set hole value
  else l.set hole value
termination_by hole

-- The loop of `__adjust_heap` and the step after it, up to the final `__push_heap`. Of two
-- children with the same key the right one goes up.
def moveDown (l : List τ) (hole : ℕ) : List τ × ℕ :=
  if h : hole < (l.length - 1) / 2 then
    if key l[2 * hole + 1] < key l[2 * hole + 2] then
      moveDown (l.set hole l[2 * hole + 1]) (2 * hole + 1)
    else moveDown (l.set hole l[2 * hole + 2]) (2 * hole + 2)
  else if h : l.length % 2 = 0 ∧ hole = (l.length - 2) / 2 ∧ 0 < l.length then
    (l.set hole l[2 * hole + 1], 2 * hole + 1)
  else (l, hole)
termination_by l.length - hole
decreasing_by
  all_goals
    rw [List.length_set]
    omega

-- `push_back` and `push_heap`
def push (l : List τ) (value : τ) : List τ := siftUp key (l ++ [value]) l.length value

-- `pop_heap` and `pop_back`
def pop (l : List τ) : List τ :=
  if h : 1 < l.length then
    let r := moveDown key l.dropLast 0
    siftUp key r.1 r.2 (l.getLast (List.ne_nil_of_length_pos (by omega)))
  else l.dropLast

def IsHeap (l : List τ) : Prop :=
  ∀ i (_ : i < l.length), 0 < i → key l[(i - 1) / 2] ≤ key l[i]

variable {key}

section Order

-- Only the element at the hole may be out of order, and only with its parent.
structure Rising (key : τ → κ) (l : List τ) (hole : ℕ) : Prop where
  others : ∀ i (_ : i < l.length), 0 < i → i ≠ hole → key l[(i - 1) / 2] ≤ key l[i]
  children : ∀ i (_ : i < l.length), 0 < hole → (i - 1) / 2 = hole →
    key l[((i - 1) / 2 - 1) / 2] ≤ key l[i]

theorem siftUp_isHeap {l : List τ} {hole : ℕ} {value : τ} (h : Rising key (l.set hole value) hole) :
    IsHeap key (siftUp key l hole value) := by
  fun_induction siftUp key l hole value with
  | case1 l hole hb hlt ih =>
    obtain ⟨hothers, hchildren⟩ := h
    simp only [List.length_set, List.getElem_set] at hothers hchildren
    -- the parent, now below the value, is not above anything it was not above before
    have hparent : ∀ i (_ : i < l.length), 0 < i → i ≠ hole → (i - 1) / 2 = (hole - 1) / 2 →
        key l[(hole - 1) / 2] ≤ key l[i] := by
      intro i hi h0 hne heq
      have := hothers i hi h0 hne
      rw [if_neg (by omega), if_neg (by omega)] at this
      simpa only [heq] using this
    apply ih
    constructor
    · intro i hi h0 hne
      simp only [List.length_set] at hi
      simp only [List.getElem_set]
      by_cases hih : i = hole
      · subst hih
        simp [hne.symm, hlt.le]
      · by_cases hsib : (i - 1) / 2 = (hole - 1) / 2
        · rw [if_pos hsib.symm, if_neg (Ne.symm hne), if_neg (Ne.symm hih)]
          exact hlt.le.trans (hparent i hi h0 hih hsib)
        · by_cases hch : (i - 1) / 2 = hole
          · have := hchildren i hi hb.1 hch
            rw [if_neg (by omega), if_neg (by omega)] at this
            rw [if_neg (Ne.symm hsib), if_pos hch.symm, if_neg (Ne.symm hne), if_neg (Ne.symm hih)]
            simpa only [hch] using this
          · have := hothers i hi h0 hih
            rw [if_neg (Ne.symm hch), if_neg (Ne.symm hih)] at this
            rw [if_neg (Ne.symm hsib), if_neg (Ne.symm hch), if_neg (Ne.symm hne),
              if_neg (Ne.symm hih)]
            exact this
    · intro i hi h0 heq
      simp only [List.length_set] at hi
      simp only [List.getElem_set]
      have hgrand : key l[((hole - 1) / 2 - 1) / 2] ≤ key l[(hole - 1) / 2] := by
        have := hothers ((hole - 1) / 2) (by omega) h0 (by omega)
        rwa [if_neg (by omega), if_neg (by omega)] at this
      rw [if_neg (by omega), if_neg (by omega), if_neg (by omega)]
      by_cases hih : i = hole
      · rw [if_pos hih.symm]
        simpa only [heq] using hgrand
      · rw [if_neg (Ne.symm hih)]
        have := hgrand.trans (hparent i hi (by omega) hih heq)
        simpa only [heq] using this
  | case2 l hole hb hge =>
    intro i hi h0
    by_cases hih : i = hole
    · subst hih
      simp only [List.getElem_set]
      rw [if_neg (by omega)]
      simpa using hge
    · exact h.others i hi h0 hih
  | case3 l hole hb =>
    intro i hi h0
    refine h.others i hi h0 ?_
    rw [List.length_set] at hi
    omega

-- The element at the hole counts for nothing; its children are in order with its parent.
structure Sinking (key : τ → κ) (l : List τ) (hole : ℕ) : Prop where
  others : ∀ i (_ : i < l.length), 0 < i → i ≠ hole → (i - 1) / 2 ≠ hole →
    key l[(i - 1) / 2] ≤ key l[i]
  children : ∀ i (_ : i < l.length), 0 < hole → (i - 1) / 2 = hole →
    key l[((i - 1) / 2 - 1) / 2] ≤ key l[i]

-- The child with the lesser key goes up.
theorem Sinking.set {l : List τ} {hole child : ℕ} (h : Sinking key l hole)
    (hchild : child < l.length) (h0 : 0 < child) (hparent : (child - 1) / 2 = hole)
    (hleast : ∀ i (_ : i < l.length), 0 < i → (i - 1) / 2 = hole → key l[child] ≤ key l[i]) :
    Sinking key (l.set hole l[child]) child := by
  constructor
  · intro i hi hpos hne hnp
    simp only [List.length_set] at hi
    simp only [List.getElem_set]
    by_cases hih : i = hole
    · have := h.children child hchild (by omega) hparent
      rw [if_neg (by omega), if_pos hih.symm]
      simpa only [hparent, hih] using this
    · rw [if_neg (Ne.symm hih)]
      by_cases hch : (i - 1) / 2 = hole
      · rw [if_pos hch.symm]
        exact hleast i hi hpos hch
      · rw [if_neg (Ne.symm hch)]
        exact h.others i hi hpos hih hch
  · intro i hi _ heq
    simp only [List.length_set] at hi
    simp only [List.getElem_set]
    have := h.others i hi (by omega) (by omega) (by omega)
    rw [if_pos (by omega), if_neg (by omega)]
    simpa only [heq] using this

theorem moveDown_spec {l : List τ} {hole : ℕ} (h : Sinking key l hole) (hlt : hole < l.length) :
    Sinking key (moveDown key l hole).1 (moveDown key l hole).2 ∧
      (moveDown key l hole).1.length = l.length ∧ (moveDown key l hole).2 < l.length ∧
      l.length ≤ 2 * (moveDown key l hole).2 + 1 := by
  fun_induction moveDown key l hole with
  | case1 l hole hb hleft ih =>
    rw [List.length_set] at ih
    refine ih (h.set (by omega) (by omega) (by omega) fun i hi h0 heq => ?_) (by omega)
    rcases (by omega : i = 2 * hole + 1 ∨ i = 2 * hole + 2) with rfl | rfl
    · exact le_rfl
    · exact hleft.le
  | case2 l hole hb hright ih =>
    rw [List.length_set] at ih
    refine ih (h.set (by omega) (by omega) (by omega) fun i hi h0 heq => ?_) (by omega)
    rcases (by omega : i = 2 * hole + 1 ∨ i = 2 * hole + 2) with rfl | rfl
    · exact not_lt.mp hright
    · exact le_rfl
  | case3 l hole hb hlast =>
    -- an even number of elements: the last one is an only child
    refine ⟨h.set (by omega) (by omega) (by omega) fun i hi h0 heq => ?_, List.length_set,
      by omega, by omega⟩
    obtain rfl : i = 2 * hole + 1 := by omega
    exact le_rfl
  | case4 l hole hb hlast => exact ⟨h, rfl, hlt, by omega⟩

theorem IsHeap.dropLast {l : List τ} (h : IsHeap key l) : IsHeap key l.dropLast := by
  intro i hi h0
  have hlen : i < l.length := by
    rw [List.length_dropLast] at hi
    omega
  simpa only [List.getElem_dropLast] using h i hlen h0

theorem IsHeap.push {l : List τ} (h : IsHeap key l) (value : τ) :
    IsHeap key (push key l value) := by
  apply siftUp_isHeap
  have hset : (l ++ [value]).set l.length value = l ++ [value] := by simp
  rw [hset]
  constructor
  · intro i hi h0 hne
    rw [List.length_append, List.length_singleton] at hi
    rw [List.getElem_append_left (by omega), List.getElem_append_left (by omega)]
    exact h i (by omega) h0
  · intro i hi _ heq
    rw [List.length_append, List.length_singleton] at hi
    omega

theorem IsHeap.pop {l : List τ} (h : IsHeap key l) : IsHeap key (pop key l) := by
  unfold Heap.pop
  split_ifs with hlen
  · have hlt : 0 < l.dropLast.length := by
      rw [List.length_dropLast]
      omega
    have hsink : Sinking key l.dropLast 0 :=
      ⟨fun i hi h0 _ _ => h.dropLast i hi h0, fun i hi h0 _ => absurd h0 (Nat.lt_irrefl 0)⟩
    obtain ⟨hsink, hlen', hhole, hleaf⟩ := moveDown_spec hsink hlt
    apply siftUp_isHeap
    generalize moveDown key l.dropLast 0 = r at hsink hlen' hhole hleaf
    -- the hole is at a leaf
    constructor
    · intro i hi h0 hne
      rw [List.length_set] at hi
      rw [List.getElem_set_ne (by omega), List.getElem_set_ne (by omega)]
      exact hsink.others i hi h0 hne (by omega)
    · intro i hi h0 heq
      rw [List.length_set] at hi
      omega
  · exact h.dropLast

theorem IsHeap.front_le {l : List τ} (h : IsHeap key l) (i : ℕ) (hi : i < l.length) :
    key l[0] ≤ key l[i] := by
  induction i using Nat.strongRecOn with
  | ind i ih =>
    by_cases h0 : i = 0
    · simp [h0]
    · exact (ih ((i - 1) / 2) (by omega) (by omega)).trans (h i hi (by omega))

end Order

section Elements

theorem set_set_perm_set {l : List τ} {i j : ℕ} (hi : i < l.length) (hj : j < l.length)
    (hne : i ≠ j) (v : τ) : ((l.set i l[j]).set j v).Perm (l.set i v) := by
  have hi' : i < (l.set i v).length := by rwa [List.length_set]
  have hj' : j < (l.set i v).length := by rwa [List.length_set]
  have h := List.set_set_perm hi' hj'
  rwa [List.getElem_set_self, List.getElem_set_ne hne, List.set_set] at h

theorem siftUp_perm (l : List τ) (hole : ℕ) (value : τ) :
    (siftUp key l hole value).Perm (l.set hole value) := by
  fun_induction siftUp key l hole value with
  | case1 l hole hb hlt ih =>
    exact ih.trans (set_set_perm_set hb.2 (by omega) (by omega) value)
  | case2 => exact .refl _
  | case3 => exact .refl _

theorem moveDown_perm (l : List τ) (hole : ℕ) (v : τ) :
    ((moveDown key l hole).1.set (moveDown key l hole).2 v).Perm (l.set hole v) := by
  fun_induction moveDown key l hole with
  | case1 l hole hb hleft ih =>
    exact ih.trans (set_set_perm_set (by omega) (by omega) (by omega) v)
  | case2 l hole hb hright ih =>
    exact ih.trans (set_set_perm_set (by omega) (by omega) (by omega) v)
  | case3 l hole hb hlast => exact set_set_perm_set (by omega) (by omega) (by omega) v
  | case4 => exact .refl _

variable (key)

theorem push_perm (l : List τ) (value : τ) : (push key l value).Perm (value :: l) := by
  refine (siftUp_perm _ _ _).trans ?_
  have hset : (l ++ [value]).set l.length value = l ++ [value] := by simp
  rw [hset]
  exact List.perm_append_singleton value l

theorem pop_perm (x : τ) (l : List τ) : (x :: pop key (x :: l)).Perm (x :: l) := by
  refine List.Perm.cons x ?_
  unfold pop
  split_ifs with hlen
  · refine (siftUp_perm _ _ _).trans ((moveDown_perm _ _ _).trans ?_)
    have hne : l ≠ [] := by
      rintro rfl
      simp at hlen
    rw [List.dropLast_cons_of_ne_nil hne, List.set_cons_zero, List.getLast_cons hne]
    exact (List.perm_append_singleton _ _).symm.trans (by rw [List.dropLast_concat_getLast hne])
  · have hnil : l = [] := by
      cases l with
      | nil => rfl
      | cons y ys => simp at hlen
    rw [hnil]
    exact .refl _

end Elements

section Congr

variable {κ' : Type*} [LinearOrder κ'] {key' : τ → κ'}

-- Two orders that compare the value alike with everything there is lift it to the same place.
theorem siftUp_congr {l : List τ} {hole : ℕ} {value : τ}
    (h : ∀ x ∈ l, key value < key x ↔ key' value < key' x) :
    siftUp key l hole value = siftUp key' l hole value := by
  fun_induction siftUp key l hole value with
  | case1 l hole hb hlt ih =>
    have hmem := List.getElem_mem (show (hole - 1) / 2 < l.length by omega)
    have hlt' := (h _ hmem).mp hlt
    conv_rhs => rw [siftUp, dif_pos hb, if_pos hlt']
    exact ih fun x hx => (List.mem_or_eq_of_mem_set hx).elim (h x) fun he => he ▸ h _ hmem
  | case2 l hole hb hge =>
    have hmem := List.getElem_mem (show (hole - 1) / 2 < l.length by omega)
    have hge' := fun hlt => hge ((h _ hmem).mpr hlt)
    rw [siftUp, dif_pos hb, if_neg hge']
  | case3 l hole hb => rw [siftUp, dif_neg hb]

theorem push_congr {l : List τ} {value : τ}
    (h : ∀ x ∈ l, key value < key x ↔ key' value < key' x) :
    push key l value = push key' l value := by
  refine siftUp_congr fun x hx => ?_
  rcases List.mem_append.mp hx with hx | hx
  · exact h x hx
  · rw [List.mem_singleton.mp hx]
    exact iff_of_false (lt_irrefl _) (lt_irrefl _)

theorem mem_of_mem_moveDown {l : List τ} {hole : ℕ} {x : τ} (hx : x ∈ (moveDown key l hole).1) :
    x ∈ l := by
  fun_induction moveDown key l hole with
  | case1 l hole hb hleft ih =>
    exact (List.mem_or_eq_of_mem_set (ih hx)).elim id fun he => he ▸ List.getElem_mem _
  | case2 l hole hb hright ih =>
    exact (List.mem_or_eq_of_mem_set (ih hx)).elim id fun he => he ▸ List.getElem_mem _
  | case3 l hole hb hlast =>
    exact (List.mem_or_eq_of_mem_set hx).elim id fun he => he ▸ List.getElem_mem _
  | case4 => exact hx

-- The hole sinks along the same path in two orders that compare siblings alike. What is below
-- the hole has not been touched.
theorem moveDown_congr {l : List τ} {hole : ℕ}
    (h : ∀ i (_ : 2 * i + 2 < l.length), hole ≤ i →
      (key l[2 * i + 1] < key l[2 * i + 2] ↔ key' l[2 * i + 1] < key' l[2 * i + 2])) :
    moveDown key l hole = moveDown key' l hole := by
  have hbelow : ∀ (l : List τ) (hole child : ℕ) (x : τ), hole < child →
      (∀ i (_ : 2 * i + 2 < l.length), hole ≤ i →
        (key l[2 * i + 1] < key l[2 * i + 2] ↔ key' l[2 * i + 1] < key' l[2 * i + 2])) →
      ∀ i (_ : 2 * i + 2 < (l.set hole x).length), child ≤ i →
        (key (l.set hole x)[2 * i + 1] < key (l.set hole x)[2 * i + 2] ↔
          key' (l.set hole x)[2 * i + 1] < key' (l.set hole x)[2 * i + 2]) := by
    intro l hole child x hlt h i hi hle
    rw [List.length_set] at hi
    rw [List.getElem_set_ne (by omega), List.getElem_set_ne (by omega)]
    exact h i hi (by omega)
  fun_induction moveDown key l hole with
  | case1 l hole hb hleft ih =>
    have hsame := h hole (by omega) (Nat.le_refl hole)
    have hleft' := hsame.mp hleft
    conv_rhs => rw [moveDown, dif_pos hb, if_pos hleft']
    exact ih (hbelow l hole _ _ (by omega) h)
  | case2 l hole hb hright ih =>
    have hsame := h hole (by omega) (Nat.le_refl hole)
    have hright' := fun hleft => hright (hsame.mpr hleft)
    conv_rhs => rw [moveDown, dif_pos hb, if_neg hright']
    exact ih (hbelow l hole _ _ (by omega) h)
  | case3 l hole hb hlast => rw [moveDown, dif_neg hb, dif_pos hlast]
  | case4 l hole hb hlast => rw [moveDown, dif_neg hb, dif_neg hlast]

theorem pop_congr {l : List τ}
    (hsiblings : ∀ i (_ : 2 * i + 3 < l.length),
      (key l[2 * i + 1] < key l[2 * i + 2] ↔ key' l[2 * i + 1] < key' l[2 * i + 2]))
    (hlast : ∀ last ∈ l.getLast?, ∀ x ∈ l, key last < key x ↔ key' last < key' x) :
    pop key l = pop key' l := by
  unfold pop
  split_ifs with hlen
  · have hdown : moveDown key l.dropLast 0 = moveDown key' l.dropLast 0 := by
      refine moveDown_congr fun i hi _ => ?_
      rw [List.length_dropLast] at hi
      simpa only [List.getElem_dropLast] using hsiblings i (by omega)
    rw [← hdown]
    refine siftUp_congr fun x hx => hlast _ ?_ x ?_
    · exact List.getLast?_eq_getLast_of_ne_nil _
    · exact List.dropLast_subset l (mem_of_mem_moveDown hx)
  · rfl

end Congr

end Mcproxy.Container.Heap
