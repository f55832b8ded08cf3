import Mathlib.Data.List.Nodup
import Mathlib.Data.List.Sort
import Mathlib.Order.Basic

namespace Mcproxy.Container

-- An ordered associative container: the list its in-order traversal yields, with
-- strictly increasing keys. A set of records compared by one field and a map of
-- pairs compared by their first component are both of this form.
structure OrdSet {τ κ : Type*} [LinearOrder κ] (key : τ → κ) where
  elems : List τ
  sorted : elems.Pairwise (fun a b => key a < key b)

namespace OrdSet

section Walk

variable {τ κ σ : Type*}

-- A walk that rewrites each element in place, its key apart, threading a state.
def walkList (f : σ → τ → τ × σ) : List τ → σ → List τ × σ
  | [], a => ([], a)
  | x :: xs, a =>
    let r := f a x
    let rest := walkList f xs r.2
    (r.1 :: rest.1, rest.2)

theorem walkList_keys (key : τ → κ) (f : σ → τ → τ × σ) (hf : ∀ a x, key (f a x).1 = key x)
    (l : List τ) (a : σ) : (walkList f l a).1.map key = l.map key := by
  induction l generalizing a with
  | nil => rfl
  | cons x xs ih => simp [walkList, hf, ih]

end Walk

section Lists

variable {τ κ : Type*} [LinearOrder κ] (key : τ → κ)

-- Insertion keeps the element that is already there, as `std::set::insert` does.
def insertList (x : τ) : List τ → List τ
  | [] => [x]
  | y :: ys =>
    if key x < key y then x :: y :: ys
    else if key x = key y then y :: ys
    else y :: insertList x ys

theorem mem_insertList_of_mem {x z : τ} {l : List τ} (hz : z ∈ l) : z ∈ insertList key x l := by
  induction l with
  | nil => simp at hz
  | cons y ys ih =>
    simp only [insertList]
    split_ifs
    · exact List.mem_cons_of_mem _ hz
    · exact hz
    · rcases List.mem_cons.mp hz with rfl | hz
      · exact List.mem_cons_self
      · exact List.mem_cons_of_mem _ (ih hz)

theorem mem_of_mem_insertList {x z : τ} {l : List τ} (hz : z ∈ insertList key x l) :
    z = x ∨ z ∈ l := by
  induction l with
  | nil => simpa [insertList] using hz
  | cons y ys ih =>
    simp only [insertList] at hz
    split_ifs at hz
    · simpa using hz
    · exact Or.inr hz
    · rcases List.mem_cons.mp hz with rfl | hz
      · exact Or.inr List.mem_cons_self
      · exact (ih hz).imp_right (List.mem_cons_of_mem _)

theorem insertList_sorted (x : τ) {l : List τ} (hl : l.Pairwise (fun a b => key a < key b)) :
    (insertList key x l).Pairwise (fun a b => key a < key b) := by
  induction l with
  | nil => simp [insertList]
  | cons y ys ih =>
    obtain ⟨hy, hys⟩ := List.pairwise_cons.mp hl
    simp only [insertList]
    split_ifs with hlt heq
    · refine List.pairwise_cons.mpr ⟨?_, hl⟩
      intro z hz
      rcases List.mem_cons.mp hz with rfl | hz
      · exact hlt
      · exact hlt.trans (hy z hz)
    · exact hl
    · refine List.pairwise_cons.mpr ⟨?_, ih hys⟩
      intro z hz
      rcases mem_of_mem_insertList key hz with rfl | hz
      · exact lt_of_le_of_ne (not_lt.mp hlt) (Ne.symm heq)
      · exact hy z hz

-- The new element goes in exactly when its key is new.
theorem self_mem_insertList_iff (x : τ) {l : List τ} (hl : l.Pairwise (fun a b => key a < key b))
    (hx : x ∉ l) : x ∈ insertList key x l ↔ key x ∉ l.map key := by
  induction l with
  | nil => simp [insertList]
  | cons y ys ih =>
    obtain ⟨hy, hys⟩ := List.pairwise_cons.mp hl
    simp only [insertList]
    split_ifs with hlt heq
    · have hne : ∀ z ∈ ys, key z ≠ key x := fun z hz => (hlt.trans (hy z hz)).ne'
      simpa [hlt.ne] using hne
    · simpa [heq] using hx
    · have hxy : x ≠ y := fun h => hx (h ▸ List.mem_cons_self)
      rw [List.mem_cons, or_iff_right hxy, ih hys (fun h => hx (List.mem_cons_of_mem _ h))]
      simp [heq]

end Lists

variable {τ κ : Type*} [LinearOrder κ] {key : τ → κ}

theorem elems_injective : Function.Injective (elems : OrdSet key → List τ) := by
  rintro ⟨l, hl⟩ ⟨m, hm⟩ h
  cases h
  rfl

instance [DecidableEq τ] : DecidableEq (OrdSet key) := fun s t =>
  decidable_of_iff (s.elems = t.elems) elems_injective.eq_iff

instance : EmptyCollection (OrdSet key) := ⟨⟨[], List.Pairwise.nil⟩⟩

instance : Inhabited (OrdSet key) := ⟨∅⟩

def isEmpty (s : OrdSet key) : Bool := s.elems.isEmpty

-- The keys in traversal order.
def keys (s : OrdSet key) : List κ := s.elems.map key

def find (s : OrdSet key) (k : κ) : Option τ := s.elems.find? (fun x => decide (key x = k))

instance : Membership κ (OrdSet key) := ⟨fun s k => k ∈ s.keys⟩

instance (s : OrdSet key) (k : κ) : Decidable (k ∈ s) :=
  inferInstanceAs (Decidable (k ∈ s.keys))

theorem mem_keys {s : OrdSet key} {k : κ} : k ∈ s.keys ↔ k ∈ s := Iff.rfl

theorem keys_nodup (s : OrdSet key) : s.keys.Nodup :=
  List.pairwise_map.mpr (s.sorted.imp fun h => h.ne)

theorem keys_sorted (s : OrdSet key) : s.keys.Pairwise (· < ·) := List.pairwise_map.mpr s.sorted

-- Distinct elements have distinct keys.
theorem eq_of_key_eq (s : OrdSet key) {x y : τ} (hx : x ∈ s.elems) (hy : y ∈ s.elems)
    (h : key x = key y) : x = y :=
  List.inj_on_of_nodup_map s.keys_nodup hx hy h

theorem find_eq_some_iff {s : OrdSet key} {k : κ} {x : τ} :
    s.find k = some x ↔ x ∈ s.elems ∧ key x = k := by
  constructor
  · intro h
    exact ⟨List.mem_of_find?_eq_some h, by simpa using List.find?_some h⟩
  · rintro ⟨hx, rfl⟩
    cases hf : s.find (key x) with
    | none =>
      have := List.find?_eq_none.mp hf x hx
      simp at this
    | some y =>
      have hy : y ∈ s.elems := List.mem_of_find?_eq_some hf
      have hk : key y = key x := by simpa using List.find?_some hf
      rw [s.eq_of_key_eq hy hx hk]

theorem key_of_find {s : OrdSet key} {k : κ} {x : τ} (h : s.find k = some x) : key x = k :=
  (find_eq_some_iff.mp h).2

theorem mem_iff_find {s : OrdSet key} {k : κ} : k ∈ s ↔ ∃ x, s.find k = some x := by
  simp only [find_eq_some_iff]
  exact List.mem_map

theorem mem_of_find {s : OrdSet key} {k : κ} {x : τ} (h : s.find k = some x) : k ∈ s :=
  mem_iff_find.mpr ⟨x, h⟩

theorem find_eq_none_iff {s : OrdSet key} {k : κ} : s.find k = none ↔ k ∉ s := by
  rw [mem_iff_find]
  cases s.find k <;> simp

theorem isSome_find {s : OrdSet key} {k : κ} : (s.find k).isSome ↔ k ∈ s := by
  rw [mem_iff_find, Option.isSome_iff_exists]

-- Two containers with the same lookups are the same container.
theorem ext_mem {s t : OrdSet key} (h : ∀ x, x ∈ s.elems ↔ x ∈ t.elems) : s = t := by
  apply elems_injective
  have hs : s.elems.Nodup := List.Nodup.of_map _ s.keys_nodup
  have ht : t.elems.Nodup := List.Nodup.of_map _ t.keys_nodup
  exact ((List.perm_ext_iff_of_nodup hs ht).mpr h).eq_of_pairwise
    (fun a b _ _ hab hba => absurd hab hba.asymm) s.sorted t.sorted

theorem ext_find {s t : OrdSet key} (h : ∀ k, s.find k = t.find k) : s = t := by
  apply ext_mem
  intro x
  have := h (key x)
  constructor <;> intro hx
  · exact (find_eq_some_iff.mp (this ▸ find_eq_some_iff.mpr ⟨hx, rfl⟩)).1
  · exact (find_eq_some_iff.mp (this ▸ find_eq_some_iff.mpr ⟨hx, rfl⟩)).1

theorem keys_eq_of_mem_iff {υ : Type*} {key' : υ → κ} {s : OrdSet key} {t : OrdSet key'}
    (h : ∀ k, k ∈ s ↔ k ∈ t) : s.keys = t.keys :=
  ((List.perm_ext_iff_of_nodup s.keys_nodup t.keys_nodup).mpr h).eq_of_pairwise
    (fun _ _ _ _ hab hba => absurd hab hba.asymm) s.keys_sorted t.keys_sorted

@[simp] theorem find_empty (k : κ) : (∅ : OrdSet key).find k = none := rfl

@[simp] theorem notMem_empty (k : κ) : k ∉ (∅ : OrdSet key) := List.not_mem_nil

theorem isEmpty_iff {s : OrdSet key} : s.isEmpty = true ↔ ∀ k, k ∉ s := by
  unfold isEmpty
  rw [List.isEmpty_iff]
  constructor
  · intro h k hk
    simp [← mem_keys, keys, h] at hk
  · intro h
    exact List.eq_nil_iff_forall_not_mem.mpr fun x hx =>
      h (key x) (mem_of_find (find_eq_some_iff.mpr ⟨hx, rfl⟩))

theorem isEmpty_eq_false_iff {s : OrdSet key} : s.isEmpty = false ↔ ∃ k, k ∈ s := by
  rw [← Bool.not_eq_true, isEmpty_iff]
  simp only [not_forall, not_not]

section Operations

def insert (s : OrdSet key) (x : τ) : OrdSet key :=
  ⟨insertList key x s.elems, insertList_sorted key x s.sorted⟩

theorem find_insert (s : OrdSet key) (x : τ) (k : κ) :
    (s.insert x).find k = (s.find k).or (if key x = k then some x else none) := by
  cases hf : s.find k with
  | some y =>
    have hy := find_eq_some_iff.mp hf
    exact find_eq_some_iff.mpr ⟨mem_insertList_of_mem key hy.1, hy.2⟩
  | none =>
    have hk : k ∉ s.elems.map key := find_eq_none_iff.mp hf
    simp only [Option.none_or]
    split_ifs with hx
    · have hxs : x ∉ s.elems := fun h => hk (hx ▸ List.mem_map_of_mem h)
      exact find_eq_some_iff.mpr ⟨(self_mem_insertList_iff key x s.sorted hxs).mpr (hx ▸ hk), hx⟩
    · rw [find_eq_none_iff]
      intro hmem
      obtain ⟨z, hz, hzk⟩ := List.mem_map.mp hmem
      rcases mem_of_mem_insertList key hz with rfl | hz
      · exact hx hzk
      · exact hk (hzk ▸ List.mem_map_of_mem hz)

theorem find_insert_of_notMem {s : OrdSet key} {x : τ} (h : key x ∉ s) (k : κ) :
    (s.insert x).find k = if k = key x then some x else s.find k := by
  rw [find_insert]
  by_cases hk : k = key x
  · rw [hk, find_eq_none_iff.mpr h, Option.none_or, if_pos rfl]
  · rw [if_neg (Ne.symm hk), if_neg hk, Option.or_none]

@[simp] theorem mem_insert (s : OrdSet key) (x : τ) (k : κ) :
    k ∈ s.insert x ↔ k ∈ s ∨ key x = k := by
  rw [← isSome_find, ← isSome_find, find_insert]
  cases s.find k <;> by_cases h : key x = k <;> simp [h]

-- Insertion under a key that is taken changes nothing.
theorem insert_of_mem {s : OrdSet key} {x : τ} (h : key x ∈ s) : s.insert x = s := by
  apply ext_find
  intro k
  rw [find_insert]
  obtain ⟨y, hy⟩ := mem_iff_find.mp h
  by_cases hk : key x = k
  · simp [← hk, hy]
  · simp [hk]

theorem insertList_perm {x : τ} {l : List τ} (hx : key x ∉ l.map key) :
    (insertList key x l).Perm (x :: l) := by
  induction l with
  | nil => exact .refl _
  | cons y ys ih =>
    simp only [List.map_cons, List.mem_cons, not_or] at hx
    simp only [insertList]
    split_ifs with hlt heq
    · exact .refl _
    · exact absurd heq hx.1
    · exact ((ih hx.2).cons y).trans (.swap x y ys)

theorem insert_perm {s : OrdSet key} {x : τ} (h : key x ∉ s) :
    (s.insert x).elems.Perm (x :: s.elems) :=
  insertList_perm h

-- Insertion of a whole range, element by element.
def insertAll (s : OrdSet key) (l : List τ) : OrdSet key := l.foldl insert s

theorem mem_insertAll {s : OrdSet key} {l : List τ} {k : κ} :
    k ∈ s.insertAll l ↔ k ∈ s ∨ k ∈ l.map key := by
  unfold insertAll
  induction l generalizing s with
  | nil => simp
  | cons x l ih => rw [List.foldl_cons, ih, mem_insert, List.map_cons, List.mem_cons, or_assoc,
      eq_comm]

theorem insertAll_perm {s : OrdSet key} {l : List τ} (hl : (l.map key).Nodup)
    (hs : ∀ x ∈ l, key x ∉ s) : (s.insertAll l).elems.Perm (s.elems ++ l) := by
  unfold insertAll
  induction l generalizing s with
  | nil => simp
  | cons x l ih =>
    obtain ⟨hx, hl⟩ := List.nodup_cons.mp hl
    have hnew : ∀ y ∈ l, key y ∉ s.insert x := by
      intro y hy hmem
      rcases (mem_insert s x (key y)).mp hmem with hmem | heq
      · exact hs y (List.mem_cons_of_mem _ hy) hmem
      · exact hx (heq ▸ List.mem_map_of_mem hy)
    have hfirst : ((s.insert x).elems ++ l).Perm (x :: (s.elems ++ l)) :=
      (insert_perm (hs x List.mem_cons_self)).append_right l
    exact (ih hl hnew).trans (hfirst.trans List.perm_middle.symm)

theorem find_insertAll (s t : OrdSet key) (k : κ) :
    (s.insertAll t.elems).find k = (s.find k).or (t.find k) := by
  obtain ⟨l, hl⟩ := t
  unfold insertAll
  change _ = (s.find k).or (l.find? _)
  induction l generalizing s with
  | nil => simp
  | cons y ys ih =>
    simp only [List.foldl_cons, ih (s.insert y) (List.pairwise_cons.mp hl).2, find_insert,
      List.find?_cons, Option.or_assoc]
    by_cases hy : key y = k <;> simp [hy]

theorem insertAll_elems (s : OrdSet key) : (∅ : OrdSet key).insertAll s.elems = s := by
  apply ext_find
  intro k
  rw [find_insertAll, find_empty, Option.none_or]

def filter (s : OrdSet key) (p : τ → Bool) : OrdSet key :=
  ⟨s.elems.filter p, s.sorted.sublist List.filter_sublist⟩

theorem find_filter (s : OrdSet key) (p : τ → Bool) (k : κ) :
    (s.filter p).find k = (s.find k).filter p := by
  apply Option.ext
  intro x
  rw [find_eq_some_iff, Option.filter_eq_some_iff, find_eq_some_iff]
  simp only [filter, List.mem_filter]
  tauto

-- A filter that looks at nothing but the key.
theorem mem_filter_key (s : OrdSet key) (p : κ → Bool) (k : κ) :
    k ∈ s.filter (fun x => p (key x)) ↔ k ∈ s ∧ p k = true := by
  rw [← isSome_find, ← isSome_find, find_filter]
  cases hf : s.find k with
  | none => simp
  | some x => simp [Option.filter, key_of_find hf]

theorem filter_eq_self {s : OrdSet key} {p : τ → Bool} (h : ∀ x ∈ s.elems, p x = true) :
    s.filter p = s :=
  elems_injective (List.filter_eq_self.mpr h)

theorem filter_filter (s : OrdSet key) (p r : τ → Bool) :
    (s.filter p).filter r = s.filter (fun x => p x && r x) := by
  apply elems_injective
  change (s.elems.filter p).filter r = _
  rw [List.filter_filter]
  exact List.filter_congr fun x _ => Bool.and_comm _ _

-- A traversal from the front that erases as long as the keys are at most `k`.
def eraseUpTo (s : OrdSet key) (k : κ) : OrdSet key :=
  ⟨s.elems.dropWhile (fun x => decide (key x ≤ k)), s.sorted.sublist (List.dropWhile_sublist _)⟩

-- The traversal stops at the first larger key; there is none it should have erased behind it.
theorem span_le_eq_filter (s : OrdSet key) (k : κ) :
    s.elems.takeWhile (fun x => decide (key x ≤ k)) = s.elems.filter (fun x => decide (key x ≤ k)) ∧
      s.elems.dropWhile (fun x => decide (key x ≤ k)) =
        s.elems.filter (fun x => decide (k < key x)) := by
  obtain ⟨l, hl⟩ := s
  change l.takeWhile _ = l.filter _ ∧ l.dropWhile _ = l.filter _
  induction l with
  | nil => simp
  | cons y ys ih =>
    obtain ⟨hy, hys⟩ := List.pairwise_cons.mp hl
    by_cases hle : key y ≤ k
    · obtain ⟨htake, hdrop⟩ := ih hys
      have hnlt : ¬ k < key y := not_lt.mpr hle
      simp [hle, hnlt, htake, hdrop]
    · have hlt : ∀ x ∈ y :: ys, k < key x := by
        intro x hx
        rcases List.mem_cons.mp hx with rfl | hx
        · exact not_le.mp hle
        · exact (not_le.mp hle).trans (hy x hx)
      constructor
      · rw [List.filter_eq_nil_iff.mpr (by simpa using hlt)]
        simp [hle]
      · rw [List.filter_eq_self.mpr (by simpa using hlt)]
        simp [hle]

def erase (s : OrdSet key) (k : κ) : OrdSet key := s.filter (fun x => decide (key x ≠ k))

theorem find_erase (s : OrdSet key) (k k' : κ) :
    (s.erase k).find k' = if k' = k then none else s.find k' := by
  rw [erase, find_filter]
  cases hf : s.find k' with
  | none => simp
  | some x =>
    have := key_of_find hf
    by_cases h : k' = k <;> simp [Option.filter, this, h]

@[simp] theorem mem_erase (s : OrdSet key) (k k' : κ) : k' ∈ s.erase k ↔ k' ≠ k ∧ k' ∈ s := by
  rw [← isSome_find, ← isSome_find, find_erase]
  by_cases h : k' = k <;> simp [h]

-- The element under a key is replaced, or a new one is added.
theorem find_insert_erase (s : OrdSet key) (x : τ) (k : κ) :
    ((s.erase (key x)).insert x).find k = if k = key x then some x else s.find k := by
  have hout : key x ∉ s.erase (key x) := fun h => ((mem_erase s _ _).mp h).1 rfl
  rw [find_insert_of_notMem hout, find_erase]
  split_ifs <;> rfl

-- Removal of a whole range of keys, one by one.
def eraseAll (s : OrdSet key) (l : List κ) : OrdSet key := l.foldl erase s

theorem find_eraseAll (s : OrdSet key) (l : List κ) (k : κ) :
    (s.eraseAll l).find k = if k ∈ l then none else s.find k := by
  unfold eraseAll
  induction l generalizing s with
  | nil => simp
  | cons y ys ih =>
    rw [List.foldl_cons, ih, find_erase]
    by_cases hy : k = y <;> by_cases hys : k ∈ ys <;> simp [hy, hys]

def walk {σ : Type*} (f : σ → τ → τ × σ) (hf : ∀ a x, key (f a x).1 = key x) (s : OrdSet key)
    (a : σ) : OrdSet key × σ :=
  (⟨(walkList f s.elems a).1, by
    rw [← List.pairwise_map (f := key) (R := (· < ·)), walkList_keys key f hf]
    exact s.keys_sorted⟩, (walkList f s.elems a).2)

def map (f : τ → τ) (hf : ∀ x, key (f x) = key x) (s : OrdSet key) : OrdSet key :=
  ⟨s.elems.map f, by
    rw [List.pairwise_map]
    exact s.sorted.imp fun h => by simpa [hf] using h⟩

theorem find_map (f : τ → τ) (hf : ∀ x, key (f x) = key x) (s : OrdSet key) (k : κ) :
    (s.map f hf).find k = (s.find k).map f := by
  apply Option.ext
  intro x
  simp only [find_eq_some_iff, Option.map_eq_some_iff, map, List.mem_map]
  constructor
  · rintro ⟨⟨y, hy, rfl⟩, hk⟩
    exact ⟨y, ⟨hy, (hf y).symm.trans hk⟩, rfl⟩
  · rintro ⟨y, ⟨hy, hk⟩, rfl⟩
    exact ⟨⟨y, hy, rfl⟩, (hf y).trans hk⟩

@[simp] theorem mem_map (f : τ → τ) (hf : ∀ x, key (f x) = key x) (s : OrdSet key) (k : κ) :
    k ∈ s.map f hf ↔ k ∈ s := by
  rw [← isSome_find, ← isSome_find, find_map, Option.isSome_map]

-- A walk whose rewriting does not look at the threaded state is a map.
theorem walk_fst_eq_map {σ : Type*} (f : σ → τ → τ × σ) (hf : ∀ a x, key (f a x).1 = key x)
    (g : τ → τ) (hg : ∀ x, key (g x) = key x) (h : ∀ a x, (f a x).1 = g x) (s : OrdSet key)
    (a : σ) : (s.walk f hf a).1 = s.map g hg := by
  apply elems_injective
  obtain ⟨l, hl⟩ := s
  change (walkList f l a).1 = l.map g
  clear hl
  induction l generalizing a with
  | nil => rfl
  | cons x xs ih => simp [walkList, h, ih]

-- The threaded state does not depend on what is written back.
theorem walk_snd {σ : Type*} (f : σ → τ → τ × σ) (hf : ∀ a x, key (f a x).1 = key x)
    (s : OrdSet key) (a : σ) : (s.walk f hf a).2 = s.elems.foldl (fun a x => (f a x).2) a := by
  obtain ⟨l, hl⟩ := s
  change (walkList f l a).2 = l.foldl (fun a x => (f a x).2) a
  clear hl
  induction l generalizing a with
  | nil => rfl
  | cons x xs ih => exact ih _

-- A fact about the threaded state that every step keeps holds after the walk.
theorem walk_snd_induction {σ : Type*} (f : σ → τ → τ × σ) (hf : ∀ a x, key (f a x).1 = key x)
    (P : σ → Prop) (hP : ∀ a x, P a → P (f a x).2) (s : OrdSet key) (a : σ) (ha : P a) :
    P (s.walk f hf a).2 := by
  rw [walk_snd]
  exact List.foldlRecOn _ _ ha fun a h x _ => hP a x h

-- A fact about the threaded state that one element brings about and no step undoes.
theorem walk_snd_of_mem {σ : Type*} (f : σ → τ → τ × σ) (hf : ∀ a x, key (f a x).1 = key x)
    (P : σ → Prop) (hP : ∀ a x, P a → P (f a x).2) {s : OrdSet key} {x : τ} (hx : x ∈ s.elems)
    (hPx : ∀ a, P (f a x).2) (a : σ) : P (s.walk f hf a).2 := by
  obtain ⟨before, after, hs⟩ := List.append_of_mem hx
  rw [walk_snd, hs, List.foldl_append, List.foldl_cons]
  exact List.foldlRecOn _ _ (hPx _) fun a h y _ => hP a y h

-- Rewriting the element with one key, if there is one.
def modify (f : τ → τ) (hf : ∀ x, key (f x) = key x) (s : OrdSet key) (k : κ) : OrdSet key :=
  s.map (fun x => if key x = k then f x else x) (fun x => by split_ifs <;> simp [hf])

theorem find_modify (f : τ → τ) (hf : ∀ x, key (f x) = key x) (s : OrdSet key) (k k' : κ) :
    (s.modify f hf k).find k' = if k' = k then (s.find k').map f else s.find k' := by
  rw [modify, find_map]
  cases hs : s.find k' with
  | none => simp
  | some x => by_cases h : k' = k <;> simp [key_of_find hs, h]

-- One rewriting for each element of `t`, at that element's key.
theorem find_foldl_modify (t s : OrdSet key) (f : τ → τ → τ) (hf : ∀ e x, key (f e x) = key x)
    (k : κ) :
    (t.elems.foldl (fun s e => s.modify (f e) (hf e) (key e)) s).find k =
      match t.find k with
      | some e => (s.find k).map (f e)
      | none => s.find k := by
  obtain ⟨l, hl⟩ := t
  change _ = match l.find? (fun x => decide (key x = k)) with
    | some e => (s.find k).map (f e)
    | none => s.find k
  induction l generalizing s with
  | nil => rfl
  | cons y ys ih =>
    obtain ⟨hy, hys⟩ := List.pairwise_cons.mp hl
    rw [List.foldl_cons, ih _ hys, find_modify, List.find?_cons]
    by_cases hk : key y = k
    · have hnone : ys.find? (fun x => decide (key x = k)) = none := by
        rw [List.find?_eq_none]
        intro z hz
        simpa [← hk] using (hy z hz).ne'
      simp [hk, hnone]
    · simp [hk, Ne.symm hk]

end Operations

end OrdSet

-- An ordered map: pairs compared by their first component.
abbrev OrdMap (κ β : Type*) [LinearOrder κ] := OrdSet (Prod.fst : κ × β → κ)

namespace OrdMap

variable {κ β : Type*} [LinearOrder κ]

def lookup (m : OrdMap κ β) (k : κ) : Option β := (m.find k).map Prod.snd

-- Assignment through a reference to the mapped value, or insertion of a new pair.
def assign (m : OrdMap κ β) (k : κ) (v : β) : OrdMap κ β := (m.erase k).insert (k, v)

@[simp] theorem lookup_empty (k : κ) : lookup (∅ : OrdMap κ β) k = none := rfl

theorem mem_of_lookup {m : OrdMap κ β} {k : κ} {v : β} (h : lookup m k = some v) :
    (k, v) ∈ m.elems := by
  obtain ⟨p, hp, rfl⟩ := Option.map_eq_some_iff.mp h
  obtain ⟨hmem, rfl⟩ := OrdSet.find_eq_some_iff.mp hp
  exact hmem

theorem mem_iff_lookup {m : OrdMap κ β} {k : κ} : k ∈ m ↔ ∃ v, lookup m k = some v := by
  rw [OrdSet.mem_iff_find]
  constructor
  · rintro ⟨p, hp⟩
    exact ⟨p.2, Option.map_eq_some_iff.mpr ⟨p, hp, rfl⟩⟩
  · rintro ⟨v, hv⟩
    obtain ⟨p, hp, -⟩ := Option.map_eq_some_iff.mp hv
    exact ⟨p, hp⟩

theorem lookup_assign (m : OrdMap κ β) (k k' : κ) (v : β) :
    lookup (assign m k v) k' = if k' = k then some v else lookup m k' := by
  rw [lookup, assign, OrdSet.find_insert_erase m (k, v)]
  split_ifs <;> rfl

theorem assign_of_lookup {m : OrdMap κ β} {k : κ} {v : β} (h : lookup m k = some v) :
    assign m k v = m := by
  apply OrdSet.ext_find
  intro k'
  obtain ⟨p, hp, rfl⟩ := Option.map_eq_some_iff.mp h
  obtain rfl := OrdSet.key_of_find hp
  rw [assign, OrdSet.find_insert, OrdSet.find_erase]
  by_cases hk : k' = p.1
  · subst hk
    simp [hp]
  · simp [hk, Ne.symm hk]

theorem lookup_eq_none_iff {m : OrdMap κ β} {k : κ} : lookup m k = none ↔ k ∉ m := by
  rw [lookup, Option.map_eq_none_iff, OrdSet.find_eq_none_iff]

theorem lookup_eq_some_iff {m : OrdMap κ β} {k : κ} {v : β} :
    lookup m k = some v ↔ (k, v) ∈ m.elems :=
  ⟨mem_of_lookup, fun h => by rw [lookup, OrdSet.find_eq_some_iff.mpr ⟨h, rfl⟩]; rfl⟩

theorem lookup_insert {m : OrdMap κ β} {k : κ} (h : k ∉ m) (k' : κ) (v : β) :
    lookup (m.insert (k, v)) k' = if k' = k then some v else lookup m k' := by
  rw [lookup, OrdSet.find_insert_of_notMem h]
  split_ifs <;> rfl

theorem lookup_erase (m : OrdMap κ β) (k k' : κ) :
    lookup (m.erase k) k' = if k' = k then none else lookup m k' := by
  unfold lookup
  rw [OrdSet.find_erase]
  split_ifs <;> rfl

-- The keys of the pairs that meet a condition.
theorem map_fst_filter (m : OrdMap κ β) (f : κ → β → Bool) :
    (m.elems.filter fun e => f e.1 e.2).map Prod.fst =
      m.keys.filter fun k => (lookup m k).any (f k) := by
  rw [OrdSet.keys, List.filter_map]
  refine congrArg _ (List.filter_congr fun e he => ?_)
  rw [Function.comp_apply, lookup_eq_some_iff.mpr he, Option.any_some]

end OrdMap

end Mcproxy.Container
