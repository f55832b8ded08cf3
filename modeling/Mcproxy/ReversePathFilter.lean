import Mathlib.Data.List.Induction
import Mathlib.Data.String.Basic
import Mathlib.Logic.Function.Basic
import Mcproxy.Container.OrdSet

namespace Mcproxy

open Container

section Model

-- A file `rp_filter` holds one of three characters.
abbrev RpContent := { c : Char // c = '0' ∨ c = '1' ∨ c = '2' }

def RpContent.zero : RpContent := ⟨'0', by decide⟩

def RpContent.one : RpContent := ⟨'1', by decide⟩

-- `REVERSE_PATH_FILTER_THE_ALL_INTERFACE`
def the_all_interface : String := "all"

-- The object with the files it works on, which can all be read and written.
structure ReversePathFilter where
  m_used_earlier : Bool := false
  m_restore_if_state : OrdSet (id : String → String) := ∅
  files : String → RpContent

namespace ReversePathFilter

variable (r : ReversePathFilter)

-- The character is converted to a `bool`, not the digit it stands for.
def get_rp_filter (if_name : String) : Bool := (r.files if_name).val.toNat != 0

def set_rp_filter (if_name : String) (set_to : Bool) : ReversePathFilter :=
  { r with files := Function.update r.files if_name (if set_to then .one else .zero) }

-- What `reset_rp_filter` does to the file and to the set of names.
def disable_rp_filter (if_name : String) : ReversePathFilter :=
  let r := r.set_rp_filter if_name false
  { r with m_restore_if_state := r.m_restore_if_state.insert if_name }

-- The first use resets the interface `all` too; that call finds `m_used_earlier` set and makes
-- no further one.
def reset_rp_filter (if_name : String) : ReversePathFilter :=
  if r.get_rp_filter if_name then
    let r := r.disable_rp_filter if_name
    if r.m_used_earlier then r
    else
      let r := { r with m_used_earlier := true }
      if r.get_rp_filter the_all_interface then r.disable_rp_filter the_all_interface else r
  else r

def restore_rp_filter (if_name : String) : ReversePathFilter :=
  if if_name ∈ r.m_restore_if_state then
    let r := { r with m_restore_if_state := r.m_restore_if_state.erase if_name }
    r.set_rp_filter if_name true
  else r

-- The destructor.
def restore_all : ReversePathFilter :=
  r.m_restore_if_state.elems.foldl (fun r e => r.set_rp_filter e true) r

end ReversePathFilter

inductive RpCall
  | reset_rp_filter (if_name : String)
  | restore_rp_filter (if_name : String)
  deriving DecidableEq, Repr

def rp_call (r : ReversePathFilter) : RpCall → ReversePathFilter
  | .reset_rp_filter if_name => r.reset_rp_filter if_name
  | .restore_rp_filter if_name => r.restore_rp_filter if_name

def rp_calls (files : String → RpContent) (calls : List RpCall) : ReversePathFilter :=
  calls.foldl rp_call { files := files }

end Model

section Restore

-- The files the calls write to: those of the interfaces that are reset, and with the first of
-- them that of `all`.
def rp_touched (calls : List RpCall) : Set String :=
  { if_name | .reset_rp_filter if_name ∈ calls ∨
    if_name = the_all_interface ∧ ∃ other, .reset_rp_filter other ∈ calls }

theorem rp_touched_restore (calls : List RpCall) (if_name : String) :
    rp_touched (calls ++ [.restore_rp_filter if_name]) = rp_touched calls := by
  simp [rp_touched]

theorem rp_touched_reset (calls : List RpCall) (if_name : String) :
    rp_touched (calls ++ [.reset_rp_filter if_name]) =
      insert the_all_interface (insert if_name (rp_touched calls)) := by
  ext name
  simp only [rp_touched, List.mem_append, List.mem_singleton, RpCall.reset_rp_filter.injEq,
    Set.mem_insert_iff, Set.mem_ofPred_eq]
  constructor
  · rintro ((h | h) | ⟨h, -⟩)
    · exact Or.inr (Or.inr (Or.inl h))
    · exact Or.inr (Or.inl h)
    · exact Or.inl h
  · rintro (h | h | h | ⟨h, other, hother⟩)
    · exact Or.inr ⟨h, if_name, Or.inr rfl⟩
    · exact Or.inl (Or.inr h)
    · exact Or.inl (Or.inl h)
    · exact Or.inr ⟨h, other, Or.inl hother⟩

namespace ReversePathFilter

-- No digit is the null character.
theorem get_rp_filter_eq_true (r : ReversePathFilter) (if_name : String) :
    r.get_rp_filter if_name = true := by
  rw [get_rp_filter]
  rcases (r.files if_name).property with h | h | h <;> rw [h] <;> rfl

theorem set_rp_filter_files (r : ReversePathFilter) (if_name : String) (set_to : Bool)
    (name : String) :
    (r.set_rp_filter if_name set_to).files name =
      if name = if_name then (if set_to then .one else .zero) else r.files name :=
  Function.update_apply _ _ _ _

theorem reset_rp_filter_eq (r : ReversePathFilter) (if_name : String) :
    r.reset_rp_filter if_name =
      if r.m_used_earlier then r.disable_rp_filter if_name
      else { r.disable_rp_filter if_name with
        m_used_earlier := true }.disable_rp_filter the_all_interface := by
  unfold reset_rp_filter
  simp only [get_rp_filter_eq_true, if_true]
  rfl

-- A file that was written to has been disabled, or enabled again.
structure Written (files : String → RpContent) (touched : Set String) (r : ReversePathFilter) :
    Prop where
  saved : ∀ name ∈ r.m_restore_if_state, name ∈ touched
  disabled : ∀ name ∈ r.m_restore_if_state, r.files name = .zero
  enabled : ∀ name ∈ touched, name ∉ r.m_restore_if_state → r.files name = .one
  untouched : ∀ name ∉ touched, r.files name = files name

variable {files : String → RpContent} {touched : Set String} {r : ReversePathFilter}

theorem Written.disable_rp_filter (h : Written files touched r) (if_name : String) :
    Written files (insert if_name touched) (r.disable_rp_filter if_name) := by
  have hmem : ∀ name, name ∈ (r.disable_rp_filter if_name).m_restore_if_state ↔
      name ∈ r.m_restore_if_state ∨ if_name = name := OrdSet.mem_insert _ _
  have hfiles : ∀ name, (r.disable_rp_filter if_name).files name =
      if name = if_name then .zero else r.files name := set_rp_filter_files r if_name false
  refine ⟨?_, ?_, ?_, ?_⟩
  · intro name hname
    rcases (hmem name).mp hname with hname | rfl
    · exact Set.mem_insert_of_mem _ (h.saved name hname)
    · exact Set.mem_insert _ _
  · intro name hname
    rw [hfiles]
    split_ifs with heq
    · rfl
    · rcases (hmem name).mp hname with hname | rfl
      · exact h.disabled name hname
      · exact absurd rfl heq
  · intro name hname hnot
    rw [hmem, not_or] at hnot
    rw [hfiles, if_neg (Ne.symm hnot.2)]
    exact h.enabled name (Set.mem_of_mem_insert_of_ne hname (Ne.symm hnot.2)) hnot.1
  · intro name hname
    rw [Set.mem_insert_iff, not_or] at hname
    rw [hfiles, if_neg hname.1]
    exact h.untouched name hname.2

theorem Written.reset_rp_filter (h : Written files touched r)
    (hall : r.m_used_earlier = true → the_all_interface ∈ touched) (if_name : String) :
    Written files (insert the_all_interface (insert if_name touched))
      (r.reset_rp_filter if_name) := by
  have hdisabled := h.disable_rp_filter if_name
  rw [reset_rp_filter_eq]
  split_ifs with hused
  · rw [Set.insert_eq_of_mem (Set.mem_insert_of_mem if_name (hall hused))]
    exact hdisabled
  · have hmarked : Written files (insert if_name touched)
        { r.disable_rp_filter if_name with m_used_earlier := true } :=
      ⟨hdisabled.saved, hdisabled.disabled, hdisabled.enabled, hdisabled.untouched⟩
    exact hmarked.disable_rp_filter the_all_interface

theorem Written.restore_rp_filter (h : Written files touched r) (if_name : String) :
    Written files touched (r.restore_rp_filter if_name) := by
  unfold ReversePathFilter.restore_rp_filter
  split_ifs with hin
  · have hmem : ∀ name, name ∈ r.m_restore_if_state.erase if_name ↔
        name ≠ if_name ∧ name ∈ r.m_restore_if_state := OrdSet.mem_erase _ _
    refine ⟨?_, ?_, ?_, ?_⟩
    · intro name hname
      exact h.saved name ((hmem name).mp hname).2
    · intro name hname
      rw [set_rp_filter_files, if_neg ((hmem name).mp hname).1]
      exact h.disabled name ((hmem name).mp hname).2
    · intro name htouched hnot
      rw [set_rp_filter_files]
      by_cases heq : name = if_name
      · rw [if_pos heq]
        rfl
      · rw [if_neg heq]
        exact h.enabled name htouched fun hname => hnot ((hmem name).mpr ⟨heq, hname⟩)
    · intro name hname
      have hne : name ≠ if_name := fun heq => hname (heq ▸ h.saved if_name hin)
      rw [set_rp_filter_files, if_neg hne]
      exact h.untouched name hname
  · exact h

theorem m_used_earlier_restore (r : ReversePathFilter) (if_name : String) :
    (r.restore_rp_filter if_name).m_used_earlier = r.m_used_earlier := by
  unfold ReversePathFilter.restore_rp_filter
  split_ifs <;> rfl

-- The destructor enables what is still disabled.
theorem foldl_set_rp_filter_files (l : List String) (r : ReversePathFilter) (name : String) :
    (l.foldl (fun r e => r.set_rp_filter e true) r).files name =
      if name ∈ l then .one else r.files name := by
  induction l generalizing r with
  | nil => simp
  | cons e l ih =>
    rw [List.foldl_cons, ih, set_rp_filter_files]
    by_cases hl : name ∈ l <;> by_cases he : name = e <;> simp [hl, he]

theorem Written.restore_all (h : Written files touched r) (name : String) :
    (name ∈ touched → r.restore_all.files name = .one) ∧
      (name ∉ touched → r.restore_all.files name = files name) := by
  have hmem : name ∈ r.m_restore_if_state.elems ↔ name ∈ r.m_restore_if_state := by
    show _ ↔ name ∈ r.m_restore_if_state.elems.map id
    rw [List.map_id]
  rw [ReversePathFilter.restore_all, foldl_set_rp_filter_files]
  constructor
  · intro htouched
    split_ifs with hin
    · rfl
    · exact h.enabled name htouched fun hname => hin (hmem.mpr hname)
  · intro hname
    rw [if_neg fun hin => hname (h.saved name (hmem.mp hin)), h.untouched name hname]

end ReversePathFilter

open ReversePathFilter

-- By induction over the calls, together with what `m_used_earlier` stands for.
theorem rp_calls_written (files : String → RpContent) (calls : List RpCall) :
    Written files (rp_touched calls) (rp_calls files calls) ∧
      ((rp_calls files calls).m_used_earlier = true → the_all_interface ∈ rp_touched calls) := by
  induction calls using List.reverseRecOn with
  | nil =>
    refine ⟨⟨?_, ?_, ?_, fun name _ => rfl⟩, fun h => Bool.noConfusion h⟩
    · exact fun name hname => absurd hname (OrdSet.notMem_empty name)
    · exact fun name hname => absurd hname (OrdSet.notMem_empty name)
    · exact fun name hname => by simp [rp_touched] at hname
  | append_singleton calls call ih =>
    obtain ⟨hwritten, hused⟩ := ih
    have hcalls : rp_calls files (calls ++ [call]) = rp_call (rp_calls files calls) call := by
      rw [rp_calls, List.foldl_append]
      rfl
    rw [hcalls]
    cases call with
    | reset_rp_filter if_name =>
      rw [rp_touched_reset]
      exact ⟨hwritten.reset_rp_filter hused if_name, fun _ => Set.mem_insert _ _⟩
    | restore_rp_filter if_name =>
      rw [rp_touched_restore]
      refine ⟨hwritten.restore_rp_filter if_name, fun h => hused ?_⟩
      rwa [rp_call, m_used_earlier_restore] at h

-- The saved state is one bit, and it is read as set whatever the file contains.
theorem rp_filters_restored_iff (files : String → RpContent) (calls : List RpCall) :
    (rp_calls files calls).restore_all.files = files ↔
      ∀ if_name ∈ rp_touched calls, files if_name = .one := by
  obtain ⟨hwritten, -⟩ := rp_calls_written files calls
  constructor
  · intro hsame if_name htouched
    rw [← (hwritten.restore_all if_name).1 htouched, hsame]
  · intro hone
    funext if_name
    by_cases htouched : if_name ∈ rp_touched calls
    · rw [(hwritten.restore_all if_name).1 htouched, hone if_name htouched]
    · exact (hwritten.restore_all if_name).2 htouched

-- A filter that was off is switched on.
theorem disabled_filter_is_enabled :
    (rp_calls (fun _ => .zero) [.reset_rp_filter "eth0"]).restore_all.files "eth0" = .one ∧
      (rp_calls (fun _ => .zero) [.reset_rp_filter "eth0"]).restore_all.files ≠
        fun _ => .zero := by
  have hone : (rp_calls (fun _ => .zero) [.reset_rp_filter "eth0"]).restore_all.files "eth0" =
      .one := by decide +kernel
  refine ⟨hone, fun hsame => ?_⟩
  rw [hsame] at hone
  exact absurd hone (by decide)

end Restore

end Mcproxy
