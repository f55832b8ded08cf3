import Mathlib.Data.Finset.Card
import Mathlib.Data.Int.Interval
import Mcproxy.Parser.Configuration
import Mcproxy.Parser.Prefix
import Mcproxy.ReversePathFilter

namespace Mcproxy

open Container Transition AddrFamily

section Model

-- The limits of the kernel.
def MAXVIFS : ℕ := 32

def MAXMIFS : ℕ := 32

def vifs_elements : AddrFamily → ℕ
  | AF_INET => MAXVIFS
  | AF_INET6 => MAXMIFS
  | AF_UNSPEC => 0

structure Interfaces where
  m_addr_family : AddrFamily
  m_reset_reverse_path_filter : Bool
  m_reverse_path_filter : ReversePathFilter
  m_vif_if : OrdMap ℤ ℕ := ∅
  m_if_vif : OrdMap ℕ ℤ := ∅

-- The ways out of `get_free_vif_number`; `out_of_bounds` is the write at a negative index.
inductive FreeVif
  | free (vif : ℕ)
  | no_free_vif
  | wrong_vif_index
  | out_of_bounds
  | wrong_addr_family
  deriving DecidableEq, Repr

-- The number it returns, or `INTERFACES_UNKOWN_VIF_INDEX`.
def FreeVif.number : FreeVif → ℤ
  | free vif => vif
  | _ => -1

-- The ways out of `add_interface`.
inductive AddInterface
  | added
  | already_in_use
  | no_vif
  | not_up
  | inconsistent_database
  deriving DecidableEq, Repr

def AddInterface.returned : AddInterface → Bool
  | added | already_in_use => true
  | no_vif | not_up | inconsistent_database => false

namespace Interfaces

-- The constructor; the filter is reset for IPv4 only.
def new (addr_family : AddrFamily) (reset_reverse_path_filter : Bool)
    (files : String → RpContent) : Interfaces where
  m_addr_family := addr_family
  m_reset_reverse_path_filter := decide (addr_family = AF_INET) && reset_reverse_path_filter
  m_reverse_path_filter := { files := files }

-- The loop that fills the scratch array, in which zero stands for a vif not in use.
def fill_vifs (elements : ℕ) : List (ℕ × ℤ) → (vifs : List ℕ) → Except FreeVif (List ℕ)
  | [], vifs => .ok vifs
  | (if_index, vif) :: rest, vifs =>
    if (elements : ℤ) ≤ vif then .error .wrong_vif_index
    else if vif < 0 then .error .out_of_bounds
    else fill_vifs elements rest (vifs.set vif.toNat if_index)

def get_free_vif_number (i : Interfaces) : FreeVif :=
  if i.m_addr_family = AF_UNSPEC then .wrong_addr_family
  else
    let elements := vifs_elements i.m_addr_family
    match fill_vifs elements i.m_if_vif.elems (List.replicate elements 0) with
    | .error branch => branch
    | .ok vifs =>
      match vifs.findIdx? (· == 0) with
      | some vif => .free vif
      | none => .no_free_vif

def get_if_index (i : Interfaces) (virtual_if_index : ℤ) : ℕ :=
  (OrdMap.lookup i.m_vif_if virtual_if_index).getD 0

def get_virtual_if_index (i : Interfaces) (if_index : ℕ) : ℤ :=
  (OrdMap.lookup i.m_if_vif if_index).getD (-1)

variable (get_if_name : ℕ → String)

-- `up` is the answer of `is_interface(if_index, IFF_UP)`.
def add_interface (if_index : ℕ) (up : Bool) (i : Interfaces) : AddInterface × Interfaces :=
  let free_vif := i.get_free_vif_number.number
  if free_vif > -1 then
    if !up then (.not_up, i)
    else if if_index ∈ i.m_if_vif then (.already_in_use, i)
    else
      let i := { i with m_if_vif := i.m_if_vif.insert (if_index, free_vif) }
      if free_vif ∈ i.m_vif_if then (.inconsistent_database, i)
      else
        let i := { i with m_vif_if := i.m_vif_if.insert (free_vif, if_index) }
        if i.m_reset_reverse_path_filter then
          (.added, { i with m_reverse_path_filter :=
            i.m_reverse_path_filter.reset_rp_filter (get_if_name if_index) })
        else (.added, i)
  else (.no_vif, i)

def del_interface (if_index : ℕ) (i : Interfaces) : Bool × Interfaces :=
  if if_index ≠ 0 then
    let vif := i.get_virtual_if_index if_index
    let i := { i with m_vif_if := i.m_vif_if.erase vif, m_if_vif := i.m_if_vif.erase if_index }
    if i.m_reset_reverse_path_filter then
      (true, { i with m_reverse_path_filter :=
        i.m_reverse_path_filter.restore_rp_filter (get_if_name if_index) })
    else (true, i)
  else (false, i)

end Interfaces

inductive InterfacesCall
  | add_interface (if_index : ℕ) (up : Bool)
  | del_interface (if_index : ℕ)
  deriving DecidableEq, Repr

-- There is no interface with index 0.
def interfaces (get_if_name : ℕ → String) (addr_family : AddrFamily)
    (reset_reverse_path_filter : Bool) (files : String → RpContent) :
    Machine Interfaces InterfacesCall Empty where
  start := .new addr_family reset_reverse_path_filter files
  enabled
    | _, .add_interface if_index up => if_index = 0 → up = false
    | _, .del_interface _ => True
  step
    | i, .add_interface if_index up => .ok (i.add_interface get_if_name if_index up).2
    | i, .del_interface if_index => .ok (i.del_interface get_if_name if_index).2

instance (get_if_name : ℕ → String) (addr_family : AddrFamily) (reset : Bool)
    (files : String → RpContent) (i : Interfaces) (call : InterfacesCall) :
    Decidable ((interfaces get_if_name addr_family reset files).enabled i call) :=
  match call with
  | .add_interface if_index up => inferInstanceAs (Decidable (if_index = 0 → up = false))
  | .del_interface _ => inferInstanceAs (Decidable True)

section Initalize

variable (get_if_name : ℕ → String) (get_if_index : String → ℕ) (up : ℕ → Bool)

-- The lambda `add`, for one interface after the other.
def add_interfaces : List InterfaceDefinition → Interfaces → Except String Interfaces
  | [], result => .ok result
  | interf :: rest, result =>
    let if_index := get_if_index interf.m_if_name
    if if_index = 0 then .error "unknown interface"
    else
      let r := result.add_interface get_if_name if_index (up if_index)
      if r.1.returned then add_interfaces rest r.2 else .error "failed to add interface"

-- The interfaces of an instance in the order in which they are added.
def InstanceDefinition.interfaces_to_add (inst : InstanceDefinition) : List InterfaceDefinition :=
  inst.m_downstreams ++ inst.m_upstreams

-- Every instance gets an object of its own; all of them work on the same files.
def initalize_instances (gmp : GroupMemProtocol) (reset_reverse_path_filter : Bool) :
    List InstanceDefinition → (String → RpContent) → (m_interfaces_map : OrdMap String Interfaces) →
      Except String (OrdMap String Interfaces)
  | [], _, m_interfaces_map => .ok m_interfaces_map
  | inst :: rest, files, m_interfaces_map =>
    match add_interfaces get_if_name get_if_index up inst.interfaces_to_add
      (.new (get_addr_family gmp) reset_reverse_path_filter files) with
    | .error e => .error e
    | .ok result =>
      if inst.m_instance_name ∈ m_interfaces_map then .error "failed to add instance"
      else
        initalize_instances gmp reset_reverse_path_filter rest result.m_reverse_path_filter.files
          (m_interfaces_map.insert (inst.m_instance_name, result))

def initalize_interfaces (gmp : GroupMemProtocol) (reset_reverse_path_filter : Bool)
    (files : String → RpContent) (m_inst_def_set : OrdSet InstanceDefinition.m_instance_name) :
    Except String (OrdMap String Interfaces) :=
  initalize_instances get_if_name get_if_index up gmp reset_reverse_path_filter
    m_inst_def_set.elems files ∅

end Initalize

end Model

section Free

variable {elements : ℕ}

-- What the filled array says about a vif: whether it was free and no interface has it.
theorem fill_vifs_spec {l : List (ℕ × ℤ)}
    (hrange : ∀ p ∈ l, 0 ≤ p.2 ∧ p.2 < elements) (hzero : ∀ p ∈ l, p.1 ≠ 0) {vifs : List ℕ}
    (hlen : vifs.length = elements) :
    ∃ filled, Interfaces.fill_vifs elements l vifs = .ok filled ∧ filled.length = elements ∧
      ∀ k < elements, filled.getD k 0 = 0 ↔ vifs.getD k 0 = 0 ∧ ∀ p ∈ l, p.2 ≠ k := by
  induction l generalizing vifs with
  | nil => exact ⟨vifs, rfl, hlen, by simp⟩
  | cons p rest ih =>
    obtain ⟨if_index, vif⟩ := p
    have hp := hrange (if_index, vif) List.mem_cons_self
    have hif := hzero (if_index, vif) List.mem_cons_self
    obtain ⟨filled, hfilled, hlen', hspec⟩ :=
      ih (fun p hp => hrange p (List.mem_cons_of_mem _ hp))
        (fun p hp => hzero p (List.mem_cons_of_mem _ hp))
        (show (vifs.set vif.toNat if_index).length = elements by rw [List.length_set, hlen])
    refine ⟨filled, ?_, hlen', fun k hk => ?_⟩
    · rw [Interfaces.fill_vifs, if_neg (by simpa using hp.2), if_neg (by simpa using hp.1)]
      exact hfilled
    · rw [hspec k hk, List.forall_mem_cons]
      have hset : (vifs.set vif.toNat if_index).getD k 0 =
          if vif.toNat = k then if_index else vifs.getD k 0 := by
        simp only [List.getD_eq_getElem?_getD, List.getElem?_set]
        split_ifs with h1 h2
        · rfl
        · omega
        · rfl
      rw [hset]
      constructor
      · rintro ⟨hfree, hrest⟩
        split_ifs at hfree with heq
        · exact absurd hfree hif
        · exact ⟨hfree, by simp only; omega, hrest⟩
      · rintro ⟨hfree, hne, hrest⟩
        rw [if_neg (by simp only at hne; omega)]
        exact ⟨hfree, hrest⟩

end Free

section Invariant

-- The two maps are inverse to each other, between indexes of interfaces and numbers in range.
structure VifInv (i : Interfaces) : Prop where
  inverse (if_index : ℕ) (vif : ℤ) :
    OrdMap.lookup i.m_if_vif if_index = some vif ↔ OrdMap.lookup i.m_vif_if vif = some if_index
  in_range {if_index : ℕ} {vif : ℤ} (h : OrdMap.lookup i.m_if_vif if_index = some vif) :
    0 ≤ vif ∧ vif < vifs_elements i.m_addr_family
  no_zero : 0 ∉ i.m_if_vif

variable {i : Interfaces} (h : VifInv i)
include h

-- Whichever branch is left by, what it says is so, and the error branches are not reached.
theorem get_free_vif_number_cases :
    (∃ vif : ℕ, i.get_free_vif_number = .free vif ∧ vif < vifs_elements i.m_addr_family ∧
      (vif : ℤ) ∉ i.m_vif_if) ∨
    (i.get_free_vif_number = .no_free_vif ∧
      ∀ vif < vifs_elements i.m_addr_family, (vif : ℤ) ∈ i.m_vif_if) ∨
    (i.get_free_vif_number = .wrong_addr_family ∧ i.m_addr_family = AF_UNSPEC) := by
  by_cases hfamily : i.m_addr_family = AF_UNSPEC
  · exact .inr (.inr ⟨if_pos hfamily, hfamily⟩)
  obtain ⟨filled, hfilled, hlen, hspec⟩ := fill_vifs_spec (l := i.m_if_vif.elems)
    (fun p hp => h.in_range (OrdMap.lookup_eq_some_iff.mpr hp))
    (fun p hp hzero => h.no_zero (hzero ▸ List.mem_map_of_mem hp))
    (List.length_replicate (n := vifs_elements i.m_addr_family) (a := 0))
  -- a place of the array holds zero exactly if no interface has that vif
  have hplace : ∀ vif < vifs_elements i.m_addr_family,
      filled.getD vif 0 = 0 ↔ (vif : ℤ) ∉ i.m_vif_if := by
    intro vif hvif
    rw [hspec vif hvif, ← OrdMap.lookup_eq_none_iff, Option.eq_none_iff_forall_ne_some]
    constructor
    · rintro ⟨-, hfree⟩ if_index hlook
      exact hfree _ (OrdMap.mem_of_lookup ((h.inverse if_index vif).mpr hlook)) rfl
    · intro hfree
      refine ⟨by simp [List.getD_eq_getElem?_getD, hvif], ?_⟩
      rintro ⟨if_index, vif'⟩ hp rfl
      exact hfree if_index ((h.inverse _ _).mp (OrdMap.lookup_eq_some_iff.mpr hp))
  rw [Interfaces.get_free_vif_number, if_neg hfamily]
  simp only [hfilled]
  cases hfind : filled.findIdx? (· == 0) with
  | some vif =>
    obtain ⟨hvif, hzero, -⟩ := List.findIdx?_eq_some_iff_getElem.mp hfind
    refine .inl ⟨vif, rfl, hlen ▸ hvif, (hplace vif (hlen ▸ hvif)).mp ?_⟩
    simpa [List.getD_eq_getElem?_getD, hvif] using hzero
  | none =>
    refine .inr (.inl ⟨rfl, fun vif hvif => ?_⟩)
    by_contra hfree
    have hzero := (hplace vif hvif).mpr hfree
    have hvif' : vif < filled.length := hlen.symm ▸ hvif
    have hne := List.findIdx?_eq_none_iff.mp hfind _ (List.getElem_mem hvif')
    simp only [List.getD_eq_getElem?_getD, List.getElem?_eq_getElem hvif', Option.getD_some]
      at hzero
    simp [hzero] at hne

-- All that `add_interface` can do to the two maps.
theorem add_interface_cases (get_if_name : ℕ → String) (if_index : ℕ) (up : Bool)
    (hup : if_index = 0 → up = false) :
    (i.add_interface get_if_name if_index up = (.no_vif, i) ∧
      ∀ vif < vifs_elements i.m_addr_family, (vif : ℤ) ∈ i.m_vif_if) ∨
    (∃ vif < vifs_elements i.m_addr_family, (vif : ℤ) ∉ i.m_vif_if ∧
      ((i.add_interface get_if_name if_index up = (.not_up, i) ∧ up = false) ∨
      (i.add_interface get_if_name if_index up = (.already_in_use, i) ∧ if_index ∈ i.m_if_vif) ∨
      (if_index ≠ 0 ∧ if_index ∉ i.m_if_vif ∧
        ∃ filter, i.add_interface get_if_name if_index up = (.added, { i with
          m_if_vif := i.m_if_vif.insert (if_index, (vif : ℤ))
          m_vif_if := i.m_vif_if.insert ((vif : ℤ), if_index)
          m_reverse_path_filter := filter })))) := by
  obtain ⟨vif, hfree, hvif, hunused⟩ | ⟨hfree, hused⟩ | ⟨hfree, hfamily⟩ :=
    get_free_vif_number_cases h
  · have hnumber : i.get_free_vif_number.number = vif := by rw [hfree]; rfl
    refine .inr ⟨vif, hvif, hunused, ?_⟩
    simp only [Interfaces.add_interface, hnumber]
    rw [if_pos (by omega)]
    cases up with
    | false => exact .inl ⟨rfl, rfl⟩
    | true =>
      rw [if_neg (by decide)]
      by_cases hmem : if_index ∈ i.m_if_vif
      · exact .inr (.inl ⟨if_pos hmem, hmem⟩)
      · refine .inr (.inr ⟨fun hzero => Bool.noConfusion (hup hzero), hmem, ?_⟩)
        rw [if_neg hmem, if_neg hunused]
        split_ifs
        · exact ⟨_, rfl⟩
        · exact ⟨_, rfl⟩
  · refine .inl ⟨?_, hused⟩
    simp only [Interfaces.add_interface, hfree]
    rfl
  · refine .inl ⟨?_, fun vif hvif => ?_⟩
    · simp only [Interfaces.add_interface, hfree]
      rfl
    · rw [hfamily] at hvif
      exact absurd hvif (Nat.not_lt_zero vif)

theorem VifInv.insert {if_index vif : ℕ} (hzero : if_index ≠ 0) (hnew : if_index ∉ i.m_if_vif)
    (hvif : vif < vifs_elements i.m_addr_family) (hunused : (vif : ℤ) ∉ i.m_vif_if)
    (filter : ReversePathFilter) :
    VifInv { i with
      m_if_vif := i.m_if_vif.insert (if_index, (vif : ℤ))
      m_vif_if := i.m_vif_if.insert ((vif : ℤ), if_index)
      m_reverse_path_filter := filter } where
  inverse if_index' vif' := by
    rw [OrdMap.lookup_insert hnew, OrdMap.lookup_insert hunused]
    have hnone := OrdMap.lookup_eq_none_iff.mpr hnew
    have hnone' := OrdMap.lookup_eq_none_iff.mpr hunused
    have hinverse := h.inverse if_index' vif'
    split_ifs with hif hv hv
    · rw [hif, hv]
      exact iff_of_true rfl rfl
    · rw [← hinverse, hif, hnone]
      simp [eq_comm, hv]
    · rw [hinverse, hv, hnone']
      simp [Ne.symm hif]
    · exact hinverse
  in_range {if_index' vif'} hlook := by
    rw [OrdMap.lookup_insert hnew] at hlook
    split_ifs at hlook
    · obtain rfl := Option.some.inj hlook
      exact ⟨by omega, by simpa using hvif⟩
    · exact h.in_range hlook
  no_zero := by
    rw [OrdSet.mem_insert]
    exact not_or.mpr ⟨h.no_zero, hzero⟩

theorem VifInv.add_interface (get_if_name : ℕ → String) (if_index : ℕ) (up : Bool)
    (hup : if_index = 0 → up = false) : VifInv (i.add_interface get_if_name if_index up).2 := by
  obtain ⟨hadd, -⟩ | ⟨vif, hvif, hunused, ⟨hadd, -⟩ | ⟨hadd, -⟩ | ⟨hzero, hnew, filter, hadd⟩⟩ :=
    add_interface_cases h get_if_name if_index up hup
  · exact hadd ▸ h
  · exact hadd ▸ h
  · exact hadd ▸ h
  · exact hadd ▸ h.insert hzero hnew hvif hunused filter

-- An unknown interface has the vif -1, which none is registered with.
theorem VifInv.erase (if_index : ℕ) (filter : ReversePathFilter) :
    VifInv { i with
      m_vif_if := i.m_vif_if.erase (i.get_virtual_if_index if_index)
      m_if_vif := i.m_if_vif.erase if_index
      m_reverse_path_filter := filter } where
  inverse if_index' vif' := by
    rw [OrdMap.lookup_erase, OrdMap.lookup_erase]
    have hinverse := h.inverse if_index' vif'
    split_ifs with hif hv hv
    · simp
    · rw [← hinverse, hif]
      simp only [false_iff]
      intro hlook
      exact hv (by rw [Interfaces.get_virtual_if_index, hlook]; rfl)
    · rw [hinverse]
      simp only [iff_false]
      intro hlook
      cases hreg : OrdMap.lookup i.m_if_vif if_index with
      | none =>
        rw [Interfaces.get_virtual_if_index, hreg] at hv
        have hrange := h.in_range (hinverse.mpr hlook)
        simp only [Option.getD_none] at hv
        omega
      | some vif =>
        rw [Interfaces.get_virtual_if_index, hreg, Option.getD_some] at hv
        have hback := (h.inverse if_index vif).mp hreg
        rw [← hv, hlook] at hback
        exact hif (Option.some.inj hback)
    · exact hinverse
  in_range {if_index' vif'} hlook := by
    rw [OrdMap.lookup_erase] at hlook
    split_ifs at hlook
    exact h.in_range hlook
  no_zero := by
    rw [OrdSet.mem_erase]
    exact fun hmem => h.no_zero hmem.2

theorem VifInv.del_interface (get_if_name : ℕ → String) (if_index : ℕ) :
    VifInv (i.del_interface get_if_name if_index).2 := by
  simp only [Interfaces.del_interface]
  split_ifs
  · exact h.erase if_index _
  · exact h.erase if_index i.m_reverse_path_filter
  · exact h

-- As many vifs are in use as interfaces are registered.
theorem VifInv.card_used :
    i.m_vif_if.keys.toFinset.card = i.m_if_vif.elems.length := by
  have hperm : i.m_vif_if.keys.Perm (i.m_if_vif.elems.map Prod.snd) := by
    refine (List.perm_ext_iff_of_nodup i.m_vif_if.keys_nodup ?_).mpr fun vif => ?_
    · refine List.Nodup.map_on ?_ (List.Nodup.of_map _ i.m_if_vif.keys_nodup)
      rintro ⟨if_index, vif⟩ hp ⟨if_index', vif'⟩ hp' (rfl : vif = vif')
      have hback := (h.inverse _ _).mp (OrdMap.lookup_eq_some_iff.mpr hp)
      rw [(h.inverse _ _).mp (OrdMap.lookup_eq_some_iff.mpr hp')] at hback
      rw [Option.some.inj hback]
    · rw [OrdSet.mem_keys, OrdMap.mem_iff_lookup, List.mem_map]
      constructor
      · rintro ⟨if_index, hlook⟩
        exact ⟨(if_index, vif), OrdMap.mem_of_lookup ((h.inverse _ _).mpr hlook), rfl⟩
      · rintro ⟨⟨if_index, vif'⟩, hp, rfl⟩
        exact ⟨if_index, (h.inverse _ _).mp (OrdMap.lookup_eq_some_iff.mpr hp)⟩
  rw [List.toFinset_card_of_nodup i.m_vif_if.keys_nodup, hperm.length_eq, List.length_map]

theorem VifInv.used_in_range {vif : ℤ} (hvif : vif ∈ i.m_vif_if) :
    0 ≤ vif ∧ vif < vifs_elements i.m_addr_family := by
  obtain ⟨if_index, hlook⟩ := OrdMap.mem_iff_lookup.mp hvif
  exact h.in_range ((h.inverse _ _).mpr hlook)

-- There is a free vif exactly if fewer interfaces are registered than there are vifs.
theorem VifInv.exists_free_iff :
    (∃ vif < vifs_elements i.m_addr_family, (vif : ℤ) ∉ i.m_vif_if) ↔
      i.m_if_vif.elems.length < vifs_elements i.m_addr_family := by
  have hall : (Finset.Ico 0 (vifs_elements i.m_addr_family : ℤ)).card =
      vifs_elements i.m_addr_family := by simp
  have hused : i.m_vif_if.keys.toFinset ⊆ Finset.Ico 0 (vifs_elements i.m_addr_family : ℤ) :=
    fun vif hvif => Finset.mem_Ico.mpr (h.used_in_range (List.mem_toFinset.mp hvif))
  rw [← h.card_used]
  constructor
  · rintro ⟨vif, hvif, hunused⟩
    calc i.m_vif_if.keys.toFinset.card
        < (Finset.Ico 0 (vifs_elements i.m_addr_family : ℤ)).card := by
          refine Finset.card_lt_card ⟨hused, fun hsub => hunused ?_⟩
          have hmem := hsub (Finset.mem_Ico.mpr ⟨by omega, Nat.cast_lt.mpr hvif⟩)
          exact List.mem_toFinset.mp hmem
      _ = vifs_elements i.m_addr_family := hall
  · intro hcard
    rw [← hall] at hcard
    obtain ⟨vif, hvif, hunused⟩ := Finset.exists_mem_notMem_of_card_lt_card hcard
    obtain ⟨hpos, hlt⟩ := Finset.mem_Ico.mp hvif
    lift vif to ℕ using hpos
    exact ⟨vif, Nat.cast_lt.mp hlt, fun hmem => hunused (List.mem_toFinset.mpr hmem)⟩

end Invariant

section Runs

variable {get_if_name : ℕ → String} {addr_family : AddrFamily} {reset : Bool}
  {files : String → RpContent} {i : Interfaces}

theorem m_addr_family_add_interface (if_index : ℕ) (up : Bool) :
    (i.add_interface get_if_name if_index up).2.m_addr_family = i.m_addr_family := by
  simp only [Interfaces.add_interface]
  split_ifs <;> rfl

theorem m_addr_family_del_interface (if_index : ℕ) :
    (i.del_interface get_if_name if_index).2.m_addr_family = i.m_addr_family := by
  simp only [Interfaces.del_interface]
  split_ifs <;> rfl

theorem vif_inv_new : VifInv (.new addr_family reset files) where
  inverse _ _ := iff_of_false nofun nofun
  in_range hlook := nomatch hlook
  no_zero := OrdSet.notMem_empty 0

theorem interfaces_inv (hi : (interfaces get_if_name addr_family reset files).Reachable i) :
    VifInv i ∧ i.m_addr_family = addr_family := by
  refine hi.invariant (fun i => VifInv i ∧ i.m_addr_family = addr_family) ⟨vif_inv_new, rfl⟩ ?_
  rintro i call i' ⟨h, hfamily⟩ henabled hstep
  cases call with
  | add_interface if_index up =>
    obtain rfl := Except.ok.inj hstep
    exact ⟨h.add_interface get_if_name if_index up henabled,
      (m_addr_family_add_interface if_index up).trans hfamily⟩
  | del_interface if_index =>
    obtain rfl := Except.ok.inj hstep
    exact ⟨h.del_interface get_if_name if_index,
      (m_addr_family_del_interface if_index).trans hfamily⟩

-- What the rest of the program relies on when it installs routes by vif.
structure VifTables (get_if_name : ℕ → String) (addr_family : AddrFamily) (i : Interfaces) :
    Prop where
  inverse (if_index : ℕ) (vif : ℤ) :
    OrdMap.lookup i.m_if_vif if_index = some vif ↔ OrdMap.lookup i.m_vif_if vif = some if_index
  in_range {if_index : ℕ} {vif : ℤ} (h : OrdMap.lookup i.m_if_vif if_index = some vif) :
    0 ≤ vif ∧ vif < vifs_elements addr_family
  free_vif (h : ∃ vif < vifs_elements addr_family, (vif : ℤ) ∉ i.m_vif_if) :
    ∃ vif : ℕ, i.get_free_vif_number = .free vif ∧ vif < vifs_elements addr_family ∧
      (vif : ℤ) ∉ i.m_vif_if
  no_wrong_vif_index : i.get_free_vif_number ≠ .wrong_vif_index ∧
    i.get_free_vif_number ≠ .out_of_bounds
  consistent (if_index : ℕ) (up : Bool) (hup : if_index = 0 → up = false) :
    (i.add_interface get_if_name if_index up).1 ≠ .inconsistent_database
  round_trip {if_index : ℕ} (h : if_index ∈ i.m_if_vif) :
    i.get_if_index (i.get_virtual_if_index if_index) = if_index

theorem vif_tables_of_reachable
    (hi : (interfaces get_if_name addr_family reset files).Reachable i) :
    VifTables get_if_name addr_family i := by
  obtain ⟨h, rfl⟩ := interfaces_inv hi
  refine ⟨h.inverse, h.in_range, fun hfree => ?_, ?_, fun if_index up hup => ?_,
    fun {if_index} hmem => ?_⟩
  · obtain ⟨vif, hvif, hunused⟩ := hfree
    obtain hcase | ⟨-, hused⟩ | ⟨-, hfamily⟩ := get_free_vif_number_cases h
    · exact hcase
    · exact absurd (hused vif hvif) hunused
    · rw [hfamily] at hvif
      exact absurd hvif (Nat.not_lt_zero vif)
  · obtain ⟨vif, hcase, -⟩ | ⟨hcase, -⟩ | ⟨hcase, -⟩ := get_free_vif_number_cases h
    all_goals simp [hcase]
  · obtain ⟨hadd, -⟩ | ⟨vif, -, -, ⟨hadd, -⟩ | ⟨hadd, -⟩ | ⟨-, -, filter, hadd⟩⟩ :=
      add_interface_cases h get_if_name if_index up hup
    all_goals simp [hadd]
  · obtain ⟨vif, hlook⟩ := OrdMap.mem_iff_lookup.mp hmem
    rw [Interfaces.get_virtual_if_index, hlook, Option.getD_some, Interfaces.get_if_index,
      (h.inverse _ _).mp hlook, Option.getD_some]

-- The vif of a deleted interface is given to the next one.
theorem vif_tables_after_gap :
    ∃ i, (interfaces (fun _ => "eth") AF_INET true (fun _ => .one)).Run
      [.add_interface 2 true, .add_interface 3 true, .del_interface 2, .add_interface 4 true] i ∧
      i.get_virtual_if_index 4 = 0 ∧ VifTables (fun _ => "eth") AF_INET i := by
  obtain ⟨i, run, hvif⟩ := Machine.exists_run_of_exec
    (interfaces (fun _ => "eth") AF_INET true fun _ => .one)
    [.add_interface 2 true, .add_interface 3 true, .del_interface 2, .add_interface 4 true]
    (fun i => decide (i.get_virtual_if_index 4 = 0)) (by decide)
  exact ⟨i, run, of_decide_eq_true hvif, vif_tables_of_reachable run.reachable⟩

end Runs

section Readding

variable (get_if_name : ℕ → String) {i : Interfaces} (h : VifInv i)
include h

-- The search for a free vif comes first, whether one is needed or not.
theorem add_interface_returned_iff {if_index : ℕ} (hzero : if_index ≠ 0) :
    (i.add_interface get_if_name if_index true).1.returned = true ↔
      i.m_if_vif.elems.length < vifs_elements i.m_addr_family := by
  rw [← h.exists_free_iff]
  obtain ⟨hadd, hused⟩ | ⟨vif, hvif, hunused, hcase⟩ :=
    add_interface_cases h get_if_name if_index true fun hif => absurd hif hzero
  · rw [hadd]
    refine iff_of_false nofun ?_
    rintro ⟨vif, hvif, hunused⟩
    exact hunused (hused vif hvif)
  · refine iff_of_true ?_ ⟨vif, hvif, hunused⟩
    obtain ⟨-, hup⟩ | ⟨hadd, -⟩ | ⟨-, -, filter, hadd⟩ := hcase
    · cases hup
    all_goals rw [hadd]; rfl

theorem add_interface_of_registered {if_index : ℕ} (hmem : if_index ∈ i.m_if_vif) :
    (i.add_interface get_if_name if_index true).2 = i := by
  have hzero : if_index ≠ 0 := fun hif => h.no_zero (hif ▸ hmem)
  obtain ⟨hadd, -⟩ | ⟨vif, -, -, ⟨hadd, -⟩ | ⟨hadd, -⟩ | ⟨-, hnew, -⟩⟩ :=
    add_interface_cases h get_if_name if_index true fun hif => absurd hif hzero
  · rw [hadd]
  · rw [hadd]
  · rw [hadd]
  · exact absurd hmem hnew

-- What a successful call adds to the registered interfaces.
theorem add_interface_registers {if_index : ℕ} (hzero : if_index ≠ 0)
    (hret : (i.add_interface get_if_name if_index true).1.returned = true) :
    (i.add_interface get_if_name if_index true).2.m_if_vif.keys.toFinset =
      insert if_index i.m_if_vif.keys.toFinset := by
  obtain ⟨hadd, -⟩ | ⟨vif, -, -, ⟨hadd, -⟩ | ⟨hadd, hmem⟩ | ⟨-, -, filter, hadd⟩⟩ :=
    add_interface_cases h get_if_name if_index true fun hif => absurd hif hzero
  · rw [hadd] at hret
    cases hret
  · rw [hadd] at hret
    cases hret
  · rw [hadd, Finset.insert_eq_of_mem (List.mem_toFinset.mpr hmem)]
  · rw [hadd]
    ext if_index'
    rw [Finset.mem_insert, List.mem_toFinset, List.mem_toFinset, OrdSet.mem_keys, OrdSet.mem_keys,
      OrdSet.mem_insert, or_comm, eq_comm]

end Readding

section Acceptance

variable {get_if_name : ℕ → String} {get_if_index : String → ℕ} {up : ℕ → Bool}

-- The indexes of the interfaces that are added before the last one.
def indexes_before_last (get_if_index : String → ℕ) (interfs : List InterfaceDefinition) :
    Finset ℕ :=
  (interfs.dropLast.map fun interf => get_if_index interf.m_if_name).toFinset

-- The induction is on the interfaces still to add; those registered so far count against the
-- table as the ones before the last do.
theorem add_interfaces_ok_iff {interfs : List InterfaceDefinition}
    (hup : ∀ interf ∈ interfs, get_if_index interf.m_if_name ≠ 0 ∧
      up (get_if_index interf.m_if_name) = true) {i : Interfaces} (h : VifInv i) :
    (∃ result, add_interfaces get_if_name get_if_index up interfs i = .ok result) ↔
      (interfs = [] ∨ (i.m_if_vif.keys.toFinset ∪ indexes_before_last get_if_index interfs).card <
        vifs_elements i.m_addr_family) := by
  induction interfs generalizing i with
  | nil => exact iff_of_true ⟨i, rfl⟩ (.inl rfl)
  | cons interf rest ih =>
    obtain ⟨hzero, hisup⟩ := hup interf List.mem_cons_self
    have hlen : i.m_if_vif.keys.toFinset.card = i.m_if_vif.elems.length := by
      rw [List.toFinset_card_of_nodup i.m_if_vif.keys_nodup, OrdSet.keys, List.length_map]
    have hret := add_interface_returned_iff get_if_name h hzero
    rw [add_interfaces]
    simp only [if_neg hzero, hisup, List.cons_ne_nil, false_or]
    by_cases hroom : i.m_if_vif.elems.length < vifs_elements i.m_addr_family
    · have hinv := h.add_interface get_if_name (get_if_index interf.m_if_name) true
        fun hif => absurd hif hzero
      rw [if_pos (hret.mpr hroom), ih (fun e he => hup e (List.mem_cons_of_mem _ he)) hinv,
        m_addr_family_add_interface, add_interface_registers get_if_name h hzero (hret.mpr hroom)]
      cases rest with
      | nil =>
        refine iff_of_true (.inl rfl) ?_
        simpa [indexes_before_last, hlen] using hroom
      | cons next rest =>
        simp only [List.cons_ne_nil, false_or]
        rw [Finset.insert_union, ← Finset.union_insert]
        simp [indexes_before_last]
    · rw [if_neg (mt hret.mp hroom)]
      refine iff_of_false (by simp) fun hcard => hroom ?_
      rw [← hlen]
      exact (Finset.card_le_card Finset.subset_union_left).trans_lt hcard

theorem instance_accepted_iff (get_if_name : ℕ → String) (gmp : GroupMemProtocol) (reset : Bool)
    (files : String → RpContent) {interfs : List InterfaceDefinition}
    (hup : ∀ interf ∈ interfs, get_if_index interf.m_if_name ≠ 0 ∧
      up (get_if_index interf.m_if_name) = true) :
    (∃ result, add_interfaces get_if_name get_if_index up interfs
        (.new (get_addr_family gmp) reset files) = .ok result) ↔
      (indexes_before_last get_if_index interfs).card < vifs_elements (get_addr_family gmp) := by
  rw [add_interfaces_ok_iff hup vif_inv_new]
  change interfs = [] ∨ (∅ ∪ _ : Finset ℕ).card < _ ↔ _
  rw [Finset.empty_union]
  refine or_iff_right_of_imp ?_
  rintro rfl
  change 0 < vifs_elements (get_addr_family gmp)
  cases gmp <;> decide

-- The names of a set are all different, so none is refused as a name already there.
theorem initalize_instances_ok_iff {gmp : GroupMemProtocol} {reset : Bool}
    {insts : List InstanceDefinition}
    (hup : ∀ inst ∈ insts, ∀ interf ∈ inst.interfaces_to_add,
      get_if_index interf.m_if_name ≠ 0 ∧ up (get_if_index interf.m_if_name) = true)
    (hnames : (insts.map (·.m_instance_name)).Nodup) {files : String → RpContent}
    {m_interfaces_map : OrdMap String Interfaces}
    (hnew : ∀ inst ∈ insts, inst.m_instance_name ∉ m_interfaces_map) :
    (∃ m, initalize_instances get_if_name get_if_index up gmp reset insts files m_interfaces_map =
        .ok m) ↔
      ∀ inst ∈ insts, (indexes_before_last get_if_index inst.interfaces_to_add).card <
        vifs_elements (get_addr_family gmp) := by
  induction insts generalizing files m_interfaces_map with
  | nil => exact iff_of_true ⟨_, rfl⟩ nofun
  | cons inst rest ih =>
    obtain ⟨hname, hnames⟩ := List.nodup_cons.mp hnames
    have haccepted := instance_accepted_iff get_if_name gmp reset files
      (hup inst List.mem_cons_self)
    rw [initalize_instances, List.forall_mem_cons]
    cases hadd : add_interfaces get_if_name get_if_index up inst.interfaces_to_add
        (.new (get_addr_family gmp) reset files) with
    | error e =>
      rw [hadd] at haccepted
      refine iff_of_false nofun fun hroom => ?_
      obtain ⟨result, hresult⟩ := haccepted.mpr hroom.1
      cases hresult
    | ok result =>
      simp only [if_neg (hnew inst List.mem_cons_self)]
      rw [ih (fun e he => hup e (List.mem_cons_of_mem _ he)) hnames, and_iff_right]
      · exact haccepted.mp ⟨result, hadd⟩
      · intro e he
        rw [OrdSet.mem_insert, not_or]
        refine ⟨hnew e (List.mem_cons_of_mem _ he), fun heq => hname ?_⟩
        exact List.mem_map.mpr ⟨e, he, heq.symm⟩

theorem initalize_interfaces_ok_iff (get_if_name : ℕ → String) (get_if_index : String → ℕ)
    (up : ℕ → Bool) (gmp : GroupMemProtocol) (reset : Bool) (files : String → RpContent)
    (m_inst_def_set : OrdSet InstanceDefinition.m_instance_name)
    (hup : ∀ inst ∈ m_inst_def_set.elems, ∀ interf ∈ inst.interfaces_to_add,
      get_if_index interf.m_if_name ≠ 0 ∧ up (get_if_index interf.m_if_name) = true) :
    (∃ m, initalize_interfaces get_if_name get_if_index up gmp reset files m_inst_def_set =
        .ok m) ↔
      ∀ inst ∈ m_inst_def_set.elems,
        (indexes_before_last get_if_index inst.interfaces_to_add).card <
          vifs_elements (get_addr_family gmp) :=
  initalize_instances_ok_iff hup m_inst_def_set.keys_nodup
    fun inst _ => OrdSet.notMem_empty inst.m_instance_name

-- An interface that is registered and up is taken again, and an instance with interfaces that are
-- all there and up is accepted, exactly if a vif is left when the call is made.
theorem readding_accepted_iff (get_if_name : ℕ → String) :
    (∀ (addr_family : AddrFamily) (reset : Bool) (files : String → RpContent) (i : Interfaces)
      (if_index : ℕ), (interfaces get_if_name addr_family reset files).Reachable i →
      if_index ∈ i.m_if_vif →
      (((i.add_interface get_if_name if_index true).1.returned = true ∧
        (i.add_interface get_if_name if_index true).2.m_if_vif = i.m_if_vif ∧
        (i.add_interface get_if_name if_index true).2.m_vif_if = i.m_vif_if) ↔
        i.m_if_vif.elems.length < vifs_elements addr_family)) ∧
    ∀ (get_if_index : String → ℕ) (up : ℕ → Bool) (gmp : GroupMemProtocol) (reset : Bool)
      (files : String → RpContent) (m_inst_def_set : OrdSet InstanceDefinition.m_instance_name),
      (∀ inst ∈ m_inst_def_set.elems, ∀ interf ∈ inst.interfaces_to_add,
        get_if_index interf.m_if_name ≠ 0 ∧ up (get_if_index interf.m_if_name) = true) →
      ((∃ m, initalize_interfaces get_if_name get_if_index up gmp reset files m_inst_def_set =
          .ok m) ↔
        ∀ inst ∈ m_inst_def_set.elems,
          (indexes_before_last get_if_index inst.interfaces_to_add).card <
            vifs_elements (get_addr_family gmp)) := by
  refine ⟨fun addr_family reset files i if_index hi hmem => ?_,
    initalize_interfaces_ok_iff get_if_name⟩
  obtain ⟨h, rfl⟩ := interfaces_inv hi
  have hzero : if_index ≠ 0 := fun hif => h.no_zero (hif ▸ hmem)
  rw [add_interface_of_registered get_if_name h hmem,
    add_interface_returned_iff get_if_name h hzero]
  exact and_iff_left ⟨rfl, rfl⟩

-- An interface whose name is as long as its index says.
def interface_of_length (n : ℕ) : InterfaceDefinition where
  m_if_name := String.ofList (List.replicate n 'i')

-- A peering instance: the interfaces up to a number, the first of which is an upstream too.
def peering_instance (n : ℕ) : OrdSet InstanceDefinition.m_instance_name :=
  (∅ : OrdSet InstanceDefinition.m_instance_name).insert
    { m_instance_name := "p"
      m_downstreams := (List.range n).map fun k => interface_of_length (k + 1)
      m_upstreams := [interface_of_length 1] }

theorem indexes_of_peering_instance {n : ℕ} {inst : InstanceDefinition}
    (hinst : inst ∈ (peering_instance n).elems) :
    inst.interfaces_to_add.map (·.m_if_name.length) = (List.range n).map (· + 1) ++ [1] := by
  obtain rfl := List.mem_singleton.mp hinst
  have hlength : ∀ k, (interface_of_length k).m_if_name.length = k := fun k => by
    rw [interface_of_length, String.length_ofList, List.length_replicate]
  simp [InstanceDefinition.interfaces_to_add, Function.comp_def, hlength]

theorem up_of_peering_instance (n : ℕ) : ∀ inst ∈ (peering_instance n).elems,
    ∀ interf ∈ inst.interfaces_to_add, interf.m_if_name.length ≠ 0 ∧ true = true := by
  intro inst hinst interf hinterf
  have hmem : interf.m_if_name.length ∈ inst.interfaces_to_add.map (·.m_if_name.length) :=
    List.mem_map_of_mem hinterf
  rw [indexes_of_peering_instance hinst] at hmem
  refine ⟨fun hzero => ?_, rfl⟩
  simp [hzero] at hmem

-- An interface in both roles is accepted as long as it does not find the table full.
theorem small_peering_instance_accepted :
    (∃ i, (interfaces (fun _ => "eth") AF_INET false (fun _ => .one)).Run
      [.add_interface 1 true] i ∧ 1 ∈ i.m_if_vif ∧
      (i.add_interface (fun _ => "eth") 1 true).1.returned = true) ∧
    ∃ m, initalize_interfaces (fun _ => "eth") String.length (fun _ => true) .IGMPv3 false
      (fun _ => .one) (peering_instance 2) = .ok m := by
  constructor
  · obtain ⟨i, run, hi⟩ := Machine.exists_run_of_exec
      (interfaces (fun _ => "eth") AF_INET false fun _ => .one) [.add_interface 1 true]
      (fun i => decide (1 ∈ i.m_if_vif ∧ i.m_if_vif.elems.length < MAXVIFS)) (by decide)
    obtain ⟨hmem, hroom⟩ := of_decide_eq_true hi
    exact ⟨i, run, hmem, (((readding_accepted_iff fun _ => "eth").1 AF_INET false (fun _ => .one)
      i 1 run.reachable hmem).mpr hroom).1⟩
  · refine ((readding_accepted_iff fun _ => "eth").2 String.length (fun _ => true) .IGMPv3 false
      (fun _ => .one) (peering_instance 2) (up_of_peering_instance 2)).mpr fun inst hinst => ?_
    rw [indexes_before_last, List.map_dropLast, indexes_of_peering_instance hinst]
    decide

theorem full_table_refuses_known_interface :
    (∃ i, (interfaces (fun _ => "eth") AF_INET false (fun _ => .one)).Run
      ((List.range MAXVIFS).map fun n => .add_interface (n + 1) true) i ∧ 1 ∈ i.m_if_vif ∧
      (i.add_interface (fun _ => "eth") 1 true).1.returned = false) ∧
    (∀ inst ∈ (peering_instance MAXVIFS).elems,
      (inst.interfaces_to_add.map (·.m_if_name.length)).toFinset.card = MAXVIFS) ∧
    ¬ ∃ m, initalize_interfaces (fun _ => "eth") String.length (fun _ => true) .IGMPv3 false
      (fun _ => .one) (peering_instance MAXVIFS) = .ok m := by
  refine ⟨?_, fun inst hinst => ?_, ?_⟩
  · obtain ⟨i, run, hi⟩ := Machine.exists_run_of_exec
      (interfaces (fun _ => "eth") AF_INET false fun _ => .one)
      ((List.range MAXVIFS).map fun n => .add_interface (n + 1) true)
      (fun i => decide (1 ∈ i.m_if_vif ∧
        (i.add_interface (fun _ => "eth") 1 true).1.returned = false)) (by decide +kernel)
    exact ⟨i, run, of_decide_eq_true hi⟩
  · rw [indexes_of_peering_instance hinst]
    decide
  · rw [initalize_interfaces_ok_iff _ _ _ _ _ _ _ (up_of_peering_instance MAXVIFS)]
    intro hroom
    obtain ⟨inst, hinst⟩ : ∃ inst, inst ∈ (peering_instance MAXVIFS).elems :=
      ⟨_, List.mem_singleton_self _⟩
    have hcard := hroom inst hinst
    rw [indexes_before_last, List.map_dropLast, indexes_of_peering_instance hinst] at hcard
    revert hcard
    decide

end Acceptance

end Mcproxy
