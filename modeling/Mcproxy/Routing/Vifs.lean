import Mcproxy.AddrStorage
import Mcproxy.Container.OrdSet
import Mcproxy.Transition.Machine

namespace Mcproxy

open AddrFamily Container Transition

section Model

-- What `add_vif` looks at of an `ifaddrs`: the flag `IFF_POINTOPOINT` and the other end.
structure IfAddrs where
  ifa_pointopoint : Bool
  ifa_dstaddr : Option AddrStorage

def IfAddrs.tunnel (item : IfAddrs) : Bool := item.ifa_pointopoint && item.ifa_dstaddr.isSome

inductive SocketCall
  | add_vif (vif : ℤ) (if_index : ℕ) (ip_tunnel_remote_addr : AddrStorage)
  | del_vif (vif : ℤ)
  | bind_vif_to_table (if_index : ℕ) (table : ℤ)
  | unbind_vif_form_table (if_index : ℕ) (table : ℤ)

-- What a `routing` is made with. The properties of the interfaces are read once; they are asked
-- by the name of an interface, which exists.
structure RoutingSetup where
  m_addr_family : AddrFamily
  m_table_number : ℤ
  get_ip4_if : ℕ → Option IfAddrs
  get_ip6_if : ℕ → Option (List IfAddrs)

-- The record of a `routing`, and the calls it has made on `m_mrt_sock` with their answers.
structure RoutingVifs where
  m_added_ifs : OrdSet (id : ℕ → ℕ) := ∅
  socket_calls : List (SocketCall × Bool) := []

inductive ItemLookup
  | undefined
  | not_found
  | found (item : IfAddrs)

-- For IPv6 the result of `get_ip6_if` is used without a look at it, and its first element too.
def RoutingSetup.find_item (c : RoutingSetup) (if_index : ℕ) : ItemLookup :=
  match c.m_addr_family with
  | AF_INET =>
    match c.get_ip4_if if_index with
    | none => .not_found
    | some item => .found item
  | AF_INET6 =>
    match c.get_ip6_if if_index with
    | some (item :: _) => .found item
    | _ => .undefined
  | AF_UNSPEC => .not_found

namespace RoutingVifs

variable (c : RoutingSetup) (r : RoutingVifs) (if_index : ℕ) (vif : ℤ) (vif_ok table_ok : Bool)

def call (socket_call : SocketCall) (ok : Bool) : RoutingVifs :=
  { r with socket_calls := r.socket_calls ++ [(socket_call, ok)] }

-- `add_vif` from the item on. The first call on the socket is answered by `vif_ok` and the one
-- for the table by `table_ok`, here and in `del_vif`.
def add_item (item : IfAddrs) : Bool × RoutingVifs :=
  let remote_addr := if item.tunnel then item.ifa_dstaddr.getD .unspec else .unspec
  let r := r.call (.add_vif vif if_index remote_addr) vif_ok
  if vif_ok then
    let r := if item.tunnel then r else { r with m_added_ifs := r.m_added_ifs.insert if_index }
    if 0 < c.m_table_number then
      (table_ok, r.call (.bind_vif_to_table if_index c.m_table_number) table_ok)
    else (true, r)
  else (false, r)

-- None is a use of an interface without an item, which is undefined.
def add_vif : Option (Bool × RoutingVifs) :=
  match c.find_item if_index with
  | .undefined => none
  | .not_found => some (false, r)
  | .found item => some (r.add_item c if_index vif vif_ok table_ok item)

def del_vif : Bool × RoutingVifs :=
  let r := r.call (.del_vif vif) vif_ok
  if vif_ok then
    if 0 < c.m_table_number then
      let r := r.call (.unbind_vif_form_table if_index c.m_table_number) table_ok
      if table_ok then (true, { r with m_added_ifs := r.m_added_ifs.erase if_index })
      else (false, r)
    else (true, { r with m_added_ifs := r.m_added_ifs.erase if_index })
  else (false, r)

-- The loop of the destructor, from an element on. To go on behind an element that is no longer
-- in the set is undefined.
def clean_up (get_virtual_if_index : ℕ → ℤ) (vif_ok table_ok : ℕ → Bool) :
    List ℕ → RoutingVifs → Option RoutingVifs
  | [], r => some r
  | e :: es, r =>
    let r := (r.del_vif c e (get_virtual_if_index e) (vif_ok e) (table_ok e)).2
    if e ∈ r.m_added_ifs then clean_up get_virtual_if_index vif_ok table_ok es r else none

end RoutingVifs

inductive VifCall
  | add_vif (if_index : ℕ) (vif : ℤ)
  | del_vif (if_index : ℕ) (vif : ℤ)

-- A call on a `routing` and what the socket answers to it.
structure VifEvent where
  call : VifCall
  vif_ok : Bool
  table_ok : Bool

def handle_vif (c : RoutingSetup) (r : RoutingVifs) (e : VifEvent) : Option RoutingVifs :=
  match e.call with
  | .add_vif if_index vif => (r.add_vif c if_index vif e.vif_ok e.table_ok).map Prod.snd
  | .del_vif if_index vif => some (r.del_vif c if_index vif e.vif_ok e.table_ok).2

-- Any calls with any answers; none is what is left behind something undefined.
def vif_routing (c : RoutingSetup) : Machine (Option RoutingVifs) VifEvent Empty where
  start := some {}
  enabled _ _ := True
  step r e := .ok (r.bind fun r => handle_vif c r e)

end Model

section Spec

-- The vifs of the kernel with their interfaces.
def vif_table_step (vifs : List (ℤ × ℕ)) : SocketCall × Bool → List (ℤ × ℕ)
  | (.add_vif vif if_index _, true) => vifs ++ [(vif, if_index)]
  | (.del_vif vif, true) => vifs.filter fun p => p.1 ≠ vif
  | _ => vifs

def installed_vifs (calls : List (SocketCall × Bool)) : List (ℤ × ℕ) :=
  calls.foldl vif_table_step []

def RoutingVifs.Installed (r : RoutingVifs) (if_index : ℕ) : Prop :=
  ∃ vif, (vif, if_index) ∈ installed_vifs r.socket_calls

-- No vif but this one leads to the interface.
def RoutingVifs.LastVif (r : RoutingVifs) (vif : ℤ) (if_index : ℕ) : Prop :=
  ∀ v, (v, if_index) ∈ installed_vifs r.socket_calls → v = vif

def RoutingVifs.Mirrors (r : RoutingVifs) : Prop :=
  ∀ if_index, if_index ∈ r.m_added_ifs ↔ r.Installed if_index

-- A deletion of `vif` that gets to the record.
def RoutingSetup.Erases (c : RoutingSetup) (vif_ok table_ok : Bool) : Prop :=
  vif_ok = true ∧ (c.m_table_number ≤ 0 ∨ table_ok = true)

instance (c : RoutingSetup) (vif_ok table_ok : Bool) : Decidable (c.Erases vif_ok table_ok) :=
  inferInstanceAs (Decidable (_ ∧ _))

-- An interface is added that has an item, and a tunnel only again. When a vif is deleted, an
-- interface leaves the kernel with its last vif exactly if it leaves the record.
def KeepsRecord (c : RoutingSetup) (r : RoutingVifs) (e : VifEvent) : Prop :=
  match e.call with
  | .add_vif if_index _ =>
    match c.find_item if_index with
    | .undefined => False
    | .not_found => True
    | .found item => item.tunnel = true → e.vif_ok = true → r.Installed if_index
  | .del_vif if_index vif => ∀ j, r.Installed j →
      (e.vif_ok = true ∧ r.LastVif vif j ↔ j = if_index ∧ c.Erases e.vif_ok e.table_ok)

-- The vifs that the socket was asked to delete.
def deleted_vifs (calls : List (SocketCall × Bool)) : List ℤ :=
  calls.filterMap fun p =>
    match p.1 with
    | .del_vif vif => some vif
    | _ => none

-- The destructor comes to its end and asks for the deletion of the vif of every interface that
-- is installed, and of no other.
structure CleansUp (c : RoutingSetup) (get_virtual_if_index : ℕ → ℤ) (vif_ok table_ok : ℕ → Bool)
    (r : RoutingVifs) : Prop where
  ends : ∃ r', r.clean_up c get_virtual_if_index vif_ok table_ok r.m_added_ifs.elems = some r' ∧
    deleted_vifs r'.socket_calls =
      deleted_vifs r.socket_calls ++ r.m_added_ifs.elems.map get_virtual_if_index
  covers : ∀ i, i ∈ r.m_added_ifs.elems ↔ r.Installed i

end Spec

section Step

variable {c : RoutingSetup} {r : RoutingVifs} {if_index : ℕ} {vif : ℤ} {vif_ok table_ok : Bool}

theorem installed_vifs_append (calls : List (SocketCall × Bool)) (x : SocketCall × Bool) :
    installed_vifs (calls ++ [x]) = vif_table_step (installed_vifs calls) x := by
  rw [installed_vifs, List.foldl_append]
  rfl

-- What a call on the socket does to the vifs of the kernel.
theorem installed_call_add (remote_addr : AddrStorage) (j : ℕ) :
    (r.call (.add_vif vif if_index remote_addr) vif_ok).Installed j ↔
      r.Installed j ∨ vif_ok = true ∧ j = if_index := by
  simp only [RoutingVifs.Installed, RoutingVifs.call, installed_vifs_append]
  cases vif_ok with
  | false => simp [vif_table_step]
  | true =>
    simp only [vif_table_step, List.mem_append, List.mem_singleton, Prod.mk.injEq, exists_or,
      true_and]
    simp

theorem installed_call_del (j : ℕ) :
    (r.call (.del_vif vif) vif_ok).Installed j ↔
      r.Installed j ∧ ¬(vif_ok = true ∧ r.LastVif vif j) := by
  simp only [RoutingVifs.Installed, RoutingVifs.LastVif, RoutingVifs.call, installed_vifs_append]
  cases vif_ok with
  | false => simp [vif_table_step]
  | true =>
    simp only [vif_table_step, List.mem_filter, decide_eq_true_eq, true_and, not_forall]
    constructor
    · rintro ⟨v, hv, hne⟩
      exact ⟨⟨v, hv⟩, v, hv, hne⟩
    · rintro ⟨-, v, hv, hne⟩
      exact ⟨v, hv, hne⟩

theorem installed_call_bind (table : ℤ) :
    installed_vifs (r.call (.bind_vif_to_table if_index table) table_ok).socket_calls =
      installed_vifs r.socket_calls := by
  rw [RoutingVifs.call, installed_vifs_append]
  cases table_ok <;> rfl

theorem installed_call_unbind (table : ℤ) :
    installed_vifs (r.call (.unbind_vif_form_table if_index table) table_ok).socket_calls =
      installed_vifs r.socket_calls := by
  rw [RoutingVifs.call, installed_vifs_append]
  cases table_ok <;> rfl

theorem add_item_installed (item : IfAddrs) (j : ℕ) :
    (r.add_item c if_index vif vif_ok table_ok item).2.Installed j ↔
      r.Installed j ∨ vif_ok = true ∧ j = if_index := by
  rw [← installed_call_add (if item.tunnel then item.ifa_dstaddr.getD .unspec else .unspec)]
  simp only [RoutingVifs.add_item]
  split_ifs <;> simp only [RoutingVifs.Installed, installed_call_bind] <;> rfl

theorem add_item_m_added_ifs (item : IfAddrs) :
    (r.add_item c if_index vif vif_ok table_ok item).2.m_added_ifs =
      if vif_ok = true ∧ item.tunnel = false then r.m_added_ifs.insert if_index
      else r.m_added_ifs := by
  simp only [RoutingVifs.add_item]
  split_ifs <;> simp_all [RoutingVifs.call]

theorem del_vif_installed (j : ℕ) :
    (r.del_vif c if_index vif vif_ok table_ok).2.Installed j ↔
      r.Installed j ∧ ¬(vif_ok = true ∧ r.LastVif vif j) := by
  rw [← installed_call_del]
  simp only [RoutingVifs.del_vif]
  split_ifs <;> simp only [RoutingVifs.Installed, installed_call_unbind]

theorem del_vif_m_added_ifs :
    (r.del_vif c if_index vif vif_ok table_ok).2.m_added_ifs =
      if c.Erases vif_ok table_ok then r.m_added_ifs.erase if_index else r.m_added_ifs := by
  have htable : c.m_table_number ≤ 0 ↔ ¬0 < c.m_table_number := not_lt.symm
  simp only [RoutingVifs.del_vif, RoutingSetup.Erases, htable]
  split_ifs <;> simp_all [RoutingVifs.call]

theorem deleted_vifs_del_vif :
    deleted_vifs (r.del_vif c if_index vif vif_ok table_ok).2.socket_calls =
      deleted_vifs r.socket_calls ++ [vif] := by
  simp only [RoutingVifs.del_vif]
  split_ifs <;> simp [RoutingVifs.call, deleted_vifs]

-- A tunnel gets into the kernel and not into the record.
theorem add_item_mirrors_iff (h : r.Mirrors) (item : IfAddrs) :
    (r.add_item c if_index vif vif_ok table_ok item).2.Mirrors ↔
      (item.tunnel = true → vif_ok = true → r.Installed if_index) := by
  simp only [RoutingVifs.Mirrors, add_item_installed, add_item_m_added_ifs]
  split_ifs with hadd
  · obtain ⟨rfl, htunnel⟩ := hadd
    refine ⟨fun _ ht => absurd ht (by simp [htunnel]), fun _ j => ?_⟩
    rw [OrdSet.mem_insert, h j]
    simp [eq_comm]
  · constructor
    · intro hmir _ hok
      rw [← h, hmir if_index]
      exact Or.inr ⟨hok, rfl⟩
    · intro hin j
      rw [h j, iff_self_or]
      rintro ⟨rfl, rfl⟩
      exact hin (by simpa using hadd) rfl

theorem del_vif_mirrors_iff (h : r.Mirrors) :
    (r.del_vif c if_index vif vif_ok table_ok).2.Mirrors ↔ ∀ j, r.Installed j →
      (vif_ok = true ∧ r.LastVif vif j ↔ j = if_index ∧ c.Erases vif_ok table_ok) := by
  have hadded : ∀ j, j ∈ (r.del_vif c if_index vif vif_ok table_ok).2.m_added_ifs ↔
      r.Installed j ∧ ¬(j = if_index ∧ c.Erases vif_ok table_ok) := by
    intro j
    rw [del_vif_m_added_ifs, ← h j]
    split_ifs with herase
    · rw [OrdSet.mem_erase, and_comm, and_iff_left herase]
    · rw [iff_self_and]
      exact fun _ hj => herase hj.2
  refine forall_congr' fun j => ?_
  rw [hadded, del_vif_installed, and_congr_right_iff, not_iff_not]
  exact forall_congr' fun _ => iff_comm

theorem handle_vif_mirrors_iff (h : r.Mirrors) (e : VifEvent) :
    (∃ r', handle_vif c r e = some r' ∧ r'.Mirrors) ↔ KeepsRecord c r e := by
  obtain ⟨call, vif_ok, table_ok⟩ := e
  cases call with
  | add_vif if_index vif =>
    simp only [handle_vif, KeepsRecord, RoutingVifs.add_vif]
    cases c.find_item if_index with
    | undefined => simp
    | not_found => simpa using h
    | found item => simpa using add_item_mirrors_iff h item
  | del_vif if_index vif => simpa [handle_vif, KeepsRecord] using del_vif_mirrors_iff h

-- Where every interface has a vif of its own, a deletion has to get to the record, if the
-- interface is installed and the kernel deletes its vif.
theorem keepsRecord_own_vif_iff {vif_of : ℕ → ℤ} (hinj : Function.Injective vif_of)
    (hown : ∀ v j, (v, j) ∈ installed_vifs r.socket_calls → v = vif_of j) :
    KeepsRecord c r ⟨.del_vif if_index (vif_of if_index), vif_ok, table_ok⟩ ↔
      (r.Installed if_index → vif_ok = true → c.m_table_number ≤ 0 ∨ table_ok = true) := by
  have hlast : ∀ j, r.Installed j → (r.LastVif (vif_of if_index) j ↔ j = if_index) := by
    rintro j ⟨v, hv⟩
    constructor
    · intro h
      exact hinj ((hown v j hv).symm.trans (h v hv))
    · rintro rfl v' hv'
      exact hown v' j hv'
  constructor
  · intro h hin hok
    have herase := (h if_index hin).mp ⟨hok, (hlast if_index hin).mpr rfl⟩
    exact herase.2.2
  · intro h j hin
    rw [hlast j hin]
    constructor
    · rintro ⟨hok, rfl⟩
      exact ⟨rfl, hok, h hin hok⟩
    · rintro ⟨rfl, hok, -⟩
      exact ⟨hok, rfl⟩

end Step

section CleanUp

variable {c : RoutingSetup} {get_virtual_if_index : ℕ → ℤ} {vif_ok table_ok : ℕ → Bool}

-- As long as every deletion fails, the loop goes on.
theorem clean_up_of_failures {es : List ℕ} {r : RoutingVifs} (hes : ∀ e ∈ es, e ∈ r.m_added_ifs)
    (h : ∀ e ∈ es, ¬c.Erases (vif_ok e) (table_ok e)) :
    ∃ r', r.clean_up c get_virtual_if_index vif_ok table_ok es = some r' ∧
      deleted_vifs r'.socket_calls =
        deleted_vifs r.socket_calls ++ es.map get_virtual_if_index := by
  induction es generalizing r with
  | nil => exact ⟨r, rfl, by simp⟩
  | cons e es ih =>
    obtain ⟨he, hes⟩ := List.forall_mem_cons.mp hes
    obtain ⟨hfail, h⟩ := List.forall_mem_cons.mp h
    have hsame : (r.del_vif c e (get_virtual_if_index e) (vif_ok e) (table_ok e)).2.m_added_ifs =
        r.m_added_ifs := by
      rw [del_vif_m_added_ifs, if_neg hfail]
    obtain ⟨r', hrest, hdeleted⟩ := ih (hsame.symm ▸ hes) h
    refine ⟨r', ?_, ?_⟩
    · rw [RoutingVifs.clean_up, hsame, if_pos he, hrest]
    · rw [hdeleted, deleted_vifs_del_vif, List.map_cons, List.append_assoc, List.singleton_append]

theorem clean_up_eq_none {es : List ℕ} {r : RoutingVifs} {e : ℕ} (he : e ∈ es)
    (h : c.Erases (vif_ok e) (table_ok e)) :
    r.clean_up c get_virtual_if_index vif_ok table_ok es = none := by
  induction es generalizing r with
  | nil => cases he
  | cons e' es ih =>
    rw [RoutingVifs.clean_up]
    split_ifs with hin
    · rcases List.mem_cons.mp he with rfl | he
      · rw [del_vif_m_added_ifs, if_pos h, OrdSet.mem_erase] at hin
        exact absurd rfl hin.1
      · exact ih he
    · rfl

theorem cleansUp_iff {r : RoutingVifs} (hmirrors : r.Mirrors) :
    CleansUp c get_virtual_if_index vif_ok table_ok r ↔
      ∀ i, r.Installed i → ¬c.Erases (vif_ok i) (table_ok i) := by
  have hkeys : ∀ i, i ∈ r.m_added_ifs.elems ↔ i ∈ r.m_added_ifs := by
    intro i
    rw [← OrdSet.mem_keys, OrdSet.keys, List.map_id]
  have hexact : ∀ i, i ∈ r.m_added_ifs.elems ↔ r.Installed i := fun i =>
    (hkeys i).trans (hmirrors i)
  constructor
  · rintro ⟨⟨r', hends, -⟩, -⟩ i hi herase
    rw [clean_up_eq_none ((hexact i).mpr hi) herase] at hends
    cases hends
  · intro hfail
    refine ⟨clean_up_of_failures (fun e he => (hkeys e).mp he) fun e he => ?_, hexact⟩
    exact hfail e ((hexact e).mp he)

end CleanUp

section Main

-- The record mirrors the kernel all along a run exactly if all its calls meet the condition. The
-- destructor of a record that does covers what is installed exactly if it can remove none of it.
theorem vif_record_mirrors_iff (c : RoutingSetup) :
    (∀ es s, (vif_routing c).Run es s →
      ((∀ es' s', es' <+: es → (vif_routing c).Run es' s' → ∃ r, s' = some r ∧ r.Mirrors) ↔
        ((vif_routing c).restrict fun s e => ∀ r, s = some r → KeepsRecord c r e).Run es s)) ∧
    ∀ (r : RoutingVifs) (get_virtual_if_index : ℕ → ℤ) (vif_ok table_ok : ℕ → Bool), r.Mirrors →
      (CleansUp c get_virtual_if_index vif_ok table_ok r ↔
        ∀ i, r.Installed i → ¬c.Erases (vif_ok i) (table_ok i)) := by
  refine ⟨fun es s run => Machine.Run.forall_iff_restrict ?_ ?_ run,
    fun r _ _ _ hmirrors => cleansUp_iff hmirrors⟩
  · refine ⟨{}, rfl, fun i => ?_⟩
    simp [RoutingVifs.Installed, installed_vifs]
  · rintro es s e s' - ⟨r, rfl, h⟩ - hstep
    obtain rfl := Except.ok.inj hstep
    rw [Option.bind_some, handle_vif_mirrors_iff h]
    exact ⟨fun hk r' hr => Option.some.inj hr ▸ hk, fun hk => hk r rfl⟩

-- For closed runs: every interface has the given item.
def alike_interfaces (item : IfAddrs) (table_number : ℤ) : RoutingSetup :=
  ⟨AF_INET, table_number, fun _ => some item, fun _ => none⟩

-- A physical interface is added and deleted again, and all calls on the socket succeed.
theorem physical_vif_mirrored : ∃ r : RoutingVifs,
    (vif_routing (alike_interfaces ⟨false, none⟩ 1)).Run
      [⟨.add_vif 5 0, true, true⟩, ⟨.del_vif 5 0, true, true⟩] (some r) ∧ r.Mirrors ∧
      CleansUp (alike_interfaces ⟨false, none⟩ 1) (fun _ => 0) (fun _ => true) (fun _ => true)
        r := by
  let c := alike_interfaces ⟨false, none⟩ 1
  obtain ⟨hrun, hclean⟩ := vif_record_mirrors_iff c
  let r₁ : RoutingVifs := ⟨OrdSet.insert ∅ 5,
    [(.add_vif 0 5 .unspec, true), (.bind_vif_to_table 5 1, true)]⟩
  let r₂ : RoutingVifs := ⟨(OrdSet.insert ∅ 5).erase 5,
    [(.add_vif 0 5 .unspec, true), (.bind_vif_to_table 5 1, true), (.del_vif 0, true),
      (.unbind_vif_form_table 5 1, true)]⟩
  have hadd : KeepsRecord c {} ⟨.add_vif 5 0, true, true⟩ := by
    intro ht
    cases ht
  have hdel : KeepsRecord c r₁ ⟨.del_vif 5 0, true, true⟩ := by
    rintro j ⟨v, hv⟩
    have hmem : ∀ v, (v, j) ∈ installed_vifs r₁.socket_calls → v = 0 ∧ j = 5 := by
      intro v hv
      exact Prod.mk.inj (List.mem_singleton.mp hv)
    exact ⟨fun _ => ⟨(hmem v hv).2, rfl, Or.inr rfl⟩, fun _ => ⟨rfl, fun v hv => (hmem v hv).1⟩⟩
  have hadded : ((vif_routing c).restrict fun s e => ∀ r, s = some r → KeepsRecord c r e).Run
      [⟨.add_vif 5 0, true, true⟩] (some r₁) :=
    Machine.Run.nil.snoc ⟨trivial, fun _ hr => Option.some.inj hr ▸ hadd⟩ rfl
  have hrestrict : ((vif_routing c).restrict fun s e => ∀ r, s = some r → KeepsRecord c r e).Run
      [⟨.add_vif 5 0, true, true⟩, ⟨.del_vif 5 0, true, true⟩] (some r₂) :=
    hadded.snoc ⟨trivial, fun _ hr => Option.some.inj hr ▸ hdel⟩ rfl
  obtain ⟨r, hr, hmirrors⟩ := (hrun _ _ hrestrict.of_restrict).mpr hrestrict _ _ List.prefix_rfl
    hrestrict.of_restrict
  obtain rfl := Option.some.inj hr
  refine ⟨r₂, hrestrict.of_restrict, hmirrors, (hclean r₂ _ _ _ hmirrors).mpr ?_⟩
  rintro i ⟨v, hv⟩
  exact absurd hv List.not_mem_nil

-- A tunnel that is added is not recorded, an interface whose table cannot be unbound is not
-- forgotten, and the destructor breaks off at a vif that it deletes.
theorem vif_record_wrong :
    (∃ r : RoutingVifs, (vif_routing (alike_interfaces ⟨true, some (.inet 1)⟩ 0)).Run
      [⟨.add_vif 5 0, true, true⟩] (some r) ∧ r.Installed 5 ∧ 5 ∉ r.m_added_ifs) ∧
    (∃ r : RoutingVifs, (vif_routing (alike_interfaces ⟨false, none⟩ 1)).Run
      [⟨.add_vif 5 0, true, true⟩, ⟨.del_vif 5 0, true, false⟩] (some r) ∧ ¬r.Installed 5 ∧
        5 ∈ r.m_added_ifs) ∧
    ∃ r : RoutingVifs, (vif_routing (alike_interfaces ⟨false, none⟩ 1)).Run
      [⟨.add_vif 5 0, true, true⟩] (some r) ∧ r.Installed 5 ∧ 5 ∈ r.m_added_ifs ∧
        r.clean_up (alike_interfaces ⟨false, none⟩ 1) (fun _ => 0) (fun _ => true)
          (fun _ => true) r.m_added_ifs.elems = none := by
  refine ⟨⟨⟨∅, [(.add_vif 0 5 (.inet 1), true)]⟩, Machine.Run.nil.snoc trivial rfl, ⟨0, ?_⟩, ?_⟩,
    ⟨⟨OrdSet.insert ∅ 5, [(.add_vif 0 5 .unspec, true), (.bind_vif_to_table 5 1, true),
      (.del_vif 0, true), (.unbind_vif_form_table 5 1, false)]⟩,
      (Machine.Run.nil.snoc trivial rfl).snoc trivial rfl, ?_, ?_⟩,
    ⟨⟨OrdSet.insert ∅ 5, [(.add_vif 0 5 .unspec, true), (.bind_vif_to_table 5 1, true)]⟩,
      Machine.Run.nil.snoc trivial rfl, ⟨0, ?_⟩, ?_, ?_⟩⟩
  · exact List.mem_singleton_self _
  · decide
  · rintro ⟨v, hv⟩
    exact absurd hv List.not_mem_nil
  · decide
  · exact List.mem_singleton_self _
  · decide
  · decide

end Main

end Mcproxy
