import Mcproxy.Container.Heap
import Mcproxy.Transition.Machine
import Mathlib.Data.Prod.Lex
import Mathlib.Order.Nat

namespace Mcproxy

open Container Transition

variable {P : Type*}

inductive MessagePriority
  | USER_INPUT
  | SYSTEMIC
  | LOSEABLE
  deriving DecidableEq, Repr

namespace MessagePriority

def value : MessagePriority → ℕ
  | USER_INPUT => 1
  | SYSTEMIC => 10
  | LOSEABLE => 100

end MessagePriority

open MessagePriority

-- What the queue looks at of a message, and the rest of it.
structure ProxyMsg (P : Type*) where
  m_prio : MessagePriority
  payload : P
  deriving DecidableEq, Repr

-- A message in the queue with its number among those the queue has taken in.
structure Queued (P : Type*) where
  arrival : ℕ
  msg : ProxyMsg P
  deriving DecidableEq, Repr

-- `comp_proxy_msg` puts the greater value behind.
def Queued.priority (x : Queued P) : ℕ := x.msg.m_prio.value

-- The order the messages should leave in: by priority, then by arrival.
def Queued.rank (x : Queued P) : ℕ ×ₗ ℕ := toLex (x.priority, x.arrival)

theorem Queued.rank_lt_iff {x y : Queued P} :
    x.rank < y.rank ↔ x.priority < y.priority ∨ x.priority = y.priority ∧ x.arrival < y.arrival :=
  Prod.Lex.toLex_lt_toLex

-- Besides the vector of the priority queue and its maximal size: the messages taken in and
-- the messages handed out, each of these with how many had been taken in by then.
structure MessageQueue (P : Type*) where
  m_q : List (Queued P) := []
  m_size : UInt32
  accepted : List (Queued P) := []
  dequeued : List (ℕ × Queued P) := []

namespace MessageQueue

def enqueue (t : ProxyMsg P) (q : MessageQueue P) : MessageQueue P :=
  let x : Queued P := ⟨q.accepted.length, t⟩
  { q with m_q := Heap.push Queued.priority q.m_q x, accepted := q.accepted ++ [x] }

def enqueue_loseable (t : ProxyMsg P) (q : MessageQueue P) : Bool × MessageQueue P :=
  if q.m_q.length < q.m_size.toNat then (true, q.enqueue t) else (false, q)

-- `none` as long as there is nothing to hand out: the caller waits.
def dequeue (q : MessageQueue P) : Option (ProxyMsg P × MessageQueue P) :=
  match q.m_q with
  | [] => none
  | top :: _ =>
    some (top.msg, { q with
      m_q := Heap.pop Queued.priority q.m_q
      dequeued := q.dequeued ++ [(q.accepted.length, top)] })

-- `worker::add_msg`
def add_msg (msg : ProxyMsg P) (q : MessageQueue P) : MessageQueue P :=
  if msg.m_prio = LOSEABLE then (q.enqueue_loseable msg).2 else q.enqueue msg

theorem add_msg_cases (msg : ProxyMsg P) (q : MessageQueue P) :
    q.add_msg msg = q.enqueue msg ∨ q.add_msg msg = q := by
  unfold add_msg enqueue_loseable
  split_ifs
  · exact Or.inl rfl
  · exact Or.inr rfl
  · exact Or.inl rfl

end MessageQueue

inductive QueueEvent (P : Type*)
  | add_msg (msg : ProxyMsg P)
  | dequeue

section Run

def queue_step (q : MessageQueue P) : QueueEvent P → MessageQueue P
  | .add_msg msg => q.add_msg msg
  | .dequeue => (q.dequeue.map Prod.snd).getD q

-- The calls exclude each other by `m_global_lock`.
def message_queue (P : Type*) (m_size : UInt32) :
    Machine (MessageQueue P) (QueueEvent P) Empty where
  start := { m_size := m_size }
  enabled := fun q e =>
    match e with
    | .add_msg _ => True
    | .dequeue => q.m_q ≠ []
  step := fun q e => .ok (queue_step q e)

instance (m_size : UInt32) (q : MessageQueue P) (e : QueueEvent P) :
    Decidable ((message_queue P m_size).enabled q e) :=
  match e with
  | .add_msg _ => inferInstanceAs (Decidable True)
  | .dequeue => decidable_of_iff (q.m_q.isEmpty = false) (by simp [message_queue])

-- `[x, y]` being a sublist says that `x` was handed out, and `y` after it.
structure InOrder (q : MessageQueue P) : Prop where
  arrival : ∀ x ∈ q.accepted, ∀ d ∈ q.dequeued, x.priority = d.2.priority →
    x.arrival < d.2.arrival → [x, d.2].Sublist (q.dequeued.map Prod.snd)
  priority : ∀ x ∈ q.accepted, ∀ d ∈ q.dequeued, x.arrival < d.1 →
    x.priority < d.2.priority → [x, d.2].Sublist (q.dequeued.map Prod.snd)

-- Of two siblings with the same priority the right one came first, and of its priority the last
-- message of the vector came last.
def ties_settled (q : MessageQueue P) : QueueEvent P → Prop
  | .add_msg _ => True
  | .dequeue =>
    (∀ i < q.m_q.length, ∀ _ : 2 * i + 3 < q.m_q.length,
      q.m_q[2 * i + 1].priority = q.m_q[2 * i + 2].priority →
        q.m_q[2 * i + 2].arrival < q.m_q[2 * i + 1].arrival) ∧
    ∀ last ∈ q.m_q.getLast?, ∀ x ∈ q.m_q, x.priority = last.priority → x.arrival ≤ last.arrival

instance (q : MessageQueue P) (e : QueueEvent P) : Decidable (ties_settled q e) :=
  match e with
  | .add_msg _ => inferInstanceAs (Decidable True)
  | .dequeue => inferInstanceAs (Decidable (_ ∧ _))

-- Every message taken in is handed out or waiting, and the numbers count up.
structure QueueInv (q : MessageQueue P) : Prop where
  kept : q.accepted.Perm (q.dequeued.map Prod.snd ++ q.m_q)
  numbered : ∀ x ∈ q.accepted, x.arrival < q.accepted.length
  earlier : ∀ d ∈ q.dequeued, d.1 ≤ q.accepted.length
  heap : Heap.IsHeap Queued.priority q.m_q

variable {q : MessageQueue P} {msg : ProxyMsg P}

theorem QueueInv.waiting (h : QueueInv q) {x : Queued P} (hx : x ∈ q.m_q) : x ∈ q.accepted :=
  h.kept.mem_iff.mpr (List.mem_append_right _ hx)

theorem QueueInv.handed_out (h : QueueInv q) {d : ℕ × Queued P} (hd : d ∈ q.dequeued) :
    d.2 ∈ q.accepted :=
  h.kept.mem_iff.mpr (List.mem_append_left _ (List.mem_map_of_mem hd))

theorem QueueInv.enqueue (h : QueueInv q) (msg : ProxyMsg P) : QueueInv (q.enqueue msg) where
  kept := by
    refine (List.perm_append_singleton _ _).trans ?_
    refine ((h.kept.cons _).trans List.perm_middle.symm).trans ?_
    exact (Heap.push_perm Queued.priority q.m_q _).symm.append_left _
  numbered := by
    intro x hx
    change x.arrival < (q.accepted ++ [_]).length
    rw [List.length_append, List.length_singleton]
    rcases List.mem_append.mp hx with hx | hx
    · exact (h.numbered x hx).trans (Nat.lt_succ_self _)
    · rw [List.mem_singleton.mp hx]
      exact Nat.lt_succ_self _
  earlier := by
    intro d hd
    change d.1 ≤ (q.accepted ++ [_]).length
    rw [List.length_append, List.length_singleton]
    exact (h.earlier d hd).trans (Nat.le_succ _)
  heap := h.heap.push _

theorem QueueInv.dequeue (h : QueueInv q) {top : Queued P} {rest : List (Queued P)}
    (hq : q.m_q = top :: rest) : QueueInv (queue_step q .dequeue) := by
  simp only [queue_step, MessageQueue.dequeue, hq, Option.map_some, Option.getD_some]
  refine ⟨?_, h.numbered, ?_, ?_⟩
  · have hkept := h.kept
    rw [hq] at hkept
    simp only [List.map_append, List.map_cons, List.map_nil, List.append_assoc]
    exact hkept.trans ((Heap.pop_perm Queued.priority top rest).symm.append_left _)
  · intro d hd
    rcases List.mem_append.mp hd with hd | hd
    · exact h.earlier d hd
    · rw [List.mem_singleton.mp hd]
  · exact (hq ▸ h.heap).pop

-- Whatever the vector is ordered by: a message that orders before the one at the front has
-- been handed out.
theorem QueueInv.handed_out_of_lt (h : QueueInv q) {κ : Type*} [LinearOrder κ] {key : Queued P → κ}
    (hheap : Heap.IsHeap key q.m_q) {top x : Queued P} {rest : List (Queued P)}
    (hq : q.m_q = top :: rest) (hx : x ∈ q.accepted) (hlt : key x < key top) :
    [x, top].Sublist ((q.dequeued ++ [(q.accepted.length, top)]).map Prod.snd) := by
  rcases List.mem_append.mp (h.kept.mem_iff.mp hx) with hout | hin
  · rw [List.map_append]
    exact (List.singleton_sublist.mpr hout).append (.refl _)
  · obtain ⟨i, hi, rfl⟩ := List.getElem_of_mem hin
    have hfront := hheap.front_le i hi
    simp only [hq, List.getElem_cons_zero] at hfront
    simp only [hq] at hlt
    exact absurd hlt (not_lt.mpr hfront)

-- Both halves of the order are of this form.
def HandedOutBefore (before : Queued P → ℕ × Queued P → Prop) (q : MessageQueue P) : Prop :=
  ∀ x ∈ q.accepted, ∀ d ∈ q.dequeued, before x d → [x, d.2].Sublist (q.dequeued.map Prod.snd)

variable {before : Queued P → ℕ × Queued P → Prop}

-- A new message comes too late to have gone before one that was handed out.
theorem HandedOutBefore.enqueue (h : HandedOutBefore before q)
    (hnew : ∀ d ∈ q.dequeued, ¬ before ⟨q.accepted.length, msg⟩ d) :
    HandedOutBefore before (q.enqueue msg) := by
  intro x hx d hd hb
  rcases List.mem_append.mp hx with hx | hx
  · exact h x hx d hd hb
  · rw [List.mem_singleton.mp hx] at hb
    exact absurd hb (hnew d hd)

theorem HandedOutBefore.dequeue (h : HandedOutBefore before q) (hinv : QueueInv q) {κ : Type*}
    [LinearOrder κ] {key : Queued P → κ} (hheap : Heap.IsHeap key q.m_q) {top : Queued P}
    {rest : List (Queued P)} (hq : q.m_q = top :: rest)
    (hkey : ∀ x ∈ q.accepted, before x (q.accepted.length, top) → key x < key top) :
    HandedOutBefore before (queue_step q .dequeue) := by
  simp only [queue_step, MessageQueue.dequeue, hq, Option.map_some, Option.getD_some]
  intro x hx d hd hb
  rcases List.mem_append.mp hd with hd | hd
  · exact (h x hx d hd hb).trans (by simp)
  · obtain rfl := List.mem_singleton.mp hd
    exact hinv.handed_out_of_lt hheap hq hx (hkey x hx hb)

-- What holds in every run.
structure PriorityInv (q : MessageQueue P) : Prop extends QueueInv q where
  priority : HandedOutBefore (fun x d => x.arrival < d.1 ∧ x.priority < d.2.priority) q

theorem queue_step_priority {m_size : UInt32} {e : QueueEvent P} (h : PriorityInv q)
    (he : (message_queue P m_size).enabled q e) : PriorityInv (queue_step q e) := by
  cases e with
  | add_msg msg =>
    change PriorityInv (q.add_msg msg)
    rcases q.add_msg_cases msg with hadd | hadd
    · rw [hadd]
      refine ⟨h.toQueueInv.enqueue msg, h.priority.enqueue fun d hd hb => ?_⟩
      have := h.earlier d hd
      have := hb.1
      dsimp only at this
      omega
    · rw [hadd]
      exact h
  | dequeue =>
    obtain ⟨top, rest, hq⟩ := List.exists_cons_of_ne_nil he
    exact ⟨h.toQueueInv.dequeue hq, h.priority.dequeue h.toQueueInv h.heap hq fun x _ hb => hb.2⟩

theorem priority_inv {m_size : UInt32} (hq : (message_queue P m_size).Reachable q) :
    PriorityInv q := by
  refine hq.invariant PriorityInv ⟨⟨?_, ?_, ?_, ?_⟩, ?_⟩ ?_
  · exact .refl _
  · exact fun x hx => absurd hx List.not_mem_nil
  · exact fun d hd => absurd hd List.not_mem_nil
  · exact fun i hi => absurd hi (Nat.not_lt_zero i)
  · exact fun x hx => absurd hx List.not_mem_nil
  · intro q e q' h he hs
    obtain rfl := Except.ok.inj hs
    exact queue_step_priority h he

-- What holds as long as the ties are settled by arrival.
structure ArrivalInv (q : MessageQueue P) : Prop where
  heap : Heap.IsHeap Queued.rank q.m_q
  arrival : HandedOutBefore (fun x d => x.priority = d.2.priority ∧ x.arrival < d.2.arrival) q

-- The newest message is compared by priority and by rank with the same result.
theorem QueueInv.push_eq (h : QueueInv q) (msg : ProxyMsg P) :
    Heap.push Queued.priority q.m_q ⟨q.accepted.length, msg⟩ =
      Heap.push Queued.rank q.m_q ⟨q.accepted.length, msg⟩ := by
  apply Heap.push_congr
  intro x hx
  have hlt := h.numbered x (h.waiting hx)
  rw [Queued.rank_lt_iff]
  dsimp only
  omega

-- Then `pop_heap` rearranges the vector as it would if `comp_proxy_msg` looked at the arrival.
theorem pop_eq_of_ties_settled (h : ties_settled q .dequeue) :
    Heap.pop Queued.priority q.m_q = Heap.pop Queued.rank q.m_q := by
  refine Heap.pop_congr (fun i hi => ?_) fun last hlast x hx => ?_
  · have hright := h.1 i (by omega) hi
    rw [Queued.rank_lt_iff]
    omega
  · have hle := h.2 last hlast x hx
    rw [Queued.rank_lt_iff]
    omega

theorem queue_step_arrival {m_size : UInt32} {e : QueueEvent P} (hinv : QueueInv q)
    (h : ArrivalInv q) (he : (message_queue P m_size).enabled q e) (hties : ties_settled q e) :
    ArrivalInv (queue_step q e) := by
  cases e with
  | add_msg msg =>
    change ArrivalInv (q.add_msg msg)
    rcases q.add_msg_cases msg with hadd | hadd
    · rw [hadd]
      refine ⟨?_, h.arrival.enqueue fun d hd hb => ?_⟩
      · change Heap.IsHeap Queued.rank (Heap.push Queued.priority q.m_q _)
        rw [hinv.push_eq msg]
        exact h.heap.push _
      · have := hinv.numbered d.2 (hinv.handed_out hd)
        have := hb.2
        dsimp only at this
        omega
    · rw [hadd]
      exact h
  | dequeue =>
    obtain ⟨top, rest, hq⟩ := List.exists_cons_of_ne_nil he
    refine ⟨?_, h.arrival.dequeue hinv h.heap hq fun x _ hb => ?_⟩
    · have hpop := h.heap.pop
      rw [← pop_eq_of_ties_settled hties] at hpop
      simpa only [queue_step, MessageQueue.dequeue, hq, Option.map_some, Option.getD_some]
        using hpop
    · exact Queued.rank_lt_iff.mpr (Or.inr hb)

-- In a run whose dequeues settle no tie against the arrival order the messages leave by priority
-- and, among those of one priority, as they came.
theorem in_order_of_ties_settled (m_size : UInt32) (es : List (QueueEvent P)) (q : MessageQueue P)
    (run : ((message_queue P m_size).restrict ties_settled).Run es q) : InOrder q := by
  have hq := run.reachable
  have harr : ArrivalInv q := by
    refine hq.invariant_of QueueInv ArrivalInv ?_ ⟨?_, ?_⟩ ?_
    · exact fun q hq => (priority_inv hq.of_restrict).toQueueInv
    · exact fun i hi => absurd hi (Nat.not_lt_zero i)
    · exact fun x hx => absurd hx List.not_mem_nil
    · intro q e q' hinv h he hs
      obtain rfl := Except.ok.inj hs
      exact queue_step_arrival hinv h he.1 he.2
  have hprio := (priority_inv hq.of_restrict).priority
  exact ⟨fun x hx d hd heq hlt => harr.arrival x hx d hd ⟨heq, hlt⟩,
    fun x hx d hd hlt hprio' => hprio x hx d hd ⟨hlt, hprio'⟩⟩

theorem in_order_of_ties_settled_two_records :
    ∃ q : MessageQueue ℕ,
      ((message_queue ℕ 150).restrict ties_settled).Run
        [.add_msg ⟨LOSEABLE, 0⟩, .add_msg ⟨LOSEABLE, 1⟩, .dequeue, .add_msg ⟨SYSTEMIC, 2⟩, .dequeue,
          .dequeue] q ∧
      q.dequeued.map (fun d => d.2.msg.payload) = [0, 2, 1] ∧ InOrder q := by
  obtain ⟨q, hrun, hp⟩ := Machine.exists_run_of_exec
    ((message_queue ℕ 150).restrict ties_settled)
    [.add_msg ⟨LOSEABLE, 0⟩, .add_msg ⟨LOSEABLE, 1⟩, .dequeue, .add_msg ⟨SYSTEMIC, 2⟩, .dequeue,
      .dequeue]
    (fun q => q.dequeued.map (fun d => d.2.msg.payload) = [0, 2, 1]) (by decide +kernel)
  exact ⟨q, hrun, of_decide_eq_true hp, in_order_of_ties_settled 150 _ q hrun⟩

-- Two records wait when a timer message arrives. It goes to the front and pushes the first record
-- to the last place, from where the next dequeue puts it behind the second one.
theorem timer_swaps_records :
    ∃ q : MessageQueue ℕ,
      (message_queue ℕ 150).Run
        [.add_msg ⟨LOSEABLE, 0⟩, .add_msg ⟨LOSEABLE, 1⟩, .add_msg ⟨SYSTEMIC, 2⟩, .dequeue, .dequeue]
        q ∧
      q.dequeued.map (fun d => d.2.msg.payload) = [2, 1] ∧
      q.m_q.map (fun x => x.msg.payload) = [0] ∧ ¬ InOrder q := by
  obtain ⟨q, hrun, hp⟩ := Machine.exists_run_of_exec (message_queue ℕ 150)
    [.add_msg ⟨LOSEABLE, 0⟩, .add_msg ⟨LOSEABLE, 1⟩, .add_msg ⟨SYSTEMIC, 2⟩, .dequeue, .dequeue]
    (fun q => q.accepted = [⟨0, LOSEABLE, 0⟩, ⟨1, LOSEABLE, 1⟩, ⟨2, SYSTEMIC, 2⟩] &&
      (q.dequeued = [(3, ⟨2, SYSTEMIC, 2⟩), (3, ⟨1, LOSEABLE, 1⟩)] &&
        q.m_q = [⟨0, LOSEABLE, 0⟩])) (by decide +kernel)
  simp only [Bool.and_eq_true, decide_eq_true_eq] at hp
  obtain ⟨hacc, hdeq, hq⟩ := hp
  refine ⟨q, hrun, by rw [hdeq]; rfl, by rw [hq]; rfl, fun h => ?_⟩
  have := h.arrival ⟨0, LOSEABLE, 0⟩ (by simp [hacc]) (3, ⟨1, LOSEABLE, 1⟩) (by simp [hdeq]) rfl
    Nat.zero_lt_one
  rw [hdeq] at this
  revert this
  decide

end Run

end Mcproxy
