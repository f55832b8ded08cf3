import Mcproxy.Container.OrdSet
import Mcproxy.Transition.Machine
import Mcproxy.Def

namespace Mcproxy

open Container Transition

variable {W M : Type*}

-- `timing_db_value`: the worker, or a null pointer, and the message.
abbrev TimingDbValue (W M : Type*) := Option W × M

-- `timing_db`, a `std::map` from deadlines in nanoseconds.
abbrev TimingDb (W M : Type*) := OrdMap ℕ (TimingDbValue W M)

-- Besides the database: the entries whose message the worker thread has run and handed to
-- the worker, in that order, and the last reading of the clock.
structure Timing (W M : Type*) where
  m_db : TimingDb W M := ∅
  handed : List (ℕ × TimingDbValue W M) := []
  now : ℕ := 0

namespace Timing

-- `insert` does nothing if the deadline is already a key.
def add_time (now delay : ℕ) (msg_worker : Option W) (pr_msg : M) (t : Timing W M) : Timing W M :=
  { t with m_db := t.m_db.insert (after now delay, msg_worker, pr_msg), now := now }

-- One pass of the loop body after the wait.
def worker_thread (now : ℕ) (t : Timing W M) : Timing W M :=
  { m_db := t.m_db.eraseUpTo now
    handed := t.handed ++ t.m_db.elems.takeWhile (fun p => decide (p.1 ≤ now))
    now := now }

def stop_all_time [DecidableEq W] (msg_worker : Option W) (t : Timing W M) : Timing W M :=
  { t with m_db := t.m_db.filter (fun p => decide (p.2.1 ≠ msg_worker)) }

end Timing

inductive TimingEvent (W M : Type*)
  | add_time (now delay : ℕ) (msg_worker : Option W) (pr_msg : M)
  | worker_thread (now : ℕ)
  | stop_all_time (msg_worker : Option W)

-- Calls and passes exclude each other by `m_global_lock`; what they read off the clock does
-- not go back.
def timing_enabled (t : Timing W M) : TimingEvent W M → Prop
  | .add_time now _ _ _ | .worker_thread now => t.now ≤ now
  | .stop_all_time _ => True

instance (t : Timing W M) (e : TimingEvent W M) : Decidable (timing_enabled t e) :=
  match e with
  | .add_time now _ _ _ | .worker_thread now => inferInstanceAs (Decidable (t.now ≤ now))
  | .stop_all_time _ => inferInstanceAs (Decidable True)

section Schedule

-- What the component is for: entries that are armed and neither handed over nor stopped, and
-- entries that are handed over.
structure Schedule (W M : Type*) where
  outstanding : List (ℕ × TimingDbValue W M) := []
  delivered : List (ℕ × TimingDbValue W M) := []

variable [DecidableEq W]

def Schedule.step (s : Schedule W M) : TimingEvent W M → Schedule W M
  | .add_time now delay w m => { s with outstanding := s.outstanding ++ [(after now delay, w, m)] }
  -- every entry that is due, and no other
  | .worker_thread now =>
    { outstanding := s.outstanding.filter (fun p => decide (now < p.1))
      delivered := s.delivered ++ s.outstanding.filter (fun p => decide (p.1 ≤ now)) }
  | .stop_all_time w =>
    { s with outstanding := s.outstanding.filter (fun p => decide (p.2.1 ≠ w)) }

def schedule (es : List (TimingEvent W M)) : Schedule W M := es.foldl Schedule.step {}

theorem schedule_snoc (es : List (TimingEvent W M)) (e : TimingEvent W M) :
    schedule (es ++ [e]) = (schedule es).step e := by
  rw [schedule, List.foldl_append]
  rfl

-- After the calls and passes `es` nothing is lost and nothing is doubled, and what was handed
-- over was so in the order of the deadlines.
structure NoneLost (es : List (TimingEvent W M)) (t : Timing W M) : Prop where
  pending : t.m_db.elems.Perm (schedule es).outstanding
  handed : t.handed.Perm (schedule es).delivered
  order : t.handed.Pairwise (fun p p' => p.1 ≤ p'.1)

end Schedule

section Run

variable [DecidableEq W]

def timing_step (t : Timing W M) : TimingEvent W M → Timing W M
  | .add_time now delay msg_worker pr_msg => t.add_time now delay msg_worker pr_msg
  | .worker_thread now => t.worker_thread now
  | .stop_all_time msg_worker => t.stop_all_time msg_worker

def timing (W M : Type*) [DecidableEq W] : Machine (Timing W M) (TimingEvent W M) Empty where
  start := {}
  enabled := timing_enabled
  step := fun t e => .ok (timing_step t e)

instance (t : Timing W M) (e : TimingEvent W M) : Decidable ((timing W M).enabled t e) :=
  inferInstanceAs (Decidable (timing_enabled t e))

-- The deadline an `add_time` computes is not one the database holds already.
def deadline_free (t : Timing W M) : TimingEvent W M → Prop
  | .add_time now delay _ _ => after now delay ∉ t.m_db
  | _ => True

instance (t : Timing W M) (e : TimingEvent W M) : Decidable (deadline_free t e) :=
  match e with
  | .add_time now delay _ _ => inferInstanceAs (Decidable (after now delay ∉ t.m_db))
  | .worker_thread _ | .stop_all_time _ => inferInstanceAs (Decidable True)

-- What has been handed over is in order and not after the clock nor after anything pending.
structure TimingInv (t : Timing W M) : Prop where
  order : t.handed.Pairwise (fun p p' => p.1 ≤ p'.1)
  elapsed : ∀ p ∈ t.handed, p.1 ≤ t.now
  ahead : ∀ p ∈ t.handed, ∀ p' ∈ t.m_db.elems, p.1 ≤ p'.1

theorem timing_step_inv {t : Timing W M} {e : TimingEvent W M} (h : TimingInv t)
    (he : timing_enabled t e) : TimingInv (timing_step t e) := by
  cases e with
  | add_time now delay w m =>
    have hnow : t.now ≤ now := he
    refine ⟨h.order, fun p hp => (h.elapsed p hp).trans hnow, fun p hp p' hp' => ?_⟩
    rcases OrdSet.mem_of_mem_insertList _ hp' with rfl | hp'
    · calc p.1 ≤ now := (h.elapsed p hp).trans hnow
        _ ≤ after now delay := Nat.le_add_right ..
    · exact h.ahead p hp p' hp'
  | worker_thread now =>
    have hnow : t.now ≤ now := he
    obtain ⟨htake, hdrop⟩ := t.m_db.span_le_eq_filter now
    have hle : ∀ p ∈ (t.worker_thread now).handed, p.1 ≤ now := by
      intro p hp
      rcases List.mem_append.mp hp with hp | hp
      · exact (h.elapsed p hp).trans hnow
      · rw [htake] at hp
        exact of_decide_eq_true (List.mem_filter.mp hp).2
    refine ⟨List.pairwise_append.mpr ⟨h.order, ?_, fun p hp p' hp' => ?_⟩, hle,
      fun p hp p' hp' => ?_⟩
    · exact (t.m_db.sorted.sublist (List.takeWhile_sublist _)).imp fun hlt => hlt.le
    · exact h.ahead p hp p' ((List.takeWhile_sublist _).subset hp')
    · change p' ∈ t.m_db.elems.dropWhile _ at hp'
      rw [hdrop] at hp'
      exact (hle p hp).trans (of_decide_eq_true (List.mem_filter.mp hp').2).le
  | stop_all_time w =>
    exact ⟨h.order, h.elapsed, fun p hp p' hp' => h.ahead p hp p' (List.mem_filter.mp hp').1⟩

theorem timing_inv {t : Timing W M} (ht : (timing W M).Reachable t) : TimingInv t := by
  refine ht.invariant TimingInv ⟨.nil, by simp [timing], by simp [timing]⟩ ?_
  intro t e t' h he hs
  obtain rfl := Except.ok.inj hs
  exact timing_step_inv h he

-- One step keeps the database and the schedule together, unless it is an `add_time` whose
-- entry the database does not take.
theorem none_lost_step_iff {es : List (TimingEvent W M)} {t : Timing W M} {e : TimingEvent W M}
    (h : NoneLost es t) (hinv : TimingInv (timing_step t e)) :
    NoneLost (es ++ [e]) (timing_step t e) ↔ deadline_free t e := by
  cases e with
  | add_time now delay w m =>
    constructor
    · intro h' hmem
      have hlen := h'.pending.length_eq
      have heq : (timing_step t (.add_time now delay w m)).m_db = t.m_db :=
        OrdSet.insert_of_mem hmem
      rw [schedule_snoc, heq, h.pending.length_eq] at hlen
      simp [Schedule.step] at hlen
    · intro hfree
      have hfree : after now delay ∉ t.m_db := hfree
      refine ⟨?_, ?_, h.order⟩
      · rw [schedule_snoc]
        exact ((OrdSet.insert_perm hfree).trans (h.pending.cons _)).trans
          (List.perm_append_singleton _ _).symm
      · rw [schedule_snoc]
        exact h.handed
  | worker_thread now =>
    refine iff_of_true ⟨?_, ?_, hinv.order⟩ trivial
    · rw [schedule_snoc]
      change (t.m_db.elems.dropWhile _).Perm _
      rw [(t.m_db.span_le_eq_filter now).2]
      exact h.pending.filter _
    · rw [schedule_snoc]
      change (t.handed ++ t.m_db.elems.takeWhile _).Perm _
      rw [(t.m_db.span_le_eq_filter now).1]
      exact h.handed.append (h.pending.filter _)
  | stop_all_time w =>
    refine iff_of_true ⟨?_, ?_, h.order⟩ trivial
    · rw [schedule_snoc]
      exact h.pending.filter _
    · rw [schedule_snoc]
      exact h.handed

-- No armed timer is lost all along a run exactly when no two pending timers of it ever share
-- a deadline.
theorem none_lost_iff_deadlines_free (es : List (TimingEvent W M)) (t : Timing W M)
    (run : (timing W M).Run es t) :
    (∀ es' t', es' <+: es → (timing W M).Run es' t' → NoneLost es' t') ↔
      ((timing W M).restrict deadline_free).Run es t := by
  refine run.forall_iff_restrict ⟨.refl _, .refl _, .nil⟩ fun es t e t' run h he hs => ?_
  have hinv := timing_inv (run.snoc he hs).reachable
  obtain rfl := Except.ok.inj hs
  exact none_lost_step_iff h hinv

theorem none_lost_iff_deadlines_free_two_timers :
    ∃ t : Timing ℕ ℕ,
      (timing ℕ ℕ).Run
        [.add_time 0 2 (some 0) 4, .add_time 0 1 (some 0) 5, .worker_thread 1000000] t ∧
      t.handed = [(1000000, some 0, 5)] ∧ t.m_db.elems = [(2000000, some 0, 4)] ∧
      NoneLost [.add_time 0 2 (some 0) 4, .add_time 0 1 (some 0) 5, .worker_thread 1000000] t := by
  obtain ⟨t, hrun, hp⟩ := Machine.exists_run_of_exec ((timing ℕ ℕ).restrict deadline_free)
    [.add_time 0 2 (some 0) 4, .add_time 0 1 (some 0) 5, .worker_thread 1000000]
    (fun t => t.handed = [(1000000, some 0, 5)] && t.m_db.elems = [(2000000, some 0, 4)])
    (by decide +kernel)
  simp only [Bool.and_eq_true, decide_eq_true_eq] at hp
  refine ⟨t, hrun.of_restrict, hp.1, hp.2, ?_⟩
  exact (none_lost_iff_deadlines_free _ t hrun.of_restrict).mpr hrun _ t List.prefix_rfl
    hrun.of_restrict

-- Two timers of one millisecond armed within one reading of the clock, as in `test_timing`: the
-- second message never arrives.
theorem second_timer_lost :
    ∃ t : Timing ℕ ℕ,
      (timing ℕ ℕ).Run
        [.add_time 0 1 (some 0) 4, .add_time 0 1 (some 0) 5, .worker_thread 1000000] t ∧
      t.handed = [(1000000, some 0, 4)] ∧ t.m_db.elems = [] ∧
      ¬ NoneLost
        [.add_time 0 1 (some 0) 4, .add_time 0 1 (some 0) 5, .worker_thread 1000000] t := by
  obtain ⟨t, hrun, hp⟩ := Machine.exists_run_of_exec (timing ℕ ℕ)
    [.add_time 0 1 (some 0) 4, .add_time 0 1 (some 0) 5, .worker_thread 1000000]
    (fun t => t.handed = [(1000000, some 0, 4)] && t.m_db.elems = []) (by decide +kernel)
  simp only [Bool.and_eq_true, decide_eq_true_eq] at hp
  refine ⟨t, hrun, hp.1, hp.2, fun h => ?_⟩
  have hlen := h.handed.length_eq
  rw [hp.1] at hlen
  revert hlen
  decide +kernel

end Run

end Mcproxy
