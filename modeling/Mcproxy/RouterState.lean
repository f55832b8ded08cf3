import Mathlib.Data.Set.Lattice
import Mathlib.Order.CompletePartialOrder
import Mcproxy.Def

namespace Mcproxy

open McastAddrRecordType

-- State of a multicast router for one multicast address, RFC 3810 section 7.2: the sources
-- listeners asked for, or the requested and the excluded sources.
inductive RouterState (α : Type*)
  | INCLUDE (A : Set α)
  | EXCLUDE (X Y : Set α)

namespace RouterState

variable {α : Type*}

-- New router state of the tables in sections 7.4.1 and 7.4.2.
def receive : RouterState α → McastAddrRecordType → Set α → RouterState α
  | INCLUDE A, MODE_IS_INCLUDE, B => INCLUDE (A ∪ B)
  | INCLUDE A, MODE_IS_EXCLUDE, B => EXCLUDE (A ∩ B) (B \ A)
  | EXCLUDE X Y, MODE_IS_INCLUDE, A => EXCLUDE (X ∪ A) (Y \ A)
  | EXCLUDE _ Y, MODE_IS_EXCLUDE, A => EXCLUDE (A \ Y) (Y ∩ A)
  | INCLUDE A, ALLOW_NEW_SOURCES, B => INCLUDE (A ∪ B)
  | INCLUDE A, BLOCK_OLD_SOURCES, _ => INCLUDE A
  | INCLUDE A, CHANGE_TO_EXCLUDE_MODE, B => EXCLUDE (A ∩ B) (B \ A)
  | INCLUDE A, CHANGE_TO_INCLUDE_MODE, B => INCLUDE (A ∪ B)
  | EXCLUDE X Y, ALLOW_NEW_SOURCES, A => EXCLUDE (X ∪ A) (Y \ A)
  | EXCLUDE X Y, BLOCK_OLD_SOURCES, A => EXCLUDE (X ∪ (A \ Y)) Y
  | EXCLUDE _ Y, CHANGE_TO_EXCLUDE_MODE, A => EXCLUDE (A \ Y) (Y ∩ A)
  | EXCLUDE X Y, CHANGE_TO_INCLUDE_MODE, A => EXCLUDE (X ∪ A) (Y \ A)
  | s, unknown _, _ => s

-- The sources the action column sets to the Multicast Address Listening Interval.
def mali_set : RouterState α → McastAddrRecordType → Set α → Set α
  | INCLUDE _, MODE_IS_INCLUDE, B => B
  | EXCLUDE _ _, MODE_IS_INCLUDE, A => A
  | EXCLUDE X Y, MODE_IS_EXCLUDE, A => (A \ X) \ Y
  | INCLUDE _, ALLOW_NEW_SOURCES, B => B
  | INCLUDE _, CHANGE_TO_INCLUDE_MODE, B => B
  | EXCLUDE _ _, ALLOW_NEW_SOURCES, A => A
  | EXCLUDE _ _, CHANGE_TO_INCLUDE_MODE, A => A
  | _, _, _ => ∅

-- The sources of the column's Send Q(MA, ...).
def query_set : RouterState α → McastAddrRecordType → Set α → Set α
  | INCLUDE A, BLOCK_OLD_SOURCES, B => A ∩ B
  | INCLUDE A, CHANGE_TO_EXCLUDE_MODE, B => A ∩ B
  | INCLUDE A, CHANGE_TO_INCLUDE_MODE, B => A \ B
  | EXCLUDE _ Y, BLOCK_OLD_SOURCES, A => A \ Y
  | EXCLUDE _ Y, CHANGE_TO_EXCLUDE_MODE, A => A \ Y
  | EXCLUDE X _, CHANGE_TO_INCLUDE_MODE, A => X \ A
  | _, _, _ => ∅

-- Section 7.2.3: the timer of the sources in S expires.
def source_timer_expired (S : Set α) : RouterState α → RouterState α
  | INCLUDE A => INCLUDE (A \ S)
  | EXCLUDE X Y => EXCLUDE (X \ S) (Y ∪ (X ∩ S))

-- Section 7.2.2
def filter_timer_expired : RouterState α → RouterState α
  | INCLUDE A => INCLUDE A
  | EXCLUDE X _ => INCLUDE X

-- The sources a router in this state forwards.
def accept : RouterState α → Set α
  | INCLUDE A => A
  | EXCLUDE _ Y => Yᶜ

-- The sources that are asked for by listeners or asked about by the router.
def requested : RouterState α → Set α
  | INCLUDE A => A
  | EXCLUDE X _ => X

-- No source is both requested and excluded.
def Consistent : RouterState α → Prop
  | INCLUDE _ => True
  | EXCLUDE X Y => Disjoint X Y

theorem accept_subset_receive (s : RouterState α) (type : McastAddrRecordType) (B : Set α) :
    s.accept ⊆ (s.receive type B).accept := by
  intro a ha
  cases s with
  | INCLUDE A =>
    cases type with
    | MODE_IS_INCLUDE | ALLOW_NEW_SOURCES | CHANGE_TO_INCLUDE_MODE => exact Or.inl ha
    | MODE_IS_EXCLUDE | CHANGE_TO_EXCLUDE_MODE => exact fun hy => hy.2 ha
    | BLOCK_OLD_SOURCES | unknown => exact ha
  | EXCLUDE X Y =>
    cases type with
    | MODE_IS_INCLUDE | ALLOW_NEW_SOURCES | CHANGE_TO_INCLUDE_MODE => exact fun hy => ha hy.1
    | MODE_IS_EXCLUDE | CHANGE_TO_EXCLUDE_MODE => exact fun hy => ha hy.1
    | BLOCK_OLD_SOURCES | unknown => exact ha

-- A source that is asked about stays.
theorem query_set_subset_requested (s : RouterState α) (type : McastAddrRecordType) (B : Set α) :
    s.query_set type B ⊆ (s.receive type B).requested := by
  intro a ha
  cases s with
  | INCLUDE A =>
    cases type with
    | BLOCK_OLD_SOURCES => exact ha.1
    | CHANGE_TO_EXCLUDE_MODE => exact ha
    | CHANGE_TO_INCLUDE_MODE => exact Or.inl ha.1
    | ALLOW_NEW_SOURCES | MODE_IS_INCLUDE | MODE_IS_EXCLUDE | unknown => cases ha
  | EXCLUDE X Y =>
    cases type with
    | BLOCK_OLD_SOURCES => exact Or.inr ha
    | CHANGE_TO_EXCLUDE_MODE => exact ha
    | CHANGE_TO_INCLUDE_MODE => exact Or.inl ha.1
    | ALLOW_NEW_SOURCES | MODE_IS_INCLUDE | MODE_IS_EXCLUDE | unknown => cases ha

theorem source_timer_expired_accept_subset (S : Set α) (s : RouterState α) :
    (s.source_timer_expired S).accept ⊆ s.accept := by
  cases s with
  | INCLUDE A => exact Set.sdiff_subset
  | EXCLUDE X Y => exact fun a ha hy => ha (Or.inl hy)

-- Here the requested sources must not be among the excluded ones.
theorem filter_timer_expired_accept_subset {s : RouterState α} (hs : s.Consistent) :
    s.filter_timer_expired.accept ⊆ s.accept := by
  cases s with
  | INCLUDE A => exact subset_rfl
  | EXCLUDE X Y => exact fun _ ha => Set.disjoint_left.mp hs ha

end RouterState

-- What can happen to the state of a router for one multicast address.
inductive RouterEvent (α : Type*)
  | received (record_type : McastAddrRecordType) (B : Set α)
  | source_timer_expired (S : Set α)
  | filter_timer_expired

def RouterState.step {α : Type*} (s : RouterState α) : RouterEvent α → RouterState α
  | .received record_type B => s.receive record_type B
  | .source_timer_expired S => s.source_timer_expired S
  | .filter_timer_expired => s.filter_timer_expired

end Mcproxy
