import Mathlib.Algebra.Group.Nat.Defs
import Mathlib.Data.Int.Basic
import Mathlib.Order.Monotone.Defs

namespace Mcproxy

inductive McFilter
  | INCLUDE_MODE
  | EXCLUDE_MODE
  deriving DecidableEq, Repr

inductive GroupMemProtocol
  | IGMPv1
  | IGMPv2
  | IGMPv3
  | MLDv1
  | MLDv2
  deriving DecidableEq, Repr

namespace GroupMemProtocol

-- The enumerators are single bits, so that a family is a mask.
def value : GroupMemProtocol → ℕ
  | IGMPv1 => 0x1
  | IGMPv2 => 0x2
  | IGMPv3 => 0x4
  | MLDv1 => 0x8
  | MLDv2 => 0x10

end GroupMemProtocol

open GroupMemProtocol

def is_IPv4 (gmp : GroupMemProtocol) : Bool :=
  (IGMPv1.value ||| IGMPv2.value ||| IGMPv3.value) &&& gmp.value != 0

def is_IPv6 (gmp : GroupMemProtocol) : Bool := (MLDv1.value ||| MLDv2.value) &&& gmp.value != 0

def is_older_or_equal_version (older comp_to : GroupMemProtocol) : Bool :=
  decide (older.value ≤ comp_to.value)

def is_newest_version (gmp : GroupMemProtocol) : Bool := gmp == IGMPv3 || gmp == MLDv2

-- `gmp * 2`: the next bit up.
def get_next_newer_version (gmp : GroupMemProtocol) : GroupMemProtocol :=
  if is_newest_version gmp then gmp
  else match gmp with
    | IGMPv1 => IGMPv2
    | IGMPv2 => IGMPv3
    | IGMPv3 => MLDv1
    | MLDv1 => MLDv2
    | MLDv2 => MLDv2

-- A received record carries any byte as its type; `unknown` are the values that
-- are no enumerator.
inductive McastAddrRecordType
  | MODE_IS_INCLUDE
  | MODE_IS_EXCLUDE
  | CHANGE_TO_INCLUDE_MODE
  | CHANGE_TO_EXCLUDE_MODE
  | ALLOW_NEW_SOURCES
  | BLOCK_OLD_SOURCES
  | unknown (value : UInt8)
  deriving DecidableEq, Repr

-- An `unsigned int` stored in an `int`.
def to_int (n : UInt32) : ℤ := Int.bmod n.toNat (2 ^ 32)

-- Intervals are in the unit of the source's field: seconds or milliseconds.
structure TimersValues where
  robustness_variable : UInt32 := 2
  query_interval : ℕ := 125
  query_response_interval : ℕ := 10000
  startup_query_interval : ℕ := query_interval / 4
  startup_query_count : UInt32 := robustness_variable
  last_listener_query_interval : ℕ := 1000
  last_listener_query_count : UInt32 := robustness_variable
  deriving DecidableEq, Repr

namespace TimersValues

def get_multicast_address_listening_interval (tv : TimersValues) : ℕ :=
  1000 * (tv.robustness_variable.toNat * tv.query_interval) + tv.query_response_interval

def get_last_listener_query_time (tv : TimersValues) : ℕ :=
  tv.last_listener_query_interval * tv.last_listener_query_count.toNat

def get_older_host_present_interval (tv : TimersValues) : ℕ :=
  1000 * (tv.robustness_variable.toNat * tv.query_interval) + tv.query_response_interval

end TimersValues

-- `std::chrono::steady_clock`: the value each reading returns, in nanoseconds. Two
-- readings in a row may return the same value.
structure SteadyClock where
  reading : ℕ → ℕ
  mono : Monotone reading

-- Time points are nanoseconds and durations milliseconds.
def after (time_point duration : ℕ) : ℕ := time_point + 1000000 * duration

end Mcproxy
