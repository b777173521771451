import Switchboard.NumberPool
import Switchboard.Report.Faults

/-! # Trials of number pools

A trial is a list of operations on one pool, each of which yields an answer. -/

namespace Switchboard.NumberPool

/-- An operation on a pool. -/
inductive Operation where
  | allocate
  /-- Allocates `n` times; the last result is the answer. -/
  | allocateMany (n : Nat)
  /-- Frees a number if it is in use. -/
  | free (n : UInt16)
  | isAllocated (n : UInt16)
  | allocated
  | capacity

/-- Allocates a number and shows it, or the exhaustion of the pool. -/
def allocateShown (p : NumberPool) : Json × NumberPool :=
  match p.allocate with
  | .ok (n, q) => (.nat n.toNat, q)
  | .error e => (e.toJson, p)

/-- Allocates `n` times and shows the last result, which so far is `shown`. -/
def allocateTimes : Nat → Json × NumberPool → Json × NumberPool
  | 0, s => s
  | n + 1, s => allocateTimes n s.2.allocateShown

/-- Performs an operation. -/
def operate (p : NumberPool) : Operation → Json × NumberPool
  | .allocate => p.allocateShown
  | .allocateMany n => allocateTimes n (.null, p)
  | .free n => (.bool (p.isAllocated n), if p.isAllocated n then p.free n else p)
  | .isAllocated n => (.bool (p.isAllocated n), p)
  | .allocated => (.nat p.allocated, p)
  | .capacity => (.nat p.capacity.toNat, p)

/-- The answers of a trial. -/
def answers (p : NumberPool) : List Operation → List Json
  | [] => []
  | o :: rest => let r := p.operate o; r.1 :: r.2.answers rest

end Switchboard.NumberPool
