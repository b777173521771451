import Switchboard.NumberSet
import Switchboard.Text.Layout

/-! # Pools of numbers

A pool hands out the numbers `1..=capacity`, always the lowest that is free, and takes them back.
-/

namespace Switchboard

/-- A pool, known by the numbers that are in use. -/
structure NumberPool where
  inUse : NumberSet

/-- All numbers of a pool of this capacity are in use. -/
structure PoolExhausted where
  capacity : UInt16
deriving DecidableEq

namespace NumberPool

/-- The pool of the numbers up to `capacity`, all of them free. -/
def full (capacity : UInt16) : NumberPool := ⟨.empty capacity⟩

instance : Inhabited NumberPool := ⟨full 0⟩

/-- How many numbers the pool has, in use or free. -/
def capacity (p : NumberPool) : UInt16 := p.inUse.capacity

/-- Takes the lowest free number. -/
def allocate (p : NumberPool) : Except PoolExhausted (UInt16 × NumberPool) :=
  match p.inUse.takeLowest? with
  | some (n, s) => .ok (n, ⟨s⟩)
  | none => .error ⟨p.capacity⟩

/-- Gives a number back. -/
def free (p : NumberPool) (n : UInt16) : NumberPool := ⟨p.inUse.erase n⟩

/-- Whether a number is in use. -/
def isAllocated (p : NumberPool) (n : UInt16) : Bool := p.inUse.contains n

/-- How many numbers are in use. -/
def allocated (p : NumberPool) : Nat := p.inUse.size

/-- A full pool has the capacity that it is made for. -/
@[simp] theorem capacity_full (c : UInt16) : (full c).capacity = c := rfl

/-- A number that is given back does not change the capacity. -/
@[simp] theorem capacity_free (p : NumberPool) (n : UInt16) : (p.free n).capacity = p.capacity := by
  simp [free, capacity]

end NumberPool

/-- The wording of exhaustion. -/
def PoolExhausted.message (e : PoolExhausted) : String :=
  "identifier pool exhausted (" ++ Text.natText e.capacity.toNat ++ " ids in use)"

end Switchboard
