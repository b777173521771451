import Switchboard.Text.Layout

/-! # Rosters

A roster holds values under numbers in `1..=capacity` and remembers the order in which they were
entered. Every entry gets a serial number of its own, larger than all before it, so that a walk
needs only the serial number of the entry it saw last: it goes on with the first entry that was
made later, whatever has been entered or removed in the meantime. -/

namespace Switchboard

/-- A value in its place, with the serial number of its entry. -/
structure Slot (α : Type) where
  serial : Nat
  value : α

/-- Values under numbers, in order of entry. `order` lists serial numbers with the numbers entered,
ascending. -/
structure Roster (α : Type) where
  slots : Array (Option (Slot α))
  order : Array (Nat × UInt16)
  nextSerial : Nat

/-- A position in a walk: the serial number of the entry seen last. -/
structure Cursor where
  serial : Nat
deriving DecidableEq

namespace Cursor

/-- The position before the first entry. -/
def start : Cursor := ⟨0⟩

instance : Inhabited Cursor := ⟨start⟩

/-- The description of a position. -/
def describe (c : Cursor) : String := Text.wrapped "Cursor" (Text.natText c.serial)

end Cursor

namespace Roster

variable {α : Type}

/-- The empty roster of numbers up to `capacity`. -/
def empty (capacity : UInt16) : Roster α := ⟨Array.replicate capacity.toNat none, #[], 1⟩

instance : Inhabited (Roster α) := ⟨empty 0⟩

/-- The place of a number; 0 has none. -/
def place? (n : UInt16) : Option Nat := if n = 0 then none else some (n.toNat - 1)

/-- The slot of a number, if it is in range and taken. -/
def slot? (r : Roster α) (n : UInt16) : Option (Slot α) :=
  match place? n with
  | none => none
  | some i => (r.slots[i]?).join

/-- The value under a number. -/
def get? (r : Roster α) (n : UInt16) : Option α := (r.slot? n).map Slot.value

/-- Whether a number is in range and free. -/
def isFree (r : Roster α) (n : UInt16) : Bool :=
  match place? n with
  | none => false
  | some i => match r.slots[i]? with
    | some none => true
    | _ => false

/-- The roster with a value entered under a number, unless the number is out of range or taken. -/
def insert? (r : Roster α) (n : UInt16) (a : α) : Option (Roster α) :=
  if r.isFree n then
    some {
      slots := r.slots.setIfInBounds (n.toNat - 1) (some ⟨r.nextSerial, a⟩)
      order := r.order.push (r.nextSerial, n)
      nextSerial := r.nextSerial + 1 }
  else none

/-- How many of the entries between `lo` and `hi` have a serial number up to `serial`, counted from
the front: bisection, right because the order is ascending. -/
def seekFrom (order : Array (Nat × UInt16)) (serial : Nat) (lo hi : Nat) : Nat :=
  if lo < hi then
    let mid := (lo + hi) / 2
    if (order.getD mid (0, 0)).1 ≤ serial then seekFrom order serial (mid + 1) hi
    else seekFrom order serial lo mid
  else lo
termination_by hi - lo

/-- How many entries have a serial number up to `serial`. -/
def seek (r : Roster α) (serial : Nat) : Nat := seekFrom r.order serial 0 r.order.size

/-- The order of entry without the entry of a serial number. -/
def eraseSerial (r : Roster α) (serial : Nat) : Array (Nat × UInt16) :=
  -- serial numbers start at 1, so that the one before is not cut off
  let i := r.seek (serial - 1)
  if (r.order.getD i (0, 0)).1 = serial then (r.order.toList.eraseIdx i).toArray else r.order

/-- Removes the value under a number. -/
def remove? (r : Roster α) (n : UInt16) : Option (α × Roster α) :=
  match r.slot? n with
  | none => none
  | some s => some (s.value, {
      slots := r.slots.setIfInBounds (n.toNat - 1) none
      order := r.eraseSerial s.serial
      nextSerial := r.nextSerial })

/-- The first entry after a position: the position it is at, its number and its value. -/
def next? (r : Roster α) (c : Cursor) : Option (Cursor × UInt16 × α) :=
  match r.order[r.seek c.serial]? with
  | none => none
  | some (serial, n) => match r.get? n with
    -- does not arise: what stands in the order of entry stands under its number
    | none => none
    | some a => some (⟨serial⟩, n, a)

/-- Numbers and values in order of entry. -/
def toList (r : Roster α) : List (UInt16 × α) :=
  r.order.toList.filterMap fun e => (r.get? e.2).map fun a => (e.2, a)

/-- Values in order of entry. -/
def values (r : Roster α) : List α := r.toList.map Prod.snd

/-- The number of entries. -/
def size (r : Roster α) : Nat := r.order.size

/-- Whether there are no entries. -/
def isEmpty (r : Roster α) : Bool := r.order.isEmpty

/-! ## Basic facts -/

/-- An empty roster has no entries. -/
@[simp] theorem size_empty (c : UInt16) : (empty c : Roster α).size = 0 := rfl

/-- An empty roster lists nothing. -/
@[simp] theorem toList_empty (c : UInt16) : (empty c : Roster α).toList = [] := rfl

/-- Nothing stands under zero. -/
@[simp] theorem get?_zero (r : Roster α) : r.get? 0 = none := rfl

end Roster

end Switchboard
