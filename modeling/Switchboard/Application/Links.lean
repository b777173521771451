import Switchboard.Identifier
import Switchboard.NumberSet

/-! # Links of an application

An application is linked to the devices that accepted it. While a device is being asked its number
is reserved, so that no one asks it a second time; the answer either confirms the link or cancels
the reservation. Links are kept in the order of device numbers, each with the key of the device's
record, and beside them a set of the linked numbers, which routing looks at alone. -/

namespace Switchboard

/-- The devices that an application is linked to, and those that are being asked. -/
structure Links where
  pending : List DeviceId
  linked : List (DeviceId × Nat)
  bound : NumberSet

namespace Links

/-- No links yet, to devices with numbers up to `capacity`. -/
def empty (capacity : UInt16) : Links := ⟨[], [], .empty capacity⟩

instance : Inhabited Links := ⟨empty 0⟩

/-- The key of the record linked under a device number. -/
def find? (l : Links) (id : DeviceId) : Option Nat :=
  (l.linked.find? fun e => e.1 = id).map Prod.snd

/-- Reserves a device number, unless it is linked or reserved already. -/
def reserve? (l : Links) (id : DeviceId) : Option Links :=
  if (l.find? id).isSome ∨ id ∈ l.pending then none
  else some { l with pending := l.pending ++ [id] }

/-- Gives up the reservation of a device number. -/
def cancel (l : Links) (id : DeviceId) : Links :=
  { l with pending := l.pending.filter fun p => p ≠ id }

/-- Enters a link in its place among links in order of device numbers. -/
def enter (id : DeviceId) (key : Nat) : List (DeviceId × Nat) → List (DeviceId × Nat)
  | [] => [(id, key)]
  | e :: rest =>
    if id.number < e.1.number then (id, key) :: e :: rest
    else if e.1 = id then (id, key) :: rest
    else e :: enter id key rest

/-- Turns a reservation into a link to the record with the given key, unless the device has started
to retire meanwhile; the reservation is over in either case. Also says whether there is a link now,
to which the reference to the device then belongs. -/
def confirm (l : Links) (id : DeviceId) (key : Nat) (isRetiring : Bool) : Bool × Links :=
  let l := l.cancel id
  if isRetiring then (false, l)
  else (true, { l with linked := enter id key l.linked, bound := l.bound.insert id.number })

/-- Drops the link under a device number, handing out the key of the record it led to. -/
def unlink? (l : Links) (id : DeviceId) : Option (Nat × Links) :=
  match l.find? id with
  | none => none
  | some key => some (key, { l with
      linked := l.linked.filter fun e => e.1 ≠ id
      bound := l.bound.erase id.number })

/-- Drops every link. -/
def clear (l : Links) : Links :=
  { l with
    linked := []
    bound := l.linked.foldl (fun s e => s.erase e.1.number) l.bound }

/-- The keys of the linked records in the order of device numbers. -/
def keys (l : Links) : List Nat := l.linked.map Prod.snd

/-- Whether a device number is linked, as routing sees it. -/
def isBound (l : Links) (id : DeviceId) : Bool := l.bound.contains id.number

/-- No link is left. -/
@[simp] theorem keys_clear (l : Links) : l.clear.keys = [] := rfl

/-- What is reserved stays reserved. -/
@[simp] theorem pending_clear (l : Links) : l.clear.pending = l.pending := rfl

/-- A reservation that is given up leaves the links as they are. -/
@[simp] theorem linked_cancel (l : Links) (id : DeviceId) : (l.cancel id).linked = l.linked := rfl

end Links

end Switchboard
