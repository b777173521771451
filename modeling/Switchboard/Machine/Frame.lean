import Switchboard.Callback
import Switchboard.Reply

/-! # Calls in progress

A frame says how far a call has come. Either it waits for the answer to a callback, or it has a
piece of work to do. Teardowns that cannot be completed because their record is still referred to
leave the frames and wait on their own. -/

namespace Switchboard

/-- What a wake-up is part of, and so what the call answers after it. -/
inductive Wake where
  | signalled
  | queued
  | delivered (d : Nat) (t : Traffic)
deriving DecidableEq

/-- A call in progress. -/
inductive Frame where
  /-- A device is offered to the applications in the table, `asking` its driver about one. -/
  | installing (d : Nat) (cursor : Cursor) (asking : Option Nat)
  /-- An application is offered to the devices in the table, `asking` the driver of one. -/
  | registering (a : Nat) (origin : Origin) (cursor : Cursor) (asking : Option Nat)
  /-- News about a device are told, to `telling` now, then to the subscribers in `notices` and the
  observers in `rest`. -/
  | announcing (d : Nat) (news : News) (telling : Option Listener) (notices : List Notice)
      (rest : List Observer)
  /-- The devices that an application was linked to are told that it is released, `telling` one of
  them now and those in `rest` later. -/
  | releasing (a : Nat) (origin : Origin) (telling : Option Nat) (rest : List Nat)
  /-- A message is handed to a driver. -/
  | sending (d a : Nat) (origin : Origin) (m : Message)
  /-- An application is woken. -/
  | waking (a : Nat) (h : SignalHandler) (wake : Wake)
deriving DecidableEq

/-- What a change of the machine leads to: nothing at all, or a call has more work to do, or makes a
callback, or has ended. -/
inductive Outcome where
  | idle
  | works
  | asks (callback : Callback)
  | ends (reply : Reply)

namespace Frame

/-- The callback that a frame waits for. -/
def callback? : Frame → Option Callback
  | installing d _ (some a) => some (.register d a)
  | registering a _ _ (some d) => some (.register d a)
  | announcing d news (some listener) _ _ => some (.news listener news d)
  | releasing a _ (some d) _ => some (.release d a)
  | sending d a _ m => some (.send d a m)
  | waking a h _ => some (.wake a h)
  | _ => none

/-- Whether a frame has work to do or makes a callback. -/
def outcome (f : Frame) : Outcome :=
  match f.callback? with
  | some callback => .asks callback
  | none => .works

end Frame

/-- A teardown that waits until its record is no longer referred to. -/
inductive Teardown where
  | device (d : Nat)
  | appl (a : Nat) (origin : Origin)
deriving DecidableEq

/-- How many references hold a teardown up. -/
def Teardown.holders (r : Registry) : Teardown → Nat
  | device d => (r.devices.get d).lifecycle.refs
  | appl a _ => (r.appls.get a).lifecycle.refs

end Switchboard
