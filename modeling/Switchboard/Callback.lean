import Switchboard.Registry.Basic

/-! # Callbacks

The callbacks that a switchboard makes on drivers, observers, subscribers and wake-up handlers, and
the answers it takes from them. -/

namespace Switchboard

/-- What is said about a device. -/
inductive News where
  | added
  | removed
deriving DecidableEq

/-- The command by which a facade passes news on. -/
def News.command : News → UInt32
  | added => 0
  | removed => 1

/-- News as a facade passes them on to one subscriber, with the profile of a device that has been
added. -/
structure Notice where
  facade : Nat
  subscriber : Subscriber
  news : News
  controller : UInt16
  profile : Option Profile
deriving DecidableEq

/-- One who is being told about a device. -/
inductive Listener where
  | observer (tag : Nat)
  | subscriber (notice : Notice)
deriving DecidableEq

/-- A callback in progress. -/
inductive Callback where
  | register (d a : Nat)
  | release (d a : Nat)
  | send (d a : Nat) (m : Message)
  | news (listener : Listener) (news : News) (d : Nat)
  | wake (a : Nat) (h : SignalHandler)
deriving DecidableEq

/-- How a callback is answered. Each callback reads the part that concerns it: a register callback
whether the driver takes the application, a send callback whether it takes the message. -/
structure Answer where
  register : Except RegisterFault Unit
  send : Except MessageFault Unit

namespace Answer

/-- Agreement to whatever is asked. -/
def agree : Answer := ⟨.ok (), .ok ()⟩

instance : Inhabited Answer := ⟨agree⟩

/-- Whether a driver takes an application. -/
def isAccepted (a : Answer) : Bool :=
  match a.register with
  | .ok () => true
  | .error _ => false

end Answer

end Switchboard
