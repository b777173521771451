import Switchboard.Registry.Basic

/-! # Calls

The calls that may be made on a switchboard. Records are referred to by their keys where the caller
holds the record itself, and by number where a table is asked. -/

namespace Switchboard

/-- Through what an application is served: the switchboard itself, or one of its facades. -/
inductive Origin where
  | direct
  | facade (k : Nat)
deriving DecidableEq

/-- The calls of a facade, with plain application numbers. -/
inductive FacadeCall where
  | register (params : RegisterParams)
  | release (number : UInt16)
  | send (number : UInt16) (m : Message)
  | receive (number : UInt16)
  | setHandler (number : UInt16) (function : Option Nat) (param : UInt32)
  | subscribe (s : Subscriber)
  | unsubscribe (name : String)

/-- The calls of a switchboard. -/
inductive Call where
  | install (info : DeviceInfo) (driver : Driver)
  | remove (id : DeviceId)
  | register (params : RegisterParams)
  | release (id : ApplId)
  | send (id : ApplId) (m : Message)
  | receive (id : ApplId)
  | setHandler (id : ApplId) (h : Option SignalHandler)
  | enqueue (a : Nat) (m : Message)
  | deliver (d a : Nat) (m : Message)
  | signal (a : Nat)
  | signalError (a : Nat) (fault : MessageFault)
  | attach (tag : Nat)
  | detach (id : ObserverId)
  | openFacade
  | closeFacade (k : Nat)
  | facade (k : Nat) (c : FacadeCall)

end Switchboard
