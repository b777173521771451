import Switchboard.Application
import Switchboard.Config
import Switchboard.Device

/-! # Scenarios

A scenario is a list of actions on a switchboard. Drivers, observers, subscribers and wake-up
handlers that an action brings along come with scripts: each callback made on them takes the next
script and runs its actions from inside the callback. -/

namespace Switchboard.Scenario

/-- How an action names an application: by number, as the one that the innermost driver callback is
about, or by a name under which it is held. -/
inductive ApplName where
  | number (n : UInt16)
  | innermost
  | held (name : String)

/-- How an action names a device: by number, or by a name under which it is held. -/
inductive DeviceName where
  | number (n : UInt16)
  | held (name : String)

mutual

/-- An action. -/
inductive Action where
  | addDevice (info : DeviceInfo) (onRegister onRelease onSend : List Script)
      (refuse : List UInt16) (sendFault : Option MessageFault)
  | addScripts (device : UInt16) (onRegister onRelease onSend : List Script)
      (refuse : Option (List UInt16)) (sendFault : Option (Option MessageFault))
  | removeDevice (device : UInt16)
  | enqueue (appl : ApplName) (m : Message)
  | deliver (device : DeviceName) (appl : ApplName) (m : Message)
  | signal (appl : ApplName)
  | signalError (appl : ApplName) (code : UInt16)
  | register (params : RegisterParams)
  | release (appl : UInt16)
  | send (appl : UInt16) (m : Message)
  | receive (appl : UInt16)
  | peek (appl : UInt16)
  | setHandler (appl : UInt16) (param : Option UInt64) (scripts : List Script)
  | isInstalled
  | checkInstalled
  | config
  | manufacturer (controller : UInt16)
  | serial (controller : UInt16)
  | product (controller : UInt16)
  | version (controller : UInt16)
  | profile (controller : UInt16)
  | snapshots
  | state
  | applInfo (appl : ApplName)
  | isBound (appl : ApplName) (device : UInt16)
  | deviceInfo (device : DeviceName)
  | holdAppl (appl : ApplName) (name : String)
  | holdDevice (device : DeviceName) (name : String)
  | attachObserver (name : String) (onAdded onRemoved : List Script)
  | detachObserver (name : String)
  | times (n : Nat) (actions : List Action)
  | openFacade
  | closeFacade (k : Nat)
  | facade (k : Nat) (action : FacadeAction)
  | lines
  | paramsTable
  | trafficTable
  | attributes (device : UInt16)

/-- An action on a facade. -/
inductive FacadeAction where
  | isInstalled
  | register (params : RegisterParams)
  | release (appl : UInt16)
  | send (appl : UInt16) (m : Message)
  | receive (appl : UInt16)
  | setHandler (appl : UInt16) (function : Option Nat) (param : UInt32)
  | manufacturer (controller : UInt32)
  | serial (controller : UInt32)
  | product (controller : UInt32)
  | version (controller : UInt32)
  | profile (controller : UInt32)
  | config
  | subscribe (name : String) (scripts : List Script)
  | unsubscribe (name : String)

/-- What happens inside one callback: the actions in order, and how a driver answers after them. -/
inductive Script where
  | mk (actions : List Action) (refusal : Option RegisterFault) (fault : Option MessageFault)

end

instance : Inhabited Script := ⟨⟨[], none, none⟩⟩

/-- The actions of a script. -/
def Script.actions : Script → List Action
  | .mk actions _ _ => actions

/-- The fault with which a driver refuses an application at the end of a script. -/
def Script.refusal : Script → Option RegisterFault
  | .mk _ refusal _ => refusal

/-- The fault with which a driver refuses a message at the end of a script. -/
def Script.fault : Script → Option MessageFault
  | .mk _ _ fault => fault

mutual

/-- How many actions an action can lead to, itself included. -/
def Action.weight : Action → Nat
  | .addDevice _ x y z _ _ => 1 + weightOfScripts x + weightOfScripts y + weightOfScripts z
  | .addScripts _ x y z _ _ => 1 + weightOfScripts x + weightOfScripts y + weightOfScripts z
  | .setHandler _ _ x => 1 + weightOfScripts x
  | .attachObserver _ x y => 1 + weightOfScripts x + weightOfScripts y
  | .times n actions => 1 + n * weightOfActions actions
  | .facade _ action => 1 + action.weight
  | _ => 1

/-- How many actions an action on a facade can lead to besides itself. -/
def FacadeAction.weight : FacadeAction → Nat
  | .subscribe _ x => weightOfScripts x
  | _ => 0

/-- How many actions a script can lead to. -/
def Script.weight : Script → Nat
  | .mk actions _ _ => 1 + weightOfActions actions

/-- How many actions a list of actions can lead to. -/
def weightOfActions : List Action → Nat
  | [] => 0
  | a :: rest => a.weight + weightOfActions rest

/-- How many actions a list of scripts can lead to. -/
def weightOfScripts : List Script → Nat
  | [] => 0
  | s :: rest => s.weight + weightOfScripts rest

end

end Switchboard.Scenario

namespace Switchboard

/-- A scenario: the limits it starts with, its steps, and whether the state is shown after each. -/
structure Scenario where
  config : Config
  steps : List Scenario.Action
  showsState : Bool

end Switchboard
