import Switchboard.Application
import Switchboard.Config
import Switchboard.Device
import Switchboard.NumberPool
import Switchboard.Registry.Observers
import Switchboard.Roster
import Switchboard.Store

/-! # The registry

The registry holds every device and application: their records, which are kept for good and known
by their keys, and, for those that are installed or registered now, the tables that lead from
numbers to keys. A number is in use from the moment it is given out until the teardown of its
record is complete, which is later than the moment the record leaves its table.

The operations of this module are the single steps that calls are made of: each is one change of
the registry that nothing can come between. -/

namespace Switchboard

/-- Devices, applications, observers and facades. -/
structure Registry where
  config : Config
  devices : Store Device
  appls : Store Application
  devicePool : NumberPool
  deviceTable : Roster Nat
  installed : Nat
  applPool : NumberPool
  applTable : Roster Nat
  observers : Observers
  facades : Store Facade

namespace Registry

/-- A registry in which nothing is installed or registered. -/
def new (config : Config) : Registry where
  config := config
  devices := .empty
  appls := .empty
  devicePool := .full config.maxDevices
  deviceTable := .empty config.maxDevices
  installed := 0
  applPool := .full config.maxApplications
  applTable := .empty config.maxApplications
  observers := .empty
  facades := .empty

instance : Inhabited Registry := ⟨new .standard⟩

/-- The registry with one device record changed. -/
def updateDevice (r : Registry) (d : Nat) (f : Device → Device) : Registry :=
  { r with devices := r.devices.update d f }

/-- The registry with one application record changed. -/
def updateAppl (r : Registry) (a : Nat) (f : Application → Application) : Registry :=
  { r with appls := r.appls.update a f }

/-- The registry with one facade changed. -/
def updateFacade (r : Registry) (k : Nat) (f : Facade → Facade) : Registry :=
  { r with facades := r.facades.update k f }

/-! ## Devices -/

/-- The key of the device installed under a number. -/
def device? (r : Registry) (id : DeviceId) : Option Nat := r.deviceTable.get? id.number

/-- Installs a device under the lowest free number. -/
def installDevice (r : Registry) (info : DeviceInfo) (driver : Driver) :
    Except DeviceFault (Nat × Registry) :=
  match info.check with
  | .error fault => .error fault
  | .ok () => match r.devicePool.allocate with
    | .error _ => .error (.tableFull r.devicePool.capacity)
    | .ok (n, pool) => match DeviceId.ofNumber? n with
      | none => .error (.tableFull r.devicePool.capacity)
      | some id =>
        let key := r.devices.size
        match r.deviceTable.insert? n key with
        | none => .error (.tableFull r.devicePool.capacity)
        | some table => .ok (key, { r with
            devices := r.devices.add (.new id info driver)
            devicePool := pool
            deviceTable := table
            installed := r.installed + 1 })

/-- Takes a device out of the table and starts its removal. Its number stays in use. -/
def retireDevice? (r : Registry) (id : DeviceId) : Option (Nat × Registry) :=
  match r.deviceTable.remove? id.number with
  | none => none
  | some (d, table) => some (d, { r with
      devices := r.devices.update d Device.retire
      deviceTable := table
      installed := r.installed - 1 })

/-- Gives up a reference to a device. -/
def leaveDevice (r : Registry) (d : Nat) : Registry := r.updateDevice d Device.leave

/-- Gives the number of a device back. -/
def freeDevice (r : Registry) (d : Nat) : Registry :=
  { r with devicePool := r.devicePool.free (r.devices.get d).id.number }

/-- Drops the link that an application has under a device number, if any, and the reference that
came with it. -/
def unlink (r : Registry) (id : DeviceId) (a : Nat) : Registry :=
  match (r.appls.get a).links.unlink? id with
  | none => r
  | some (d, links) => (r.updateAppl a fun x => { x with links := links }).leaveDevice d

/-- Drops the links that the applications in the table have under a device number. -/
def unlinkAll (r : Registry) (id : DeviceId) : Registry :=
  r.applTable.values.foldl (fun r a => r.unlink id a) r

/-! ## Applications -/

/-- The key of the application registered under a number. -/
def appl? (r : Registry) (id : ApplId) : Option Nat := r.applTable.get? id.number

/-- Registers an application under the lowest free number. -/
def installAppl (r : Registry) (params : RegisterParams) : Except RegisterFault (Nat × Registry) :=
  if params.blockLength < RegisterParams.minBlockLength then .error .blockTooSmall
  else match r.applPool.allocate with
    | .error _ => .error .tooManyApplications
    | .ok (n, pool) => match ApplId.ofNumber? n with
      | none => .error .osResource
      | some id =>
        let key := r.appls.size
        match r.applTable.insert? n key with
        | none => .error .osResource
        | some table => .ok (key, { r with
            appls := r.appls.add (.new id params r.config.maxDevices)
            applPool := pool
            applTable := table })

/-- Takes an application out of the table and starts its release. Its number stays in use. -/
def retireAppl? (r : Registry) (id : ApplId) : Option (Nat × Registry) :=
  match r.applTable.remove? id.number with
  | none => none
  | some (a, table) => some (a, { r with
      appls := r.appls.update a Application.retire
      applTable := table })

/-- Gives up a reference to an application. -/
def leaveAppl (r : Registry) (a : Nat) : Registry := r.updateAppl a Application.leave

/-- Gives the number of an application back. -/
def freeAppl (r : Registry) (a : Nat) : Registry :=
  { r with applPool := r.applPool.free (r.appls.get a).id.number }

/-- The key of the application registered under a number, if a reference to it is to be had. -/
def reach (r : Registry) (id : ApplId) : Except MessageFault Nat :=
  match r.appl? id with
  | none => .error .illegalApplication
  | some a => if (r.appls.get a).join?.isSome then .ok a else .error .illegalApplication

/-! ## Linking -/

/-- Starts to link a device and an application: takes a reference to each and reserves the pair. If
one of them is not to be had or the pair is linked or reserved already, nothing happens. -/
def reserve? (r : Registry) (d a : Nat) : Option Registry :=
  match (r.devices.get d).join? with
  | none => none
  | some device => match (r.appls.get a).join? with
    | none => none
    | some appl => match appl.links.reserve? device.id with
      | none => none
      | some links => some { r with
          devices := r.devices.update d fun _ => device
          appls := r.appls.update a fun _ => { appl with links := links } }

/-- Ends the linking of a pair. The reference to the device becomes part of the link if the device
has accepted the application and has not started to retire; it is given up otherwise, and the one
to the application is given up in any case. -/
def settle (r : Registry) (d a : Nat) (isAccepted : Bool) : Registry :=
  let device := r.devices.get d
  let links := (r.appls.get a).links
  let (isLinked, links) := if isAccepted then links.confirm device.id d device.isRetiring
    else (false, links.cancel device.id)
  let r := r.updateAppl a fun x => { x with links := links }
  -- the reference to the device is the link's now, or nobody's
  let r := if isLinked then r else r.leaveDevice d
  r.leaveAppl a

/-- Takes every link of an application, with the references that come with them. -/
def takeLinks (r : Registry) (a : Nat) : List Nat × Registry :=
  ((r.appls.get a).links.keys, r.updateAppl a fun x => { x with links := x.links.clear })

/-! ## Messages -/

/-- The device and the application that a message goes between, with a reference taken to each. -/
def route (r : Registry) (id : ApplId) (m : Message) :
    Except MessageFault (Nat × Nat × Registry) :=
  match r.appl? id with
  | none => .error .illegalApplication
  | some a => match (r.appls.get a).join? with
    | none => .error .illegalApplication
    | some appl => match appl.latched with
      | some fault => .error fault
      | none => match m.header? with
        | none => .error .illegalMessage
        | some header => match DeviceId.ofNumber? header.controller.toUInt16 with
          | none => .error .osResource
          | some target =>
            if r.devicePool.capacity < target.number then .error .osResource
            else match r.device? target with
              | none => .error .osResource
              | some d => match (r.devices.get d).join? with
                | none => .error .osResource
                -- while the device is held its number is not used again, so that a link under it
                -- is a link to this device
                | some device =>
                  if appl.links.isBound target then
                    .ok (d, a, { r with
                      devices := r.devices.update d fun _ => device
                      appls := r.appls.update a fun _ => appl })
                  else .error .osResource

/-- Counts a message that a device has taken from an application. -/
def countSent (r : Registry) (d a : Nat) (t : Traffic) : Registry :=
  (r.updateAppl a fun x => x.send t).updateDevice d fun x => x.send t

/-- Takes the oldest message of an application. -/
def receive (r : Registry) (id : ApplId) : Except MessageFault (Message × Registry) :=
  match r.reach id with
  | .error fault => .error fault
  | .ok a => match (r.appls.get a).take with
    | .error fault => .error fault
    | .ok (m, appl) => .ok (m, r.updateAppl a fun _ => appl)

/-- Whether `receive` would yield a message now. -/
def peek (r : Registry) (id : ApplId) : Except MessageFault Unit :=
  match r.reach id with
  | .error fault => .error fault
  | .ok a => (r.appls.get a).peek

/-- Sets or clears the wake-up handler of an application. -/
def setHandler (r : Registry) (id : ApplId) (h : Option SignalHandler) :
    Except MessageFault Registry :=
  match r.reach id with
  | .error fault => .error fault
  | .ok a => .ok (r.updateAppl a fun x => { x with handler := h })

/-- Appends a message to the queue of an application, unless it is being released. -/
def append? (r : Registry) (a : Nat) (m : Message) : Option Registry :=
  ((r.appls.get a).append? m).map fun x => r.updateAppl a fun _ => x

/-! ## Observers and facades -/

/-- Opens a facade, whose forwarder becomes the last observer. -/
def openFacade (r : Registry) : Registry :=
  { r with
    observers := r.observers.attach (.forwarder r.facades.size)
    facades := r.facades.add (.new r.config.maxApplications r.observers.nextId) }

/-- The facade with an index, if it is open. -/
def facade? (r : Registry) (k : Nat) : Option Facade :=
  if (r.facades.get k).isOpen then some (r.facades.get k) else none

/-- Closes a facade, whose forwarder is told nothing any more. -/
def closeFacade (r : Registry) (k : Nat) : Registry :=
  { r with
    observers := r.observers.detach (r.facades.get k).observer
    facades := r.facades.update k fun f => { f with isOpen := false } }

/-! ## Basic facts -/

/-- A new registry has no devices. -/
@[simp] theorem device?_new (c : Config) (id : DeviceId) : (new c).device? id = none := by
  simp [device?, new, Roster.get?, Roster.slot?, Roster.place?, id.number_ne_zero, Roster.empty,
    Array.getElem?_replicate]
  split <;> rfl

/-- A new registry has no applications. -/
@[simp] theorem appl?_new (c : Config) (id : ApplId) : (new c).appl? id = none := by
  simp [appl?, new, Roster.get?, Roster.slot?, Roster.place?, id.number_ne_zero, Roster.empty,
    Array.getElem?_replicate]
  split <;> rfl

/-- A message can be taken exactly when `peek` says so, and with the same fault otherwise. -/
theorem peek_eq_receive (r : Registry) (id : ApplId) :
    r.peek id = (r.receive id).map fun _ => () := by
  unfold peek receive
  split
  · rfl
  · rw [Application.peek_eq_take]
    split <;> simp_all [Except.map]

end Registry

end Switchboard
