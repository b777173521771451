import Switchboard.Registry.Basic

/-! # Operations step by step

The operations of a registry are single changes, and one that is refused yields no registry at all.
Here they are again as they come about: a number is taken before it is known that the table has room
for it, and a reference to a record before it is known whether there is a message, a route or a link
to be had. Every step yields the registry that it leaves, also a step that is the last because the
operation is refused. -/

namespace Switchboard.Registry

/-- The outcome of an operation with the registry that is left: the one it yields or, if it is
refused, the one from before. -/
def conclude {ε α : Type} (r : Registry) : Except ε (α × Registry) → Except ε α × Registry
  | .ok (a, r') => (.ok a, r')
  | .error fault => (.error fault, r)

/-- Installs a device: checks it, takes a number, enters the device in the table, and gives the
number back if the table does not take it. -/
def installDeviceBySteps (r : Registry) (info : DeviceInfo) (driver : Driver) :
    Except DeviceFault Nat × Registry :=
  match info.check with
  | .error fault => (.error fault, r)
  | .ok () => match r.devicePool.allocate with
    | .error _ => (.error (.tableFull r.devicePool.capacity), r)
    | .ok (n, pool) =>
      let r := { r with devicePool := pool }
      match DeviceId.ofNumber? n with
      -- the number is not given back, but it is none that a pool gives out
      | none => (.error (.tableFull r.devicePool.capacity), r)
      | some id => match r.deviceTable.insert? n r.devices.size with
        | none =>
          (.error (.tableFull r.devicePool.capacity), { r with devicePool := r.devicePool.free n })
        | some table => (.ok r.devices.size, { r with
            devices := r.devices.add (.new id info driver)
            deviceTable := table
            installed := r.installed + 1 })

/-- Registers an application: checks what it asks for, takes a number, enters the application in the
table, and gives the number back if the table does not take it. -/
def installApplBySteps (r : Registry) (params : RegisterParams) :
    Except RegisterFault Nat × Registry :=
  if params.blockLength < RegisterParams.minBlockLength then (.error .blockTooSmall, r)
  else match r.applPool.allocate with
    | .error _ => (.error .tooManyApplications, r)
    | .ok (n, pool) =>
      let r := { r with applPool := pool }
      match ApplId.ofNumber? n with
      | none => (.error .osResource, r)
      | some id => match r.applTable.insert? n r.appls.size with
        | none => (.error .osResource, { r with applPool := r.applPool.free n })
        | some table => (.ok r.appls.size, { r with
            appls := r.appls.add (.new id params r.config.maxDevices)
            applTable := table })

/-- Does something with the application registered under a number while holding a reference to it,
which is given back whatever comes of it. -/
def borrow {α : Type} (r : Registry) (id : ApplId)
    (use : Nat → Registry → Except MessageFault α × Registry) : Except MessageFault α × Registry :=
  match r.appl? id with
  | none => (.error .illegalApplication, r)
  | some a => match (r.appls.get a).join? with
    | none => (.error .illegalApplication, r)
    | some appl =>
      let (result, r) := use a (r.updateAppl a fun _ => appl)
      (result, r.leaveAppl a)

/-- Takes the oldest message of an application. -/
def receiveBySteps (r : Registry) (id : ApplId) : Except MessageFault Message × Registry :=
  r.borrow id fun a r => match (r.appls.get a).take with
    | .error fault => (.error fault, r)
    | .ok (m, appl) => (.ok m, r.updateAppl a fun _ => appl)

/-- Looks whether there is a message to be taken. -/
def peekBySteps (r : Registry) (id : ApplId) : Except MessageFault Unit × Registry :=
  r.borrow id fun a r => ((r.appls.get a).peek, r)

/-- Sets or clears the wake-up handler of an application. -/
def setHandlerBySteps (r : Registry) (id : ApplId) (h : Option SignalHandler) :
    Except MessageFault Unit × Registry :=
  r.borrow id fun a r => (.ok (), r.updateAppl a fun x => { x with handler := h })

/-- Finds the device and the application that a message goes between: refers to the application,
looks at its latch and at the message, refers to the device and looks for the link. The references
are kept if there is one, and given back at the step that says there is none. -/
def routeBySteps (r : Registry) (id : ApplId) (m : Message) :
    Except MessageFault (Nat × Nat) × Registry :=
  match r.appl? id with
  | none => (.error .illegalApplication, r)
  | some a => match (r.appls.get a).join? with
    | none => (.error .illegalApplication, r)
    | some appl =>
      let r := r.updateAppl a fun _ => appl
      match appl.latched with
      | some fault => (.error fault, r.leaveAppl a)
      | none => match m.header? with
        | none => (.error .illegalMessage, r.leaveAppl a)
        | some header => match DeviceId.ofNumber? header.controller.toUInt16 with
          | none => (.error .osResource, r.leaveAppl a)
          | some target =>
            if r.devicePool.capacity < target.number then (.error .osResource, r.leaveAppl a)
            else match r.device? target with
              | none => (.error .osResource, r.leaveAppl a)
              | some d => match (r.devices.get d).join? with
                | none => (.error .osResource, r.leaveAppl a)
                | some device =>
                  let r := r.updateDevice d fun _ => device
                  if appl.links.isBound target then (.ok (d, a), r)
                  else (.error .osResource, (r.leaveDevice d).leaveAppl a)

/-- Starts to link a device and an application: refers to the one and the other and reserves the
pair. Says whether it has been reserved; if it has not, the references are given back. -/
def reserveBySteps (r : Registry) (d a : Nat) : Bool × Registry :=
  match (r.devices.get d).join? with
  | none => (false, r)
  | some device =>
    let r := r.updateDevice d fun _ => device
    match (r.appls.get a).join? with
    | none => (false, r.leaveDevice d)
    | some appl =>
      let r := r.updateAppl a fun _ => appl
      match appl.links.reserve? device.id with
      | none => (false, (r.leaveAppl a).leaveDevice d)
      | some links => (true, r.updateAppl a fun x => { x with links := links })

end Switchboard.Registry
