import Switchboard.Bytes
import Switchboard.Machine.Run
import Switchboard.Report.Faults
import Switchboard.Scenario.Action
import Switchboard.Snapshot

/-! # Scenes

A scene is a machine in the middle of a scenario, together with what the scenario has set up around
it: the scripts that are still to be run, the records that are held under names, and the events
that have happened since the last step. -/

namespace Switchboard.Scenario

/-- The scripts and settings of a driver. -/
structure DriverScripts where
  onRegister : List Script
  onRelease : List Script
  onSend : List Script
  refuse : List UInt16
  sendFault : Option MessageFault
deriving Inhabited

/-- The name and the scripts of an observer. -/
structure ObserverScripts where
  name : String
  onAdded : List Script
  onRemoved : List Script
deriving Inhabited

/-- A machine in the middle of a scenario. The log is kept in reverse. -/
structure Scene where
  machine : Machine
  drivers : Store DriverScripts
  driverOf : List (UInt16 × Nat)
  observers : Store ObserverScripts
  observerOf : List (String × ObserverId)
  handlers : Store (List Script)
  subscribers : Store (List Script)
  heldAppls : List (String × Nat)
  heldDevices : List (String × Nat)
  innermost : List Nat
  log : List Json

namespace Scene

/-- The beginning of a scenario. -/
def new (config : Config) : Scene where
  machine := .new config
  drivers := .empty
  driverOf := []
  observers := .empty
  observerOf := []
  handlers := .empty
  subscribers := .empty
  heldAppls := []
  heldDevices := []
  innermost := []
  log := []

/-- The registry of the machine. -/
def registry (s : Scene) : Registry := s.machine.registry

/-- The number of a device record. -/
def deviceNumber (s : Scene) (d : Nat) : UInt16 := (s.registry.devices.get d).id.number

/-- The number of an application record. -/
def applNumber (s : Scene) (a : Nat) : UInt16 := (s.registry.appls.get a).id.number

/-! ## Names -/

/-- The key of the application registered under a number. -/
def applNumbered? (s : Scene) (n : UInt16) : Option Nat :=
  (ApplId.ofNumber? n).bind s.registry.appl?

/-- The key of the device installed under a number. -/
def deviceNumbered? (s : Scene) (n : UInt16) : Option Nat :=
  (DeviceId.ofNumber? n).bind s.registry.device?

/-- The key of the application that an action names. -/
def appl? (s : Scene) : ApplName → Option Nat
  | .number n => s.applNumbered? n
  | .innermost => s.innermost.head?
  | .held name => s.heldAppls.lookup name

/-- The key of the device that an action names. -/
def device? (s : Scene) : DeviceName → Option Nat
  | .number n => s.deviceNumbered? n
  | .held name => s.heldDevices.lookup name

/-! ## What would hold a teardown up -/

/-- How many references the release of an application would have to wait for. -/
def applHolders (s : Scene) (n : UInt16) : Nat :=
  match s.applNumbered? n with
  | none => 0
  | some a => (s.registry.appls.get a).lifecycle.refs - 1

/-- How many references the removal of a device would have to wait for. -/
def deviceHolders (s : Scene) (n : UInt16) : Nat :=
  match s.deviceNumbered? n with
  | none => 0
  | some d =>
    let id := (s.registry.devices.get d).id
    let linked := s.registry.applTable.values.countP fun a =>
      (s.registry.appls.get a).links.isBound id
    (s.registry.devices.get d).lifecycle.refs - 1 - linked

/-! ## Showing -/

/-- The state: devices with their references, applications with references, links, latched code and
queue length. -/
def state (s : Scene) : Json :=
  .record [
    ("dev", .list (s.registry.deviceTable.values.map fun d =>
      let x := s.registry.devices.get d
      .list [.nat x.id.number.toNat, .nat x.lifecycle.refs])),
    ("appl", .list (s.registry.applTable.values.map fun a =>
      let x := s.registry.appls.get a
      .list [.nat x.id.number.toNat, .nat x.lifecycle.refs, .numbers x.boundNumbers,
        .nat ((x.latched.map MessageFault.code).getD 0).toNat, .nat x.queue.length]))]

/-- What is shown of a profile in a notice. -/
def profileInNotice (p : Profile) : Json :=
  .list [.nat p.controllers.toNat, .nat p.channels.toNat, .nat p.globalOptions.toNat]

/-- The name of a plain function. -/
def plainFunction (f : Nat) : String := if f = 0 then "a" else "b"

/-- The event of a callback. -/
def event (s : Scene) : Callback → Json
  | .register d a =>
    .list [.text "register", .nat (s.deviceNumber d).toNat, .nat (s.applNumber a).toNat]
  | .release d a =>
    .list [.text "release", .nat (s.deviceNumber d).toNat, .nat (s.applNumber a).toNat]
  | .send d a m =>
    .list [.text "put", .nat (s.deviceNumber d).toNat, .nat (s.applNumber a).toNat,
      Bytes.display m.bytes]
  | .news (.observer tag) news d =>
    let kind := match news with
      | .added => "added"
      | .removed => "removed"
    .list [.text kind, .text (s.observers.get tag).name, .nat (s.deviceNumber d).toNat]
  | .news (.subscriber notice) _ _ =>
    .list [.text "user", .nat notice.facade, .text notice.subscriber.name,
      .nat notice.news.command.toNat, .nat notice.controller.toNat,
      .ofOption profileInNotice notice.profile]
  | .wake a h => match h.target with
    | .custom _ =>
      .list [.text "signal", .nat (s.applNumber a).toNat, .nat h.argument.toNat]
    | .plain f =>
      .list [.text "ksignal", .text (plainFunction f), .nat (s.applNumber a).toNat,
        .nat h.argument.toNat]

/-- The event of a teardown that is complete. -/
def doneEvent (s : Scene) (t : Teardown) (result : Json) : Json :=
  match t with
  | .device d => .list [.text "done", .text "unregister", .nat (s.deviceNumber d).toNat, result]
  | .appl a .direct => .list [.text "done", .text "release", .nat (s.applNumber a).toNat, result]
  | .appl a (.facade _) =>
    .list [.text "done", .text "k_release", .nat (s.applNumber a).toNat, result]

/-- What is shown of an application. -/
def applInfo (s : Scene) (a : Nat) : Json :=
  let x := s.registry.appls.get a
  .record [
    ("id", .nat x.id.number.toNat),
    ("params", x.params.toJson),
    ("bound", .numbers x.boundNumbers),
    ("latched", .ofOption (fun f => .nat f.code.toNat) x.latched),
    ("queue", .nat x.queue.length),
    ("stats", x.usage.toJson),
    ("debug", .text x.describe)]

/-- What is shown of a device. -/
def deviceInfo (s : Scene) (d : Nat) : Json :=
  let x := s.registry.devices.get d
  .record [
    ("id", .nat x.id.number.toNat),
    ("state", .text x.state.label),
    ("refs", .nat x.lifecycle.refs),
    ("stats", x.usage.toJson),
    ("profile", x.info.profile.toJson),
    ("debug", .text x.describe)]

end Scene

/-- A success without a value. -/
def success : Json := .ok .null

/-- What an action answers if what it names is not there. -/
def missing : Json := .text "missing"

/-- What an action answers if it names a facade that is not open. -/
def noFacade : Json := .record [("error", .text "BadInput"), ("message", .text "k")]

/-- The four numbers of a version. -/
def versionNumbers (v : Version) : Json :=
  .list [.nat v.major.toNat, .nat v.minor.toNat, .nat v.manufacturerMajor.toNat,
    .nat v.manufacturerMinor.toNat]

/-- The limits of a switchboard. -/
def limits (c : Config) : Json :=
  .record [("max_devices", .nat c.maxDevices.toNat),
    ("max_applications", .nat c.maxApplications.toNat)]

/-- How a reply is shown. -/
def showReply : Reply → Json
  | .installed r => .ofExcept DeviceFault.toJson (fun id => .nat id.number.toNat) r
  | .removed r => .ofExcept DeviceFault.toJson (fun _ => .null) r
  | .registered r => .ofExcept RegisterFault.toJson (fun id => .nat id.number.toNat) r
  | .released r =>
    .ofExcept MessageFault.toJson (fun latched => .ofOption (fun f => .nat f.code.toNat) latched) r
  | .sent r => .ofExcept MessageFault.toJson (fun _ => .null) r
  | .received r => .ofExcept MessageFault.toJson (fun m => Bytes.display m.bytes) r
  | .handlerSet r => .ofExcept MessageFault.toJson (fun _ => .null) r
  | .accepted b => .bool b
  | .done => success
  | .attached id => .text id.describe
  | .flag b => .bool b
  | .opened k => .nat k
  | .noFacade => noFacade
  | .code n => .nat n.toNat
  | .numbered r => .ofCoded (fun n => .nat n.toNat) r
  | .fetched r => .ofCoded (fun m => Bytes.display m.bytes) r
  | .deferred => .text "deferred"

end Switchboard.Scenario
