import Switchboard.Json.Basic
import Switchboard.Registry.Basic

/-! # Snapshots

What can be seen of the devices and applications in the tables at one moment, in the order in
which they were installed or registered, and the JSON objects it is reported as. -/

namespace Switchboard

/-! ## Parts as JSON -/

/-- The counters of one direction. -/
def Counters.toJson (c : Counters) : Json :=
  .record [
    ("packets", .nat c.packets.toNat),
    ("bytes", .nat c.bytes.toNat),
    ("data_packets", .nat c.dataPackets.toNat),
    ("data_bytes", .nat c.dataBytes.toNat)]

/-- The counters of both directions. -/
def Usage.toJson (u : Usage) : Json :=
  .record [("rx", u.received.toJson), ("tx", u.sent.toJson)]

/-- A version. -/
def Version.toJson (v : Version) : Json :=
  .record [
    ("major", .nat v.major.toNat),
    ("minor", .nat v.minor.toNat),
    ("manu_major", .nat v.manufacturerMajor.toNat),
    ("manu_minor", .nat v.manufacturerMinor.toNat)]

/-- A profile. -/
def Profile.toJson (p : Profile) : Json :=
  .record [
    ("ncontroller", .nat p.controllers.toNat),
    ("nbchannel", .nat p.channels.toNat),
    ("global_options", .nat p.globalOptions.toNat),
    ("b1_protocols", .nat p.b1Protocols.toNat),
    ("b2_protocols", .nat p.b2Protocols.toNat),
    ("b3_protocols", .nat p.b3Protocols.toNat),
    ("reserved", .list (p.reserved.map fun w => .nat w.toNat)),
    ("manufacturer", .list (p.manufacturer.map fun w => .nat w.toNat))]

/-- The resources an application asked for. -/
def RegisterParams.toJson (p : RegisterParams) : Json :=
  .record [
    ("level3_connections", .nat p.connections.toNat),
    ("data_blocks", .nat p.blocks.toNat),
    ("data_block_len", .nat p.blockLength.toNat)]

/-! ## Devices -/

/-- What can be seen of a device. -/
structure DeviceSnapshot where
  id : DeviceId
  manufacturer : String
  serial : String
  product : String
  version : Version
  state : DeviceState
  refs : Nat
  usage : Usage
deriving DecidableEq

namespace DeviceSnapshot

/-- What can be seen of a device now. -/
def of (d : Device) : DeviceSnapshot where
  id := d.id
  manufacturer := d.info.manufacturer
  serial := d.info.serial
  product := d.info.product
  version := d.info.version
  state := d.state
  refs := d.lifecycle.refs
  usage := d.usage

/-- The members of the JSON object. -/
def members (s : DeviceSnapshot) : List (String × Json) :=
  [("id", .nat s.id.number.toNat),
    ("manufacturer", .text s.manufacturer),
    ("serial", .text s.serial),
    ("product", .text s.product),
    ("version", s.version.toJson),
    ("state", .text s.state.label),
    ("refs", .nat s.refs),
    ("stats", s.usage.toJson)]

end DeviceSnapshot

/-! ## Applications -/

/-- What can be seen of an application. -/
structure ApplSnapshot where
  id : ApplId
  params : RegisterParams
  bound : List UInt16
  latched : UInt16
  usage : Usage
  queueDepth : Nat
deriving DecidableEq

namespace ApplSnapshot

/-- What can be seen of an application now. -/
def of (a : Application) : ApplSnapshot where
  id := a.id
  params := a.params
  bound := a.boundNumbers
  latched := (a.latched.map MessageFault.code).getD 0
  usage := a.usage
  queueDepth := a.queue.length

/-- The members of the JSON object. -/
def members (s : ApplSnapshot) : List (String × Json) :=
  [("id", .nat s.id.number.toNat),
    ("params", s.params.toJson),
    ("bound", .numbers s.bound),
    ("latched", .nat s.latched.toNat),
    ("stats", s.usage.toJson),
    ("queue_depth", .nat s.queueDepth)]

end ApplSnapshot

namespace Registry

/-- Snapshots of the installed devices in order of installation. -/
def deviceSnapshots (r : Registry) : List DeviceSnapshot :=
  r.deviceTable.values.map fun d => .of (r.devices.get d)

/-- Snapshots of the registered applications in order of registration. -/
def applSnapshots (r : Registry) : List ApplSnapshot :=
  r.applTable.values.map fun a => .of (r.appls.get a)

end Registry

end Switchboard
