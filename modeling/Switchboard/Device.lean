import Switchboard.Identifier
import Switchboard.Lifecycle
import Switchboard.Message
import Switchboard.Text.Quoted
import Switchboard.Traffic

/-! # Devices

A device is installed with the identity and the capabilities that its driver states. Identity
texts must fit fields of a fixed size, counted in UTF-8 bytes with a terminator. The record of a
device keeps which driver serves it, who refers to it and what it has carried. -/

namespace Switchboard

/-- Version numbers of the interface and of the manufacturer. -/
structure Version where
  major : UInt32
  minor : UInt32
  manufacturerMajor : UInt32
  manufacturerMinor : UInt32
deriving DecidableEq

namespace Version

/-- No version stated. -/
def zero : Version := ⟨0, 0, 0, 0⟩

instance : Inhabited Version := ⟨zero⟩

end Version

/-- The capabilities of a controller. -/
structure Profile where
  controllers : UInt16
  channels : UInt16
  globalOptions : UInt32
  b1Protocols : UInt32
  b2Protocols : UInt32
  b3Protocols : UInt32
  reserved : List UInt32
  manufacturer : List UInt32
deriving DecidableEq

namespace Profile

/-- No capabilities stated. -/
def blank : Profile := ⟨0, 0, 0, 0, 0, 0, List.replicate 6 0, List.replicate 5 0⟩

instance : Inhabited Profile := ⟨blank⟩

end Profile

/-- What a driver states about its device. -/
structure DeviceInfo where
  manufacturer : String
  serial : String
  product : String
  version : Version
  profile : Profile
deriving DecidableEq

/-- Why a device is not acceptable. -/
inductive DeviceDefect where
  | manufacturerTooLong
  | serialTooLong
deriving DecidableEq

/-- Why the installation or removal of a device is refused. -/
inductive DeviceFault where
  | invalidDevice (defect : DeviceDefect)
  | tableFull (capacity : UInt16)
  | unknownDevice (id : DeviceId)
deriving DecidableEq

namespace DeviceInfo

/-- Nothing stated. -/
def blank : DeviceInfo := ⟨"", "", "", .zero, .blank⟩

instance : Inhabited DeviceInfo := ⟨blank⟩

/-- Size of the manufacturer field, terminator included. -/
def manufacturerField : Nat := 64

/-- Size of the serial number field, terminator included. -/
def serialField : Nat := 8

/-- Whether the identity fits its fields, the manufacturer judged first. -/
def check (i : DeviceInfo) : Except DeviceFault Unit :=
  if manufacturerField ≤ i.manufacturer.utf8ByteSize then
    .error (.invalidDevice .manufacturerTooLong)
  else if serialField ≤ i.serial.utf8ByteSize then .error (.invalidDevice .serialTooLong)
  else .ok ()

/-- An identity fits when both of its texts leave room for a terminator. -/
theorem check_eq_ok_iff (i : DeviceInfo) :
    i.check = .ok () ↔ i.manufacturer.utf8ByteSize < 64 ∧ i.serial.utf8ByteSize < 8 := by
  unfold check manufacturerField serialField
  split
  · simp; omega
  · split
    · simp; omega
    · simp; omega

end DeviceInfo

/-- The wording of a defect. -/
def DeviceDefect.message : DeviceDefect → String
  | manufacturerTooLong => "manufacturer too long"
  | serialTooLong => "serial number too long"

namespace DeviceFault

/-- The name under which the fault is reported. -/
def label : DeviceFault → String
  | invalidDevice _ => "InvalidDevice"
  | tableFull _ => "TableFull"
  | unknownDevice _ => "UnknownDevice"

/-- The error number. -/
def errno : DeviceFault → Int
  | invalidDevice _ => -22
  | tableFull _ => -24
  | unknownDevice _ => -19

/-- The wording of the fault. -/
def message : DeviceFault → String
  | invalidDevice defect => "invalid device record: " ++ defect.message
  | tableFull capacity =>
    "device table full (" ++ Text.natText capacity.toNat ++ " devices installed)"
  | unknownDevice id => "device " ++ Text.natText id.number.toNat ++ " is not registered"

end DeviceFault

/-- The driver of a device, known by a tag. -/
abbrev Driver := Nat

/-- Whether a device serves or is being removed. -/
inductive DeviceState where
  | active
  | retiring
deriving DecidableEq

/-- The word for a state. -/
def DeviceState.label : DeviceState → String
  | active => "active"
  | retiring => "retiring"

/-- The record of a device. -/
structure Device where
  id : DeviceId
  info : DeviceInfo
  driver : Driver
  lifecycle : Lifecycle
  usage : Usage

namespace Device

/-- The record of a device that is installed now, with the reference of its owner. -/
def new (id : DeviceId) (info : DeviceInfo) (driver : Driver) : Device :=
  ⟨id, info, driver, .fresh, .zero⟩

instance : Inhabited Device := ⟨⟨default, .blank, 0, ⟨0, true⟩, .zero⟩⟩

/-- Whether the device is being removed. -/
def isRetiring (d : Device) : Bool := d.lifecycle.retiring

/-- The state of a device. -/
def state (d : Device) : DeviceState := if d.isRetiring then .retiring else .active

/-- Takes a reference, if one is to be had. -/
def join? (d : Device) : Option Device :=
  d.lifecycle.join?.map fun l => { d with lifecycle := l }

/-- Gives up a reference. -/
def leave (d : Device) : Device := { d with lifecycle := d.lifecycle.leave }

/-- Starts the removal. -/
def retire (d : Device) : Device := { d with lifecycle := d.lifecycle.retire }

/-- Counts a message that the device has brought. -/
def receive (d : Device) (t : Traffic) : Device := { d with usage := d.usage.receive t }

/-- Counts a message that the device has taken. -/
def send (d : Device) (t : Traffic) : Device := { d with usage := d.usage.send t }

/-- The description of a device. -/
def describe (d : Device) : String :=
  Text.recordText "Device" [
    ("id", d.id.describe),
    ("manufacturer", Text.quoted d.info.manufacturer),
    ("product", Text.quoted d.info.product),
    ("lifecycle", d.lifecycle.describe)] true

end Device

end Switchboard
