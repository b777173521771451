import Switchboard.Registry.Basic

/-! # Queries by controller number

Identity and capabilities of a device are asked for by its number. Number 0 is answered for the
switchboard itself. -/

namespace Switchboard.Registry

/-- What the switchboard says about itself. -/
def self : DeviceInfo := ⟨"capi-core", "0", "capi-core", ⟨2, 0, 0, 1⟩, .blank⟩

/-- Whether any device is installed. -/
def isInstalled (r : Registry) : Bool := 0 < r.installed

/-- Success exactly if any device is installed. -/
def checkInstalled (r : Registry) : Except MessageFault Unit :=
  if r.isInstalled then .ok () else .error .notInstalled

/-- What is known about a controller. -/
def info (r : Registry) (controller : UInt16) : Except MessageFault DeviceInfo :=
  match DeviceId.ofNumber? controller with
  | none => .ok self
  | some id => match r.device? id with
    | none => .error .osResource
    | some d => .ok (r.devices.get d).info

/-- The manufacturer of a controller. -/
def manufacturer (r : Registry) (controller : UInt16) : Except MessageFault String :=
  (r.info controller).map DeviceInfo.manufacturer

/-- The serial number of a controller. -/
def serial (r : Registry) (controller : UInt16) : Except MessageFault String :=
  (r.info controller).map DeviceInfo.serial

/-- The product name of a controller. -/
def product (r : Registry) (controller : UInt16) : Except MessageFault String :=
  (r.info controller).map DeviceInfo.product

/-- The version of a controller. -/
def version (r : Registry) (controller : UInt16) : Except MessageFault Version :=
  (r.info controller).map DeviceInfo.version

/-- The number of controllers as a profile states it. -/
def controllerCount (r : Registry) : UInt16 := UInt16.ofNat (min r.installed 65535)

/-- The profile of a controller, with the number of controllers that are installed now. -/
def profile (r : Registry) (controller : UInt16) : Except MessageFault Profile :=
  (r.info controller).map fun i => { i.profile with controllers := r.controllerCount }

/-- A controller number as facades take it: one that does not fit 16 bits names no controller. -/
def controller? (n : UInt32) : Except MessageFault UInt16 :=
  if n ≤ 65535 then .ok n.toUInt16 else .error .osResource

end Switchboard.Registry
