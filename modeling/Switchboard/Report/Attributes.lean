import Switchboard.Registry.Basic
import Switchboard.Text.Layout

/-! # Attributes of a device

The identity and the traffic of an installed device as names with values. -/

namespace Switchboard.Report

/-- The names and values of a device. -/
def attributesOf (d : Device) : List (String × String) :=
  let v := d.info.version
  let count := fun (n : UInt64) => Text.natText n.toNat
  [("manufacturer", d.info.manufacturer),
    ("serial_number", d.info.serial),
    ("version",
      Text.natText v.manufacturerMajor.toNat ++ "." ++ Text.natText v.manufacturerMinor.toNat),
    ("product", d.info.product),
    ("statistics/rx_bytes", count d.usage.received.bytes),
    ("statistics/tx_bytes", count d.usage.sent.bytes),
    ("statistics/rx_packets", count d.usage.received.packets),
    ("statistics/tx_packets", count d.usage.sent.packets)]

/-- The names and values of the device installed under a number. -/
def attributes? (r : Registry) (id : DeviceId) : Option (List (String × String)) :=
  (r.device? id).map fun d => attributesOf (r.devices.get d)

end Switchboard.Report
