import Switchboard.Config
import Switchboard.Device
import Switchboard.Fault
import Switchboard.Json.Basic
import Switchboard.NumberPool

/-! # Faults in reports

A fault is reported as an object with its name, its wording and, if it has one, its code or error
number. An outcome is reported as its value or its fault. -/

namespace Switchboard

/-- A registration fault. -/
def RegisterFault.toJson (f : RegisterFault) : Json :=
  .record [("error", .text f.label), ("message", .text f.message), ("code", .nat f.code.toNat)]

/-- A message fault. -/
def MessageFault.toJson (f : MessageFault) : Json :=
  .record [("error", .text f.label), ("message", .text f.message), ("code", .nat f.code.toNat)]

/-- A device fault. -/
def DeviceFault.toJson (f : DeviceFault) : Json :=
  .record [("error", .text f.label), ("message", .text f.message), ("errno", .number f.errno)]

/-- The wording of a fault in the limits. -/
def ConfigFault.message : ConfigFault → String
  | deviceLimit n => "max_devices must be within 1..=" ++
      Text.natText Config.highestDevice.toNat ++ ", got " ++ Text.natText n.toNat
  | applicationLimit n => "max_applications must be within 1..=" ++
      Text.natText Config.highestApplication.toNat ++ ", got " ++ Text.natText n.toNat

/-- A fault in the limits. -/
def ConfigFault.toJson (f : ConfigFault) : Json :=
  .record [("error", .text f.label), ("message", .text f.message)]

/-- The exhaustion of a pool. -/
def PoolExhausted.toJson (e : PoolExhausted) : Json :=
  .record [("error", .text "PoolExhausted"), ("message", .text e.message)]

namespace Json

/-- A success with its value. -/
def ok (x : Json) : Json := .record [("ok", x)]

/-- An outcome: its value or its fault. -/
def ofExcept (fault : ε → Json) (value : α → Json) : Except ε α → Json
  | .ok x => ok (value x)
  | .error e => fault e

/-- An outcome in plain numbers: its value or a code. -/
def ofCoded (value : α → Json) : Except UInt16 α → Json
  | .ok x => ok (value x)
  | .error n => .record [("code", .nat n.toNat)]

end Json

end Switchboard
