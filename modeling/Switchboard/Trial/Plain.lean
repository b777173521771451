import Switchboard.Bytes
import Switchboard.Config.Document
import Switchboard.Report.Faults

/-! # Plain inquiries

What is shown of a message, an information value, a number, limits in a document, and the identity
of a device, each on its own. -/

namespace Switchboard

/-- What is shown of a message: its bytes and description, its traffic and its header. -/
def Message.inquiry (m : Message) : Json :=
  .record [
    ("bytes", Bytes.display m.bytes),
    ("len", .nat m.bytes.length),
    ("is_empty", .bool m.bytes.isEmpty),
    ("debug", .text m.describe),
    ("traffic", .record [
      ("bytes", .nat m.traffic.bytes),
      ("data_bytes", .ofOption Json.nat m.traffic.dataBytes)]),
    ("header", .ofOption (fun h : Header => .record [
      ("total_len", .nat h.totalLength.toNat),
      ("appl", .nat h.appl.toNat),
      ("command", .nat h.command.toNat),
      ("subcommand", .nat h.subcommand.toNat),
      ("number", .nat h.number.toNat),
      ("address", .nat h.address.toNat),
      ("controller", .nat h.controller.toNat),
      ("is_data_b3", .bool h.isData),
      ("data_len", .ofOption (fun n => .nat n.toNat) m.payloadLength?),
      ("parse_number", .nat h.number.toNat)]) m.header?)]

namespace Fault

/-- What is shown of an information value. -/
def inquiry (code : UInt16) : Json :=
  let register := RegisterFault.ofCode? code
  let message := MessageFault.ofCode? code
  .record [
    ("register", .ofOption RegisterFault.toJson register),
    ("message", .ofOption MessageFault.toJson message),
    ("transient", .ofOption (fun f => .bool f.isTransient) message),
    ("register_code", .nat (registerCode (register.elim (.ok ()) .error)).toNat),
    ("message_code", .nat (messageCode (message.elim (.ok ()) .error)).toNat)]

end Fault

/-- What is shown of a device number: it stands right-aligned in six columns. -/
def DeviceId.inquiry (d : DeviceId) : Json :=
  let digits := Nat.toDigits 10 d.number.toNat
  .list [.nat d.number.toNat, .text (String.ofList digits),
    .text (String.ofList (Text.padLeft 6 digits)), .text d.describe, .nat d.number.toNat,
    .nat d.number.toNat]

/-- What is shown of an application number: it stands left-aligned in five columns. -/
def ApplId.inquiry (a : ApplId) : Json :=
  let digits := Nat.toDigits 10 a.number.toNat
  .list [.nat a.number.toNat, .text (String.ofList digits),
    .text (String.ofList (Text.padRight 5 digits ++ ['|'])), .text a.describe,
    .nat a.number.toNat, .nat a.number.toNat]

/-- What is shown of a number as a device and as an application. -/
def numberInquiry (n : UInt16) : Json :=
  .record [
    ("device", .ofOption DeviceId.inquiry (DeviceId.ofNumber? n)),
    ("appl", .ofOption ApplId.inquiry (ApplId.ofNumber? n))]

namespace Config

/-- Whether limits are acceptable, or the fault in them. -/
def verdict (c : Config) : Json :=
  match c.check with
  | .ok () => .text "ok"
  | .error fault => fault.toJson

/-- What is shown of the document of limits. -/
def inquiry (text : String) : Json :=
  match read? text with
  | none => .record [("error", .text "ConfigParse")]
  | some c => .record [
      ("max_devices", .nat c.maxDevices.toNat),
      ("max_applications", .nat c.maxApplications.toNat),
      ("json", .text c.write),
      ("validate", c.verdict)]

end Config

/-- Whether a device is acceptable, or the fault in it. -/
def DeviceInfo.inquiry (i : DeviceInfo) : Json :=
  match i.check with
  | .ok () => .text "ok"
  | .error fault => fault.toJson

end Switchboard
