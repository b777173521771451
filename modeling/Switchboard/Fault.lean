/-! # Faults

Why an operation was refused. Registration and message exchange answer with the standard
information values of the interface, each of which has a 16-bit code, a name and a wording; the
installation of devices answers with an error number. -/

namespace Switchboard

/-! ## Registration -/

/-- Why an application could not be registered, or a device would not take it. -/
inductive RegisterFault where
  | tooManyApplications
  | blockTooSmall
  | bufferTooLarge
  | bufferTooSmall
  | connectionCount
  | reserved
  | busy
  | osResource
  | notInstalled
  | noExternalEquipment
  | onlyExternalEquipment
deriving DecidableEq, Inhabited

namespace RegisterFault

/-- The information value. -/
def code : RegisterFault → UInt16
  | tooManyApplications => 0x1001
  | blockTooSmall => 0x1002
  | bufferTooLarge => 0x1003
  | bufferTooSmall => 0x1004
  | connectionCount => 0x1005
  | reserved => 0x1006
  | busy => 0x1007
  | osResource => 0x1008
  | notInstalled => 0x1009
  | noExternalEquipment => 0x100a
  | onlyExternalEquipment => 0x100b

/-- Every registration fault, in the order of the codes. -/
def all : List RegisterFault :=
  [tooManyApplications, blockTooSmall, bufferTooLarge, bufferTooSmall, connectionCount, reserved,
    busy, osResource, notInstalled, noExternalEquipment, onlyExternalEquipment]

/-- The fault with a given code. -/
def ofCode? (n : UInt16) : Option RegisterFault := all.find? fun f => f.code == n

/-- A fault is read back from its code. -/
@[simp] theorem ofCode?_code (f : RegisterFault) : ofCode? f.code = some f := by
  cases f <;> decide

/-- The name under which the fault is reported. -/
def label : RegisterFault → String
  | tooManyApplications => "TooManyApplications"
  | blockTooSmall => "LogicalBlockSizeTooSmall"
  | bufferTooLarge => "BufferExceeds64k"
  | bufferTooSmall => "MessageBufferTooSmall"
  | connectionCount => "ConnectionCountNotSupported"
  | reserved => "Reserved"
  | busy => "Busy"
  | osResource => "OsResourceError"
  | notInstalled => "NotInstalled"
  | noExternalEquipment => "ExternalEquipmentNotSupported"
  | onlyExternalEquipment => "OnlyExternalEquipmentSupported"

/-- The wording of the fault. -/
def message : RegisterFault → String
  | tooManyApplications => "too many applications"
  | blockTooSmall => "logical block size too small, must be at least 128 bytes"
  | bufferTooLarge => "buffer exceeds 64 kbytes"
  | bufferTooSmall => "message buffer size too small"
  | connectionCount => "max. number of logical connections not supported"
  | reserved => "reserved"
  | busy => "busy, try again later"
  | osResource => "OS resource error"
  | notInstalled => "CAPI not installed"
  | noExternalEquipment => "controller does not support external equipment"
  | onlyExternalEquipment => "controller does only support external equipment"

end RegisterFault

/-! ## Message exchange -/

/-- Why a message was not accepted, or none could be had. -/
inductive MessageFault where
  | illegalApplication
  | illegalMessage
  | queueFull
  | queueEmpty
  | queueOverflow
  | illegalNotification
  | busy
  | osResource
  | notInstalled
  | noExternalEquipment
  | onlyExternalEquipment
deriving DecidableEq, Inhabited

namespace MessageFault

/-- The information value. -/
def code : MessageFault → UInt16
  | illegalApplication => 0x1101
  | illegalMessage => 0x1102
  | queueFull => 0x1103
  | queueEmpty => 0x1104
  | queueOverflow => 0x1105
  | illegalNotification => 0x1106
  | busy => 0x1107
  | osResource => 0x1108
  | notInstalled => 0x1109
  | noExternalEquipment => 0x110a
  | onlyExternalEquipment => 0x110b

/-- Every message fault, in the order of the codes. -/
def all : List MessageFault :=
  [illegalApplication, illegalMessage, queueFull, queueEmpty, queueOverflow, illegalNotification,
    busy, osResource, notInstalled, noExternalEquipment, onlyExternalEquipment]

/-- The fault with a given code. -/
def ofCode? (n : UInt16) : Option MessageFault := all.find? fun f => f.code == n

/-- A fault is read back from its code. -/
@[simp] theorem ofCode?_code (f : MessageFault) : ofCode? f.code = some f := by
  cases f <;> decide

/-- No fault has the code 0, which stands for success. -/
theorem code_ne_zero (f : MessageFault) : f.code ≠ 0 := by
  cases f <;> decide

/-- Whether the message may be accepted when it is sent again later. -/
def isTransient : MessageFault → Bool
  | queueFull => true
  | busy => true
  | _ => false

/-- The name under which the fault is reported. -/
def label : MessageFault → String
  | illegalApplication => "IllegalApplication"
  | illegalMessage => "IllegalCommandOrMessageTooSmall"
  | queueFull => "QueueFull"
  | queueEmpty => "QueueEmpty"
  | queueOverflow => "QueueOverflow"
  | illegalNotification => "IllegalNotificationParameter"
  | busy => "Busy"
  | osResource => "OsResourceError"
  | notInstalled => "NotInstalled"
  | noExternalEquipment => "ExternalEquipmentNotSupported"
  | onlyExternalEquipment => "OnlyExternalEquipmentSupported"

/-- The wording of the fault. -/
def message : MessageFault → String
  | illegalApplication => "illegal application number"
  | illegalMessage => "illegal command or subcommand or message length less than 12 bytes"
  | queueFull => "the message could not be accepted because of a queue full condition"
  | queueEmpty => "queue is empty"
  | queueOverflow => "queue overflow, a message was lost"
  | illegalNotification => "unknown notification parameter"
  | busy => "the message could not be accepted because of an internal busy condition"
  | osResource => "OS resource error"
  | notInstalled => "CAPI not installed"
  | noExternalEquipment => "controller does not support external equipment"
  | onlyExternalEquipment => "controller does only support external equipment"

end MessageFault

/-- The information value of an outcome: 0 for success, the code of the fault otherwise. -/
def registerCode : Except RegisterFault α → UInt16
  | .ok _ => 0
  | .error f => f.code

/-- The information value of an outcome: 0 for success, the code of the fault otherwise. -/
def messageCode : Except MessageFault α → UInt16
  | .ok _ => 0
  | .error f => f.code

end Switchboard
