import Switchboard.Text.Layout
import Switchboard.Traffic

/-! # Messages

A message is a string of bytes. Its first twelve bytes are the header, little endian: the total
length and the application number (two bytes each), command and subcommand (one each), the
message number (two) and the address (four), whose lowest byte names the controller in seven
bits. A data message carries the length of its payload at offset 16; the payload itself follows
the message proper and is not part of its total length.

`Message.build` writes a message from its fields, `Message.header?` reads the fields back, and
`Message.traffic` says what the message counts for. -/

namespace Switchboard

/-- A message as it travels. -/
structure Message where
  bytes : List UInt8
deriving DecidableEq, Inhabited

/-- The fields of a message's header. -/
structure Header where
  totalLength : UInt16
  appl : UInt16
  command : UInt8
  subcommand : UInt8
  number : UInt16
  address : UInt32
deriving DecidableEq, Inhabited

namespace Message

/-- Length of the shortest message with a header. -/
def headerLength : Nat := 12

/-- The command of a data message. -/
def dataCommand : UInt8 := 0x86

/-- Where a data message says how long its payload is. -/
def payloadLengthOffset : Nat := 16

/-! ## Little-endian words -/

/-- The two bytes of a word, low byte first. -/
def word16 (w : UInt16) : List UInt8 := [w.toUInt8, (w >>> 8).toUInt8]

/-- The four bytes of a word, low byte first. -/
def word32 (w : UInt32) : List UInt8 :=
  [w.toUInt8, (w >>> 8).toUInt8, (w >>> 16).toUInt8, (w >>> 24).toUInt8]

/-- The word that two bytes make, low byte first. -/
def join16 (b c : UInt8) : UInt16 := b.toUInt16 ||| c.toUInt16 <<< 8

/-- The word that four bytes make, low byte first. -/
def join32 (b c d e : UInt8) : UInt32 :=
  b.toUInt32 ||| c.toUInt32 <<< 8 ||| d.toUInt32 <<< 16 ||| e.toUInt32 <<< 24

/-! ## Writing and reading -/

/-- The message with the given header fields, parameters and payload. Its total length is that of
header and parameters, modulo 2^16. -/
def build (appl : UInt16) (command subcommand : UInt8) (number : UInt16) (address : UInt32)
    (params payload : List UInt8) : Message where
  bytes := word16 (UInt16.ofNat (headerLength + params.length)) ++ word16 appl ++
    [command, subcommand] ++ word16 number ++ word32 address ++ params ++ payload

/-- The fields of the header, if the message is long enough to have one. -/
def header? (m : Message) : Option Header :=
  match m.bytes with
  | l₀ :: l₁ :: a₀ :: a₁ :: command :: subcommand :: n₀ :: n₁ :: c₀ :: c₁ :: c₂ :: c₃ :: _ =>
    some ⟨join16 l₀ l₁, join16 a₀ a₁, command, subcommand, join16 n₀ n₁, join32 c₀ c₁ c₂ c₃⟩
  | _ => none

/-- The payload length that a data message declares, if it reaches that far. -/
def declaredPayload? (m : Message) : Option UInt16 :=
  match m.bytes.drop payloadLengthOffset with
  | b :: c :: _ => some (join16 b c)
  | _ => none

end Message

namespace Header

/-- The controller that the address names. -/
def controller (h : Header) : UInt8 := h.address.toUInt8 &&& 0x7f

/-- Whether this is the header of a data message. -/
def isData (h : Header) : Bool := h.command == Message.dataCommand

end Header

namespace Message

/-- The payload length of a data message, if it is one and reaches far enough to declare it. -/
def payloadLength? (m : Message) : Option UInt16 :=
  match m.header? with
  | none => none
  | some h => if h.isData then m.declaredPayload? else none

/-- What a message counts for: the total length it declares and its payload. A string of bytes too
short to have a header counts for its length. -/
def traffic (m : Message) : Traffic :=
  match m.header? with
  | none => ⟨m.bytes.length, none⟩
  | some h => match m.payloadLength? with
    | none => ⟨h.totalLength.toNat, none⟩
    | some n => ⟨h.totalLength.toNat + n.toNat, some n.toNat⟩

/-- The description of a message: its length and, if it has a header, the fields that say what it
is and where it goes. -/
def describe (m : Message) : String :=
  match m.header? with
  | none => Text.recordText "Message" [("len", Text.natText m.bytes.length)] true
  | some h => Text.recordText "Message" [
      ("len", Text.natText m.bytes.length),
      ("appl", Text.natText h.appl.toNat),
      ("command", Text.byteText h.command),
      ("subcommand", Text.byteText h.subcommand),
      ("controller", Text.natText h.controller.toNat)] false

/-! ## Basic facts -/

/-- Exactly the messages of at least twelve bytes have a header. -/
theorem header?_isSome (m : Message) :
    m.header?.isSome = decide (headerLength ≤ m.bytes.length) := by
  obtain ⟨bytes⟩ := m
  unfold header? headerLength
  split
  · rename_i h
    simp only at h
    simp [h]
  · rename_i h
    simp only [Option.isSome_none, Bool.false_eq, decide_eq_false_iff_not]
    intro hl
    -- a list of twelve bytes or more is of the shape that the pattern asks for
    match bytes, h with
    | b₀ :: b₁ :: b₂ :: b₃ :: b₄ :: b₅ :: b₆ :: b₇ :: b₈ :: b₉ :: b₁₀ :: b₁₁ :: _, h =>
      exact h b₀ b₁ b₂ b₃ b₄ b₅ b₆ b₇ b₈ b₉ b₁₀ b₁₁ _ rfl

/-- A message is as long as its header, its parameters and its payload. -/
@[simp] theorem length_build (appl : UInt16) (command subcommand : UInt8) (number : UInt16)
    (address : UInt32) (params payload : List UInt8) :
    (build appl command subcommand number address params payload).bytes.length =
      headerLength + params.length + payload.length := by
  simp [build, word16, word32, headerLength]; omega

end Message

end Switchboard
