/-! # Traffic and its counters

Every message stands for an amount of traffic: its bytes and, if it is a data message, the bytes
of its payload. Devices and applications count the traffic they receive and send in four 64-bit
counters per direction, which wrap around. -/

namespace Switchboard

/-- The amount of traffic that one message stands for. -/
structure Traffic where
  bytes : Nat
  dataBytes : Option Nat
deriving DecidableEq, Inhabited

/-- Counters for one direction. -/
structure Counters where
  packets : UInt64
  bytes : UInt64
  dataPackets : UInt64
  dataBytes : UInt64
deriving DecidableEq

namespace Counters

/-- Nothing counted yet. -/
def zero : Counters := ⟨0, 0, 0, 0⟩

instance : Inhabited Counters := ⟨zero⟩

/-- Counts one message. -/
def count (c : Counters) (t : Traffic) : Counters where
  packets := c.packets + 1
  bytes := c.bytes + UInt64.ofNat t.bytes
  dataPackets := match t.dataBytes with
    | none => c.dataPackets
    | some _ => c.dataPackets + 1
  dataBytes := match t.dataBytes with
    | none => c.dataBytes
    | some n => c.dataBytes + UInt64.ofNat n

/-- The counters after a sequence of messages. -/
def countAll (c : Counters) (ts : List Traffic) : Counters := ts.foldl count c

/-- Nothing is counted. -/
@[simp] theorem countAll_nil (c : Counters) : c.countAll [] = c := rfl

/-- The first is counted before the others. -/
@[simp] theorem countAll_cons (c : Counters) (t : Traffic) (ts : List Traffic) :
    c.countAll (t :: ts) = (c.count t).countAll ts := rfl

/-- What comes first is counted first. -/
theorem countAll_append (c : Counters) (ts us : List Traffic) :
    c.countAll (ts ++ us) = (c.countAll ts).countAll us := by
  simp [countAll]

end Counters

/-- The counters of a device or an application. -/
structure Usage where
  received : Counters
  sent : Counters
deriving DecidableEq

namespace Usage

/-- Nothing counted yet. -/
def zero : Usage := ⟨.zero, .zero⟩

instance : Inhabited Usage := ⟨zero⟩

/-- Counts a received message. -/
def receive (u : Usage) (t : Traffic) : Usage := { u with received := u.received.count t }

/-- Counts a sent message. -/
def send (u : Usage) (t : Traffic) : Usage := { u with sent := u.sent.count t }

/-- What is received is counted as received. -/
@[simp] theorem received_receive (u : Usage) (t : Traffic) :
    (u.receive t).received = u.received.count t := rfl

/-- What is received is not counted as sent. -/
@[simp] theorem sent_receive (u : Usage) (t : Traffic) : (u.receive t).sent = u.sent := rfl

/-- What is sent is not counted as received. -/
@[simp] theorem received_send (u : Usage) (t : Traffic) : (u.send t).received = u.received := rfl

/-- What is sent is counted as sent. -/
@[simp] theorem sent_send (u : Usage) (t : Traffic) :
    (u.send t).sent = u.sent.count t := rfl

end Usage

end Switchboard
