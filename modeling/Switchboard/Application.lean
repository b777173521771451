import Switchboard.Application.Links
import Switchboard.Fault
import Switchboard.Lifecycle
import Switchboard.Message

/-! # Applications

An application registers with the resources it asks for and is then linked to devices. Messages
for it wait in a queue until it takes them; a handler, if it has set one, wakes it when one
arrives. The first error that is signalled to an application is latched for good and answers
every later exchange of messages. -/

namespace Switchboard

/-- The resources an application asks for. -/
structure RegisterParams where
  connections : UInt32
  blocks : UInt32
  blockLength : UInt32
deriving DecidableEq, Inhabited

/-- The smallest block length that is accepted. -/
def RegisterParams.minBlockLength : UInt32 := 128

/-- What a wake-up handler calls: a function of its setter, known by a tag, or one of the plain
functions of an operation table, which takes the parameter in 32 bits. -/
inductive WakeTarget where
  | custom (tag : Nat)
  | plain (function : Nat)
deriving DecidableEq

/-- A wake-up handler with the parameter it is called with. -/
structure SignalHandler where
  param : UInt64
  target : WakeTarget
deriving DecidableEq

namespace SignalHandler

/-- The parameter as the handler's function gets it. -/
def argument (h : SignalHandler) : UInt64 :=
  match h.target with
  | .custom _ => h.param
  | .plain _ => h.param.toUInt32.toUInt64

/-- The description of a handler. -/
def describe (h : SignalHandler) : String :=
  Text.recordText "SignalHandler" [("param", Text.natText h.param.toNat)] true

end SignalHandler

/-- The record of an application. -/
structure Application where
  id : ApplId
  params : RegisterParams
  links : Links
  queue : List Message
  latched : Option MessageFault
  handler : Option SignalHandler
  lifecycle : Lifecycle
  usage : Usage

namespace Application

/-- The record of an application that registers now, with the reference of its owner. -/
def new (id : ApplId) (params : RegisterParams) (maxDevices : UInt16) : Application :=
  ⟨id, params, .empty maxDevices, [], none, none, .fresh, .zero⟩

instance : Inhabited Application :=
  ⟨⟨default, default, default, [], none, none, ⟨0, true⟩, .zero⟩⟩

/-- Whether the application is being released. -/
def isRetiring (a : Application) : Bool := a.lifecycle.retiring

/-- Takes a reference, if one is to be had. -/
def join? (a : Application) : Option Application :=
  a.lifecycle.join?.map fun l => { a with lifecycle := l }

/-- Gives up a reference. -/
def leave (a : Application) : Application := { a with lifecycle := a.lifecycle.leave }

/-- Starts the release. -/
def retire (a : Application) : Application := { a with lifecycle := a.lifecycle.retire }

/-- The numbers of the linked devices in ascending order. -/
def boundNumbers (a : Application) : List UInt16 := a.links.bound.toList

/-! ## The queue -/

/-- Appends a message to the queue, unless the application is being released. -/
def append? (a : Application) (m : Message) : Option Application :=
  if a.isRetiring then none else some { a with queue := a.queue ++ [m] }

/-- Whether a message can be taken now: the latched error comes before the queue. -/
def peek (a : Application) : Except MessageFault Unit :=
  match a.latched with
  | some fault => .error fault
  | none => match a.queue with
    | [] => .error .queueEmpty
    | _ :: _ => .ok ()

/-- Takes the oldest message and counts it. -/
def take (a : Application) : Except MessageFault (Message × Application) :=
  match a.latched with
  | some fault => .error fault
  | none => match a.queue with
    | [] => .error .queueEmpty
    | m :: rest => .ok (m, { a with queue := rest, usage := a.usage.receive m.traffic })

/-- Latches an error, unless one is latched already. -/
def latch (a : Application) (fault : MessageFault) : Application :=
  match a.latched with
  | some _ => a
  | none => { a with latched := some fault }

/-- The latch in one word: 0, or the code of the error. -/
def latchWord (a : Application) : UInt16 := a.latched.elim 0 MessageFault.code

/-- Counts a message that a device has taken. -/
def send (a : Application) (t : Traffic) : Application := { a with usage := a.usage.send t }

/-- Drops the handler and the queued messages. -/
def reset (a : Application) : Application := { a with handler := none, queue := [] }

/-- The description of an application. -/
def describe (a : Application) : String :=
  Text.recordText "Application" [
    ("id", a.id.describe),
    ("bound", Text.setText (a.boundNumbers.map fun n => Text.natText n.toNat)),
    ("queued", Text.natText a.queue.length),
    ("latched", Text.optionText (a.latched.map MessageFault.label)),
    ("lifecycle", a.lifecycle.describe)] true

/-! ## Basic facts -/

/-- A message can be taken exactly when `peek` says so, and with the same fault otherwise. -/
theorem peek_eq_take (a : Application) : a.peek = a.take.map fun _ => () := by
  unfold peek take
  split
  · rfl
  · split <;> rfl

/-- Messages are queued for an application until it is being released. -/
theorem append?_eq_none_iff (a : Application) (m : Message) :
    a.append? m = none ↔ a.isRetiring = true := by
  simp [append?]

/-- The first error stays latched. -/
theorem latched_latch (a : Application) (fault : MessageFault) :
    (a.latch fault).latched = some (a.latched.getD fault) := by
  unfold latch
  split <;> simp_all

/-- The latch is read back from its word. -/
theorem ofCode?_latchWord (a : Application) : MessageFault.ofCode? a.latchWord = a.latched := by
  unfold latchWord
  cases a.latched with
  | none => decide
  | some fault => exact MessageFault.ofCode?_code fault

/-- An error is latched by exchanging its code for a 0. -/
theorem latchWord_latch (a : Application) (fault : MessageFault) :
    (a.latch fault).latchWord = if a.latchWord = 0 then fault.code else a.latchWord := by
  unfold latchWord
  rw [latched_latch]
  cases ha : a.latched with
  | none => simp
  | some first => simp [first.code_ne_zero]

end Application

end Switchboard
