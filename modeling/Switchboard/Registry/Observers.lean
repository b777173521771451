import Switchboard.Identifier
import Switchboard.NumberSet
import Switchboard.Text.Quoted

/-! # Observers and operation tables

Observers are told when a device is installed or removed, in the order in which they were
attached. Operation tables (facades) serve clients that use plain numbers: each keeps the numbers
of the applications that were registered through it, and forwards what its own observer is told to
its subscribers, the latest of them first. -/

namespace Switchboard

/-- The identity of an attached observer. -/
structure ObserverId where
  serial : Nat
deriving DecidableEq

/-- One who is told about devices: a function of its attacher, known by a tag, or the forwarder of
a facade. -/
inductive Observer where
  | custom (tag : Nat)
  | forwarder (facade : Nat)
deriving DecidableEq

/-- The observers in the order of attachment. -/
structure Observers where
  nextSerial : Nat
  entries : List (ObserverId × Observer)

namespace Observers

/-- No observers. -/
def empty : Observers := ⟨0, []⟩

instance : Inhabited Observers := ⟨empty⟩

/-- The identity that the next observer gets. -/
def nextId (o : Observers) : ObserverId := ⟨o.nextSerial⟩

/-- Attaches an observer after all others. -/
def attach (o : Observers) (observer : Observer) : Observers :=
  ⟨o.nextSerial + 1, o.entries ++ [(o.nextId, observer)]⟩

/-- Whether an observer is attached. -/
def isAttached (o : Observers) (id : ObserverId) : Bool := o.entries.any fun e => e.1 = id

/-- Detaches an observer. -/
def detach (o : Observers) (id : ObserverId) : Observers :=
  { o with entries := o.entries.filter fun e => e.1 ≠ id }

/-- Those who are attached now. -/
def current (o : Observers) : List Observer := o.entries.map Prod.snd

/-- Who is attached comes last. -/
@[simp] theorem current_attach (o : Observers) (observer : Observer) :
    (o.attach observer).current = o.current ++ [observer] := by
  simp [current, attach]

/-- Who is detached is not attached, however often it was. -/
@[simp] theorem isAttached_detach (o : Observers) (id : ObserverId) :
    (o.detach id).isAttached id = false := by
  simp [isAttached, detach]

end Observers

/-- The description of an observer's identity. -/
def ObserverId.describe (id : ObserverId) : String :=
  Text.wrapped "ObserverId" (Text.natText id.serial)

/-- A named consumer of a facade's device notices, its function known by a tag. -/
structure Subscriber where
  name : String
  tag : Nat
deriving DecidableEq

/-- The description of a subscriber. -/
def Subscriber.describe (s : Subscriber) : String :=
  Text.recordText "InterfaceUser" [("name", Text.quoted s.name)] true

/-- An operation table. -/
structure Facade where
  registered : NumberSet
  subscribers : List Subscriber
  observer : ObserverId
  isOpen : Bool

namespace Facade

/-- A new facade with the identity of its observer. -/
def new (maxApplications : UInt16) (observer : ObserverId) : Facade :=
  ⟨.empty maxApplications, [], observer, true⟩

instance : Inhabited Facade := ⟨⟨default, [], ⟨0⟩, false⟩⟩

/-- The application number `n`, if the application was registered through this facade. -/
def appl? (f : Facade) (n : UInt16) : Option ApplId :=
  if f.registered.contains n then ApplId.ofNumber? n else none

/-- Adds a subscriber before all others. -/
def subscribe (f : Facade) (s : Subscriber) : Facade :=
  { f with subscribers := s :: f.subscribers }

/-- Whether there is a subscriber of this name. -/
def isSubscribed (f : Facade) (name : String) : Bool := f.subscribers.any fun s => s.name = name

/-- Removes every subscriber of this name. -/
def unsubscribe (f : Facade) (name : String) : Facade :=
  { f with subscribers := f.subscribers.filter fun s => s.name ≠ name }

/-- A facade takes a number that is in its set for that of an application. -/
theorem appl?_eq_some_iff {f : Facade} {n : UInt16} {id : ApplId} :
    f.appl? n = some id ↔ f.registered.contains n = true ∧ n = id.number := by
  unfold appl?
  split
  · rename_i h
    rw [ApplId.ofNumber?_eq_some_iff]
    exact (and_iff_right h).symm
  · rename_i h
    exact iff_of_false (fun hnone => by cases hnone) fun hboth => h hboth.1

/-- A name that is unsubscribed has no subscriber left. -/
@[simp] theorem isSubscribed_unsubscribe (f : Facade) (name : String) :
    (f.unsubscribe name).isSubscribed name = false := by
  simp [isSubscribed, unsubscribe]

end Facade

end Switchboard
