import Switchboard.Call

/-! # Replies

What calls end with. A facade answers in plain numbers what the switchboard answers in values and
faults; the functions `Reply.of…` give an outcome the form that its origin takes. -/

namespace Switchboard

/-- What a call ends with. A call that began a teardown which others still hold up ends with
`deferred`; the reply proper comes when the teardown is resumed. -/
inductive Reply where
  | installed (r : Except DeviceFault DeviceId)
  | removed (r : Except DeviceFault Unit)
  | registered (r : Except RegisterFault ApplId)
  | released (r : Except MessageFault (Option MessageFault))
  | sent (r : Except MessageFault Unit)
  | received (r : Except MessageFault Message)
  | handlerSet (r : Except MessageFault Unit)
  | accepted (b : Bool)
  | done
  | attached (id : ObserverId)
  | flag (b : Bool)
  | opened (k : Nat)
  | noFacade
  | code (n : UInt16)
  | numbered (r : Except UInt16 UInt16)
  | fetched (r : Except UInt16 Message)
  | deferred

namespace Reply

/-- The reply to a registration, in the form of its origin. -/
def ofRegistered (origin : Origin) (r : Except RegisterFault ApplId) : Reply :=
  match origin with
  | .direct => .registered r
  | .facade _ => .numbered (match r with
    | .ok id => .ok id.number
    | .error fault => .error fault.code)

/-- The reply to a release, in the form of its origin. -/
def ofReleased (origin : Origin) (r : Except MessageFault (Option MessageFault)) : Reply :=
  match origin with
  | .direct => .released r
  | .facade _ => .code (match r with
    | .ok none => 0
    | .ok (some fault) => fault.code
    | .error fault => fault.code)

/-- The reply to a send, in the form of its origin. -/
def ofSent (origin : Origin) (r : Except MessageFault Unit) : Reply :=
  match origin with
  | .direct => .sent r
  | .facade _ => .code (messageCode r)

/-- The reply to a fetch of a message, in the form of its origin. -/
def ofReceived (origin : Origin) (r : Except MessageFault Message) : Reply :=
  match origin with
  | .direct => .received r
  | .facade _ => .fetched (match r with
    | .ok m => .ok m
    | .error fault => .error fault.code)

/-- The reply to the setting of a handler, in the form of its origin. -/
def ofHandlerSet (origin : Origin) (r : Except MessageFault Unit) : Reply :=
  match origin with
  | .direct => .handlerSet r
  | .facade _ => .code (messageCode r)

end Reply

end Switchboard
