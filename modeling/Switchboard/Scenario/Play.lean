import Switchboard.Report.Attributes
import Switchboard.Report.Lines
import Switchboard.Report.Tables
import Switchboard.Scenario.Scene

/-! # Playing a scenario

The actions of a scenario are calls and queries on its switchboard, and the callbacks that calls
lead to are answered by the scripts of the scenario. A call that would have to wait for references
held around it is made aside: its callbacks are logged but run no scripts, and what is left of it
once the references are gone is done before the next action, or after the step, and logged then.

Playing is bounded by a number of rounds, of which each action and each callback takes one;
`Scenario.rounds` is enough for every action that the scenario can lead to. -/

namespace Switchboard.Scenario

/-- A part of a scenario being played; it fails if it runs out of rounds. -/
abbrev Play := StateT Scene Option

namespace Play

/-- Logs an event. -/
def emit (event : Json) : Play Unit := modify fun s => { s with log := event :: s.log }

/-- Makes a move of the machine and lets it work until the call ends or makes a callback. -/
def make (mv : Move) : Play Outcome := do
  let s ← get
  let (machine, outcome) := Machine.settle (s.machine.make mv)
  set { s with machine := machine }
  return outcome

/-! ## Calls made aside -/

/-- Brings a call to its end, logging its callbacks and agreeing to whatever they ask. -/
def concludeAside : Nat → Outcome → Play Reply
  | _, .ends reply => return reply
  | rounds + 1, .asks callback => do
    emit ((← get).event callback)
    concludeAside rounds (← make (.answer .agree))
  | _, _ => failure

/-- Makes a call aside. -/
def callAside (rounds : Nat) (c : Call) : Play Reply := do
  concludeAside rounds (← make (.call c))

/-- Takes up the waiting teardown at a position, if nothing refers to its record, and yields its
events. -/
def resume (rounds : Nat) (i : Nat) : Play (List Json) := do
  let before := (← get).log
  modify fun s => { s with log := [] }
  let reply ← concludeAside rounds (← make (.resume i))
  let events := (← get).log.reverse
  modify fun s => { s with log := before }
  return events ++ [showReply reply]

/-- The position of the first waiting teardown that nothing holds up. -/
def ready? (m : Machine) : Option Nat := m.waiting.findIdx? fun t => t.holders m.registry = 0

/-- Takes up teardowns that nothing holds up, at most `n` of them and until there are none left, and
yields for each its events, the result last. -/
def resumeAll (rounds : Nat) : Nat → Play (List (Teardown × List Json))
  | 0 => return []
  | n + 1 => do
    let s ← get
    match ready? s.machine with
    | none => return []
    | some i =>
      let events ← resume rounds i
      let others ← resumeAll rounds n
      match s.machine.waiting[i]? with
      | none => return others
      | some t => return (t, events) :: others

/-- Logs the events of one teardown and that it is done. -/
def emitDone (t : Teardown) : List Json → Play Unit
  | [] => return ()
  | [result] => do emit ((← get).doneEvent t result)
  | event :: rest => do
    emit event
    emitDone t rest

/-- Completes every teardown that nothing holds up, and logs them in the order in which they were
begun. -/
def reap (rounds : Nat) : Play Unit := do
  let order := (← get).machine.waiting
  let completed ← resumeAll rounds order.length
  -- the order of completion need not be that in which they were begun
  for t in order do
    match completed.lookup t with
    | none => pure ()
    | some events => emitDone t events

/-! ## Scripts -/

/-- The first of the scripts that are left and those after it. -/
def next (scripts : List Script) : Option Script × List Script := (scripts.head?, scripts.tail)

/-- Takes the next script of a driver's register callbacks. -/
def takeOnRegister (driver : Driver) : Play (Option Script) := do
  let s ← get
  let (script, rest) := next (s.drivers.get driver).onRegister
  set { s with drivers := s.drivers.update driver fun x => { x with onRegister := rest } }
  return script

/-- Takes the next script of a driver's release callbacks. -/
def takeOnRelease (driver : Driver) : Play (Option Script) := do
  let s ← get
  let (script, rest) := next (s.drivers.get driver).onRelease
  set { s with drivers := s.drivers.update driver fun x => { x with onRelease := rest } }
  return script

/-- Takes the next script of a driver's send callbacks. -/
def takeOnSend (driver : Driver) : Play (Option Script) := do
  let s ← get
  let (script, rest) := next (s.drivers.get driver).onSend
  set { s with drivers := s.drivers.update driver fun x => { x with onSend := rest } }
  return script

/-- Takes the next script of an observer for the news at hand. -/
def takeOnNews (observer : Nat) : News → Play (Option Script)
  | .added => do
    let s ← get
    let (script, rest) := next (s.observers.get observer).onAdded
    set { s with observers := s.observers.update observer fun x => { x with onAdded := rest } }
    return script
  | .removed => do
    let s ← get
    let (script, rest) := next (s.observers.get observer).onRemoved
    set { s with observers := s.observers.update observer fun x => { x with onRemoved := rest } }
    return script

/-- Takes the next script of a subscriber. -/
def takeOnNotice (subscriber : Nat) : Play (Option Script) := do
  let s ← get
  let (script, rest) := next (s.subscribers.get subscriber)
  set { s with subscribers := s.subscribers.update subscriber fun _ => rest }
  return script

/-- Takes the next script of a wake-up handler. A plain function has none. -/
def takeOnWake : WakeTarget → Play (Option Script)
  | .plain _ => return none
  | .custom handler => do
    let s ← get
    let (script, rest) := next (s.handlers.get handler)
    set { s with handlers := s.handlers.update handler fun _ => rest }
    return script

/-- Enters a driver callback about an application. -/
def enter (a : Nat) : Play Unit := modify fun s => { s with innermost := a :: s.innermost }

/-- Leaves a driver callback. -/
def leave : Play Unit := modify fun s => { s with innermost := s.innermost.tail }

/-- The driver of a device record. -/
def driverOf (d : Nat) : Play Driver := return ((← get).registry.devices.get d).driver

/-- How a driver answers a register callback after its script. -/
def registerAnswer (driver : Driver) (a : Nat) (script : Option Script) :
    Play (Except RegisterFault Unit) := do
  match script.bind Script.refusal with
  | some fault => return .error fault
  | none =>
    let s ← get
    if (s.drivers.get driver).refuse.contains (s.applNumber a) then return .error .osResource
    else return .ok ()

/-- How a driver answers a send callback after its script. -/
def sendAnswer (driver : Driver) (script : Option Script) : Play (Except MessageFault Unit) := do
  match script.bind Script.fault with
  | some fault => return .error fault
  | none => match ((← get).drivers.get driver).sendFault with
    | some fault => return .error fault
    | none => return .ok ()

/-! ## Actions that call nothing -/

/-- Carries on with the application that an action names, if it is there. -/
def withAppl (name : ApplName) (f : Nat → Play Json) : Play Json := do
  match (← get).appl? name with
  | none => return missing
  | some a => f a

/-- Carries on with the device that an action names, if it is there. -/
def withDevice (name : DeviceName) (f : Nat → Play Json) : Play Json := do
  match (← get).device? name with
  | none => return missing
  | some d => f d

/-- Carries on with an application number, unless it is 0. -/
def withApplId (n : UInt16) (f : ApplId → Play Json) : Play Json :=
  match ApplId.ofNumber? n with
  | none => return missing
  | some id => f id

/-- Carries on with a device number, unless it is 0. -/
def withDeviceId (n : UInt16) (f : DeviceId → Play Json) : Play Json :=
  match DeviceId.ofNumber? n with
  | none => return missing
  | some id => f id

/-- Shows the outcome of a query. -/
def query (shown : α → Json) (f : Registry → Except MessageFault α) : Play Json :=
  return .ofExcept MessageFault.toJson shown (f (← get).registry)

/-- Shows the outcome of a facade's query. -/
def facadeQuery (controller : UInt32) (shown : α → Json)
    (f : Registry → UInt16 → Except MessageFault α) : Play Json := do
  let r := (← get).registry
  match (Registry.controller? controller).bind (f r) with
  | .ok x => return .ofCoded shown (.ok x)
  | .error fault => return .ofCoded shown (.error fault.code)

/-- Appends scripts to those of the driver that was last installed under a number, and replaces its
settings by those that are given. -/
def addScripts (device : UInt16) (onRegister onRelease onSend : List Script)
    (refuse : Option (List UInt16)) (sendFault : Option (Option MessageFault)) : Play Json := do
  let s ← get
  match s.driverOf.lookup device with
  | none => return missing
  | some driver =>
    set { s with drivers := s.drivers.update driver fun x =>
      { onRegister := x.onRegister ++ onRegister
        onRelease := x.onRelease ++ onRelease
        onSend := x.onSend ++ onSend
        refuse := refuse.getD x.refuse
        sendFault := sendFault.getD x.sendFault } }
    return success

/-- Shows the snapshots of all devices and applications. -/
def snapshots (s : Scene) : Json :=
  .list [
    .list (s.registry.deviceSnapshots.map fun x => .record x.members),
    .list (s.registry.applSnapshots.map fun x => .record x.members)]

/-- Whether the machine has the facade. -/
def hasFacade (k : Nat) : Play Bool := return ((← get).registry.facade? k).isSome

/-! ## Actions -/

mutual

/-- Brings a call to its end, its callbacks running their scripts. -/
def conclude : Nat → Outcome → Play Reply
  | _, .ends reply => return reply
  | rounds + 1, .asks callback => do
    let answer ← respond rounds callback
    conclude rounds (← make (.answer answer))
  | _, _ => failure

/-- Answers a callback. -/
def respond : Nat → Callback → Play Answer
  | 0, _ => failure
  | rounds + 1, callback => do
    emit ((← get).event callback)
    match callback with
    | .register d a =>
      let driver ← driverOf d
      let script ← takeOnRegister driver
      enter a
      runScript rounds script
      leave
      return ⟨← registerAnswer driver a script, .ok ()⟩
    | .release d a =>
      let script ← takeOnRelease (← driverOf d)
      enter a
      runScript rounds script
      leave
      return .agree
    | .send d a _ =>
      let driver ← driverOf d
      let script ← takeOnSend driver
      enter a
      runScript rounds script
      leave
      return ⟨.ok (), ← sendAnswer driver script⟩
    | .news (.observer tag) news _ =>
      runScript rounds (← takeOnNews tag news)
      return .agree
    | .news (.subscriber notice) _ _ =>
      runScript rounds (← takeOnNotice notice.subscriber.tag)
      return .agree
    | .wake _ h =>
      runScript rounds (← takeOnWake h.target)
      return .agree

/-- Runs a script, if there is one. -/
def runScript : Nat → Option Script → Play Unit
  | _, none => return ()
  | 0, some _ => failure
  | rounds + 1, some script => runActions rounds script.actions

/-- Runs actions from inside a callback, logging the result of each. -/
def runActions : Nat → List Action → Play Unit
  | _, [] => return ()
  | 0, _ :: _ => failure
  | rounds + 1, action :: rest => do
    let result ← perform rounds action
    emit (.list [.text "do", result])
    runActions rounds rest

/-- Performs actions one after the other and yields their results. -/
def performAll : Nat → List Action → Play (List Json)
  | _, [] => return []
  | 0, _ :: _ => failure
  | rounds + 1, action :: rest => do
    let result ← perform rounds action
    return result :: (← performAll rounds rest)

/-- Makes a call, aside if it would have to wait for references held around it. -/
def callWith : Nat → (holders : Nat) → Call → Play Reply
  | 0, _, _ => failure
  | rounds + 1, holders, c =>
    if 0 < holders then callAside rounds c
    else do conclude rounds (← make (.call c))

/-- Performs an action and yields its result. -/
def perform : Nat → Action → Play Json
  | 0, _ => failure
  | rounds + 1, action => do
    -- what nothing holds up any more is done before the action begins
    reap rounds
    match action with
    | .addDevice info onRegister onRelease onSend refuse sendFault =>
      let driver := (← get).drivers.size
      let scripts := ⟨onRegister, onRelease, onSend, refuse, sendFault⟩
      modify fun s => { s with drivers := s.drivers.add scripts }
      let reply ← callWith rounds 0 (.install info driver)
      match reply with
      | .installed (.ok id) =>
        modify fun s => { s with driverOf := (id.number, driver) :: s.driverOf }
      | _ => pure ()
      return showReply reply
    | .addScripts device onRegister onRelease onSend refuse sendFault =>
      addScripts device onRegister onRelease onSend refuse sendFault
    | .removeDevice n => withDeviceId n fun id => do
      let holders := (← get).deviceHolders n
      return showReply (← callWith rounds holders (.remove id))
    | .enqueue appl m => withAppl appl fun a => do
      return showReply (← callWith rounds 0 (.enqueue a m))
    | .deliver device appl m => withDevice device fun d => withAppl appl fun a => do
      return showReply (← callWith rounds 0 (.deliver d a m))
    | .signal appl => withAppl appl fun a => do
      return showReply (← callWith rounds 0 (.signal a))
    | .signalError appl code => withAppl appl fun a => do
      match MessageFault.ofCode? code with
      | none => return missing
      | some fault => return showReply (← callWith rounds 0 (.signalError a fault))
    | .register params => return showReply (← callWith rounds 0 (.register params))
    | .release n => withApplId n fun id => do
      let holders := (← get).applHolders n
      return showReply (← callWith rounds holders (.release id))
    | .send n m => withApplId n fun id => do
      return showReply (← callWith rounds 0 (.send id m))
    | .receive n => withApplId n fun id => do
      return showReply (← callWith rounds 0 (.receive id))
    | .peek n => withApplId n fun id => query (fun _ => .null) fun r => r.peek id
    | .setHandler n param scripts => withApplId n fun id => do
      match param with
      | none => return showReply (← callWith rounds 0 (.setHandler id none))
      | some p =>
        let handler : SignalHandler := ⟨p, .custom (← get).handlers.size⟩
        modify fun s => { s with handlers := s.handlers.add scripts }
        match ← callWith rounds 0 (.setHandler id (some handler)) with
        | .handlerSet (.ok ()) =>
          return .ok (.list [.nat p.toNat, .text handler.describe])
        | reply => return showReply reply
    | .isInstalled => return .bool (← get).registry.isInstalled
    | .checkInstalled => query (fun _ => .null) fun r => r.checkInstalled
    | .config => return limits (← get).registry.config
    | .manufacturer n => query Json.text fun r => r.manufacturer n
    | .serial n => query Json.text fun r => r.serial n
    | .product n => query Json.text fun r => r.product n
    | .version n => query versionNumbers fun r => r.version n
    | .profile n => query Profile.toJson fun r => r.profile n
    | .snapshots => return snapshots (← get)
    | .state => return (← get).state
    | .applInfo appl => withAppl appl fun a => return (← get).applInfo a
    | .isBound appl device => withAppl appl fun a => withDeviceId device fun id => do
      return .bool (((← get).registry.appls.get a).links.isBound id)
    | .deviceInfo device => withDevice device fun d => return (← get).deviceInfo d
    | .holdAppl appl name => withAppl appl fun a => do
      modify fun s => { s with heldAppls := (name, a) :: s.heldAppls }
      return success
    | .holdDevice device name => withDevice device fun d => do
      modify fun s => { s with heldDevices := (name, d) :: s.heldDevices }
      return success
    | .attachObserver name onAdded onRemoved =>
      let tag := (← get).observers.size
      modify fun s => { s with observers := s.observers.add ⟨name, onAdded, onRemoved⟩ }
      let reply ← callWith rounds 0 (.attach tag)
      match reply with
      | .attached id => modify fun s => { s with observerOf := (name, id) :: s.observerOf }
      | _ => pure ()
      return showReply reply
    | .detachObserver name => match (← get).observerOf.lookup name with
      | none => return missing
      | some id => return showReply (← callWith rounds 0 (.detach id))
    | .times n actions => return .list (← performAll rounds (List.replicate n actions).flatten)
    | .openFacade => return showReply (← callWith rounds 0 .openFacade)
    | .closeFacade k => match ← callWith rounds 0 (.closeFacade k) with
      | .noFacade => return .bool false
      | _ => return .bool true
    | .facade k action =>
      if ← hasFacade k then performFacade rounds k action else return noFacade
    | .lines => return .text (Report.lines (← get).registry)
    | .paramsTable => return .text (Report.paramsTable (← get).registry)
    | .trafficTable => return .text (Report.trafficTable (← get).registry)
    | .attributes n => withDeviceId n fun id => do
      let pairs := Report.attributes? (← get).registry id
      return .ofOption (fun ps => .list (ps.map fun p => .list [.text p.1, .text p.2])) pairs

/-- Performs an action on an open facade and yields its result. -/
def performFacade : Nat → Nat → FacadeAction → Play Json
  | 0, _, _ => failure
  | rounds + 1, k, action => do
    match action with
    | .isInstalled => return .nat (messageCode (← get).registry.checkInstalled).toNat
    | .register params => return showReply (← callWith rounds 0 (.facade k (.register params)))
    | .release n =>
      let holders := (← get).applHolders n
      return showReply (← callWith rounds holders (.facade k (.release n)))
    | .send n m => return showReply (← callWith rounds 0 (.facade k (.send n m)))
    | .receive n => return showReply (← callWith rounds 0 (.facade k (.receive n)))
    | .setHandler n function param =>
      return showReply (← callWith rounds 0 (.facade k (.setHandler n function param)))
    | .manufacturer n => facadeQuery n Json.text Registry.manufacturer
    | .serial n => facadeQuery n Json.text Registry.serial
    | .product n => facadeQuery n Json.text Registry.product
    | .version n => facadeQuery n versionNumbers Registry.version
    | .profile n => facadeQuery n Profile.toJson Registry.profile
    | .config => return limits (← get).registry.config
    | .subscribe name scripts =>
      let subscriber : Subscriber := ⟨name, (← get).subscribers.size⟩
      modify fun s => { s with subscribers := s.subscribers.add scripts }
      let _ ← callWith rounds 0 (.facade k (.subscribe subscriber))
      return .list [.text name, .text subscriber.describe]
    | .unsubscribe name => return showReply (← callWith rounds 0 (.facade k (.unsubscribe name)))

end

/-! ## Steps -/

/-- Performs one step and yields what is shown of it. -/
def step (rounds : Nat) (showsState : Bool) (action : Action) : Play Json := do
  modify fun s => { s with log := [] }
  let result ← perform rounds action
  reap rounds
  let s ← get
  let log := if s.log.isEmpty then [] else [("log", Json.list s.log.reverse)]
  let state := if showsState then [("st", s.state)] else []
  return .record (("r", result) :: (log ++ state))

/-- Performs the steps one after the other. -/
def steps (rounds : Nat) (showsState : Bool) : List Action → Play (List Json)
  | [] => return []
  | action :: rest => do
    let shown ← step rounds showsState action
    return shown :: (← steps rounds showsState rest)

end Play

end Switchboard.Scenario

namespace Switchboard.Scenario

/-- Rounds that are enough for every chain of actions and callbacks in a scenario: a chain has no
more links than actions, and between two links there are no more callbacks than records, observers
and subscribers, each of which an action has made. -/
def rounds (s : Scenario) : Nat := 8 * (weightOfActions s.steps + 8) * (weightOfActions s.steps + 8)

/-- What is shown of a scenario: the fault in its limits, or its steps. -/
def show? (s : Scenario) : Option Json :=
  match s.config.check with
  | .error fault => some fault.toJson
  | .ok () =>
    (Play.steps s.rounds s.showsState s.steps (Scene.new s.config)).map fun r => .list r.1

end Switchboard.Scenario
