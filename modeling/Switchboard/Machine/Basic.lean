import Switchboard.Machine.Frame
import Switchboard.Registry.Query

/-! # The machine

Calls make callbacks, callbacks may make calls, and a teardown may have to wait for the very call
that it was made from. A machine is a registry together with the calls in progress, innermost
first, and the teardowns that wait.

A machine changes in four ways. From outside, a call is begun (`call`), the callback of the
innermost call is answered (`answer`), and a waiting teardown whose record is no longer referred to
is taken up again (`resume`). From inside, the innermost call does its next piece of work
(`advance`). -/

namespace Switchboard

/-- A registry with the calls in progress, innermost first, and the teardowns that wait, in the
order in which they were begun. -/
structure Machine where
  registry : Registry
  frames : List Frame
  waiting : List Teardown

namespace Machine

/-- A switchboard that nothing has happened to. -/
def new (config : Config) : Machine := ⟨.new config, [], []⟩

instance : Inhabited Machine := ⟨new .standard⟩

/-- The callback that the innermost call waits for. -/
def callback? (m : Machine) : Option Callback :=
  match m.frames with
  | [] => none
  | f :: _ => f.callback?

/-- Whether control is outside: no call is in progress, or the innermost waits for a callback. -/
def isOpen (m : Machine) : Bool :=
  match m.frames with
  | [] => true
  | f :: _ => f.callback?.isSome

/-- The machine with another registry. -/
def withRegistry (m : Machine) (r : Registry) : Machine := { m with registry := r }

/-- Goes on with a call: puts a frame on top of the others. -/
def enter (m : Machine) (f : Frame) : Machine × Outcome :=
  ({ m with frames := f :: m.frames }, f.outcome)

/-- Ends a call with its reply. -/
def finish (m : Machine) (reply : Reply) : Machine × Outcome := (m, .ends reply)

/-! ## Pieces of calls -/

/-- Starts the news about a device, to be told to the observers attached now. -/
def announce (m : Machine) (d : Nat) (news : News) : Machine × Outcome :=
  m.enter (.announcing d news none [] m.registry.observers.current)

/-- The notices that a facade sends about a device: one to each subscriber it has now. -/
def notices (r : Registry) (k : Nat) (news : News) (controller : UInt16) : List Notice :=
  let profile := match news with
    | .added => (r.profile controller).toOption
    | .removed => none
  (r.facades.get k).subscribers.map fun s => ⟨k, s, news, controller, profile⟩

/-- Ends a call of which a wake-up was the last piece but one. A message that a device has brought
is counted for the device now. -/
def woken (m : Machine) : Wake → Machine × Outcome
  | .signalled => m.finish .done
  | .queued => m.finish (.accepted true)
  | .delivered d t =>
    (m.withRegistry (m.registry.updateDevice d fun x => x.receive t)).finish (.accepted true)

/-- Wakes an application: calls the handler that it has now, if it has one. -/
def wake (m : Machine) (a : Nat) (w : Wake) : Machine × Outcome :=
  match (m.registry.appls.get a).handler with
  | some h => m.enter (.waking a h w)
  | none => m.woken w

/-- Lets a teardown wait until its record is no longer referred to. -/
def park (m : Machine) (t : Teardown) : Machine × Outcome :=
  { m with waiting := m.waiting ++ [t] }.finish .deferred

/-- Gives up the reference of the registry to a retired device and ends the removal, unless others
refer to the device still. -/
def closeDevice (m : Machine) (d : Nat) : Machine × Outcome :=
  let r := m.registry.leaveDevice d
  if (r.devices.get d).lifecycle.refs = 0 then
    (m.withRegistry (r.freeDevice d)).finish (.removed (.ok ()))
  else (m.withRegistry r).park (.device d)

/-- Takes the links of a released application that nothing refers to, to unwind them. -/
def unwind (m : Machine) (a : Nat) (origin : Origin) : Machine × Outcome :=
  let (links, r) := m.registry.takeLinks a
  (m.withRegistry r).enter (.releasing a origin none links)

/-- Gives up the reference of the registry to a retired application and goes on to its links,
unless others refer to the application still. -/
def closeAppl (m : Machine) (a : Nat) (origin : Origin) : Machine × Outcome :=
  let r := m.registry.leaveAppl a
  if (r.appls.get a).lifecycle.refs = 0 then (m.withRegistry r).unwind a origin
  else (m.withRegistry r).park (.appl a origin)

/-! ## Beginning a call -/

/-- Registers an application through an origin. -/
def register (m : Machine) (origin : Origin) (params : RegisterParams) : Machine × Outcome :=
  match m.registry.installAppl params with
  | .error fault => m.finish (.ofRegistered origin (.error fault))
  | .ok (a, r) => (m.withRegistry r).enter (.registering a origin .start none)

/-- Releases an application through an origin. -/
def release (m : Machine) (origin : Origin) (id : ApplId) : Machine × Outcome :=
  match m.registry.retireAppl? id with
  | none => m.finish (.ofReleased origin (.error .illegalApplication))
  | some (a, r) => (m.withRegistry r).closeAppl a origin

/-- Sends a message for an application through an origin. -/
def send (m : Machine) (origin : Origin) (id : ApplId) (msg : Message) : Machine × Outcome :=
  match m.registry.route id msg with
  | .error fault => m.finish (.ofSent origin (.error fault))
  | .ok (d, a, r) => (m.withRegistry r).enter (.sending d a origin msg)

/-- Takes a message for an application through an origin. -/
def receive (m : Machine) (origin : Origin) (id : ApplId) : Machine × Outcome :=
  match m.registry.receive id with
  | .error fault => m.finish (.ofReceived origin (.error fault))
  | .ok (msg, r) => (m.withRegistry r).finish (.ofReceived origin (.ok msg))

/-- Sets the handler of an application through an origin. -/
def setHandler (m : Machine) (origin : Origin) (id : ApplId) (h : Option SignalHandler) :
    Machine × Outcome :=
  match m.registry.setHandler id h with
  | .error fault => m.finish (.ofHandlerSet origin (.error fault))
  | .ok r => (m.withRegistry r).finish (.ofHandlerSet origin (.ok ()))

/-- Begins a call of a facade. A number that is not of the facade's own is refused at once. -/
def facadeCall (m : Machine) (k : Nat) (f : Facade) : FacadeCall → Machine × Outcome
  | .register params => m.register (.facade k) params
  | .release n => match f.appl? n with
    | none => m.finish (.ofReleased (.facade k) (.error .illegalApplication))
    | some id =>
      -- the facade forgets the number before the release begins
      let r := m.registry.updateFacade k fun f => { f with registered := f.registered.erase n }
      (m.withRegistry r).release (.facade k) id
  | .send n msg => match f.appl? n with
    | none => m.finish (.ofSent (.facade k) (.error .illegalApplication))
    | some id => m.send (.facade k) id msg
  | .receive n => match f.appl? n with
    | none => m.finish (.ofReceived (.facade k) (.error .illegalApplication))
    | some id => m.receive (.facade k) id
  | .setHandler n function param => match f.appl? n with
    | none => m.finish (.ofHandlerSet (.facade k) (.error .illegalApplication))
    | some id => m.setHandler (.facade k) id
        (function.map fun g => ⟨param.toUInt64, .plain g⟩)
  | .subscribe s => (m.withRegistry (m.registry.updateFacade k fun f => f.subscribe s)).finish .done
  | .unsubscribe name =>
    (m.withRegistry (m.registry.updateFacade k fun f => f.unsubscribe name)).finish
      (.flag (f.isSubscribed name))

/-- Begins a call. -/
def call (m : Machine) : Call → Machine × Outcome
  | .install info driver => match m.registry.installDevice info driver with
    | .error fault => m.finish (.installed (.error fault))
    | .ok (d, r) => (m.withRegistry r).enter (.installing d .start none)
  | .remove id => match m.registry.retireDevice? id with
    | none => m.finish (.removed (.error (.unknownDevice id)))
    | some (d, r) => (m.withRegistry r).announce d .removed
  | .register params => m.register .direct params
  | .release id => m.release .direct id
  | .send id msg => m.send .direct id msg
  | .receive id => m.receive .direct id
  | .setHandler id h => m.setHandler .direct id h
  | .enqueue a msg => match m.registry.append? a msg with
    | none => m.finish (.accepted false)
    | some r => (m.withRegistry r).wake a .queued
  | .deliver d a msg => match m.registry.append? a msg with
    | none => m.finish (.accepted false)
    | some r => (m.withRegistry r).wake a (.delivered d msg.traffic)
  | .signal a => m.wake a .signalled
  | .signalError a fault =>
    (m.withRegistry (m.registry.updateAppl a fun x => x.latch fault)).wake a .signalled
  | .attach tag =>
    let observers := m.registry.observers
    (m.withRegistry { m.registry with observers := observers.attach (.custom tag) }).finish
      (.attached observers.nextId)
  | .detach id =>
    let observers := m.registry.observers
    (m.withRegistry { m.registry with observers := observers.detach id }).finish
      (.flag (observers.isAttached id))
  | .openFacade => (m.withRegistry m.registry.openFacade).finish (.opened m.registry.facades.size)
  | .closeFacade k => match m.registry.facade? k with
    | none => m.finish .noFacade
    | some _ => (m.withRegistry (m.registry.closeFacade k)).finish .done
  | .facade k c => match m.registry.facade? k with
    | none => m.finish .noFacade
    | some f => m.facadeCall k f c

/-! ## Going on with a call -/

/-- Does the next piece of work of the innermost call, whose frame has been taken off. -/
def work (m : Machine) : Frame → Machine × Outcome
  | .installing d cursor none => match m.registry.applTable.next? cursor with
    | some (cursor, _, a) => match m.registry.reserve? d a with
      | some r => (m.withRegistry r).enter (.installing d cursor (some a))
      -- passed over: one side is retiring, or the pair is linked or being linked
      | none => m.enter (.installing d cursor none)
    | none => m.announce d .added
  | .registering a origin cursor none => match m.registry.deviceTable.next? cursor with
    | some (cursor, _, d) => match m.registry.reserve? d a with
      | some r => (m.withRegistry r).enter (.registering a origin cursor (some d))
      | none => m.enter (.registering a origin cursor none)
    | none =>
      -- a facade learns the number only when the registration ends
      let id := (m.registry.appls.get a).id
      let r := match origin with
        | .direct => m.registry
        | .facade k => m.registry.updateFacade k fun f =>
            { f with registered := f.registered.insert id.number }
      (m.withRegistry r).finish (.ofRegistered origin (.ok id))
  | .announcing d news none (notice :: notices) rest =>
    m.enter (.announcing d news (some (.subscriber notice)) notices rest)
  | .announcing d news none [] (.custom tag :: rest) =>
    m.enter (.announcing d news (some (.observer tag)) [] rest)
  | .announcing d news none [] (.forwarder k :: rest) =>
    let controller := (m.registry.devices.get d).id.number
    m.enter (.announcing d news none (notices m.registry k news controller) rest)
  | .announcing d .added none [] [] =>
    m.finish (.installed (.ok (m.registry.devices.get d).id))
  | .announcing d .removed none [] [] =>
    -- links are dropped without a word to the driver
    (m.withRegistry (m.registry.unlinkAll (m.registry.devices.get d).id)).closeDevice d
  | .releasing a origin none (d :: rest) =>
    if (m.registry.devices.get d).isRetiring then
      (m.withRegistry (m.registry.leaveDevice d)).enter (.releasing a origin none rest)
    else m.enter (.releasing a origin (some d) rest)
  | .releasing a origin none [] =>
    let r := m.registry.updateAppl a Application.reset
    (m.withRegistry (r.freeAppl a)).finish
      (.ofReleased origin (.ok (r.appls.get a).latched))
  | f => m.enter f

/-- Lets the innermost call do its next piece of work. -/
def advance (m : Machine) : Machine × Outcome :=
  match m.frames with
  | [] => (m, .idle)
  | f :: frames => { m with frames := frames }.work f

/-! ## Answering a callback -/

/-- Goes on after a callback with its answer; the frame that waited for it has been taken off. -/
def answered (m : Machine) (ans : Answer) : Frame → Machine × Outcome
  | .installing d cursor (some a) =>
    (m.withRegistry (m.registry.settle d a ans.isAccepted)).enter (.installing d cursor none)
  | .registering a origin cursor (some d) =>
    (m.withRegistry (m.registry.settle d a ans.isAccepted)).enter
      (.registering a origin cursor none)
  | .announcing d news (some _) notices rest => m.enter (.announcing d news none notices rest)
  | .releasing a origin (some d) rest =>
    (m.withRegistry (m.registry.leaveDevice d)).enter (.releasing a origin none rest)
  | .sending d a origin msg =>
    -- a message that the driver refuses is not counted
    let r := match ans.send with
      | .ok () => m.registry.countSent d a msg.traffic
      | .error _ => m.registry
    (m.withRegistry ((r.leaveDevice d).leaveAppl a)).finish (.ofSent origin ans.send)
  | .waking _ _ w => m.woken w
  | f => m.enter f

/-- Answers the callback of the innermost call. -/
def answer (m : Machine) (ans : Answer) : Machine × Outcome :=
  match m.frames with
  | [] => (m, .idle)
  | f :: frames => { m with frames := frames }.answered ans f

/-! ## Taking up a teardown -/

/-- Takes up the waiting teardown at a position, if its record is no longer referred to. -/
def resume (m : Machine) (i : Nat) : Machine × Outcome :=
  match m.waiting[i]? with
  | none => (m, .idle)
  | some t =>
    if t.holders m.registry = 0 then
      let m := { m with waiting := m.waiting.eraseIdx i }
      match t with
      | .device d => (m.withRegistry (m.registry.freeDevice d)).finish (.removed (.ok ()))
      | .appl a origin => m.unwind a origin
    else (m, .idle)

end Machine

end Switchboard
