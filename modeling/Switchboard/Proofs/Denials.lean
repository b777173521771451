import Switchboard.Proofs.Routing
import Switchboard.Registry.Stepwise

/-! # Denials do no harm

An operation that is denied has often taken something before: a number from a pool, or a reference
to an application. It gives back what it has taken, so that the registry is word for word what it
was, whichever step it was denied at (`Registry.IsAtomic`). And a call is denied at once, before
anyone has been called back, or not at all (`Machine.eq_call_of_isDenial`). -/

namespace Switchboard

/-! ## What is taken and given back -/

/-- An array is what it was once an element has been put back. -/
theorem setIfInBounds_getD_self {α : Type} (xs : Array α) (i : Nat) (x : α) :
    xs.setIfInBounds i (xs.getD i x) = xs := by
  rcases Nat.lt_or_ge i xs.size with hi | hi
  · simp [Array.setIfInBounds, hi]
  · exact Array.setIfInBounds_eq_of_size_le hi

namespace NumberSet

/-- A bit that a word has not can be set and cleared again. -/
theorem or_and_not {w b : UInt64} (clear : w &&& b = 0) : (w ||| b) &&& ~~~b = w := by
  apply UInt64.toBitVec_inj.1
  apply BitVec.eq_of_getLsbD_eq
  intro j hj
  have hbit := congrArg (fun x : UInt64 => x.toBitVec.getLsbD j) clear
  simp only [UInt64.toBitVec_and, BitVec.getLsbD_and] at hbit
  simp only [UInt64.toBitVec_and, UInt64.toBitVec_or, UInt64.toBitVec_not, BitVec.getLsbD_and,
    BitVec.getLsbD_or, BitVec.getLsbD_not, hj, decide_true, Bool.true_and]
  cases hw : w.toBitVec.getLsbD j <;> cases hb : b.toBitVec.getLsbD j <;> simp_all

/-- A set is what it was once a number has been added that was not in it and erased again. -/
theorem erase_insert {s : NumberSet} {n : UInt16} (absent : s.contains n = false) :
    (s.insert n).erase n = s := by
  have hplace : (s.insert n).place? n = s.place? n := by
    rw [place?, capacity_insert, ← place?]
  unfold erase
  rw [hplace]
  cases hn : s.place? n with
  | none => simp only [insert, hn]
  | some p =>
    obtain ⟨i, b⟩ := p
    have hclear : s.word i &&& b = 0 := by simpa [contains, hn] using absent
    have hback : s.setWord i (s.word i) = s :=
      congrArg (mk s.capacity) (setIfInBounds_getD_self s.words i 0)
    simp only [insert, hn]
    rcases Nat.lt_or_ge i s.words.size with hi | hi
    · have hword : (s.setWord i (s.word i ||| b)).word i = s.word i ||| b := by
        simp [word, setWord, hi]
      rw [hword, or_and_not hclear, setWord, setWord, Array.setIfInBounds_setIfInBounds]
      exact hback
    · simp [setWord, Array.setIfInBounds_eq_of_size_le hi]

end NumberSet

/-- A pool is what it was once a number has been taken and given back. -/
theorem NumberPool.free_allocate {p pool : NumberPool} {n : UInt16}
    (allocated : p.allocate = .ok (n, pool)) : pool.free n = p := by
  obtain ⟨-, hfree, rfl⟩ := Directory.allocate_eq_ok allocated
  exact congrArg mk (NumberSet.erase_insert hfree)

/-- A pool is none the smaller for a number that has been taken. -/
theorem NumberPool.capacity_allocate {p pool : NumberPool} {n : UInt16}
    (allocated : p.allocate = .ok (n, pool)) : pool.capacity = p.capacity := by
  obtain ⟨-, -, rfl⟩ := Directory.allocate_eq_ok allocated
  exact NumberSet.capacity_insert ..

/-- A pool gives out numbers from 1. -/
theorem NumberPool.ne_zero_of_allocate {p pool : NumberPool} {n : UInt16}
    (allocated : p.allocate = .ok (n, pool)) : n ≠ 0 :=
  (Directory.allocate_eq_ok allocated).1.1

/-- Nothing changes when a record is put back as it is. -/
theorem Store.update_eq_self {α : Type} [Inhabited α] (s : Store α) {key : Nat} {f : α → α}
    (same : f (s.get key) = s.get key) : s.update key f = s := by
  rw [update, same]
  exact congrArg mk (setIfInBounds_getD_self s.records key default)

/-- The message that is taken does not depend on who refers to the application. -/
theorem Application.take_share (x : Application) :
    ({ x with lifecycle := x.lifecycle.share } : Application).take =
      x.take.map fun p => (p.1, { p.2 with lifecycle := p.2.lifecycle.share }) := by
  unfold take
  cases x.latched with
  | some fault => rfl
  | none => cases x.queue <;> rfl

namespace Registry

variable {r : Registry} {id : ApplId} {a : Nat}

/-- The registry while an application is borrowed, with another reference to it. -/
def lendAppl (r : Registry) (a : Nat) : Registry :=
  r.updateAppl a fun x => { x with lifecycle := x.lifecycle.share }

/-- What is done with a borrowed application is all that is left when it has been given back. -/
theorem leaveAppl_lendAppl (r : Registry) (a : Nat) {f g : Application → Application}
    (same : ∀ x : Application, (f { x with lifecycle := x.lifecycle.share }).leave = g x) :
    ((r.lendAppl a).updateAppl a f).leaveAppl a = r.updateAppl a g := by
  simp only [lendAppl, leaveAppl, updateAppl, Store.update_update, same]

/-- An application that has been borrowed and given back is as it was. -/
theorem leaveAppl_lendAppl_self (r : Registry) (a : Nat) : (r.lendAppl a).leaveAppl a = r := by
  simp only [lendAppl, leaveAppl, updateAppl, Store.update_update]
  rw [Store.update_eq_self]
  rfl

/-- An application that has been referred to and left again is as it was. -/
theorem leaveAppl_of_join? {x : Application} (joins : (r.appls.get a).join? = some x) :
    (r.updateAppl a fun _ => x).leaveAppl a = r := by
  obtain ⟨-, rfl⟩ := r.join?_appl [] [] joins
  exact r.leaveAppl_lendAppl_self a

/-- A device that has been referred to and left again is as it was. -/
theorem leaveDevice_of_join? {d : Nat} {x : Device} (joins : (r.devices.get d).join? = some x) :
    (r.updateDevice d fun _ => x).leaveDevice d = r := by
  obtain ⟨-, rfl⟩ := r.join?_device [] [] joins
  simp only [leaveDevice, updateDevice, Store.update_update]
  rw [Store.update_eq_self]
  rfl

/-! ## Operations and their steps -/

/-- Nothing is done with an application that is not to be had. -/
theorem borrow_of_error {α : Type} {fault : MessageFault} (reach : r.reach id = .error fault)
    (use : Nat → Registry → Except MessageFault α × Registry) :
    r.borrow id use = (.error fault, r) := by
  unfold Registry.reach at reach
  unfold borrow
  cases happl : r.appl? id with
  | none =>
    simp only [happl] at reach
    cases reach
    rfl
  | some a =>
    simp only [happl] at reach ⊢
    cases hjoin : (r.appls.get a).join? with
    | none =>
      simp only [hjoin] at reach
      cases reach
      rfl
    | some appl =>
      simp only [hjoin] at reach
      cases reach

/-- An application that is to be had is used while it is lent. -/
theorem borrow_of_ok {α : Type} (reach : r.reach id = .ok a)
    (use : Nat → Registry → Except MessageFault α × Registry) :
    r.borrow id use = ((use a (r.lendAppl a)).1, (use a (r.lendAppl a)).2.leaveAppl a) ∧
      (r.lendAppl a).appls.get a =
        { r.appls.get a with lifecycle := (r.appls.get a).lifecycle.share } := by
  unfold Registry.reach at reach
  unfold borrow
  cases happl : r.appl? id with
  | none =>
    simp only [happl] at reach
    cases reach
  | some a' =>
    simp only [happl] at reach ⊢
    cases hjoin : (r.appls.get a').join? with
    | none =>
      simp only [hjoin] at reach
      cases reach
    | some appl =>
      simp only [hjoin] at reach
      cases reach
      obtain ⟨hjoins, rfl⟩ := r.join?_appl [] [] hjoin
      exact ⟨rfl, (Store.get_update ..).trans (if_pos ⟨rfl, hjoins.1⟩)⟩

/-- **Installing a device** comes to the same step by step: what a refusal has taken is given
back. -/
theorem installDeviceBySteps_eq (r : Registry) (info : DeviceInfo) (driver : Driver) :
    r.installDeviceBySteps info driver = r.conclude (r.installDevice info driver) := by
  unfold installDeviceBySteps installDevice
  cases info.check with
  | error fault => rfl
  | ok u =>
    cases hallocate : r.devicePool.allocate with
    | error e => rfl
    | ok p =>
      obtain ⟨n, pool⟩ := p
      have hcapacity := NumberPool.capacity_allocate hallocate
      -- the number that has been taken is one that a device can have
      have hid := DeviceId.ofNumber?_number ⟨n, NumberPool.ne_zero_of_allocate hallocate⟩
      simp only [hid]
      cases r.deviceTable.insert? n r.devices.size with
      | none => simp only [conclude, hcapacity, NumberPool.free_allocate hallocate]
      | some table => rfl

/-- **Registering an application** comes to the same step by step. -/
theorem installApplBySteps_eq (r : Registry) (params : RegisterParams) :
    r.installApplBySteps params = r.conclude (r.installAppl params) := by
  unfold installApplBySteps installAppl
  split
  · rfl
  · cases hallocate : r.applPool.allocate with
    | error e => rfl
    | ok p =>
      obtain ⟨n, pool⟩ := p
      have hid := ApplId.ofNumber?_number ⟨n, NumberPool.ne_zero_of_allocate hallocate⟩
      simp only [hid]
      cases r.applTable.insert? n r.appls.size with
      | none => simp only [conclude, NumberPool.free_allocate hallocate]
      | some table => rfl

/-- **Taking a message** comes to the same step by step. -/
theorem receiveBySteps_eq (r : Registry) (id : ApplId) :
    r.receiveBySteps id = r.conclude (r.receive id) := by
  unfold receiveBySteps receive
  cases hreach : r.reach id with
  | error fault => exact borrow_of_error hreach _
  | ok a =>
    obtain ⟨hborrow, hlent⟩ := borrow_of_ok hreach (α := Message) _
    rw [hborrow, hlent]
    rw [Application.take_share]
    dsimp only
    cases (r.appls.get a).take with
    | error fault => exact congrArg (Prod.mk (Except.error fault)) (r.leaveAppl_lendAppl_self a)
    | ok p => exact congrArg (Prod.mk (Except.ok p.1)) (r.leaveAppl_lendAppl a fun _ => rfl)

/-- **Looking for a message** leaves the registry as it is, whatever comes of it. -/
theorem peekBySteps_eq (r : Registry) (id : ApplId) : r.peekBySteps id = (r.peek id, r) := by
  unfold peekBySteps peek
  cases hreach : r.reach id with
  | error fault => exact borrow_of_error hreach _
  | ok a =>
    obtain ⟨hborrow, hlent⟩ := borrow_of_ok hreach fun a r => ((r.appls.get a).peek, r)
    rw [hborrow, hlent, leaveAppl_lendAppl_self]
    rfl

/-- **Setting a handler** comes to the same step by step. -/
theorem setHandlerBySteps_eq (r : Registry) (id : ApplId) (h : Option SignalHandler) :
    r.setHandlerBySteps id h = r.conclude ((r.setHandler id h).map fun r' => ((), r')) := by
  unfold setHandlerBySteps setHandler
  cases hreach : r.reach id with
  | error fault => exact borrow_of_error hreach _
  | ok a =>
    rw [(borrow_of_ok hreach _).1, leaveAppl_lendAppl (g := fun x => { x with handler := h })]
    · rfl
    · exact fun _ => rfl

/-- **Finding a route** comes to the same step by step: what has been referred to before it is known
that there is none is left again. -/
theorem routeBySteps_eq (r : Registry) (id : ApplId) (msg : Message) :
    r.routeBySteps id msg = r.conclude ((r.route id msg).map fun p => ((p.1, p.2.1), p.2.2)) := by
  unfold routeBySteps route
  cases r.appl? id with
  | none => rfl
  | some a =>
    dsimp only
    cases hjoin : (r.appls.get a).join? with
    | none => rfl
    | some appl =>
      -- whatever is found out from here on until there is a device, only the application is held
      have hleft := leaveAppl_of_join? hjoin
      dsimp only
      cases appl.latched with
      | some fault => exact congrArg (Prod.mk _) hleft
      | none =>
        cases msg.header? with
        | none => exact congrArg (Prod.mk _) hleft
        | some header =>
          dsimp only
          cases DeviceId.ofNumber? header.controller.toUInt16 with
          | none => exact congrArg (Prod.mk _) hleft
          | some target =>
            dsimp only
            have hpool : (r.updateAppl a fun _ => appl).devicePool = r.devicePool := rfl
            have hdevice : (r.updateAppl a fun _ => appl).device? target = r.device? target := rfl
            have hdevices : (r.updateAppl a fun _ => appl).devices = r.devices := rfl
            rw [hpool, hdevice, hdevices]
            split
            · exact congrArg (Prod.mk _) hleft
            · cases r.device? target with
              | none => exact congrArg (Prod.mk _) hleft
              | some d =>
                dsimp only
                -- from here on the device is held as well, and is left before the application
                cases hjoin' : (r.devices.get d).join? with
                | none => exact congrArg (Prod.mk _) hleft
                | some device =>
                  dsimp only
                  split
                  · rfl
                  · rw [leaveDevice_of_join? (r := r.updateAppl a fun _ => appl) hjoin', hleft]
                    rfl

/-- **Reserving a pair** comes to the same step by step. -/
theorem reserveBySteps_eq (r : Registry) (d a : Nat) :
    r.reserveBySteps d a = ((r.reserve? d a).isSome, (r.reserve? d a).getD r) := by
  unfold reserveBySteps reserve?
  cases hjoin : (r.devices.get d).join? with
  | none => rfl
  | some device =>
    have hleft := leaveDevice_of_join? hjoin
    have happls : (r.updateDevice d fun _ => device).appls = r.appls := rfl
    dsimp only
    rw [happls]
    cases hjoin' : (r.appls.get a).join? with
    | none => exact congrArg (Prod.mk false) hleft
    | some appl =>
      dsimp only
      cases appl.links.reserve? device.id with
      | none =>
        -- the two are left in the opposite order
        refine congrArg (Prod.mk false) ?_
        rw [leaveAppl_of_join? (r := r.updateDevice d fun _ => device) hjoin', hleft]
        rfl
      | some links =>
        refine congrArg (Prod.mk true) ?_
        simp only [updateAppl, Store.update_update]
        rfl

/-- The operations of a registry come to what their steps come to. -/
structure IsAtomic (r : Registry) : Prop where
  installDevice (info : DeviceInfo) (driver : Driver) :
    r.installDeviceBySteps info driver = r.conclude (r.installDevice info driver)
  installAppl (params : RegisterParams) :
    r.installApplBySteps params = r.conclude (r.installAppl params)
  receive (id : ApplId) : r.receiveBySteps id = r.conclude (r.receive id)
  peek (id : ApplId) : r.peekBySteps id = (r.peek id, r)
  setHandler (id : ApplId) (h : Option SignalHandler) :
    r.setHandlerBySteps id h = r.conclude ((r.setHandler id h).map fun r' => ((), r'))
  route (id : ApplId) (msg : Message) :
    r.routeBySteps id msg = r.conclude ((r.route id msg).map fun p => ((p.1, p.2.1), p.2.2))
  reserve (d a : Nat) : r.reserveBySteps d a = ((r.reserve? d a).isSome, (r.reserve? d a).getD r)

/-- **Whatever an operation has taken is given back**, at whichever step it is refused. -/
theorem isAtomic (r : Registry) : r.IsAtomic where
  installDevice := r.installDeviceBySteps_eq
  installAppl := r.installApplBySteps_eq
  receive := r.receiveBySteps_eq
  peek := r.peekBySteps_eq
  setHandler := r.setHandlerBySteps_eq
  route := r.routeBySteps_eq
  reserve := r.reserveBySteps_eq

/-- What is not registered is not released. -/
theorem retireAppl?_eq_none_iff : r.retireAppl? id = none ↔ r.appl? id = none := by
  unfold retireAppl? appl? Roster.remove? Roster.get?
  cases r.applTable.slot? id.number <;> simp

end Registry

/-! ## Denied calls -/

deriving instance DecidableEq for Reply
deriving instance DecidableEq for Outcome

/-- Whether a reply says that the switchboard denies a call. What a driver refuses is no denial, and
of the codes of a facade it cannot be told what they stand for. -/
def Reply.isDenial : Reply → Bool
  | installed (.error _) | removed (.error _) | registered (.error _) | released (.error _)
  | received (.error _) | handlerSet (.error _) | numbered (.error _) | fetched (.error _) => true
  | _ => false

/-- What is answered through an origin in the place of what the switchboard answers. -/
def Reply.through (origin : Origin) : Reply → Reply
  | released r => ofReleased origin r
  | received r => ofReceived origin r
  | handlerSet r => ofHandlerSet origin r
  | reply => reply

/-- Whether something leads to the denial of a call. -/
def Outcome.isDenial : Outcome → Bool
  | ends reply => reply.isDenial
  | _ => false

/-- What a call goes on with is no denial. -/
@[simp] theorem Frame.isDenial_outcome (f : Frame) : f.outcome.isDenial = false := by
  unfold outcome
  cases f.callback? <;> rfl

namespace Machine

variable (m : Machine) {mv : Move} {c : Call} {reply : Reply}

/-- What a call goes on with is not its refusal. -/
@[simp] theorem isDenial_enter (f : Frame) : (m.enter f).2.isDenial = false := f.isDenial_outcome

/-- The end of a wake-up is no denial. -/
@[simp] theorem isDenial_woken (w : Wake) : (m.woken w).2.isDenial = false := by
  cases w <;> rfl

/-- Waking an application is no denial. -/
@[simp] theorem isDenial_wake (a : Nat) (w : Wake) : (m.wake a w).2.isDenial = false := by
  unfold wake
  split
  · exact m.isDenial_enter _
  · exact m.isDenial_woken w

/-- A removal that has closed its device is not denied any more. -/
@[simp] theorem isDenial_closeDevice (d : Nat) : (m.closeDevice d).2.isDenial = false := by
  unfold closeDevice
  dsimp only
  split <;> rfl

/-- A release that has closed its application is not denied any more. -/
@[simp] theorem isDenial_closeAppl (a : Nat) (origin : Origin) :
    (m.closeAppl a origin).2.isDenial = false := by
  unfold closeAppl
  dsimp only
  split
  · exact isDenial_enter _ _
  · rfl

/-- The end of a put is no denial, whatever it replies. -/
@[simp] theorem isDenial_sent (origin : Origin) (r : Except MessageFault Unit) :
    (m.finish (.ofSent origin r)).2.isDenial = false := by
  cases origin <;> rfl

/-- No piece of work ends with a denial. -/
theorem isDenial_work (f : Frame) : (m.work f).2.isDenial = false := by
  cases f with
  -- a walk asks, passes over or goes on with the next call; none of them ends it with an error
  | installing d cursor asking =>
    cases asking with
    | some a => exact m.isDenial_enter _
    | none =>
      simp only [work]
      split
      · split <;> exact isDenial_enter _ _
      · exact m.isDenial_enter _
  | registering a origin cursor asking =>
    cases asking with
    | some d => exact m.isDenial_enter _
    | none =>
      simp only [work]
      split
      · split <;> exact isDenial_enter _ _
      · cases origin <;> rfl
  | announcing d news telling notices rest =>
    cases telling with
    | some l => exact m.isDenial_enter _
    | none =>
      cases notices with
      | cons notice notices => exact m.isDenial_enter _
      | nil =>
        cases rest with
        | cons o rest => cases o <;> exact m.isDenial_enter _
        | nil =>
          cases news with
          | added => rfl
          | removed => exact isDenial_closeDevice _ _
  -- the end of a release tells what has been latched, which is no denial
  | releasing a origin telling rest =>
    cases telling with
    | some d => exact m.isDenial_enter _
    | none =>
      cases rest with
      | cons d rest =>
        simp only [work]
        split <;> exact isDenial_enter _ _
      | nil => cases origin <;> rfl
  | sending d a origin msg => exact m.isDenial_enter _
  | waking a h w => exact m.isDenial_enter _

/-- No answer to a callback leads to a denial. -/
theorem isDenial_answered (ans : Answer) (f : Frame) :
    (m.answered ans f).2.isDenial = false := by
  cases f with
  | installing d cursor asking => cases asking <;> exact isDenial_enter _ _
  | registering a origin cursor asking => cases asking <;> exact isDenial_enter _ _
  | announcing d news telling notices rest => cases telling <;> exact isDenial_enter _ _
  | releasing a origin telling rest => cases telling <;> exact isDenial_enter _ _
  | sending d a origin msg => exact isDenial_sent _ _ _
  | waking a h w => exact m.isDenial_woken w

/-- No teardown that is taken up ends with a denial. -/
theorem isDenial_resume (i : Nat) : (m.resume i).2.isDenial = false := by
  unfold resume
  split
  · rfl
  · dsimp only
    split
    · split
      · rfl
      · exact isDenial_enter _ _
    · rfl

/-- **Only calls are denied**, and at once. -/
theorem eq_call_of_isDenial (denied : (m.make mv).2.isDenial = true) : ∃ c, mv = .call c := by
  cases mv with
  | call c => exact ⟨c, rfl⟩
  | answer ans =>
    simp only [make, answer] at denied
    split at denied
    · cases denied
    · rw [isDenial_answered] at denied
      cases denied
  | resume i =>
    simp only [make, isDenial_resume] at denied
    cases denied
  | advance =>
    simp only [make, advance] at denied
    split at denied
    · cases denied
    · rw [isDenial_work] at denied
      cases denied

variable {origin : Origin} {id : ApplId}

/-- A denied registration leaves the machine as it was. -/
theorem register_of_isDenial {params : RegisterParams}
    (denied : (m.register origin params).2.isDenial = true) : (m.register origin params).1 = m := by
  unfold register at denied ⊢
  split at denied
  · rfl
  · rw [isDenial_enter] at denied
    cases denied

/-- A release is denied only where no application can be retired. -/
theorem retireAppl?_of_isDenial (denied : (m.release origin id).2.isDenial = true) :
    m.registry.retireAppl? id = none := by
  cases h : m.registry.retireAppl? id with
  | none => rfl
  | some p =>
    simp only [release, h, isDenial_closeAppl] at denied
    cases denied

/-- No denial is told of a put: a driver may refuse a message with the same faults. -/
theorem isDenial_send {msg : Message} : (m.send origin id msg).2.isDenial = false := by
  unfold send
  split
  · exact isDenial_sent _ _ _
  · exact isDenial_enter _ _

/-- A get is denied only where the registry refuses it. -/
theorem receive_of_isDenial (denied : (m.receive origin id).2.isDenial = true) :
    ∃ fault, m.registry.receive id = .error fault := by
  cases h : m.registry.receive id with
  | error fault => exact ⟨fault, rfl⟩
  | ok p =>
    simp only [receive, h] at denied
    cases origin <;> cases denied

/-- Setting a handler is denied only where the registry refuses it. -/
theorem setHandler_of_isDenial {h : Option SignalHandler}
    (denied : (m.setHandler origin id h).2.isDenial = true) :
    ∃ fault, m.registry.setHandler id h = .error fault := by
  cases hset : m.registry.setHandler id h with
  | error fault => exact ⟨fault, rfl⟩
  | ok r =>
    simp only [setHandler, hset] at denied
    cases origin <;> cases denied

/-- A release of a number nobody holds ends at once, with the machine as it was. -/
theorem release_of_none (origin : Origin) (h : m.registry.retireAppl? id = none) :
    m.release origin id = (m, .ends (.ofReleased origin (.error .illegalApplication))) := by
  rw [release, h]
  rfl

/-- A get that the registry refuses ends at once, with the machine as it was. -/
theorem receive_of_error (origin : Origin) {fault : MessageFault}
    (h : m.registry.receive id = .error fault) :
    m.receive origin id = (m, .ends (.ofReceived origin (.error fault))) := by
  rw [receive, h]
  rfl

/-- A setting of the handler that the registry refuses ends at once, with the machine as it was. -/
theorem setHandler_of_error (origin : Origin) {handler : Option SignalHandler} {fault : MessageFault}
    (h : m.registry.setHandler id handler = .error fault) :
    m.setHandler origin id handler = (m, .ends (.ofHandlerSet origin (.error fault))) := by
  rw [setHandler, h]
  rfl

/-- **A call that is denied changes nothing.** -/
theorem call_of_isDenial (denied : (m.call c).2.isDenial = true) : (m.call c).1 = m := by
  cases c with
  | install info driver =>
    simp only [call] at denied ⊢
    split at denied
    · rfl
    · rw [isDenial_enter] at denied
      cases denied
  | remove id =>
    simp only [call] at denied ⊢
    split at denied
    · rfl
    · rw [announce, isDenial_enter] at denied
      cases denied
  | register params => exact m.register_of_isDenial denied
  | release id => rw [call, m.release_of_none _ (m.retireAppl?_of_isDenial denied)]
  -- what a driver refuses has the same form as what the switchboard refuses
  | send id msg => rw [call, isDenial_send] at denied; cases denied
  | receive id =>
    obtain ⟨fault, hfault⟩ := m.receive_of_isDenial denied
    rw [call, m.receive_of_error _ hfault]
  | setHandler id h =>
    obtain ⟨fault, hfault⟩ := m.setHandler_of_isDenial denied
    rw [call, m.setHandler_of_error _ hfault]
  | enqueue a msg | deliver d a msg =>
    simp only [call] at denied
    split at denied
    · cases denied
    · rw [isDenial_wake] at denied
      cases denied
  | signal a | signalError a fault => rw [call, isDenial_wake] at denied; cases denied
  | attach tag | detach id | openFacade => cases denied
  | closeFacade k =>
    simp only [call] at denied
    split at denied <;> cases denied
  -- a facade has replies of its own, which are denials only where they carry a fault
  | facade k fc =>
    simp only [call] at denied ⊢
    split at denied
    · cases denied
    · rename_i f hf
      cases fc with
      | register params => exact m.register_of_isDenial denied
      | subscribe s | unsubscribe name => cases denied
      | release n =>
        simp only [facadeCall] at denied
        split at denied
        · cases denied
        · -- a facade answers a release with a code, whatever comes of it
          rw [release_of_none _ _ (retireAppl?_of_isDenial _ denied)] at denied
          cases denied
      | send n msg =>
        simp only [facadeCall] at denied
        split at denied
        · cases denied
        · rw [isDenial_send] at denied
          cases denied
      | receive n =>
        simp only [facadeCall] at denied ⊢
        split at denied
        · rfl
        · obtain ⟨fault, hfault⟩ := m.receive_of_isDenial denied
          rw [m.receive_of_error _ hfault]
      | setHandler n function param =>
        simp only [facadeCall] at denied ⊢
        split at denied
        · rfl
        · obtain ⟨fault, hfault⟩ := m.setHandler_of_isDenial denied
          rw [m.setHandler_of_error _ hfault]

/-! ## Denials through a facade -/

/-- A facade to which the switchboard denies a call answers at once, with the code of the fault, and
nothing has changed but which numbers the facade takes for its own. -/
theorem call_of_denied {k : Nat} {fc : FacadeCall} {c' : Call}
    (core : m.core? (.facade k fc) = some (origin, c')) (denied : (m.call c').2 = .ends reply)
    (denial : reply.isDenial = true) : ∃ forget : NumberSet → NumberSet,
      m.call (.facade k fc) =
        (m.withRegistry (m.registry.updateFacade k fun f =>
          { f with registered := forget f.registered }), .ends (reply.through origin)) := by
  -- what a facade passes on is what it would be called with directly, for a number that it serves
  obtain ⟨f, q, id', hf, hq, happl, rfl, rfl⟩ := core?_facade core
  have hsame : m.withRegistry (m.registry.updateFacade k fun f =>
      { f with registered := id f.registered }) = m := by
    rw [Registry.updateFacade, Store.update_eq_self _ rfl]
    rfl
  have hdenied : (m.call (q.2 id')).2.isDenial = true := by rw [denied]; exact denial
  cases fc with
  | register | subscribe | unsubscribe => cases hq
  | release n =>
    cases hq
    have hnone := m.retireAppl?_of_isDenial hdenied
    obtain rfl := Outcome.ends.inj
      ((congrArg Prod.snd (m.release_of_none .direct hnone)).symm.trans denied)
    refine ⟨fun s => s.erase n, ?_⟩
    simp only [call, hf, facadeCall, happl]
    -- what the facade forgets is not seen in the table
    refine release_of_none _ _ ?_
    rw [Registry.retireAppl?_eq_none_iff] at hnone ⊢
    exact hnone
  -- a message has no denial to pass on
  | send n msg =>
    cases hq
    simp [call, isDenial_send] at hdenied
  | receive n =>
    cases hq
    obtain ⟨fault, hfault⟩ := m.receive_of_isDenial hdenied
    obtain rfl := Outcome.ends.inj
      ((congrArg Prod.snd (m.receive_of_error .direct hfault)).symm.trans denied)
    refine ⟨id, ?_⟩
    simp only [call, hf, facadeCall, happl, hsame]
    exact m.receive_of_error _ hfault
  | setHandler n function param =>
    cases hq
    obtain ⟨fault, hfault⟩ := m.setHandler_of_isDenial hdenied
    refine ⟨id, ?_⟩
    simp only [call, hf, facadeCall, happl, hsame]
    obtain rfl := Outcome.ends.inj
      ((congrArg Prod.snd (m.setHandler_of_error .direct hfault)).symm.trans denied)
    exact m.setHandler_of_error _ hfault

/-- **Denials do no harm.** What ends with a denial is a call, which ends with the move that begins
it, so that nobody is called back, and the machine is what it was. A call that a facade passes on
and that is denied ends at once too, and nothing has changed but the numbers that the facade takes
for its own. And whatever an operation that is denied has taken before, a number or a reference, is
given back: it comes to what its steps come to. -/
theorem denials_harmless (m : Machine) :
    (∀ mv reply, (m.make mv).2 = .ends reply → reply.isDenial = true →
      (∃ c, mv = .call c) ∧ m.make mv = (m, .ends reply)) ∧
    (∀ k fc c' origin reply, m.core? (.facade k fc) = some (origin, c') →
      (m.call c').2 = .ends reply → reply.isDenial = true →
        ∃ forget : NumberSet → NumberSet, m.call (.facade k fc) =
          (m.withRegistry (m.registry.updateFacade k fun f =>
            { f with registered := forget f.registered }), .ends (reply.through origin))) ∧
    m.registry.IsAtomic := by
  refine ⟨fun mv reply outcome denial => ?_, fun k fc c' origin reply => m.call_of_denied,
    m.registry.isAtomic⟩
  have hdenied : (m.make mv).2.isDenial = true := by rw [outcome]; exact denial
  obtain ⟨c, rfl⟩ := m.eq_call_of_isDenial hdenied
  exact ⟨⟨c, rfl⟩, Prod.ext (m.call_of_isDenial hdenied) outcome⟩

/-- While a driver is asked, and every number is taken, neither an application nor a device is let
in, and there is no message to be had. -/
theorem denials_harmless_while_asked :
    let m := (Machine.new ⟨1, 1⟩).after binding
    Reachable ⟨1, 1⟩ m ∧ m.isOpen = true ∧
      m.call (.register ⟨1, 1, 128⟩) = (m, .ends (.registered (.error .tooManyApplications))) ∧
      m.call (.install .blank 0) = (m, .ends (.installed (.error (.tableFull 1)))) ∧
      m.call (.receive default) = (m, .ends (.received (.error .queueEmpty))) := by
  intro m
  have hrun := Run.of_moves ⟨1, 1⟩ binding (by decide +kernel)
  obtain ⟨hdenied, -⟩ := denials_harmless m
  refine ⟨hrun.reachable, by decide +kernel, ?_, ?_, ?_⟩
  · exact (hdenied (.call (.register ⟨1, 1, 128⟩)) _ (by decide +kernel) rfl).2
  · exact (hdenied (.call (.install .blank 0)) _ (by decide +kernel) rfl).2
  · exact (hdenied (.call (.receive default)) _ (by decide +kernel) rfl).2

end Machine

end Switchboard
