import Switchboard.Proofs.Callbacks
import Switchboard.Proofs.Mailbox

/-! # Where messages go

A message that an application sends goes to the driver of the device that the message names, if the
two are linked. `Machine.Routes` says when; `Registry.refusal` says why not otherwise. The reference
to each side that the call takes it gives back when the driver returns, and nothing else of the
registry changes but the counters, if the driver has taken the message. -/

namespace Switchboard

/-! ## The controller of a message -/

/-- The bytes above the lowest are not seen in the lowest. -/
theorem toUInt8_shiftLeft (w : UInt32) :
    (w <<< 8).toUInt8 = 0 ∧ (w <<< 16).toUInt8 = 0 ∧ (w <<< 24).toUInt8 = 0 := by
  simp only [← UInt8.toNat_inj, UInt32.toNat_toUInt8, UInt32.toNat_shiftLeft, Nat.shiftLeft_eq]
  refine ⟨?_, ?_, ?_⟩ <;> simp <;> omega

namespace Message

/-- The lowest byte of a word that is joined from four. -/
theorem toUInt8_join32 (b c d e : UInt8) : (join32 b c d e).toUInt8 = b := by
  simp [join32, toUInt8_shiftLeft]

/-- The controller that a message names: the low seven bits of its ninth byte. -/
def controller (msg : Message) : UInt8 := msg.bytes.getD 8 0 &&& 0x7f

/-- The header of a message names the controller. -/
theorem controller_of_header? {msg : Message} {h : Header} (header : msg.header? = some h) :
    h.controller = msg.controller := by
  obtain ⟨bytes⟩ := msg
  unfold header? at header
  split at header
  · rename_i hbytes
    cases header
    dsimp only at hbytes
    subst hbytes
    simp only [Header.controller, toUInt8_join32]
    rfl
  · cases header

end Message

/-! ## References of a send -/

namespace Store

variable {α : Type} [Inhabited α]

/-- Two changes of one record are one. -/
theorem update_update (s : Store α) (key : Nat) (f g : α → α) :
    (s.update key f).update key g = s.update key fun x => g (f x) := by
  by_cases h : key < s.size
  · have hget : (s.update key f).get key = f (s.get key) := by
      rw [get_update, if_pos ⟨rfl, h⟩]
    rw [update, hget]
    exact congrArg mk (Array.setIfInBounds_setIfInBounds ..)
  · have hsame (f : α → α) : s.update key f = s :=
      congrArg mk (Array.setIfInBounds_eq_of_size_le (Nat.not_lt.1 h))
    rw [hsame, hsame, hsame]

end Store

/-- What counts of a message once a driver has answered for it: nothing if it was not taken. -/
def Answer.counted? (ans : Answer) (msg : Message) : Option Traffic :=
  match ans.send with
  | .ok () => some msg.traffic
  | .error _ => none

namespace Registry

variable (r : Registry) {id : ApplId} {msg : Message} {d a : Nat}

/-- The registry with another reference to a device and one to an application. -/
def lend (d a : Nat) : Registry :=
  (r.updateDevice d fun x => { x with lifecycle := x.lifecycle.share }).updateAppl a fun x =>
    { x with lifecycle := x.lifecycle.share }

/-- The registry with a reference to a device and one to an application given back, and with what
has been sent counted for both. -/
def giveBack (d a : Nat) (sent : Option Traffic) : Registry :=
  (r.updateDevice d fun x =>
    { x with lifecycle := x.lifecycle.leave, usage := sent.elim x.usage x.usage.send }).updateAppl a
      fun x => { x with lifecycle := x.lifecycle.leave, usage := sent.elim x.usage x.usage.send }

/-- What a driver has taken is counted when the references are given back. -/
theorem giveBack_eq (ans : Answer) : r.giveBack d a (ans.counted? msg) =
    ((match ans.send with
      | .ok () => r.countSent d a msg.traffic
      | .error _ => r).leaveDevice d).leaveAppl a := by
  unfold giveBack Answer.counted?
  cases ans.send with
  | error fault => rfl
  | ok u =>
    simp only [leaveAppl, leaveDevice, countSent, updateAppl, updateDevice, Store.update_update]
    rfl

/-! ## Which messages are routed -/

/-- A message that an application sends goes to the driver of a device: the application is
registered and has no error latched, the message has a header, the controller that it names is a
device number in range, the device is installed under it, and the application is linked to it. -/
structure Routes (limit : UInt16) (r : Registry) (id : ApplId) (msg : Message) (d a : Nat) :
    Prop where
  appl : r.appl? id = some a
  unlatched : (r.appls.get a).latched = none
  long : 12 ≤ msg.bytes.length
  nonzero : msg.controller ≠ 0
  inRange : msg.controller.toUInt16 ≤ limit
  linked : ∃ target : DeviceId, target.number = msg.controller.toUInt16 ∧
    r.device? target = some d ∧ (r.appls.get a).links.isBound target = true

/-- Why a message is not routed: the first of the reasons that apply. -/
def refusal (id : ApplId) (msg : Message) : MessageFault :=
  match r.appl? id with
  | none => .illegalApplication
  | some a => match (r.appls.get a).latched with
    | some fault => fault
    | none => if msg.bytes.length < 12 then .illegalMessage else .osResource

end Registry

namespace Machine

variable {config : Config} {history : List Event} {m : Machine} {id : ApplId} {msg : Message}
  {d a : Nat}

/-- A reference is to be had to a registered application. -/
theorem Reachable.join?_appl (h : Reachable config m) (happl : m.registry.appl? id = some a) :
    (m.registry.appls.get a).join? = some { m.registry.appls.get a with
      lifecycle := (m.registry.appls.get a).lifecycle.share } := by
  have hjoins := h.sound.applJoins ((h.sound.appls.listed id.number a).1 happl).1
  obtain ⟨x, hx⟩ := Option.ne_none_iff_exists'.1
    (m.registry.join?_appl_ne_none m.frames m.waiting hjoins)
  obtain ⟨-, rfl⟩ := m.registry.join?_appl m.frames m.waiting hx
  exact hx

/-- A reference is to be had to an installed device. -/
theorem Reachable.join?_device (h : Reachable config m) {target : DeviceId}
    (hdevice : m.registry.device? target = some d) :
    (m.registry.devices.get d).join? = some { m.registry.devices.get d with
      lifecycle := (m.registry.devices.get d).lifecycle.share } := by
  have hjoins := h.sound.deviceJoins ((h.sound.devices.listed target.number d).1 hdevice).1
  obtain ⟨x, hx⟩ := Option.ne_none_iff_exists'.1
    (m.registry.join?_device_ne_none m.frames m.waiting hjoins)
  obtain ⟨-, rfl⟩ := m.registry.join?_device m.frames m.waiting hx
  exact hx

/-- A message that is routed takes a reference to each side. -/
theorem Reachable.route_of_routes (h : Reachable config m)
    (routes : m.registry.Routes config.maxDevices id msg d a) :
    m.registry.route id msg = .ok (d, a, m.registry.lend d a) := by
  obtain ⟨target, hnumber, hdevice, hbound⟩ := routes.linked
  have hheader : msg.header?.isSome = true := by
    rw [Message.header?_isSome]
    exact decide_eq_true routes.long
  obtain ⟨header, hheader⟩ := Option.isSome_iff_exists.1 hheader
  have htarget : DeviceId.ofNumber? header.controller.toUInt16 = some target := by
    rw [DeviceId.ofNumber?_eq_some_iff, Message.controller_of_header? hheader, hnumber]
  have hcapacity : ¬m.registry.devicePool.capacity < target.number := by
    rw [show m.registry.devicePool.capacity = config.maxDevices from h.deviceCapacity.pool, hnumber]
    exact UInt16.not_lt.2 routes.inRange
  simp only [Registry.route, routes.appl, h.join?_appl routes.appl, routes.unlatched, hheader,
    htarget, hcapacity, hdevice, h.join?_device hdevice, hbound, if_true, if_false]
  rw [← routes.unlatched]
  rfl

/-- A message that is not routed is refused. -/
theorem Reachable.route_of_not (h : Reachable config m)
    (unrouted : ∀ d a, ¬m.registry.Routes config.maxDevices id msg d a) :
    m.registry.route id msg = .error (m.registry.refusal id msg) := by
  unfold Registry.refusal
  cases happl : m.registry.appl? id with
  | none => simp only [Registry.route, happl]
  | some a =>
    have hjoin := h.join?_appl happl
    cases hlatched : (m.registry.appls.get a).latched with
    | some fault => simp only [Registry.route, happl, hjoin, hlatched]
    | none =>
      have hsome := msg.header?_isSome
      cases hheader : msg.header? with
      | none =>
        have hshort : msg.bytes.length < 12 := by
          rw [hheader] at hsome
          exact Nat.not_le.1 (of_decide_eq_false hsome.symm)
        simp only [Registry.route, happl, hjoin, hlatched, hheader, hshort, if_true]
      | some header =>
        have hlong : 12 ≤ msg.bytes.length := by
          rw [hheader] at hsome
          exact of_decide_eq_true hsome.symm
        have hcontroller := Message.controller_of_header? hheader
        simp only [Registry.route, happl, hjoin, hlatched, hheader, Nat.not_lt.2 hlong, if_false]
        -- the faults that are left are all the same
        split
        · rfl
        rename_i target htarget
        rw [DeviceId.ofNumber?_eq_some_iff, hcontroller] at htarget
        split
        · rfl
        rename_i hcapacity
        split
        · rfl
        rename_i d hdevice
        simp only [h.join?_device hdevice]
        split
        · rename_i hbound
          have hnonzero : msg.controller ≠ 0 := by
            intro hzero
            rw [hzero] at htarget
            exact target.number_ne_zero htarget.symm
          have hinRange : msg.controller.toUInt16 ≤ config.maxDevices := by
            rw [show m.registry.devicePool.capacity = config.maxDevices from h.deviceCapacity.pool,
              ← htarget] at hcapacity
            exact UInt16.not_lt.1 hcapacity
          exact absurd ⟨happl, hlatched, hlong, hnonzero, hinRange, target, htarget.symm, hdevice,
            hbound⟩ (unrouted d a)
        · rfl

/-! ## Sending -/

/-- A call that hands a message to the driver of a device. It holds another reference to the device
and one to the application while the driver has the message. When the driver answers, which is all
that the call asks, the two are given back, the message is counted for both if it has been taken,
and the call ends with the answer. -/
structure Event.HandsOver (e : Event) (later : List Event) (m : Machine) (origin : Origin)
    (msg : Message) (d a : Nat) : Prop where
  asks : e.outcome = .asks (.send d a msg)
  lends : (e.before.make e.move).1 =
    { e.before with
      registry := e.before.registry.lend d a
      frames := .sending d a origin msg :: e.before.frames }
  returns : Awaited (.sending d a origin msg :: e.before.frames) later m fun ans e' =>
    (e'.before.registry.devices.get d).lifecycle.refs ≠ 0 ∧
      (e'.before.registry.appls.get a).lifecycle.refs ≠ 0 ∧
      e'.before.make e'.move =
        ({ e'.before with
            registry := e'.before.registry.giveBack d a (ans.counted? msg)
            frames := e.before.frames }, .ends (.ofSent origin ans.send))

variable {h₁ h₂ : List Event} {e : Event} {c : Call} {origin : Origin}

/-- A message that is routed is handed to the driver. -/
theorem Run.handsOver (run : Run config history m) (split : history = h₁ ++ e :: h₂)
    (move : e.move = .call c) (sends : e.before.core? c = some (origin, .send id msg))
    (routes : e.before.registry.Routes config.maxDevices id msg d a) :
    e.HandsOver h₂ m origin msg d a := by
  obtain ⟨hreach, -, houtcome⟩ := run.event (e := e) (by simp [split])
  have hmake : e.before.make e.move =
      ({ e.before with
          registry := e.before.registry.lend d a
          frames := .sending d a origin msg :: e.before.frames }, .asks (.send d a msg)) := by
    rw [move]
    show e.before.call c = _
    rw [call_of_core_send sends, send, hreach.route_of_routes routes]
    rfl
  refine ⟨by rw [houtcome, hmake], by rw [hmake], (run.awaited split (by rw [hmake]) rfl).imp ?_⟩
  rintro ans e' he' hframes hmove -
  obtain ⟨hreach', -, -⟩ := run.event (e := e') (by simp [split, he'])
  -- the call in progress holds the two references until it is answered
  have hmem : Frame.sending d a origin msg ∈ e'.before.frames := by
    rw [hframes]
    exact List.mem_cons_self ..
  have hrefs := hreach'.sound.sending_refs hmem rfl
  refine ⟨hrefs.1, hrefs.2, ?_⟩
  rw [hmove, Registry.giveBack_eq]
  simp only [make, answer, hframes, answered]
  rfl

/-- A message that is not routed is refused, and nothing changes. -/
theorem Event.refused (h : Reachable config e.before) (move : e.move = .call c)
    (sends : e.before.core? c = some (origin, .send id msg))
    (unrouted : ∀ d a, ¬e.before.registry.Routes config.maxDevices id msg d a) :
    e.before.make e.move =
      (e.before, .ends (.ofSent origin (.error (e.before.registry.refusal id msg)))) := by
  rw [move]
  show e.before.call c = _
  rw [call_of_core_send sends, send, h.route_of_not unrouted]
  rfl

/-- **Messages go where they are sent.** The driver of a device is handed a message of an
application exactly when the application is registered and without a latched error, the message has
a header, the controller that it names is a device number in range, the device is installed and the
application is linked to it; the call ends then as the driver answers. Otherwise the message is
refused for the first reason that applies, and nothing changes. -/
theorem put_routes (run : Run config history m) (split : history = h₁ ++ e :: h₂)
    (move : e.move = .call c) (sends : e.before.core? c = some (origin, .send id msg)) :
    (∀ cb, e.outcome = .asks cb ↔
      ∃ d a, e.before.registry.Routes config.maxDevices id msg d a ∧ cb = .send d a msg) ∧
    (∀ d a, e.before.registry.Routes config.maxDevices id msg d a →
      e.HandsOver h₂ m origin msg d a) ∧
    ((∀ d a, ¬e.before.registry.Routes config.maxDevices id msg d a) →
      e.before.make e.move =
        (e.before, .ends (.ofSent origin (.error (e.before.registry.refusal id msg))))) := by
  obtain ⟨hreach, -, houtcome⟩ := run.event (e := e) (by simp [split])
  refine ⟨fun cb => ⟨fun hasks => ?_, ?_⟩, fun d a => run.handsOver split move sends,
    Event.refused hreach move sends⟩
  · by_cases hroutes : ∃ d a, e.before.registry.Routes config.maxDevices id msg d a
    · obtain ⟨d, a, hroutes⟩ := hroutes
      rw [(run.handsOver split move sends hroutes).asks] at hasks
      cases hasks
      exact ⟨d, a, hroutes, rfl⟩
    · rw [houtcome, Event.refused hreach move sends fun d a h => hroutes ⟨d, a, h⟩] at hasks
      cases hasks
  · rintro ⟨d, a, hroutes, rfl⟩
    exact (run.handsOver split move sends hroutes).asks

/-- A linked application sends a message of 12 bytes to the device, which is removed before the
driver takes the message. It is counted for both. -/
theorem put_routes_while_removing :
    let msg : Message := ⟨[12, 0, 1, 0, 2, 0x80, 1, 0, 1, 0, 0, 0]⟩
    let m := (Machine.new ⟨2, 2⟩).after bound
    let e : Event := ⟨m, .call (.send default msg), (m.make (.call (.send default msg))).2⟩
    let m' := (m.make (.call (.send default msg))).1
    let rest := [.call (.remove default), .advance, .answer .agree]
    m.registry.Routes 2 default msg 0 0 ∧
      e.HandsOver (m'.events rest) (m'.after rest) .direct msg 0 0 ∧
      (m.registry.appls.get 0).usage = .zero ∧ (m.registry.devices.get 0).usage = .zero ∧
      ((m'.after rest).registry.appls.get 0).usage.sent = ⟨1, 12, 0, 0⟩ ∧
      ((m'.after rest).registry.devices.get 0).usage.sent = ⟨1, 12, 0, 0⟩ := by
  intro msg m e m' rest
  have hrun := Run.of_moves ⟨2, 2⟩ (bound ++ .call (.send default msg) :: rest) (by decide +kernel)
  rw [after_append_cons, events_append_cons] at hrun
  have hroutes : m.registry.Routes 2 default msg 0 0 := by
    refine ⟨by decide +kernel, by decide +kernel, by decide, by decide, by decide, default, ?_⟩
    exact ⟨by decide, by decide +kernel, by decide +kernel⟩
  exact ⟨hroutes, (put_routes hrun rfl rfl rfl).2.1 0 0 hroutes, by decide +kernel,
    by decide +kernel, by decide +kernel, by decide +kernel⟩

end Machine

end Switchboard
