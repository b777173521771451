import Switchboard.Proofs.Queues
import Switchboard.Proofs.Routing

/-! # What devices and applications carry

A message is counted where it is known that it has been carried: for both sides when the driver has
taken it, for the application when it fetches it, and for the device that brought it when its
delivery ends. `Machine.transfer?` says what a move counts, `Machine.meter_make` that this is what
happens to the counters of the devices, and `Machine.usage_make` what happens to those of the
applications. -/

namespace Switchboard

open Function (update update_eq_self)

/-- Traffic that is counted: for a device and an application when a message has been sent, for an
application when it has fetched one, and for a device when it has delivered one. -/
inductive Transfer where
  | sent (d a : Nat) (t : Traffic)
  | fetched (a : Nat) (t : Traffic)
  | delivered (d : Nat) (t : Traffic)
deriving DecidableEq

namespace Transfer

/-- The traffic that an application has sent. -/
def sentBy? (a : Nat) : Transfer → Option Traffic
  | sent _ a' t => if a' = a then some t else none
  | _ => none

/-- The traffic that has been sent to a device. -/
def sentTo? (d : Nat) : Transfer → Option Traffic
  | sent d' _ t => if d' = d then some t else none
  | _ => none

/-- The traffic that an application has fetched. -/
def fetchedBy? (a : Nat) : Transfer → Option Traffic
  | fetched a' t => if a' = a then some t else none
  | _ => none

/-- The traffic that a device has delivered. -/
def deliveredBy? (d : Nat) : Transfer → Option Traffic
  | delivered d' t => if d' = d then some t else none
  | _ => none

variable {x : Option Transfer} {a d : Nat} {t : Traffic}

/-- What an application has sent is what a device has taken of it. -/
theorem bind_sentBy? : x.bind (sentBy? a) = some t ↔ ∃ d, x = some (.sent d a t) := by
  rcases x with - | ⟨⟨⟩⟩ <;> simp [sentBy?]

/-- What an application has fetched is what it has been delivered. -/
theorem bind_fetchedBy? : x.bind (fetchedBy? a) = some t ↔ x = some (.fetched a t) := by
  rcases x with - | ⟨⟨⟩⟩ <;> simp [fetchedBy?]

end Transfer

/-- The traffic that a posting counts as sent. -/
def Posting.sent? : Posting → Option Traffic
  | count t => some t
  | _ => none

/-- The counters once something has been received and something has been sent. -/
def Usage.after (u : Usage) (received sent : Option Traffic) : Usage :=
  ⟨u.received.countAll received.toList, u.sent.countAll sent.toList⟩

namespace Registry

variable (r : Registry)

/-- What is counted for the devices. -/
def meter (d : Nat) : Usage := (r.devices.get d).usage

/-! ## Operations that count nothing for a device -/

/-- A change of a device that leaves its counters alone leaves all meters as they are. -/
theorem meter_updateDevice_same {d : Nat} {f : Device → Device}
    (same : (f (r.devices.get d)).usage = (r.devices.get d).usage) :
    (r.updateDevice d f).meter = r.meter := by
  have h := Store.map_update Device.usage r.devices d f (Or.inr same)
  rw [same] at h
  exact h.trans (update_eq_self d r.meter)

/-- The meters of devices do not depend on applications. -/
@[simp] theorem meter_updateAppl (a : Nat) (f : Application → Application) :
    (r.updateAppl a f).meter = r.meter := rfl

/-- A reference to a device that is given up moves no meter. -/
@[simp] theorem meter_leaveDevice (d : Nat) : (r.leaveDevice d).meter = r.meter :=
  r.meter_updateDevice_same rfl

/-- A reference to an application that is given up moves no meter. -/
@[simp] theorem meter_leaveAppl (a : Nat) : (r.leaveAppl a).meter = r.meter := rfl

/-- The end of a binding moves no meter. -/
@[simp] theorem meter_settle (d a : Nat) (isAccepted : Bool) :
    (r.settle d a isAccepted).meter = r.meter := by
  unfold settle
  dsimp only
  repeat' split
  all_goals simp only [meter_leaveAppl, meter_leaveDevice, meter_updateAppl]

/-- A link that is dropped moves no meter. -/
@[simp] theorem meter_unlink (id : DeviceId) (a : Nat) : (r.unlink id a).meter = r.meter := by
  unfold unlink
  split
  · rfl
  · rw [meter_leaveDevice, meter_updateAppl]

/-- However many links are dropped, no meter moves. -/
@[simp] theorem meter_unlinkAll (id : DeviceId) : (r.unlinkAll id).meter = r.meter := by
  unfold unlinkAll
  generalize r.applTable.values = keys
  induction keys generalizing r with
  | nil => rfl
  | cons a rest ih => rw [List.foldl_cons, ih, meter_unlink]

variable {r} {r' : Registry}

/-- A record that arrives has counted as little as one that has not. -/
theorem meter_installDevice {info : DeviceInfo} {driver : Driver} {d : Nat}
    (h : r.installDevice info driver = .ok (d, r')) : r'.meter = r.meter := by
  unfold installDevice at h
  dsimp only at h
  repeat' split at h
  all_goals cases h
  rename_i id hid _ table htable
  refine (Store.map_add Device.usage r.devices (.new id info driver)).trans ?_
  have hblank : (Device.new id info driver).usage = r.meter r.devices.size := by
    rw [meter, r.devices.get_of_size_le (Nat.le_refl _)]
    rfl
  rw [hblank]
  exact update_eq_self _ r.meter

/-- A device that is retired keeps its counters. -/
theorem meter_retireDevice? {id : DeviceId} {d : Nat} (h : r.retireDevice? id = some (d, r')) :
    r'.meter = r.meter := by
  unfold retireDevice? at h
  split at h
  · cases h
  · cases h
    exact r.meter_updateDevice_same rfl

/-- The arrival of an application moves no meter. -/
theorem meter_installAppl {params : RegisterParams} {a : Nat}
    (h : r.installAppl params = .ok (a, r')) : r'.meter = r.meter := by
  unfold installAppl at h
  dsimp only at h
  repeat' split at h
  all_goals cases h
  rfl

/-- The retirement of an application moves no meter. -/
theorem meter_retireAppl? {id : ApplId} {a : Nat} (h : r.retireAppl? id = some (a, r')) :
    r'.meter = r.meter := by
  unfold retireAppl? at h
  split at h
  · cases h
  · cases h
    rfl

/-- A pair that is reserved costs two references, and moves no meter. -/
theorem meter_reserve? {d a : Nat} (h : r.reserve? d a = some r') : r'.meter = r.meter := by
  unfold reserve? at h
  split at h
  · cases h
  · rename_i device hjoin
    repeat' split at h
    all_goals cases h
    obtain ⟨l, -, rfl⟩ := Option.map_eq_some_iff.1 hjoin
    exact r.meter_updateDevice_same rfl

/-- A route that is found costs two references, and moves no meter. -/
theorem meter_route {id : ApplId} {msg : Message} {d a : Nat}
    (h : r.route id msg = .ok (d, a, r')) : r'.meter = r.meter := by
  unfold route at h
  repeat' split at h
  all_goals cases h
  rename (r.devices.get d).join? = some _ => hjoin
  obtain ⟨l, -, rfl⟩ := Option.map_eq_some_iff.1 hjoin
  exact r.meter_updateDevice_same rfl

/-- A message that is fetched is counted for the application, and for no device. -/
theorem meter_receive {id : ApplId} {msg : Message} (h : r.receive id = .ok (msg, r')) :
    r'.meter = r.meter := by
  unfold receive at h
  repeat' split at h
  all_goals cases h
  rfl

/-- A handler that is set moves no meter. -/
theorem meter_setHandler {id : ApplId} {handler : Option SignalHandler}
    (h : r.setHandler id handler = .ok r') : r'.meter = r.meter := by
  unfold setHandler at h
  split at h
  · cases h
  · cases h
    rfl

/-- A message that is queued moves no meter; it is counted when the wake-up is over. -/
theorem meter_append? {a : Nat} {msg : Message} (h : r.append? a msg = some r') :
    r'.meter = r.meter := by
  obtain ⟨x, -, rfl⟩ := Option.map_eq_some_iff.1 h
  rfl

/-- A message that is appended leaves the handler alone. -/
theorem handler_append? {a : Nat} {msg : Message} (h : r.append? a msg = some r') :
    (r'.appls.get a).handler = (r.appls.get a).handler := by
  have hmail := congrFun (mail_append? h).2 a
  rw [Function.update_self] at hmail
  exact congrArg Mail.handler hmail

/-! ## Operations that count -/

variable (r)

/-- A message that is sent moves the meter of the device that has taken it. -/
theorem meter_countSent {d : Nat} (hd : d < r.devices.size) (a : Nat) (t : Traffic) :
    (r.countSent d a t).meter = update r.meter d ((r.meter d).send t) :=
  Store.map_update Device.usage r.devices d _ (Or.inl hd)

/-- A message that is delivered moves the meter of the device that has brought it. -/
theorem meter_delivered {d : Nat} (hd : d < r.devices.size) (t : Traffic) :
    (r.updateDevice d fun x => x.receive t).meter = update r.meter d ((r.meter d).receive t) :=
  Store.map_update Device.usage r.devices d _ (Or.inl hd)

/-- Nothing is changed where no record is. -/
theorem updateDevice_of_le {d : Nat} (hd : r.devices.size ≤ d) (f : Device → Device) :
    r.updateDevice d f = r := by
  have hsame : r.devices.update d f = r.devices :=
    congrArg Store.mk (Array.setIfInBounds_eq_of_size_le hd)
  rw [updateDevice, hsame]

end Registry

namespace Machine

variable (m : Machine)

/-- What is counted for the devices. -/
def meter : Nat → Usage := m.registry.meter

/-- What a call of the switchboard counts: a message that is fetched, and a message that is
delivered to an application without a handler by a device that is there. -/
def transferOfCall : Call → Option Transfer
  | .receive id => match m.registry.receive id with
    | .error _ => none
    | .ok (msg, _) => (m.registry.appl? id).map fun a => .fetched a msg.traffic
  | .deliver d a msg =>
    if (m.registry.appls.get a).isRetiring = false ∧ (m.registry.appls.get a).handler = none ∧
        d < m.registry.devices.size then some (.delivered d msg.traffic)
    else none
  | _ => none

/-- What the answer to a callback counts: a message that the driver has taken, and a message whose
delivery waited for the handler of the application. -/
def transferOfAnswer (ans : Answer) : Frame → Option Transfer
  | .sending d a _ msg => (ans.counted? msg).map (.sent d a)
  | .waking _ _ (.delivered d t) => if d < m.registry.devices.size then some (.delivered d t) else none
  | _ => none

/-- What a move counts. -/
def transfer? : Move → Option Transfer
  | .call c => (m.core? c).bind fun p => m.transferOfCall p.2
  | .answer ans => m.frames.head?.bind (m.transferOfAnswer ans)
  | _ => none

/-- The counters of the devices once something has been counted. -/
def metered : Option Transfer → Nat → Usage
  | some (.sent d _ t) => update m.meter d ((m.meter d).send t)
  | some (.delivered d t) => update m.meter d ((m.meter d).receive t)
  | _ => m.meter

/-! ## Pieces of calls -/

/-- Without a transfer no meter moves. -/
@[simp] theorem metered_none : m.metered none = m.meter := rfl

/-- The meters go with the registry. -/
@[simp] theorem meter_withRegistry (r : Registry) : (m.withRegistry r).meter = r.meter := rfl

/-- A call that ends moves no meter. -/
@[simp] theorem meter_finish (reply : Reply) : (m.finish reply).1.meter = m.meter := rfl

/-- A delivery is counted when its wake-up is over. -/
theorem meter_woken_delivered (d : Nat) (t : Traffic) : (m.woken (.delivered d t)).1.meter =
    m.metered (if d < m.registry.devices.size then some (.delivered d t) else none) := by
  simp only [woken, meter_finish, meter_withRegistry]
  split
  · rename_i hd
    exact m.registry.meter_delivered hd t
  · rename_i hd
    rw [m.registry.updateDevice_of_le (Nat.not_lt.1 hd)]
    rfl

/-- No meter moves when a device is closed, at once or later. -/
@[simp] theorem meter_closeDevice (d : Nat) : (m.closeDevice d).1.meter = m.meter := by
  unfold closeDevice
  dsimp only
  split <;> exact m.registry.meter_leaveDevice d

/-- No meter moves when an application is closed, at once or later. -/
@[simp] theorem meter_closeAppl (a : Nat) (origin : Origin) :
    (m.closeAppl a origin).1.meter = m.meter := by
  unfold closeAppl
  dsimp only
  split <;> rfl

/-- A registration moves no meter. -/
@[simp] theorem meter_register (origin : Origin) (params : RegisterParams) :
    (m.register origin params).1.meter = m.meter := by
  unfold register
  split
  · rfl
  · rename_i h
    exact Registry.meter_installAppl h

/-- A release moves no meter. -/
@[simp] theorem meter_release (origin : Origin) (id : ApplId) :
    (m.release origin id).1.meter = m.meter := by
  unfold release
  split
  · rfl
  · rename_i h
    rw [meter_closeAppl, meter_withRegistry]
    exact Registry.meter_retireAppl? h

/-- A send that begins moves no meter; the message is counted when the driver has taken it. -/
@[simp] theorem meter_send (origin : Origin) (id : ApplId) (msg : Message) :
    (m.send origin id msg).1.meter = m.meter := by
  unfold send
  split
  · rfl
  · rename_i h
    exact Registry.meter_route h

/-- A call for a message moves no meter of a device. -/
@[simp] theorem meter_receive (origin : Origin) (id : ApplId) :
    (m.receive origin id).1.meter = m.meter := by
  unfold receive
  split
  · rfl
  · rename_i h
    exact Registry.meter_receive h

/-- A call that sets a handler moves no meter. -/
@[simp] theorem meter_setHandler (origin : Origin) (id : ApplId) (h : Option SignalHandler) :
    (m.setHandler origin id h).1.meter = m.meter := by
  unfold setHandler
  split
  · rfl
  · rename_i h
    exact Registry.meter_setHandler h

/-! ## Moves -/

/-- No call of a facade moves a meter at once. -/
theorem meter_facadeCall (k : Nat) (f : Facade) (c : FacadeCall) :
    (m.facadeCall k f c).1.meter = m.meter := by
  cases c with
  | register params => exact m.meter_register (.facade k) params
  | subscribe s | unsubscribe name => rfl
  | release n =>
    cases hn : f.appl? n with
    | none => simp [facadeCall, hn]
    | some id =>
      simp only [facadeCall, hn, meter_release]
      rfl
  | send n msg | receive n | setHandler n =>
    cases hn : f.appl? n <;> simp [facadeCall, hn]

/-- A facade counts nothing for a device. -/
theorem metered_facade (k : Nat) (c : FacadeCall) :
    m.metered (m.transfer? (.call (.facade k c))) = m.meter := by
  cases hcore : m.core? (.facade k c) with
  | none => simp [transfer?, hcore]
  | some p =>
    obtain ⟨origin, c'⟩ := p
    obtain ⟨f, q, id, -, hq, -, -, rfl⟩ := core?_facade hcore
    simp only [transfer?, hcore, Option.bind_some]
    cases c with
    | receive n =>
      cases hq
      simp only [transferOfCall]
      split
      · rfl
      · cases m.registry.appl? id <;> rfl
    | release | send | setHandler => cases hq; rfl
    | register | subscribe | unsubscribe => cases hq

/-- A wake-up moves no meter, unless it is the end of a delivery. -/
theorem meter_wake {a : Nat} {w : Wake} {r : Registry} (same : r.meter = m.meter)
    (counts : ∀ d t, w ≠ .delivered d t) : ((m.withRegistry r).wake a w).1.meter = m.meter := by
  unfold wake
  split
  · exact same
  · cases w with
    | signalled | queued => exact same
    | delivered d t => exact absurd rfl (counts d t)

/-- **What a call transfers** is all that it moves of the meters. -/
theorem meter_call (c : Call) : (m.call c).1.meter = m.metered (m.transfer? (.call c)) := by
  cases c with
  -- an arrival and a removal leave the meters of all records as they are
  | install info driver =>
    simp only [call, transfer?, core?, transferOfCall, Option.bind_some]
    split
    · rfl
    · rename_i h
      exact Registry.meter_installDevice h
  | remove id =>
    simp only [call, transfer?, core?, transferOfCall, Option.bind_some]
    split
    · rfl
    · rename_i h
      exact Registry.meter_retireDevice? h
  | register params | release id | send id msg | setHandler id h =>
    simp [call, transfer?, core?, transferOfCall]
  | receive id =>
    simp only [call, transfer?, core?, transferOfCall, Option.bind_some, meter_receive]
    split
    · rfl
    · cases m.registry.appl? id <;> rfl
  | enqueue a msg =>
    simp only [call, transfer?, core?, transferOfCall, Option.bind_some]
    split
    · rfl
    · rename_i h
      exact m.meter_wake (Registry.meter_append? h) (by simp)
  | deliver d a msg =>
    -- a delivery is counted for the device once the handler has returned, or now if there is none
    cases h : m.registry.append? a msg with
    | none =>
      have hretiring : (m.registry.appls.get a).isRetiring = true :=
        (Application.append?_eq_none_iff _ msg).1 (Option.map_eq_none_iff.1 h)
      simp [call, transfer?, core?, transferOfCall, h, hretiring]
    | some r =>
      have hactive := (Registry.mail_append? h).1
      have hhandler := Registry.handler_append? h
      obtain ⟨x, -, rfl⟩ := Option.map_eq_some_iff.1 h
      simp only [call, h, transfer?, core?, transferOfCall, Option.bind_some, hactive, true_and,
        wake, withRegistry, hhandler]
      cases (m.registry.appls.get a).handler with
      | some h => simp; rfl
      | none =>
        simp only [true_and]
        exact meter_woken_delivered _ d msg.traffic
  | signal a => exact m.meter_wake (r := m.registry) rfl (by simp)
  | signalError a fault => exact m.meter_wake (m.registry.meter_updateAppl ..) (by simp)
  | attach tag | detach id | openFacade => rfl
  | closeFacade k =>
    simp only [call, transfer?, core?, transferOfCall, Option.bind_some]
    cases m.registry.facade? k <;> rfl
  -- a facade counts what the call does that it passes on
  | facade k c =>
    rw [metered_facade]
    simp only [call]
    split
    · rfl
    · exact m.meter_facadeCall k _ c

/-- A walk that comes to a record counts nothing. -/
theorem meter_visit (d a : Nat) (asking passing : Frame) :
    (match m.registry.reserve? d a with
      | some r => (m.withRegistry r).enter asking
      | none => m.enter passing).1.meter = m.meter := by
  cases h : m.registry.reserve? d a with
  | none => rfl
  | some r => exact Registry.meter_reserve? h

/-- No piece of work moves a meter. -/
theorem meter_advance : m.advance.1.meter = m.meter := by
  obtain ⟨r, frames, waiting⟩ := m
  cases frames with
  | nil => rfl
  | cons f fs =>
    cases f with
    | installing d cursor asking =>
      -- while a driver or listener is waited for nothing is done
      cases asking with
      | some a => rfl
      | none =>
        simp only [advance, work]
        cases h : r.applTable.next? cursor with
        | none => rfl
        | some e => exact meter_visit ⟨r, fs, waiting⟩ d e.2.2 _ _
    | registering a origin cursor asking =>
      cases asking with
      | some d => rfl
      | none =>
        simp only [advance, work]
        cases h : r.deviceTable.next? cursor with
        | none => cases origin <;> rfl
        | some e => exact meter_visit ⟨r, fs, waiting⟩ e.2.2 a _ _
    | announcing d news telling notices rest =>
      cases telling with
      | some l => rfl
      | none =>
        cases notices with
        | cons notice notices => rfl
        | nil =>
          cases rest with
          | cons o rest => cases o <;> rfl
          | nil =>
            cases news with
            | added => rfl
            -- dropping links moves no meter
            | removed =>
              simp only [advance, work, meter_closeDevice, meter_withRegistry,
                Registry.meter_unlinkAll]
              rfl
    | releasing a origin telling rest =>
      cases telling with
      | some d => rfl
      | none =>
        cases rest with
        | nil => rfl
        | cons d rest =>
          simp only [advance, work]
          split
          · exact r.meter_leaveDevice d
          · rfl
    -- a driver or handler is waited for
    | sending | waking => rfl

/-- An answer. The device that has taken a message is there. -/
theorem meter_answer (h : m.ledger.Sound) (ans : Answer) :
    (m.answer ans).1.meter = m.metered (m.transfer? (.answer ans)) := by
  obtain ⟨r, frames, waiting⟩ := m
  cases frames with
  | nil => rfl
  | cons f fs =>
    cases f with
    | installing d cursor asking =>
      cases asking with
      | none => rfl
      | some a => exact r.meter_settle d a _
    | registering a origin cursor asking =>
      cases asking with
      | none => rfl
      | some d => exact r.meter_settle d a _
    | announcing d news telling notices rest => cases telling <;> rfl
    | releasing a origin telling rest =>
      cases telling with
      | none => rfl
      | some d => exact r.meter_leaveDevice d
    -- the message is counted for both sides when the driver has taken it
    | sending d a origin msg =>
      have hd : d < r.devices.size :=
        h.device_lt (h.sending_refs (f := .sending d a origin msg) (List.mem_cons_self ..) rfl).1
      simp only [answer, answered, transfer?, List.head?_cons, Option.bind_some, transferOfAnswer,
        Answer.counted?, meter_finish, meter_withRegistry, Registry.meter_leaveAppl,
        Registry.meter_leaveDevice]
      cases ans.send with
      | ok u => exact r.meter_countSent hd a msg.traffic
      | error fault => rfl
    -- of the wake-ups only that of a delivery counts
    | waking a handler w =>
      cases w with
      | signalled | queued => rfl
      | delivered d t => exact meter_woken_delivered _ d t

/-- A teardown that is taken up moves no meter. -/
theorem meter_resume (i : Nat) : (m.resume i).1.meter = m.meter := by
  unfold resume
  split
  · rfl
  · dsimp only
    split
    · split <;> rfl
    · rfl

variable {m} {config : Config} {mv : Move} {a : Nat} {t : Traffic}

/-- **What a move does to the counters of the devices.** -/
theorem meter_make (h : Reachable config m) (mv : Move) :
    (m.make mv).1.meter = m.metered (m.transfer? mv) := by
  cases mv with
  | call c => exact m.meter_call c
  | answer ans => exact m.meter_answer h.sound ans
  | resume i => exact m.meter_resume i
  | advance => exact m.meter_advance

/-- The counters of one device after a move. -/
theorem meter_make_apply (h : Reachable config m) (mv : Move) (d : Nat) :
    (m.make mv).1.meter d = (m.meter d).after ((m.transfer? mv).bind (·.deliveredBy? d))
      ((m.transfer? mv).bind (·.sentTo? d)) := by
  rw [meter_make h mv]
  cases m.transfer? mv with
  | none => rfl
  | some x =>
    cases x with
    | fetched a t => rfl
    | sent d' a t | delivered d' t =>
      simp only [metered, Option.bind_some, Transfer.sentTo?, Transfer.deliveredBy?,
        Function.update_apply]
      by_cases hd : d' = d
      · subst hd
        simp only [if_true]
        rfl
      · simp only [hd, Ne.symm hd, if_false]
        rfl

/-! ## The counters of applications -/

/-- What a call counts: a message that is fetched or one that is delivered. -/
theorem transferOfCall_eq_some {c : Call} {x : Transfer} (h : m.transferOfCall c = some x) :
    (∃ id msg r a, c = .receive id ∧ m.registry.receive id = .ok (msg, r) ∧
      m.registry.appl? id = some a ∧ x = .fetched a msg.traffic) ∨
    ∃ d a msg, c = .deliver d a msg ∧ d < m.registry.devices.size ∧
      x = .delivered d msg.traffic := by
  cases c with
  | receive id =>
    left
    simp only [transferOfCall] at h
    split at h
    · cases h
    · rename_i msg r hreceive
      obtain ⟨a, happl, rfl⟩ := Option.map_eq_some_iff.1 h
      exact ⟨id, msg, r, a, rfl, hreceive, happl, rfl⟩
  | deliver d a msg =>
    right
    obtain ⟨⟨-, -, hd⟩, heq⟩ := Option.ite_none_right_eq_some.1 h
    cases heq
    exact ⟨d, a, msg, rfl, hd, rfl⟩
  | _ => cases h

/-- What an answer counts: a message that has been sent or one that has been delivered. -/
theorem transferOfAnswer_eq_some {ans : Answer} {f : Frame} {x : Transfer}
    (h : m.transferOfAnswer ans f = some x) :
    (∃ d a origin msg, f = .sending d a origin msg ∧ ans.send = .ok () ∧
      x = .sent d a msg.traffic) ∨
    ∃ a handler d t, f = .waking a handler (.delivered d t) ∧ d < m.registry.devices.size ∧
      x = .delivered d t := by
  unfold transferOfAnswer at h
  split at h
  · rename_i d a origin msg
    obtain ⟨t, hcounted, rfl⟩ := Option.map_eq_some_iff.1 h
    unfold Answer.counted? at hcounted
    split at hcounted
    · rename_i htaken
      cases hcounted
      exact Or.inl ⟨d, a, origin, msg, rfl, htaken, rfl⟩
    · cases hcounted
  · obtain ⟨hd, heq⟩ := Option.ite_none_right_eq_some.1 h
    cases heq
    exact Or.inr ⟨_, _, _, _, rfl, hd, rfl⟩
  · cases h

/-- Which moves count a message that has been fetched. -/
theorem transfer?_eq_fetched : m.transfer? mv = some (.fetched a t) ↔
    ∃ msg, m.Posts mv a (.fetch msg) ∧ msg.traffic = t := by
  constructor
  · intro h
    cases mv with
    | call c =>
      obtain ⟨⟨origin, c'⟩, hcore, htransfer⟩ := Option.bind_eq_some_iff.1 h
      rcases transferOfCall_eq_some htransfer with
        ⟨id, msg, r, a', rfl, hreceive, happl, heq⟩ | ⟨d, a', msg, -, -, heq⟩
      · cases heq
        exact ⟨msg, .fetch hcore hreceive happl, rfl⟩
      · cases heq
    | answer ans =>
      obtain ⟨f, -, htransfer⟩ := Option.bind_eq_some_iff.1 h
      rcases transferOfAnswer_eq_some htransfer with
        ⟨_, _, _, _, -, -, heq⟩ | ⟨_, _, _, _, -, -, heq⟩ <;> cases heq
    | advance | resume => cases h
  · rintro ⟨msg, hposts, rfl⟩
    obtain ⟨c, origin, id, r, rfl, hcore, hreceive, happl⟩ := posts_fetch_iff.1 hposts
    simp [transfer?, hcore, transferOfCall, hreceive, happl]

/-- Which moves count a message that has been sent. -/
theorem transfer?_eq_sent {d : Nat} : m.transfer? mv = some (.sent d a t) ↔
    ∃ ans origin msg fs, mv = .answer ans ∧ m.frames = .sending d a origin msg :: fs ∧
      ans.send = .ok () ∧ msg.traffic = t := by
  constructor
  · intro h
    cases mv with
    | call c =>
      obtain ⟨⟨origin, c'⟩, -, htransfer⟩ := Option.bind_eq_some_iff.1 h
      rcases transferOfCall_eq_some htransfer with
        ⟨_, _, _, _, -, -, -, heq⟩ | ⟨_, _, _, -, -, heq⟩ <;> cases heq
    | answer ans =>
      obtain ⟨f, hframes, htransfer⟩ := Option.bind_eq_some_iff.1 h
      obtain ⟨fs, hframes⟩ := List.head?_eq_some_iff.1 hframes
      rcases transferOfAnswer_eq_some htransfer with
        ⟨d', a', origin, msg, rfl, htaken, heq⟩ | ⟨_, _, _, _, -, -, heq⟩
      · cases heq
        exact ⟨ans, origin, msg, fs, rfl, hframes, htaken, rfl⟩
      · cases heq
    | advance | resume => cases h
  · rintro ⟨ans, origin, msg, fs, rfl, hframes, htaken, rfl⟩
    simp [transfer?, hframes, transferOfAnswer, Answer.counted?, htaken]

/-- What counts as sent is what is posted as sent. -/
theorem posts_count_iff : m.Posts mv a (.count t) ↔ ∃ d, m.transfer? mv = some (.sent d a t) := by
  simp only [transfer?_eq_sent]
  constructor
  · intro h
    cases h with
    | count frames taken => exact ⟨_, _, _, _, _, rfl, frames, taken, rfl⟩
  · rintro ⟨d, ans, origin, msg, fs, rfl, hframes, htaken, rfl⟩
    exact .count hframes htaken

/-- A delivery counts for a device that is there. -/
theorem lt_of_transfer?_delivered {d : Nat} (h : m.transfer? mv = some (.delivered d t)) :
    d < m.registry.devices.size := by
  cases mv with
  | call c =>
    obtain ⟨p, -, htransfer⟩ := Option.bind_eq_some_iff.1 h
    rcases transferOfCall_eq_some htransfer with
      ⟨_, _, _, _, -, -, -, heq⟩ | ⟨_, _, _, -, hd, heq⟩ <;> cases heq
    exact hd
  | answer ans =>
    obtain ⟨f, -, htransfer⟩ := Option.bind_eq_some_iff.1 h
    rcases transferOfAnswer_eq_some htransfer with
      ⟨_, _, _, _, -, -, heq⟩ | ⟨_, _, _, _, -, hd, heq⟩ <;> cases heq
    exact hd
  | advance | resume => cases h

/-- What an application is counted to fetch is what is fetched from its queue. -/
theorem bind_fetchedBy? : (m.transfer? mv).bind (·.fetchedBy? a) =
    ((m.postingFor? mv a).bind Posting.fetched?).map Message.traffic := by
  ext t
  rw [Transfer.bind_fetchedBy?, transfer?_eq_fetched, Option.map_eq_some_iff]
  simp only [Posting.bind_fetched?, postingFor?_eq_some_iff]

/-- What an application is counted to send is what is posted as sent. -/
theorem bind_sentBy? : (m.transfer? mv).bind (·.sentBy? a) =
    (m.postingFor? mv a).bind Posting.sent? := by
  ext t
  rw [Transfer.bind_sentBy?, ← posts_count_iff, ← postingFor?_eq_some_iff]
  rcases m.postingFor? mv a with - | ⟨⟨⟩⟩ <;> simp [Posting.sent?]

/-- **What a move does to the counters of an application.** -/
theorem usage_make (h : Reachable config m) (mv : Move) (a : Nat) :
    ((m.make mv).1.mail a).usage = (m.mail a).usage.after
      ((m.transfer? mv).bind (·.fetchedBy? a)) ((m.transfer? mv).bind (·.sentBy? a)) := by
  rw [mail_make_apply h, bind_fetchedBy?, bind_sentBy?]
  cases m.postingFor? mv a with
  | none => rfl
  | some p => cases p <;> rfl

end Machine

end Switchboard
