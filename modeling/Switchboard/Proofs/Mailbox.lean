import Switchboard.Proofs.Facades

/-! # What is kept for an application

The queue, latch, handler and counters of an application, which the ledger and the panel leave out,
are its mail. Few moves touch the mail of any application, and each that of one, by one posting:
`Machine.posting?` and `Machine.Posts` say which, and `Machine.mail_make` that it is so. -/

namespace Switchboard

open Function (update update_eq_self)

/-- What is kept for an application. -/
structure Mail where
  queue : List Message
  latched : Option MessageFault
  handler : Option SignalHandler
  usage : Usage

/-- The mail of an application. -/
def Application.mail (x : Application) : Mail := ⟨x.queue, x.latched, x.handler, x.usage⟩

/-- What can happen to the mail of an application. -/
inductive Posting where
  /-- A message comes last in the queue. -/
  | append (msg : Message)
  /-- The first message of the queue is taken. -/
  | fetch (msg : Message)
  | latch (fault : MessageFault)
  | equip (h : Option SignalHandler)
  /-- A message is counted that has been sent. -/
  | count (t : Traffic)
  | purge

/-- The mail after a posting. -/
def Mail.after (x : Mail) : Posting → Mail
  | .append msg => { x with queue := x.queue ++ [msg] }
  | .fetch msg => { x with queue := x.queue.tail, usage := x.usage.receive msg.traffic }
  | .latch fault => { x with latched := some (x.latched.getD fault) }
  | .equip h => { x with handler := h }
  | .count t => { x with usage := x.usage.send t }
  | .purge => { x with queue := [], handler := none }

/-- The application that a call brings a message, the message, and what its wake-up is part of. -/
def Call.brings? : Call → Option (Nat × Message × Wake)
  | enqueue a msg => some (a, msg, .queued)
  | deliver d a msg => some (a, msg, .delivered d msg.traffic)
  | _ => none

namespace Registry

variable (r : Registry)

/-- What is kept for the applications. -/
def mail (a : Nat) : Mail := (r.appls.get a).mail

/-! ## Operations that leave the mail alone -/

/-- A change of an application that leaves its mail alone leaves the mail of all as it is. -/
theorem mail_updateAppl_same {a : Nat} {f : Application → Application}
    (same : (f (r.appls.get a)).mail = (r.appls.get a).mail) :
    (r.updateAppl a f).mail = r.mail := by
  have h := Store.map_update Application.mail r.appls a f (Or.inr same)
  rw [same] at h
  exact h.trans (update_eq_self a r.mail)

/-- The mail of applications does not depend on devices. -/
@[simp] theorem mail_leaveDevice (d : Nat) : (r.leaveDevice d).mail = r.mail := rfl

/-- A reference that is given up leaves the mail alone. -/
@[simp] theorem mail_leaveAppl (a : Nat) : (r.leaveAppl a).mail = r.mail :=
  r.mail_updateAppl_same rfl

/-- Links that are taken leave the mail alone. -/
@[simp] theorem mail_takeLinks (a : Nat) : (r.takeLinks a).2.mail = r.mail :=
  r.mail_updateAppl_same rfl

/-- The end of a binding changes links and references, but no mail. -/
@[simp] theorem mail_settle (d a : Nat) (isAccepted : Bool) :
    (r.settle d a isAccepted).mail = r.mail := by
  have hlinks (l : Links) : (r.updateAppl a fun x => { x with links := l }).mail = r.mail :=
    r.mail_updateAppl_same rfl
  unfold settle
  dsimp only
  repeat' split
  all_goals simp only [mail_leaveAppl, mail_leaveDevice, hlinks]

/-- A link that is dropped leaves the mail alone. -/
@[simp] theorem mail_unlink (id : DeviceId) (a : Nat) : (r.unlink id a).mail = r.mail := by
  unfold unlink
  split
  · rfl
  · exact r.mail_updateAppl_same rfl

/-- However many links are dropped, the mail stays. -/
@[simp] theorem mail_unlinkAll (id : DeviceId) : (r.unlinkAll id).mail = r.mail := by
  unfold unlinkAll
  generalize r.applTable.values = keys
  induction keys generalizing r with
  | nil => rfl
  | cons a rest ih => rw [List.foldl_cons, ih, mail_unlink]

variable {r} {r' : Registry}

/-- A record that arrives is as blank as one that has not. -/
theorem mail_installAppl {params : RegisterParams} {a : Nat}
    (h : r.installAppl params = .ok (a, r')) : r'.mail = r.mail := by
  unfold installAppl at h
  dsimp only at h
  repeat' split at h
  all_goals cases h
  rename_i n pool hpool _ id hid _ table htable
  have hadd := Store.map_add Application.mail r.appls (.new id params r.config.maxDevices)
  refine hadd.trans ?_
  have hblank : (Application.new id params r.config.maxDevices).mail = r.mail r.appls.size := by
    rw [mail, r.appls.get_of_size_le (Nat.le_refl _)]
    rfl
  rw [hblank]
  exact update_eq_self _ r.mail

/-- An application that is retired keeps its mail. -/
theorem mail_retireAppl? {id : ApplId} {a : Nat} (h : r.retireAppl? id = some (a, r')) :
    r'.mail = r.mail := by
  unfold retireAppl? at h
  split at h
  · cases h
  · cases h
    exact r.mail_updateAppl_same rfl

/-- The installation of a device changes no mail. -/
theorem mail_installDevice {info : DeviceInfo} {driver : Driver} {d : Nat}
    (h : r.installDevice info driver = .ok (d, r')) : r'.mail = r.mail := by
  unfold installDevice at h
  dsimp only at h
  repeat' split at h
  all_goals cases h
  rfl

/-- The retirement of a device changes no mail. -/
theorem mail_retireDevice? {id : DeviceId} {d : Nat} (h : r.retireDevice? id = some (d, r')) :
    r'.mail = r.mail := by
  unfold retireDevice? at h
  split at h
  · cases h
  · cases h
    rfl

/-- A pair that is reserved costs two references, and changes no mail. -/
theorem mail_reserve? {d a : Nat} (h : r.reserve? d a = some r') : r'.mail = r.mail := by
  unfold reserve? at h
  split at h
  · cases h
  · split at h
    · cases h
    · rename_i appl hjoin
      split at h
      · cases h
      · cases h
        obtain ⟨l, -, rfl⟩ := Option.map_eq_some_iff.1 hjoin
        exact r.mail_updateAppl_same rfl

/-- A route that is found costs two references, and changes no mail. -/
theorem mail_route {id : ApplId} {msg : Message} {d a : Nat}
    (h : r.route id msg = .ok (d, a, r')) : r'.mail = r.mail := by
  unfold route at h
  split at h
  · cases h
  · split at h
    · cases h
    · rename_i appl hjoin
      repeat' split at h
      all_goals cases h
      obtain ⟨l, -, rfl⟩ := Option.map_eq_some_iff.1 hjoin
      exact r.mail_updateAppl_same rfl

/-! ## Operations on the mail -/

/-- A message that is queued is posted to an application that is active. -/
theorem mail_append? {a : Nat} {msg : Message} (h : r.append? a msg = some r') :
    (r.appls.get a).isRetiring = false ∧
      r'.mail = update r.mail a ((r.mail a).after (.append msg)) := by
  obtain ⟨x, hx, rfl⟩ := Option.map_eq_some_iff.1 h
  unfold Application.append? at hx
  split at hx
  · cases hx
  · rename_i hactive
    cases hx
    have hlt : a < r.appls.size := by
      by_contra hge
      rw [r.appls.get_of_size_le (Nat.not_lt.1 hge)] at hactive
      exact hactive rfl
    exact ⟨Bool.eq_false_iff.2 hactive, Store.map_update Application.mail r.appls a _ (Or.inl hlt)⟩

/-- A record that can be joined has arrived and is active. -/
theorem of_join? {a : Nat} (h : (r.appls.get a).join?.isSome = true) :
    a < r.appls.size ∧ (r.appls.get a).isRetiring = false := by
  obtain ⟨x, hx⟩ := Option.isSome_iff_exists.1 h
  obtain ⟨⟨hlt, hactive, -⟩, -⟩ := r.join?_appl [] [] hx
  exact ⟨hlt, by simpa [ledger] using hactive⟩

/-- An application that is reached is the one registered under the number, and active. -/
theorem reach_eq_ok {id : ApplId} {a : Nat} (h : r.reach id = .ok a) :
    r.appl? id = some a ∧ a < r.appls.size ∧ (r.appls.get a).isRetiring = false := by
  unfold reach at h
  split at h
  · cases h
  · rename_i a' ha
    split at h
    · rename_i hjoin
      cases h
      exact ⟨ha, of_join? hjoin⟩
    · cases h

/-- A message that is taken was the first in the queue, and is posted as fetched. -/
theorem mail_receive {id : ApplId} {msg : Message} (h : r.receive id = .ok (msg, r')) :
    ∃ a rest, r.appl? id = some a ∧ (r.appls.get a).isRetiring = false ∧
      (r.mail a).queue = msg :: rest ∧
      r'.mail = update r.mail a ((r.mail a).after (.fetch msg)) := by
  unfold receive at h
  split at h
  · cases h
  · rename_i a hreach
    obtain ⟨happl, hlt, hactive⟩ := reach_eq_ok hreach
    split at h
    · cases h
    · rename_i x htake
      cases h
      -- the application is in range and not retired, and has a first message
      unfold Application.take at htake
      split at htake
      · cases htake
      · split at htake
        · cases htake
        · rename_i rest hqueue
          cases htake
          refine ⟨a, rest, happl, hactive, hqueue, ?_⟩
          refine (Store.map_update Application.mail r.appls a _ (Or.inl hlt)).trans ?_
          simp only [Mail.after, mail, Application.mail, hqueue, List.tail_cons]
          rfl

/-- A handler that is set is posted to the application under the number. -/
theorem mail_setHandler {id : ApplId} {handler : Option SignalHandler}
    (h : r.setHandler id handler = .ok r') :
    ∃ a, r.appl? id = some a ∧ r'.mail = update r.mail a ((r.mail a).after (.equip handler)) := by
  unfold setHandler at h
  split at h
  · cases h
  · rename_i a hreach
    obtain ⟨happl, hlt, -⟩ := reach_eq_ok hreach
    cases h
    exact ⟨a, happl, Store.map_update Application.mail r.appls a _ (Or.inl hlt)⟩

variable (r)

/-- An error that is latched is posted as such. -/
theorem mail_latch {a : Nat} (ha : a < r.appls.size) (fault : MessageFault) :
    (r.updateAppl a fun x => x.latch fault).mail =
      update r.mail a ((r.mail a).after (.latch fault)) := by
  refine (Store.map_update Application.mail r.appls a _ (Or.inl ha)).trans ?_
  congr 1
  simp only [Application.mail, Mail.after, mail, Mail.mk.injEq, Application.latched_latch, true_and]
  unfold Application.latch
  split <;> exact ⟨rfl, rfl, rfl⟩

/-- Nothing is changed where no record is. -/
theorem updateAppl_of_le {a : Nat} (ha : r.appls.size ≤ a) (f : Application → Application) :
    r.updateAppl a f = r := by
  have hsame : r.appls.update a f = r.appls :=
    congrArg Store.mk (Array.setIfInBounds_eq_of_size_le ha)
  rw [updateAppl, hsame]

/-- What a release drops at its end is posted as a purge. -/
theorem mail_reset (a : Nat) :
    (r.updateAppl a Application.reset).mail = update r.mail a ((r.mail a).after .purge) := by
  refine Store.map_update Application.mail r.appls a _ ?_
  rcases r.appls.lt_size_or_eq_default a with hlt | hblank
  · exact Or.inl hlt
  · -- there is nothing to be dropped of a blank record
    right
    rw [hblank]
    rfl

/-- A message that a device has taken is posted as counted. -/
theorem mail_countSent {a : Nat} (ha : a < r.appls.size) (d : Nat) (t : Traffic) :
    (r.countSent d a t).mail = update r.mail a ((r.mail a).after (.count t)) :=
  Store.map_update Application.mail r.appls a _ (Or.inl ha)

end Registry

namespace Machine

variable (m : Machine)

/-- What is kept for the applications. -/
def mail : Nat → Mail := m.registry.mail

/-- The call of the switchboard that a call comes down to, with the origin it is made through: a
facade passes on what is asked about a number that it has given out. -/
def core? : Call → Option (Origin × Call)
  | .facade k c => (m.registry.facade? k).bind fun f => c.direct?.bind fun p =>
      (f.appl? p.1).map fun id => (.facade k, p.2 id)
  | c => some (.direct, c)

/-- What a call of the switchboard posts, and to which application. -/
def postingOfCall : Call → Option (Nat × Posting)
  | .receive id => match m.registry.receive id with
    | .error _ => none
    | .ok (msg, _) => (m.registry.appl? id).map fun a => (a, .fetch msg)
  | .setHandler id h => match m.registry.setHandler id h with
    | .error _ => none
    | .ok _ => (m.registry.appl? id).map fun a => (a, .equip h)
  | .enqueue a msg => if (m.registry.appls.get a).isRetiring then none else some (a, .append msg)
  | .deliver _ a msg => if (m.registry.appls.get a).isRetiring then none else some (a, .append msg)
  | .signalError a fault => if a < m.registry.appls.size then some (a, .latch fault) else none
  | _ => none

/-- What a move posts, and to which application. -/
def posting? : Move → Option (Nat × Posting)
  | .call c => (m.core? c).bind fun p => m.postingOfCall p.2
  | .answer ans => match m.frames, ans.send with
    | .sending _ a _ msg :: _, .ok () => some (a, .count msg.traffic)
    | _, _ => none
  | .advance => match m.frames with
    | .releasing a _ none [] :: _ => some (a, .purge)
    | _ => none
  | .resume _ => none

/-- The mail once something has been posted. -/
def posted : Option (Nat × Posting) → Nat → Mail
  | none => m.mail
  | some (a, p) => update m.mail a ((m.mail a).after p)

/-! ## Pieces of calls -/

/-- Without a posting the mail stays. -/
@[simp] theorem posted_none : m.posted none = m.mail := rfl

/-- A posting changes the mail of one application. -/
@[simp] theorem posted_some (a : Nat) (p : Posting) :
    m.posted (some (a, p)) = update m.mail a ((m.mail a).after p) := rfl

/-- The mail of a machine is that of its registry. -/
@[simp] theorem mail_registry : m.registry.mail = m.mail := rfl

/-- The mail goes with the registry. -/
@[simp] theorem mail_withRegistry (r : Registry) : (m.withRegistry r).mail = r.mail := rfl

/-- A call that goes on leaves the mail alone. -/
@[simp] theorem mail_enter (f : Frame) : (m.enter f).1.mail = m.mail := rfl

/-- A call that ends leaves the mail alone. -/
@[simp] theorem mail_finish (reply : Reply) : (m.finish reply).1.mail = m.mail := rfl

/-- News that begin leave the mail alone. -/
@[simp] theorem mail_announce (d : Nat) (news : News) : (m.announce d news).1.mail = m.mail := rfl

/-- The end of a wake-up leaves the mail alone. -/
@[simp] theorem mail_woken (w : Wake) : (m.woken w).1.mail = m.mail := by
  cases w <;> rfl

/-- A wake-up leaves the mail alone, whether there is a handler or not. -/
@[simp] theorem mail_wake (a : Nat) (w : Wake) : (m.wake a w).1.mail = m.mail := by
  unfold wake
  split
  · rfl
  · exact m.mail_woken w

/-- The mail stays when a device is closed, at once or later. -/
@[simp] theorem mail_closeDevice (d : Nat) : (m.closeDevice d).1.mail = m.mail := by
  unfold closeDevice
  dsimp only
  split <;> rfl

/-- Links that are taken to be unwound leave the mail alone. -/
@[simp] theorem mail_unwind (a : Nat) (origin : Origin) : (m.unwind a origin).1.mail = m.mail :=
  m.registry.mail_takeLinks a

/-- The mail stays when an application is closed, and is purged only at the end of its release. -/
@[simp] theorem mail_closeAppl (a : Nat) (origin : Origin) :
    (m.closeAppl a origin).1.mail = m.mail := by
  unfold closeAppl
  dsimp only
  split
  · rw [mail_unwind]
    exact m.registry.mail_leaveAppl a
  · exact m.registry.mail_leaveAppl a

/-- A registration changes no mail. -/
@[simp] theorem mail_register (origin : Origin) (params : RegisterParams) :
    (m.register origin params).1.mail = m.mail := by
  unfold register
  split
  · rfl
  · rename_i h
    exact Registry.mail_installAppl h

/-- A release that begins changes no mail. -/
@[simp] theorem mail_release (origin : Origin) (id : ApplId) :
    (m.release origin id).1.mail = m.mail := by
  unfold release
  split
  · rfl
  · rename_i h
    rw [mail_closeAppl, mail_withRegistry]
    exact Registry.mail_retireAppl? h

/-- A send that begins changes no mail; the message is counted when the driver has taken it. -/
@[simp] theorem mail_send (origin : Origin) (id : ApplId) (msg : Message) :
    (m.send origin id msg).1.mail = m.mail := by
  unfold send
  split
  · rfl
  · rename_i h
    exact Registry.mail_route h

/-- A call for a message posts what the registry makes of it. -/
theorem mail_receive (origin : Origin) (id : ApplId) :
    (m.receive origin id).1.mail = m.posted (m.postingOfCall (.receive id)) := by
  cases h : m.registry.receive id with
  | error fault => simp [receive, postingOfCall, h]
  | ok e =>
    obtain ⟨msg, r⟩ := e
    obtain ⟨a, rest, happl, -, -, hmail⟩ := Registry.mail_receive h
    simp only [receive, postingOfCall, h, happl, Option.map_some, mail_finish, mail_withRegistry,
      hmail]
    rfl

/-- A call that sets a handler posts it. -/
theorem mail_setHandler (origin : Origin) (id : ApplId) (handler : Option SignalHandler) :
    (m.setHandler origin id handler).1.mail =
      m.posted (m.postingOfCall (.setHandler id handler)) := by
  cases h : m.registry.setHandler id handler with
  | error fault => simp [setHandler, postingOfCall, h]
  | ok r =>
    obtain ⟨a, happl, hmail⟩ := Registry.mail_setHandler h
    simp only [setHandler, postingOfCall, h, happl, Option.map_some, mail_finish, mail_withRegistry,
      hmail]
    rfl

/-! ## Moves -/

/-- What a facade is called for it posts as the call that it comes down to would. -/
theorem mail_facadeCall (k : Nat) (f : Facade) (c : FacadeCall) :
    (m.facadeCall k f c).1.mail = m.posted (c.direct?.bind fun p =>
      (f.appl? p.1).bind fun id => m.postingOfCall (p.2 id)) := by
  cases c with
  | register params => exact m.mail_register (.facade k) params
  | subscribe s | unsubscribe name => rfl
  | release n =>
    cases hn : f.appl? n with
    | none => simp [facadeCall, FacadeCall.direct?, hn]
    | some id =>
      simp only [facadeCall, FacadeCall.direct?, hn, postingOfCall, mail_release, Option.bind_some]
      rfl
  | send n msg => cases hn : f.appl? n <;> simp [facadeCall, FacadeCall.direct?, hn, postingOfCall]
  | receive n => cases hn : f.appl? n <;> simp [facadeCall, FacadeCall.direct?, hn, mail_receive]
  | setHandler n function param =>
    cases hn : f.appl? n <;> simp [facadeCall, FacadeCall.direct?, hn, mail_setHandler]

/-- **What a call posts** is all that it changes of the mail. -/
theorem mail_call (c : Call) : (m.call c).1.mail = m.posted (m.posting? (.call c)) := by
  cases c with
  | install info driver =>
    cases h : m.registry.installDevice info driver with
    | error fault => simp [call, posting?, core?, postingOfCall, h]
    | ok e =>
      obtain ⟨d, r⟩ := e
      simpa [call, posting?, core?, postingOfCall, h] using Registry.mail_installDevice h
  | remove id =>
    cases h : m.registry.retireDevice? id with
    | none => simp [call, posting?, core?, postingOfCall, h]
    | some e =>
      obtain ⟨d, r⟩ := e
      simpa [call, posting?, core?, postingOfCall, h] using Registry.mail_retireDevice? h
  | register params | release id | send id msg | signal a =>
    simp [call, posting?, core?, postingOfCall]
  | receive id => exact m.mail_receive .direct id
  | setHandler id handler => exact m.mail_setHandler .direct id handler
  -- a retiring application takes no message
  | enqueue a msg | deliver d a msg =>
    cases h : m.registry.append? a msg with
    | none =>
      have hretiring : (m.registry.appls.get a).isRetiring = true :=
        (Application.append?_eq_none_iff _ msg).1 (Option.map_eq_none_iff.1 h)
      simp [call, posting?, core?, postingOfCall, h, hretiring]
    | some r =>
      obtain ⟨hactive, hmail⟩ := Registry.mail_append? h
      simpa [call, posting?, core?, postingOfCall, h, hactive] using hmail
  -- an error is latched where there is an application
  | signalError a fault =>
    by_cases ha : a < m.registry.appls.size
    · simpa [call, posting?, core?, postingOfCall, ha] using m.registry.mail_latch ha fault
    · simp [call, posting?, core?, postingOfCall, ha,
        m.registry.updateAppl_of_le (Nat.not_lt.1 ha)]
  | attach tag | detach id | openFacade => rfl
  | closeFacade k =>
    simp only [call, posting?, core?, postingOfCall]
    cases m.registry.facade? k <;> rfl
  | facade k c =>
    cases h : m.registry.facade? k with
    | none => simp [call, posting?, core?, h]
    | some f =>
      simpa [call, posting?, core?, h, Option.bind_assoc, Option.bind_map, Function.comp_def]
        using m.mail_facadeCall k f c

/-- A walk that comes to a record leaves the mail alone. -/
theorem mail_visit (d a : Nat) (asking passing : Frame) :
    (match m.registry.reserve? d a with
      | some r => (m.withRegistry r).enter asking
      | none => m.enter passing).1.mail = m.mail := by
  cases h : m.registry.reserve? d a with
  | none => rfl
  | some r => exact Registry.mail_reserve? h

/-- **What a piece of work posts** is all that it changes of the mail. -/
theorem mail_advance : m.advance.1.mail = m.posted (m.posting? .advance) := by
  obtain ⟨r, frames, waiting⟩ := m
  cases frames with
  | nil => rfl
  | cons f fs =>
    cases f with
    -- walks and news touch nobody's mail
    | installing d cursor asking =>
      cases asking with
      | some a => rfl
      | none =>
        simp only [advance, work, posting?]
        cases h : r.applTable.next? cursor with
        | none => rfl
        | some e => exact mail_visit ⟨r, fs, waiting⟩ d e.2.2 _ _
    | registering a origin cursor asking =>
      cases asking with
      | some d => rfl
      | none =>
        simp only [advance, work, posting?]
        cases h : r.deviceTable.next? cursor with
        | none => cases origin <;> rfl
        | some e => exact mail_visit ⟨r, fs, waiting⟩ e.2.2 a _ _
    | announcing d news telling notices rest =>
      cases telling with
      | some l => rfl
      | none =>
        cases notices with
        | cons notice notices => rfl
        | nil =>
          cases rest with
          | cons o rest => cases o <;> rfl
          | nil =>
            cases news with
            | added => rfl
            | removed =>
              simp only [advance, work, posting?, mail_closeDevice, mail_withRegistry,
                Registry.mail_unlinkAll]
              rfl
    | releasing a origin telling rest =>
      cases telling with
      | some d => rfl
      | none =>
        cases rest with
        -- with the last device told, the mail of the application is purged
        | nil => exact r.mail_reset a
        | cons d rest =>
          simp only [advance, work, posting?]
          split <;> rfl
    | sending | waking => rfl

/-- An answer. The message that a driver has taken is that of an application that is there. -/
theorem mail_answer (h : m.ledger.Sound) (ans : Answer) :
    (m.answer ans).1.mail = m.posted (m.posting? (.answer ans)) := by
  obtain ⟨r, frames, waiting⟩ := m
  cases frames with
  | nil => rfl
  | cons f fs =>
    cases f with
    | installing d cursor asking =>
      cases asking with
      | none => rfl
      | some a => exact r.mail_settle d a _
    | registering a origin cursor asking =>
      cases asking with
      | none => rfl
      | some d => exact r.mail_settle d a _
    | announcing d news telling notices rest => cases telling <;> rfl
    | releasing a origin telling rest => cases telling <;> rfl
    -- a message that was taken is counted for the application, and one that was not is not
    | sending d a origin msg =>
      -- the application is referred to as long as its message is under way
      have ha : a < r.appls.size :=
        h.appl_lt (h.sending_refs (f := .sending d a origin msg) (List.mem_cons_self ..) rfl).2
      cases hans : ans.send with
      | ok u =>
        simp only [answer, answered, posting?, hans, mail_finish, mail_withRegistry,
          Registry.mail_leaveAppl, Registry.mail_leaveDevice]
        exact r.mail_countSent ha d msg.traffic
      | error fault =>
        simp only [answer, answered, posting?, hans, mail_finish, mail_withRegistry,
          Registry.mail_leaveAppl, Registry.mail_leaveDevice]
        rfl
    | waking a handler w => exact mail_woken _ w

/-- A teardown that is taken up changes no mail. -/
theorem mail_resume (i : Nat) : (m.resume i).1.mail = m.mail := by
  unfold resume
  split
  · rfl
  · rename_i t ht
    -- a release that goes on unwinds links, and purges the mail only at its end
    dsimp only
    split
    · cases t with
      | device d => rfl
      | appl a origin => exact mail_unwind _ a origin
    · rfl

variable {m} {config : Config}

/-- **What a move does to the mail.** -/
theorem mail_make (h : Reachable config m) (mv : Move) :
    (m.make mv).1.mail = m.posted (m.posting? mv) := by
  cases mv with
  | call c => exact m.mail_call c
  | answer ans => exact m.mail_answer h.sound ans
  | resume i => exact m.mail_resume i
  | advance => exact m.mail_advance

/-! ## Which moves post what -/

variable {a : Nat} {p : Posting} {msg : Message} {mv : Move} {c c' : Call} {origin : Origin}
  {id : ApplId}

/-- What a facade passes on is a call about a number that it has given out. -/
theorem core?_facade {k : Nat} {fc : FacadeCall} (h : m.core? (.facade k fc) = some (origin, c')) :
    ∃ f q id, m.registry.facade? k = some f ∧ fc.direct? = some q ∧ f.appl? q.1 = some id ∧
      origin = .facade k ∧ c' = q.2 id := by
  obtain ⟨f, hf, hfacade⟩ := Option.bind_eq_some_iff.1 h
  obtain ⟨q, hq, hid⟩ := Option.bind_eq_some_iff.1 hfacade
  obtain ⟨id, happl, hcore⟩ := Option.map_eq_some_iff.1 hid
  cases hcore
  exact ⟨f, q, id, hf, hq, happl, rfl, rfl⟩

/-- A call that comes down to one for the oldest message takes it. -/
theorem call_of_core_receive (h : m.core? c = some (origin, .receive id)) :
    m.call c = m.receive origin id := by
  cases c with
  | receive id' => cases h; rfl
  | facade k fc =>
    obtain ⟨f, q, id', hf, hq, happl, rfl, hcore⟩ := core?_facade h
    cases fc <;> cases hq <;> cases hcore
    simp only [call, hf, facadeCall, happl]
  | _ => cases h

/-- A call that comes down to sending a message sends it. -/
theorem call_of_core_send (h : m.core? c = some (origin, .send id msg)) :
    m.call c = m.send origin id msg := by
  cases c with
  | send id' msg' => cases h; rfl
  | facade k fc =>
    obtain ⟨f, q, id', hf, hq, happl, rfl, hcore⟩ := core?_facade h
    cases fc <;> cases hq <;> cases hcore
    simp only [call, hf, facadeCall, happl]
  | _ => cases h

/-- A call that is about a record and not a number is not one that a facade passes on. -/
theorem eq_of_core? (h : m.core? c = some (origin, c'))
    (about : c'.brings? ≠ none ∨ ∃ a fault, c' = .signalError a fault) : c = c' := by
  cases c with
  | facade k fc =>
    obtain ⟨f, q, id, -, hq, -, -, rfl⟩ := core?_facade h
    cases fc <;> cases hq <;> simp [Call.brings?] at about
  | _ => cases h; rfl

/-- What moves post to an application. -/
inductive Posts (m : Machine) : Move → Nat → Posting → Prop where
  /-- A call brings a message to an application that is not retiring. -/
  | append {c : Call} {a : Nat} {msg : Message} {w : Wake} (brings : c.brings? = some (a, msg, w))
      (active : (m.registry.appls.get a).isRetiring = false) : Posts m (.call c) a (.append msg)
  /-- A call comes down to one for the oldest message, and there is one. -/
  | fetch {c : Call} {origin : Origin} {id : ApplId} {a : Nat} {msg : Message} {r : Registry}
      (core : m.core? c = some (origin, .receive id))
      (receive : m.registry.receive id = .ok (msg, r)) (appl : m.registry.appl? id = some a) :
      Posts m (.call c) a (.fetch msg)
  /-- A call comes down to one that sets the handler, and is not refused. -/
  | equip {c : Call} {origin : Origin} {id : ApplId} {a : Nat} {h : Option SignalHandler}
      {r : Registry} (core : m.core? c = some (origin, .setHandler id h))
      (set : m.registry.setHandler id h = .ok r) (appl : m.registry.appl? id = some a) :
      Posts m (.call c) a (.equip h)
  /-- A call signals an error to an application that is there. -/
  | latch {a : Nat} (fault : MessageFault) (arrived : a < m.registry.appls.size) :
      Posts m (.call (.signalError a fault)) a (.latch fault)
  /-- A driver takes a message that the application has sent. -/
  | count {d a : Nat} {origin : Origin} {msg : Message} {fs : List Frame} {ans : Answer}
      (frames : m.frames = .sending d a origin msg :: fs) (taken : ans.send = .ok ()) :
      Posts m (.answer ans) a (.count msg.traffic)
  /-- The release of the application ends. -/
  | purge {a : Nat} {origin : Origin} {fs : List Frame}
      (frames : m.frames = .releasing a origin none [] :: fs) : Posts m .advance a .purge

/-- What a call posts that comes down to another is what the other posts. -/
theorem posts_of_core (core : m.core? c = some (origin, c'))
    (posting : m.postingOfCall c' = some (a, p)) : m.Posts (.call c) a p := by
  cases c' with
  | receive id =>
    simp only [postingOfCall] at posting
    split at posting
    · cases posting
    · rename_i hreceive
      obtain ⟨a', happl, heq⟩ := Option.map_eq_some_iff.1 posting
      cases heq
      exact .fetch core hreceive happl
  | setHandler id h =>
    simp only [postingOfCall] at posting
    split at posting
    · cases posting
    · rename_i hset
      obtain ⟨a', happl, heq⟩ := Option.map_eq_some_iff.1 posting
      cases heq
      exact .equip core hset happl
  | enqueue a' msg | deliver d a' msg =>
    -- calls about records are made directly
    obtain rfl := eq_of_core? core (Or.inl (by simp [Call.brings?]))
    obtain ⟨hactive, heq⟩ := Option.ite_none_left_eq_some.1 posting
    cases heq
    exact .append rfl (Bool.eq_false_iff.2 hactive)
  | signalError a' fault =>
    obtain rfl := eq_of_core? core (Or.inr ⟨a', fault, rfl⟩)
    obtain ⟨harrived, heq⟩ := Option.ite_none_right_eq_some.1 posting
    cases heq
    exact .latch fault harrived
  | _ => cases posting

/-- **Which moves post what.** -/
theorem posting?_eq_some_iff : m.posting? mv = some (a, p) ↔ m.Posts mv a p := by
  constructor
  · intro h
    cases mv with
    | call c =>
      -- an answer posts where a driver has taken a message
      obtain ⟨⟨origin, c'⟩, hcore, hposting⟩ := Option.bind_eq_some_iff.1 h
      exact posts_of_core hcore hposting
    | answer ans =>
      simp only [posting?] at h
      split at h
      · rename_i hframes htaken
        cases h
        exact .count hframes htaken
      · cases h
    -- a piece of work posts where a release ends
    | advance =>
      simp only [posting?] at h
      split at h
      · rename_i hframes
        cases h
        exact .purge hframes
      · cases h
    | resume i => cases h
  · intro h
    cases h with
    | @append c a msg w brings active =>
      cases c with
      | enqueue | deliver =>
        cases brings
        simp [posting?, core?, postingOfCall, active]
      | _ => cases brings
    | fetch core receive appl => simp [posting?, core, postingOfCall, receive, appl]
    | equip core set appl => simp [posting?, core, postingOfCall, set, appl]
    | latch fault arrived => simp [posting?, core?, postingOfCall, arrived]
    | count frames taken => simp [posting?, frames, taken]
    | purge frames => simp [posting?, frames]

/-- A message is appended by a call that brings it to an active application. -/
theorem posts_append_iff : m.Posts mv a (.append msg) ↔
    ∃ c w, mv = .call c ∧ c.brings? = some (a, msg, w) ∧
      (m.registry.appls.get a).isRetiring = false := by
  constructor
  · intro h
    cases h with
    | append brings active => exact ⟨_, _, rfl, brings, active⟩
  · rintro ⟨c, w, rfl, brings, active⟩
    exact .append brings active

/-- A message is fetched by a call for it, under the number of the application. -/
theorem posts_fetch_iff : m.Posts mv a (.fetch msg) ↔
    ∃ c origin id r, mv = .call c ∧ m.core? c = some (origin, .receive id) ∧
      m.registry.receive id = .ok (msg, r) ∧ m.registry.appl? id = some a := by
  constructor
  · intro h
    cases h with
    | fetch core receive appl => exact ⟨_, _, _, _, rfl, core, receive, appl⟩
  · rintro ⟨c, origin, id, r, rfl, core, receive, appl⟩
    exact .fetch core receive appl

/-- An error is offered to the latch by a call that signals it to an application that is there. -/
theorem posts_latch_iff {fault : MessageFault} : m.Posts mv a (.latch fault) ↔
    mv = .call (.signalError a fault) ∧ a < m.registry.appls.size := by
  constructor
  · intro h
    cases h with
    | latch fault arrived => exact ⟨rfl, arrived⟩
  · rintro ⟨rfl, arrived⟩
    exact .latch fault arrived

/-- Mail is purged by the last piece of work of a release. -/
theorem posts_purge_iff : m.Posts mv a .purge ↔
    mv = .advance ∧ ∃ origin fs, m.frames = .releasing a origin none [] :: fs := by
  constructor
  · intro h
    cases h with
    | purge frames => exact ⟨rfl, _, _, frames⟩
  · rintro ⟨rfl, origin, fs, frames⟩
    exact .purge frames

/-- A message that is fetched is the first of an active application. -/
theorem Posts.fetched (h : m.Posts mv a (.fetch msg)) :
    (m.registry.appls.get a).isRetiring = false ∧ ∃ rest, (m.mail a).queue = msg :: rest := by
  obtain ⟨c, origin, id, r, -, -, hreceive, happl⟩ := posts_fetch_iff.1 h
  obtain ⟨a', rest, happl', hactive, hqueue, -⟩ := Registry.mail_receive hreceive
  obtain rfl : a' = a := Option.some.inj (happl'.symm.trans happl)
  exact ⟨hactive, rest, hqueue⟩

/-- What a move posts to an application. -/
def postingFor? (m : Machine) (mv : Move) (a : Nat) : Option Posting :=
  (m.posting? mv).bind fun q => if q.1 = a then some q.2 else none

/-- A posting is for the application that it is made to. -/
theorem postingFor?_eq_some_iff : m.postingFor? mv a = some p ↔ m.Posts mv a p := by
  rw [← posting?_eq_some_iff]
  simp only [postingFor?, Option.bind_eq_some_iff, Option.ite_none_right_eq_some,
    Option.some.injEq, Prod.exists]
  constructor
  · rintro ⟨_, _, h, rfl, rfl⟩
    exact h
  · exact fun h => ⟨a, p, h, rfl, rfl⟩

/-- What a move does to the mail of an application. -/
theorem mail_make_apply (h : Reachable config m) (mv : Move) (a : Nat) :
    (m.make mv).1.mail a = (m.postingFor? mv a).elim (m.mail a) (m.mail a).after := by
  rw [mail_make h mv, postingFor?]
  cases m.posting? mv with
  | none => rfl
  | some q =>
    obtain ⟨a', p⟩ := q
    rw [posted_some, Function.update_apply]
    by_cases ha : a' = a
    · subst ha
      simp
    · simp [ha, Ne.symm ha]

end Machine

end Switchboard
