import Mathlib.Data.Nat.ModEq
import Switchboard.Proofs.Calls
import Switchboard.Proofs.Meters

/-! # What calls transfer

The counters of devices and applications are the sums of what has been transferred, modulo 2^64, and
what has been transferred can be told from the calls that have returned and from their replies
alone: messages that a send has been told were taken, messages that a fetch has got, and messages
whose delivery has been told they were accepted. `transfers` reads it off a history, and `Run.usage`
says that the counters agree. -/

namespace Switchboard

/-! ## Sums of traffic -/

/-- What is measured of traffic. -/
inductive Measure where
  | packets
  | bytes
  | dataPackets
  | dataBytes
deriving DecidableEq

/-- What one message counts for. -/
def Traffic.amount (t : Traffic) : Measure → Nat
  | .packets => 1
  | .bytes => t.bytes
  | .dataPackets => if t.dataBytes.isSome then 1 else 0
  | .dataBytes => t.dataBytes.getD 0

namespace Counters

/-- The counter of a measure. -/
def value (c : Counters) : Measure → UInt64
  | .packets => c.packets
  | .bytes => c.bytes
  | .dataPackets => c.dataPackets
  | .dataBytes => c.dataBytes

/-- A counter goes up by the amount of its measure, modulo its size. -/
theorem toNat_value_count (c : Counters) (t : Traffic) (k : Measure) :
    ((c.count t).value k).toNat = ((c.value k).toNat + t.amount k) % 2 ^ 64 := by
  obtain ⟨bytes, dataBytes⟩ := t
  cases k with
  | packets | bytes => simp [count, value, Traffic.amount, UInt64.toNat_add]
  | dataPackets | dataBytes =>
    cases dataBytes <;>
      simp [count, value, Traffic.amount, UInt64.toNat_add, Nat.mod_eq_of_lt (UInt64.toNat_lt _)]

/-- Counters are sums of what they have counted, as far as 64 bits go. -/
theorem toNat_value_countAll (c : Counters) (ts : List Traffic) (k : Measure) :
    ((c.countAll ts).value k).toNat = ((c.value k).toNat + (ts.map (·.amount k)).sum) % 2 ^ 64 := by
  induction ts generalizing c with
  | nil => simp [Nat.mod_eq_of_lt (UInt64.toNat_lt _)]
  | cons t ts ih =>
    rw [countAll_cons, ih, toNat_value_count, List.map_cons, List.sum_cons, Nat.mod_add_mod,
      Nat.add_assoc]

/-- Counters that started at zero are sums of what they have counted. -/
theorem toNat_value_zero_countAll (ts : List Traffic) (k : Measure) :
    ((zero.countAll ts).value k).toNat = (ts.map (·.amount k)).sum % 2 ^ 64 := by
  rw [toNat_value_countAll]
  cases k <;> simp [zero, value]

end Counters

/-- The counters of one who has received and sent what is given. -/
def Usage.of (received sent : List Traffic) : Usage :=
  ⟨Counters.zero.countAll received, Counters.zero.countAll sent⟩

/-- One more transfer comes last among what is received or sent. -/
theorem Usage.of_after (received sent : List Traffic) (r s : Option Traffic) :
    (Usage.of received sent).after r s = Usage.of (received ++ r.toList) (sent ++ s.toList) := by
  simp only [of, after, Counters.countAll_append]

/-! ## What a call has transferred -/

namespace Outcome

/-- Whether a call has ended with the word that a message was taken. -/
def isSent : Outcome → Bool
  | ends (.sent (.ok ())) => true
  | ends (.code n) => n == 0
  | _ => false

/-- Whether a call has ended with the word that a message was accepted. -/
def isAccepted : Outcome → Bool
  | ends (.accepted true) => true
  | _ => false

/-- A put that ends has sent its message unless it ends with a fault, whoever asks. -/
theorem isSent_ofSent (origin : Origin) (r : Except MessageFault Unit) :
    (ends (.ofSent origin r)).isSent = r.toOption.isSome := by
  cases origin with
  | direct => cases r <;> rfl
  | facade k =>
    cases r with
    | ok u => rfl
    | error fault => cases fault <;> rfl

end Outcome

/-- The device that a message is addressed to: the one installed under the controller that the
message names. -/
def Registry.addressee? (r : Registry) (msg : Message) : Option Nat :=
  (DeviceId.ofNumber? msg.controller.toUInt16).bind r.device?

/-- A message is routed from the application registered under the number to the device that it is
addressed to. -/
theorem Registry.of_route {r r' : Registry} {id : ApplId} {msg : Message} {d a : Nat}
    (h : r.route id msg = .ok (d, a, r')) : r.appl? id = some a ∧ r.addressee? msg = some d := by
  unfold route at h
  repeat' split at h
  all_goals cases h
  rename msg.header? = some _ => hheader
  rename DeviceId.ofNumber? _ = some _ => htarget
  rename r.device? _ = some d => hdevice
  rename r.appl? id = some a => happl
  rw [Message.controller_of_header? hheader] at htarget
  exact ⟨happl, by rw [addressee?, htarget, Option.bind_some, hdevice]⟩

namespace Machine

/-- The call of the switchboard that a call came down to, with the origin it was made through. -/
def Event.call? (e : Event) : Option (Origin × Call) :=
  match e.move with
  | .call c => e.before.core? c
  | _ => none

/-- What a call has transferred that began and returned: a message sent by the application
registered under the number to the device that the message is addressed to, when the call is told
that it was taken; a message fetched by the application, when the call yields one; and a message
delivered by a device, when the call is told that it was accepted. A delivery in the name of a
device that is not there is nobody's. -/
def Event.transferred? (start finish : Event) : Option Transfer :=
  match start.call? with
  | some (_, .send id msg) =>
    if finish.outcome.isSent then
      (start.before.registry.addressee? msg).bind fun d =>
        (start.before.registry.appl? id).map fun a => .sent d a msg.traffic
    else none
  | some (_, .receive id) =>
    finish.outcome.message?.bind fun msg =>
      (start.before.registry.appl? id).map fun a => .fetched a msg.traffic
  | some (_, .deliver d _ msg) =>
    if finish.outcome.isAccepted ∧ d < finish.before.registry.devices.size then
      some (.delivered d msg.traffic)
    else none
  | _ => none

/-- What the calls of a history have transferred, in the order of their returns. -/
def transfers (history : List Event) : List Transfer :=
  (calls history).returned.filterMap fun p => p.1.transferred? p.2

/-- What a call in progress has transferred when it returns. -/
def transferOfTask (finish : Event) : Task → Option Transfer
  | .send d a _ msg => if finish.outcome.isSent then some (.sent d a msg.traffic) else none
  | .wake _ _ (.delivered d t) =>
    if finish.outcome.isAccepted ∧ d < finish.before.registry.devices.size then
      some (.delivered d t)
    else none
  | _ => none

variable {config : Config} {history : List Event} {m : Machine} {e s : Event} {f : Frame}

/-- A call that has not ended has transferred nothing. -/
theorem Event.transferred?_of_endless (s : Event) (endless : e.outcome.reply? = none) :
    s.transferred? e = none := by
  obtain ⟨before, move, outcome⟩ := e
  cases outcome with
  | ends reply => cases endless
  | idle | works | asks =>
    unfold transferred?
    split <;> simp [Outcome.isSent, Outcome.message?, Outcome.isAccepted]

/-- What a call transfers is seen from its frame. -/
theorem Event.Began.transferred? (began : s.Began f) (e : Event) :
    s.transferred? e = transferOfTask e f.task := by
  obtain ⟨hstarts, g, hg, htask⟩ := began
  rw [← htask]
  unfold Event.transferred? Event.call?
  cases hmove : s.move with
  -- the call has been begun by a move that begins calls
  | answer | advance => rw [hmove] at hstarts; cases hstarts
  | resume i =>
    rw [hmove] at hg
    obtain ⟨a, origin, links, rfl⟩ := (s.before.leaves_resume i).of_frames hg
    rfl
  | call c =>
    rw [hmove] at hg
    have hbegins := (s.before.leaves_call c).of_frames hg
    cases hbegins with
    | install | remove => rfl
    | register registers =>
      -- a registration transfers nothing, whoever asks for it
      cases c with
      | register => rfl
      | facade k fc =>
        cases fc with
        | register =>
          simp only [core?, FacadeCall.direct?, Option.bind_none, Option.bind_fun_none]
          rfl
        | _ => cases registers
      | _ => cases registers
    -- a release transfers nothing, whoever asks for it
    | release releases =>
      cases c with
      | release => rfl
      | facade k fc =>
        cases hcore : s.before.core? (.facade k fc) with
        | none =>
          simp only [hcore]
          rfl
        | some p =>
          obtain ⟨origin, c'⟩ := p
          obtain ⟨f, q, id, -, hq, -, -, rfl⟩ := core?_facade hcore
          cases fc with
          | release n =>
            cases hq
            simp only [hcore]
            rfl
          | _ => cases releases
      | _ => cases releases
    -- the frame remembers the application and the device that the message was routed by
    | send core route =>
      obtain ⟨happl, haddressee⟩ := Registry.of_route route
      simp only [core, happl, haddressee]
      rfl
    -- what is brought is counted for the device if one delivers it
    | wake wakes =>
      cases c with
      | enqueue | signal | signalError => cases wakes; rfl
      | deliver => cases wakes; rfl
      | _ => cases wakes

/-! ## What a move transfers -/

/-- A call that hands a message over does not end at once with the word that it was taken. -/
theorem isSent_send (m : Machine) (origin : Origin) (id : ApplId) (msg : Message) :
    (m.send origin id msg).2.isSent = false := by
  unfold send
  split
  · exact Outcome.isSent_ofSent ..
  · rfl

/-- A call that wakes an application ends at once if there is no handler to wait for. -/
theorem isAccepted_wake (m : Machine) (a d : Nat) (t : Traffic) :
    (m.wake a (.delivered d t)).2.isAccepted = ((m.registry.appls.get a).handler.isNone) := by
  unfold wake
  split
  · rename_i h hsome
    simp [hsome, enter, Frame.outcome, Frame.callback?, Outcome.isAccepted]
  · rename_i hnone
    simp [hnone, woken, finish, Outcome.isAccepted]

/-- What a call transfers that ends at once. -/
theorem Event.transferred?_self {c : Call} (move : e.move = .call c)
    (outcome : e.outcome = (e.before.make e.move).2) :
    e.transferred? e = e.before.transfer? e.move := by
  have hout : e.outcome = (e.before.call c).2 := by rw [outcome, move]; rfl
  simp only [Event.transferred?, Event.call?, move, transfer?]
  cases hcore : e.before.core? c with
  | none => rfl
  | some p =>
    obtain ⟨origin, c'⟩ := p
    simp only [Option.bind_some]
    cases c' with
    -- a message that is handed over ends later, and one that is refused is not taken
    | send id msg =>
      rw [hout, call_of_core_send hcore, isSent_send]
      rfl
    -- a message that is fetched is the one replied
    | receive id =>
      simp only [hout, call_of_core_receive hcore, transferOfCall, receive]
      cases e.before.registry.receive id with
      | error fault => cases origin <;> rfl
      | ok p => cases origin <;> rfl
    -- a delivery ends at once if nobody is called
    | deliver d a msg =>
      obtain rfl := eq_of_core? hcore (Or.inl (by simp [Call.brings?]))
      rw [hout, call_of_brings (c := .deliver d a msg) rfl, transferOfCall]
      cases h : e.before.registry.append? a msg with
      | none =>
        have hretiring : (e.before.registry.appls.get a).isRetiring = true :=
          (Application.append?_eq_none_iff _ msg).1 (Option.map_eq_none_iff.1 h)
        simp [hretiring, finish, Outcome.isAccepted]
      | some r =>
        dsimp only
        rw [isAccepted_wake, withRegistry, Registry.handler_append? h, (Registry.mail_append? h).1]
        simp
    | _ => rfl

/-- What a call in progress transfers when its callback is answered. -/
theorem transferOfTask_answer {fs : List Frame} (frames : m.frames = f :: fs) (ans : Answer) :
    transferOfTask ⟨m, .answer ans, (m.answer ans).2⟩ f.task = m.transferOfAnswer ans f := by
  have hout : (m.answer ans).2 = (answered { m with frames := fs } ans f).2 := by
    simp only [answer, frames]
  cases f with
  | sending d a origin msg =>
    have hsent : (m.answer ans).2.isSent = ans.send.toOption.isSome := by
      rw [hout]
      exact Outcome.isSent_ofSent ..
    simp only [Frame.task, transferOfTask, transferOfAnswer, Answer.counted?, hsent]
    cases ans.send <;> rfl
  | waking a h w =>
    cases w with
    | signalled | queued => rfl
    | delivered d t =>
      have haccepted : (m.answer ans).2.isAccepted = true := by
        rw [hout]
        rfl
      simp only [Frame.task, transferOfTask, transferOfAnswer, haccepted, true_and]
  | announcing d news => cases news <;> rfl
  | installing | registering | releasing => rfl

/-- A call that does its work transfers nothing. -/
theorem transferOfTask_advance {fs : List Frame} (frames : m.frames = f :: fs) :
    transferOfTask ⟨m, .advance, m.advance.2⟩ f.task = none := by
  have hout : m.advance.2 = (work { m with frames := fs } f).2 := by
    simp only [advance, frames]
  cases f with
  | sending d a origin msg =>
    rw [hout]
    rfl
  | waking a h w =>
    rw [hout]
    cases w with
    | signalled | queued => rfl
    | delivered d t =>
      simp [Frame.task, transferOfTask, work, enter, Frame.outcome, Frame.callback?,
        Outcome.isAccepted]
  | announcing d news => cases news <;> rfl
  | installing | registering | releasing => rfl

/-! ## What a run transfers -/

/-- The call that returns in a move, if one does, has transferred what the move transfers. -/
theorem Run.transferred?_returning (run : Run config history m) {mv : Move}
    (admitted : m.admits mv = true) :
    (((calls history).returning? ⟨m, mv, (m.make mv).2⟩).bind fun p => p.1.transferred? p.2) =
      m.transfer? mv := by
  -- the innermost call has transferred what its frame says, whether it returns now or goes on
  have hinner (f : Frame) (fs : List Frame) (frames : m.frames = f :: fs)
      (inside : mv.starts = false) :
      (((calls history).returning? ⟨m, mv, (m.make mv).2⟩).bind fun p => p.1.transferred? p.2) =
        transferOfTask ⟨m, mv, (m.make mv).2⟩ f.task := by
    have hcalls := run.frames_began
    rw [frames] at hcalls
    obtain ⟨s, rest, hbegan, -, hopen⟩ := List.forall₂_cons_right_iff.1 hcalls
    rw [← hbegan.transferred?, Calls.returning?]
    cases hreply : (m.make mv).2.reply? with
    | none => exact Eq.symm (Event.transferred?_of_endless s hreply)
    | some reply => simp [inside, hopen]
  cases mv with
  | call c =>
    rw [← Event.transferred?_self (e := ⟨m, .call c, (m.make (.call c)).2⟩) rfl rfl,
      Calls.returning?]
    cases hreply : (m.make (.call c)).2.reply? with
    | none => exact Eq.symm (Event.transferred?_of_endless _ hreply)
    | some reply => rfl
  | resume i =>
    rw [Calls.returning?]
    cases (m.make (.resume i)).2.reply? <;> rfl
  | answer ans =>
    cases hframes : m.frames with
    | nil => simp [admits, callback?, hframes] at admitted
    | cons f fs =>
      rw [hinner f fs hframes rfl]
      exact (transferOfTask_answer hframes ans).trans (by rw [transfer?, hframes]; rfl)
  | advance =>
    cases hframes : m.frames with
    | nil => simp [admits, isOpen, hframes] at admitted
    | cons f fs =>
      rw [hinner f fs hframes rfl]
      exact transferOfTask_advance hframes

/-- A move transfers what the calls say that return in it. -/
theorem Run.transfers_move (run : Run config history m) {mv : Move} (admitted : m.admits mv = true) :
    transfers (history ++ [⟨m, mv, (m.make mv).2⟩]) =
      transfers history ++ (m.transfer? mv).toList := by
  rw [transfers, calls_concat, Calls.note, List.filterMap_append,
    ← run.transferred?_returning admitted]
  cases (calls history).returning? ⟨m, mv, (m.make mv).2⟩ with
  | none => rfl
  | some p =>
    simp only [Option.toList_some, List.filterMap_cons, List.filterMap_nil, Option.bind_some]
    cases p.1.transferred? p.2 <;> rfl

/-- What is picked from one thing at most is one thing at most. -/
theorem filterMap_toList {α β : Type} (f : α → Option β) (x : Option α) :
    x.toList.filterMap f = (x.bind f).toList := by
  cases x with
  | none => rfl
  | some a =>
    simp only [Option.toList_some, List.filterMap_cons, List.filterMap_nil, Option.bind_some]
    cases f a <;> rfl

/-- **Counters count what has been transferred.** -/
theorem Run.usage (run : Run config history m) :
    (∀ a, (m.mail a).usage = .of ((transfers history).filterMap (·.fetchedBy? a))
      ((transfers history).filterMap (·.sentBy? a))) ∧
    ∀ d, m.meter d = .of ((transfers history).filterMap (·.deliveredBy? d))
      ((transfers history).filterMap (·.sentTo? d)) := by
  induction run with
  | new => exact ⟨fun a => rfl, fun d => rfl⟩
  | @move history m mv run admitted ih =>
    rw [run.transfers_move admitted]
    simp only [List.filterMap_append, filterMap_toList]
    refine ⟨fun a => ?_, fun d => ?_⟩
    · rw [usage_make run.reachable, ih.1 a, Usage.of_after]
    · rw [meter_make_apply run.reachable, ih.2 d, Usage.of_after]

end Machine

end Switchboard
