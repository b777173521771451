import Mathlib.Algebra.BigOperators.Group.Finset.Basic
import Mathlib.Algebra.Order.BigOperators.Ring.Finset
import Mathlib.Data.Nat.ModEq
import Switchboard.Proofs.Transfers

/-! # Accounts

Every transfer has two sides. What is sent is counted for a device and for an application at once,
so that the totals of both kinds agree. What is delivered is counted for a device when the delivery
ends, and for the application once it fetches the message: when no call is in progress, the messages
that are delivered and not fetched wait in queues or have been dropped with them. -/

namespace Switchboard

namespace Transfer

/-- The traffic of a message that has been sent. -/
def sent? : Transfer → Option Traffic
  | sent _ _ t => some t
  | _ => none

/-- The traffic of a message that has been delivered. -/
def delivered? : Transfer → Option Traffic
  | delivered _ t => some t
  | _ => none

/-- The records of a transfer are among the first ones that arrived. -/
def Within (devices appls : Nat) : Transfer → Prop
  | sent d a _ => d < devices ∧ a < appls
  | fetched a _ => a < appls
  | delivered d _ => d < devices

/-- Records that have arrived stay. -/
theorem Within.mono {devices appls devices' appls' : Nat} {x : Transfer}
    (h : x.Within devices appls) (hdevices : devices ≤ devices') (happls : appls ≤ appls') :
    x.Within devices' appls' := by
  cases x with
  | sent d a t => exact ⟨Nat.lt_of_lt_of_le h.1 hdevices, Nat.lt_of_lt_of_le h.2 happls⟩
  | fetched a t => exact Nat.lt_of_lt_of_le h happls
  | delivered d t => exact Nat.lt_of_lt_of_le h hdevices

end Transfer

/-! ## Adding up by keys -/

/-- Adding up what every key has of a list is adding up the list, if all of it is somebody's. -/
theorem sum_range_filterMap {β γ : Type} (l : List β) (n : Nat) (p : Nat → β → Option γ)
    (q : β → Option γ) (f : γ → Nat)
    (once : ∀ x ∈ l, ∑ k ∈ Finset.range n, (p k x).elim 0 f = (q x).elim 0 f) :
    ∑ k ∈ Finset.range n, ((l.filterMap (p k)).map f).sum = ((l.filterMap q).map f).sum := by
  have hcons (r : β → Option γ) (x : β) (l : List β) :
      (((x :: l).filterMap r).map f).sum = (r x).elim 0 f + ((l.filterMap r).map f).sum := by
    cases hr : r x <;> simp [hr]
  induction l with
  | nil => simp
  | cons x l ih =>
    simp only [hcons, Finset.sum_add_distrib]
    rw [once x (List.mem_cons_self ..), ih fun y hy => once y (List.mem_cons_of_mem _ hy)]

/-- Sums of residues are sums up to multiples. -/
theorem sum_modEq_of_mod {n N : Nat} {f g : Nat → Nat} (h : ∀ k < n, f k = g k % N) :
    ∑ k ∈ Finset.range n, f k ≡ ∑ k ∈ Finset.range n, g k [MOD N] := by
  rw [Nat.ModEq, Finset.sum_nat_mod, Finset.sum_nat_mod _ _ g]
  refine congrArg (· % N) (Finset.sum_congr rfl fun k hk => ?_)
  rw [h k (Finset.mem_range.1 hk), Nat.mod_mod]

namespace Machine

variable {config : Config} {history : List Event} {m : Machine} {mv : Move}

/-- Records stay. -/
theorem Reachable.sizes_le (h : Reachable config m) (admitted : m.admits mv = true) :
    m.registry.devices.size ≤ (m.make mv).1.registry.devices.size ∧
      m.registry.appls.size ≤ (m.make mv).1.registry.appls.size :=
  ⟨(h.step admitted).devices.size_le, (h.step admitted).appls.size_le⟩

/-- An active application has arrived. -/
theorem lt_size_of_active {r : Registry} {a : Nat} (active : (r.appls.get a).isRetiring = false) :
    a < r.appls.size := by
  by_contra hge
  rw [r.appls.get_of_size_le (Nat.not_lt.1 hge)] at active
  cases active

/-- The records of a transfer are there when it happens. -/
theorem Reachable.transfer?_within (h : Reachable config m) {x : Transfer}
    (transfers : m.transfer? mv = some x) :
    x.Within m.registry.devices.size m.registry.appls.size := by
  cases x with
  | sent d a t =>
    obtain ⟨ans, origin, msg, fs, -, hframes, -, -⟩ := transfer?_eq_sent.1 transfers
    have hmem : Frame.sending d a origin msg ∈ m.frames := by
      rw [hframes]
      exact List.mem_cons_self ..
    obtain ⟨hdevice, happl⟩ := h.sound.sending_refs hmem rfl
    exact ⟨h.sound.device_lt hdevice, h.sound.appl_lt happl⟩
  | fetched a t =>
    obtain ⟨msg, hposts, -⟩ := transfer?_eq_fetched.1 transfers
    exact lt_size_of_active hposts.fetched.1
  | delivered d t => exact lt_of_transfer?_delivered transfers

/-- The records of the transfers so far have arrived. -/
theorem Run.transfers_within (run : Run config history m) :
    ∀ x ∈ transfers history, x.Within m.registry.devices.size m.registry.appls.size := by
  induction run with
  | new => exact fun x hx => absurd hx List.not_mem_nil
  | @move history m mv run admitted ih =>
    obtain ⟨hdevices, happls⟩ := run.reachable.sizes_le admitted
    rw [run.transfers_move admitted]
    intro x hx
    rcases List.mem_append.1 hx with hx | hx
    · exact (ih x hx).mono hdevices happls
    · exact (run.reachable.transfer?_within (Option.mem_toList.1 hx)).mono hdevices happls

/-! ## What is sent -/

/-- What has been sent is somebody's on both sides. -/
theorem Run.sum_sent (run : Run config history m) (f : Traffic → Nat) :
    ∑ d ∈ Finset.range m.registry.devices.size,
        (((transfers history).filterMap (·.sentTo? d)).map f).sum =
      ∑ a ∈ Finset.range m.registry.appls.size,
        (((transfers history).filterMap (·.sentBy? a)).map f).sum := by
  rw [sum_range_filterMap _ _ _ Transfer.sent? f, sum_range_filterMap _ _ _ Transfer.sent? f]
  · intro x hx
    have hwithin := run.transfers_within x hx
    cases x with
    | sent d a t =>
      simp only [Transfer.sentBy?, Transfer.sent?, apply_ite (Option.elim · 0 f), Option.elim_some,
        Option.elim_none, Finset.sum_ite_eq, Finset.mem_range, hwithin.2, if_true]
    | fetched | delivered => simp [Transfer.sentBy?, Transfer.sent?]
  · intro x hx
    have hwithin := run.transfers_within x hx
    cases x with
    | sent d a t =>
      simp only [Transfer.sentTo?, Transfer.sent?, apply_ite (Option.elim · 0 f), Option.elim_some,
        Option.elim_none, Finset.sum_ite_eq, Finset.mem_range, hwithin.1, if_true]
    | fetched | delivered => simp [Transfer.sentTo?, Transfer.sent?]

/-! ## What is delivered -/

/-- What has been delivered is some device's. -/
theorem Run.sum_delivered (run : Run config history m) (f : Traffic → Nat) :
    ∑ d ∈ Finset.range m.registry.devices.size,
        (((transfers history).filterMap (·.deliveredBy? d)).map f).sum =
      (((transfers history).filterMap Transfer.delivered?).map f).sum := by
  refine sum_range_filterMap _ _ _ _ f fun x hx => ?_
  have hwithin : x.Within m.registry.devices.size m.registry.appls.size :=
    run.transfers_within x hx
  cases x with
  | delivered d t =>
    have hd : d < m.registry.devices.size := hwithin
    simp only [Transfer.deliveredBy?, Transfer.delivered?, apply_ite (Option.elim · 0 f),
      Option.elim_some, Option.elim_none, Finset.sum_ite_eq, Finset.mem_range, hd, if_true]
  | sent | fetched => simp [Transfer.deliveredBy?, Transfer.delivered?]

/-- Whether an event brings nothing to an application but what a device delivers that is there. -/
def Event.isFedByDevice (e : Event) : Bool :=
  match e.move with
  | .call (.enqueue _ _) => false
  | .call (.deliver d _ _) => d < e.before.registry.devices.size
  | _ => true

/-- Whether applications are fed by devices alone. -/
def fedByDevices (history : List Event) : Bool := history.all Event.isFedByDevice

/-- What is fed by a device and brings a message is a delivery of a device that is there. -/
theorem Event.of_isFedByDevice {e : Event} (fed : e.isFedByDevice = true) {c : Call} {a : Nat}
    {msg : Message} {w : Wake} (move : e.move = .call c) (brings : c.brings? = some (a, msg, w)) :
    ∃ d, c = .deliver d a msg ∧ d < e.before.registry.devices.size := by
  unfold isFedByDevice at fed
  rw [move] at fed
  cases c with
  | enqueue => cases fed
  | deliver d a' msg' =>
    cases brings
    exact ⟨d, rfl, of_decide_eq_true fed⟩
  | _ => cases brings

end Machine

/-- The device that a call delivers a message for. -/
def Task.deliverer? : Task → Option Nat
  | wake _ _ (.delivered d _) => some d
  | _ => none

/-- A call that delivers a message waits for a handler. -/
theorem Frame.of_deliverer? {f : Frame} {d : Nat} (h : f.task.deliverer? = some d) :
    ∃ a handler t, f = .waking a handler (.delivered d t) := by
  cases f with
  | waking a handler w =>
    cases w with
    | delivered d' t =>
      cases h
      exact ⟨a, handler, t, rfl⟩
    | signalled | queued => cases h
  | announcing d' news => cases news <;> cases h
  | installing | registering | releasing | sending => cases h

/-- A call that is innermost and delivers nothing goes on or returns, and no delivery does. -/
theorem Progress.deliverers_inside {f : Frame} {fs fs' : List Frame} {mv : Move} {o : Outcome}
    (progress : Progress (f :: fs) mv o fs') (inside : mv.starts = false)
    (other : f.task.deliverer? = none) :
    (fs'.filterMap fun f => f.task.deliverer?) = (f :: fs).filterMap fun f => f.task.deliverer? := by
  cases progress with
  | atOnce starts | begins starts => exact absurd (inside.symm.trans starts) Bool.false_ne_true
  | goesOn _ _ same => simp only [List.filterMap_cons, same]
  | returns => rw [List.filterMap_cons, other]

namespace Machine

variable {config : Config} {history : List Event} {m : Machine} {mv : Move}

/-- The devices whose deliveries are in progress. -/
def deliverers (m : Machine) : List Nat := m.frames.filterMap fun f => f.task.deliverer?

/-- The message that an event brings to an application and that is not refused. -/
def Event.brought? (e : Event) : Option (Nat × Message) :=
  match e.move with
  | .call c => if e.outcome.isRefusal then none else c.brings?.map fun p => (p.1, p.2.1)
  | _ => none

/-- A message that is brought is appended to the queue of the application that it is for. -/
theorem Event.appended?_eq_brought? (e : Event) (a : Nat) :
    e.appended? a = e.brought?.bind fun p => if p.1 = a then some p.2 else none := by
  unfold Event.appended? Event.brought?
  cases e.move with
  | call c => cases e.outcome.isRefusal <;> simp [Option.bind_map]
  | answer | resume | advance => rfl

/-- Only calls that bring messages deliver any. -/
theorem bind_delivered?_of_brings_none {c : Call} (brings : c.brings? = none) :
    (m.transfer? (.call c)).bind Transfer.delivered? = none := by
  refine Option.eq_none_iff_forall_ne_some.2 fun t ht => ?_
  obtain ⟨x, hx, hdelivered⟩ := Option.bind_eq_some_iff.1 ht
  obtain ⟨⟨origin, c'⟩, hcore, htransfer⟩ := Option.bind_eq_some_iff.1 hx
  rcases transferOfCall_eq_some htransfer with
    ⟨_, _, _, _, -, -, -, rfl⟩ | ⟨d, a, msg, rfl, -, rfl⟩
  · cases hdelivered
  · obtain rfl := eq_of_core? hcore (Or.inl (by simp [Call.brings?]))
    cases brings

/-- A call that brings no message adds no delivery to those in progress. -/
theorem deliverers_of_brings_none {c : Call} (brings : c.brings? = none) :
    (m.call c).1.deliverers = m.deliverers := by
  rcases m.leaves_call c with hsame | ⟨f, hbegins, hframes⟩
  · rw [deliverers, hsame, deliverers]
  · have hnone : f.task.deliverer? = none := by
      cases hbegins with
      | wake wakes =>
        cases c with
        | enqueue | deliver => cases brings
        | signal | signalError => cases wakes; rfl
        | _ => cases wakes
      | _ => rfl
    rw [deliverers, hframes, deliverers, List.filterMap_cons, hnone]

/-- A delivery is in progress while the handler of the application is called. -/
theorem deliverers_wake (m : Machine) (a d : Nat) (t : Traffic) :
    (m.wake a (.delivered d t)).1.deliverers =
      ((m.registry.appls.get a).handler.map fun _ => d).toList ++ m.deliverers := by
  unfold wake
  cases (m.registry.appls.get a).handler <;> rfl

/-- A message that is delivered counts for the device now, or its delivery is in progress. -/
theorem deliver_counts {d : Nat} (hd : d < m.registry.devices.size) (a : Nat) (msg : Message) :
    (Event.brought? ⟨m, .call (.deliver d a msg), (m.call (.deliver d a msg)).2⟩).toList.length +
        m.deliverers.length =
      ((m.transfer? (.call (.deliver d a msg))).bind Transfer.delivered?).toList.length +
        (m.call (.deliver d a msg)).1.deliverers.length ∧
    ∀ d' ∈ (m.call (.deliver d a msg)).1.deliverers, d' ∈ m.deliverers ∨ d' = d := by
  rw [call_of_brings (c := .deliver d a msg) rfl]
  cases h : m.registry.append? a msg with
  | none =>
    have hretiring : (m.registry.appls.get a).isRetiring = true :=
      (Application.append?_eq_none_iff _ msg).1 (Option.map_eq_none_iff.1 h)
    refine ⟨?_, fun d' hd' => Or.inl hd'⟩
    simp [Event.brought?, finish, Outcome.isRefusal, transfer?, core?, transferOfCall, hretiring]
  | some r =>
    have hactive := (Registry.mail_append? h).1
    have hsame : (m.withRegistry r).deliverers = m.deliverers := rfl
    have hhandler : ((m.withRegistry r).registry.appls.get a).handler =
        (m.registry.appls.get a).handler := Registry.handler_append? h
    simp only [Event.brought?, isRefusal_wake, transfer?, core?, transferOfCall, Option.bind_some,
      hactive, hd, and_true, true_and, deliverers_wake, hsame, hhandler]
    cases (m.registry.appls.get a).handler with
    | none => simpa [Call.brings?, Transfer.delivered?] using fun _ h => Or.inl h
    | some handler => simp [Call.brings?, Nat.add_comm, or_comm]

/-- In every move, what is brought to an application or was being delivered has been delivered then
or is being delivered. -/
theorem Reachable.delivering_make (h : Reachable config m) (admitted : m.admits mv = true)
    (fed : Event.isFedByDevice ⟨m, mv, (m.make mv).2⟩ = true)
    (there : ∀ d ∈ m.deliverers, d < m.registry.devices.size) :
    (Event.brought? ⟨m, mv, (m.make mv).2⟩).toList.length + m.deliverers.length =
        ((m.transfer? mv).bind Transfer.delivered?).toList.length +
          (m.make mv).1.deliverers.length ∧
      ∀ d ∈ (m.make mv).1.deliverers, d < m.registry.devices.size := by
  -- a move inside a call that delivers nothing leaves the deliveries in progress
  have hinside (f : Frame) (fs : List Frame) (frames : m.frames = f :: fs)
      (inside : mv.starts = false) (other : f.task.deliverer? = none) :
      (m.make mv).1.deliverers = m.deliverers := by
    have hprogress := h.progress admitted
    rw [frames] at hprogress
    exact (hprogress.deliverers_inside inside other).trans (by rw [deliverers, frames])
  cases mv with
  -- a call that brings a message is a delivery, which ends at once or is in progress
  | call c =>
    cases hbrings : c.brings? with
    | none =>
      have hsame : (m.make (.call c)).1.deliverers = m.deliverers :=
        deliverers_of_brings_none hbrings
      rw [bind_delivered?_of_brings_none hbrings, hsame]
      refine ⟨?_, there⟩
      simp [Event.brought?, hbrings]
    | some p =>
      obtain ⟨a, msg, w⟩ := p
      obtain ⟨d, rfl, hd⟩ := Event.of_isFedByDevice fed rfl hbrings
      obtain ⟨hcount, hafter⟩ := deliver_counts hd a msg
      refine ⟨hcount, fun d' hd' => ?_⟩
      rcases hafter d' hd' with hold | rfl
      · exact there d' hold
      · exact hd
  -- a teardown that goes on delivers nothing
  | resume i =>
    have hsame : (m.make (.resume i)).1.deliverers = m.deliverers := by
      rcases m.leaves_resume i with hframes | ⟨f, ⟨a, origin, links, rfl⟩, hframes⟩
      · exact congrArg (List.filterMap fun f => f.task.deliverer?) hframes
      · exact congrArg (List.filterMap fun f => f.task.deliverer?) hframes
    rw [hsame]
    exact ⟨rfl, there⟩
  | answer ans =>
    cases hframes : m.frames with
    | nil => simp [admits, callback?, hframes] at admitted
    | cons f fs =>
      cases hdeliverer : f.task.deliverer? with
      -- the handler that a delivery has called returns, and the device counts the message
      | some d =>
        obtain ⟨a, handler, t, rfl⟩ := Frame.of_deliverer? hdeliverer
        have hbefore : m.deliverers = d :: fs.filterMap fun f => f.task.deliverer? := by
          rw [deliverers, hframes]
          rfl
        have hafter : (m.make (.answer ans)).1.deliverers = fs.filterMap fun f => f.task.deliverer? := by
          simp only [Machine.make, answer, hframes]
          rfl
        have hd : d < m.registry.devices.size := there d (hbefore ▸ List.mem_cons_self ..)
        rw [hafter]
        refine ⟨?_, fun d' hd' => there d' (hbefore ▸ List.mem_cons_of_mem _ hd')⟩
        simp [hbefore, Event.brought?, transfer?, hframes, transferOfAnswer, hd,
          Transfer.delivered?, Nat.add_comm]
      | none =>
        have hnone : (m.transfer? (.answer ans)).bind Transfer.delivered? = none := by
          refine Option.eq_none_iff_forall_ne_some.2 fun t ht => ?_
          obtain ⟨x, hx, hdelivered⟩ := Option.bind_eq_some_iff.1 ht
          rw [transfer?, hframes] at hx
          rcases transferOfAnswer_eq_some hx with
            ⟨_, _, _, _, -, -, rfl⟩ | ⟨_, _, _, _, rfl, -, -⟩
          · cases hdelivered
          · cases hdeliverer
        rw [hinside f fs hframes rfl hdeliverer, hnone]
        exact ⟨rfl, there⟩
  | advance =>
    cases hframes : m.frames with
    | nil => simp [admits, isOpen, hframes] at admitted
    | cons f fs =>
      have hother : f.task.deliverer? = none := by
        -- a call that has work to do waits for no handler
        refine Option.eq_none_iff_forall_ne_some.2 fun d hd => ?_
        obtain ⟨a, handler, t, rfl⟩ := Frame.of_deliverer? hd
        simp [admits, isOpen, hframes, Frame.callback?] at admitted
      rw [hinside f fs hframes rfl hother]
      exact ⟨rfl, there⟩

/-- What has been brought to applications has been delivered, or is being delivered. -/
theorem Run.brought (run : Run config history m) (fed : fedByDevices history = true) :
    (history.filterMap Event.brought?).length =
        ((transfers history).filterMap Transfer.delivered?).length + m.deliverers.length ∧
      ∀ d ∈ m.deliverers, d < m.registry.devices.size := by
  induction run with
  | new => exact ⟨rfl, fun d hd => absurd hd List.not_mem_nil⟩
  | @move history m mv run admitted ih =>
    have hfed := List.all_eq_true.1 fed
    obtain ⟨hcount, hthere⟩ := ih (List.all_eq_true.2 fun e he => hfed e (List.mem_append_left _ he))
    obtain ⟨hnow, hafter⟩ :=
      run.reachable.delivering_make admitted (hfed _ List.mem_concat_self) hthere
    refine ⟨?_, fun d hd => Nat.lt_of_lt_of_le (hafter d hd) (run.reachable.sizes_le admitted).1⟩
    rw [run.transfers_move admitted, filterMap_concat, List.filterMap_append, filterMap_toList,
      List.length_append, List.length_append]
    omega

/-! ## Exact accounts -/

/-- What is brought to an application and not refused is brought to one that has arrived. -/
theorem Run.brought_within (run : Run config history m) :
    ∀ e ∈ history, ∀ p, e.brought? = some p → p.1 < m.registry.appls.size := by
  induction run with
  | new => exact fun e he => absurd he List.not_mem_nil
  | @move history m mv run admitted ih =>
    have hle := (run.reachable.sizes_le admitted).2
    intro e he p hp
    rcases List.mem_append.1 he with he | he
    · exact Nat.lt_of_lt_of_le (ih e he p hp) hle
    · obtain rfl := List.mem_singleton.1 he
      unfold Event.brought? at hp
      split at hp
      · rename_i c hmove
        dsimp only at hmove
        subst hmove
        obtain ⟨hkept, hmap⟩ := Option.ite_none_left_eq_some.1 hp
        obtain ⟨⟨a, msg, w⟩, hbrings, rfl⟩ := Option.map_eq_some_iff.1 hmap
        have hactive : (m.registry.appls.get a).isRetiring = false :=
          (isRefusal_of_brings hbrings).symm.trans (Bool.eq_false_iff.2 hkept)
        exact Nat.lt_of_lt_of_le (lt_size_of_active hactive) hle
      · cases hp

/-- What has been appended to the queues is what has been brought to applications. -/
theorem Run.sum_appended (run : Run config history m) :
    ∑ a ∈ Finset.range m.registry.appls.size, (history.filterMap (·.appended? a)).length =
      (history.filterMap Event.brought?).length := by
  have hsum := sum_range_filterMap history m.registry.appls.size (fun a e => e.appended? a)
    (fun e => e.brought?.map Prod.snd) (fun _ => 1) fun e he => by
      simp only [Event.appended?_eq_brought?]
      cases hbrought : e.brought? with
      | none => simp
      | some p =>
        have hp : p.1 < m.registry.appls.size := run.brought_within e he p hbrought
        simp only [Option.bind_some, Option.map_some, apply_ite (Option.elim · 0 fun _ => 1),
          Option.elim_some, Option.elim_none, Finset.sum_ite_eq, Finset.mem_range, hp, if_true]
  simpa only [List.map_const', List.sum_replicate, nsmul_eq_mul, Nat.cast_id, mul_one,
    ← List.map_filterMap, List.length_map] using hsum

/-- What an application is counted to have fetched has been fetched from its queue. -/
theorem Run.fetched (run : Run config history m) (a : Nat) :
    (transfers history).filterMap (·.fetchedBy? a) =
      (history.filterMap (·.fetched? a)).map Message.traffic := by
  induction run with
  | new => rfl
  | @move history m mv run admitted ih =>
    rw [run.transfers_move admitted, filterMap_concat, List.filterMap_append, filterMap_toList, ih,
      List.map_append, bind_fetchedBy?, Event.fetched?_eq rfl]
    cases (m.postingFor? mv a).bind Posting.fetched? <;> rfl

/-- **Accounts are exact.** Each counter of an application or a device is the sum, modulo 2^64, of
what calls have transferred that have returned: for what is sent, on both sides, the sends that were
told the message was taken; for what an application receives, the fetches that got a message; for
what a device receives, its deliveries that were told the message was accepted. So the devices have
been sent what the applications have sent. And when no call is in progress and applications are fed
by devices alone, the devices have delivered what the applications have fetched, what waits in their
queues and what has been dropped from them. -/
theorem accounts_exact (run : Run config history m) :
    (∀ a k,
      ((m.registry.appls.get a).usage.sent.value k).toNat =
        (((transfers history).filterMap (·.sentBy? a)).map (·.amount k)).sum % 2 ^ 64 ∧
      ((m.registry.appls.get a).usage.received.value k).toNat =
        (((transfers history).filterMap (·.fetchedBy? a)).map (·.amount k)).sum % 2 ^ 64) ∧
    (∀ d k,
      ((m.registry.devices.get d).usage.sent.value k).toNat =
        (((transfers history).filterMap (·.sentTo? d)).map (·.amount k)).sum % 2 ^ 64 ∧
      ((m.registry.devices.get d).usage.received.value k).toNat =
        (((transfers history).filterMap (·.deliveredBy? d)).map (·.amount k)).sum % 2 ^ 64) ∧
    (∀ k, ∑ d ∈ Finset.range m.registry.devices.size,
        ((m.registry.devices.get d).usage.sent.value k).toNat ≡
      ∑ a ∈ Finset.range m.registry.appls.size,
        ((m.registry.appls.get a).usage.sent.value k).toNat [MOD 2 ^ 64]) ∧
    (m.frames = [] → fedByDevices history = true →
      ∑ d ∈ Finset.range m.registry.devices.size,
        ((m.registry.devices.get d).usage.received.value .packets).toNat ≡
      ∑ a ∈ Finset.range m.registry.appls.size,
        (((m.registry.appls.get a).usage.received.value .packets).toNat +
          (m.registry.appls.get a).queue.length + (history.flatMap (·.dropped a)).length)
        [MOD 2 ^ 64]) := by
  obtain ⟨happls, hdevices⟩ := run.usage
  have happl (a : Nat) : (m.registry.appls.get a).usage = _ := happls a
  have hdevice (d : Nat) : (m.registry.devices.get d).usage = _ := hdevices d
  -- each transfer is one packet
  have hcount (ts : List Traffic) : (ts.map (·.amount .packets)).sum = ts.length := by
    simp [Traffic.amount]
  simp only [happl, hdevice, Usage.of, Counters.toNat_value_zero_countAll, and_self, implies_true,
    true_and]
  refine ⟨fun k => ?sent, fun quiet fed => ?received⟩
  -- what a device is sent is what an application sends, transfer by transfer
  case sent =>
    calc _ ≡ ∑ d ∈ Finset.range m.registry.devices.size,
          (((transfers history).filterMap (·.sentTo? d)).map (·.amount k)).sum [MOD 2 ^ 64] :=
        sum_modEq_of_mod fun d _ => rfl
      _ = ∑ a ∈ Finset.range m.registry.appls.size,
          (((transfers history).filterMap (·.sentBy? a)).map (·.amount k)).sum := run.sum_sent _
      _ ≡ _ [MOD 2 ^ 64] := (sum_modEq_of_mod fun a _ => rfl).symm
  case received =>
    have hbrought := (run.brought fed).1
    rw [deliverers, quiet, List.filterMap_nil, List.length_nil, Nat.add_zero] at hbrought
    -- what has been appended to a queue has been fetched, has been dropped or waits
    have hqueue (a : Nat) : (history.filterMap (·.appended? a)).length =
        (((transfers history).filterMap (·.fetchedBy? a)).map (·.amount .packets)).sum +
          ((m.registry.appls.get a).queue.length + (history.flatMap (·.dropped a)).length) := by
      rw [(run.queue_eq a).1, List.length_append, List.length_append, hcount, run.fetched a,
        List.length_map]
      show _ + (m.registry.appls.get a).queue.length = _
      omega
    calc _ ≡ ∑ d ∈ Finset.range m.registry.devices.size,
          (((transfers history).filterMap (·.deliveredBy? d)).map (·.amount .packets)).sum
            [MOD 2 ^ 64] := sum_modEq_of_mod fun d _ => rfl
      _ = ((transfers history).filterMap Transfer.delivered?).length := by
        rw [run.sum_delivered, hcount]
      _ = ∑ a ∈ Finset.range m.registry.appls.size, (history.filterMap (·.appended? a)).length := by
        rw [run.sum_appended, hbrought]
      _ = ∑ a ∈ Finset.range m.registry.appls.size,
            (((transfers history).filterMap (·.fetchedBy? a)).map (·.amount .packets)).sum +
          ∑ a ∈ Finset.range m.registry.appls.size,
            ((m.registry.appls.get a).queue.length + (history.flatMap (·.dropped a)).length) := by
        rw [← Finset.sum_add_distrib]
        exact Finset.sum_congr rfl fun a _ => hqueue a
      _ ≡ _ [MOD 2 ^ 64] := by
        simp only [Nat.add_assoc]
        refine (Nat.ModEq.add_right _ (sum_modEq_of_mod fun a _ => rfl).symm).trans ?_
        rw [← Finset.sum_add_distrib]

/-- An application sends a message and has two delivered, the second one while it listens, of which
it fetches the first. -/
theorem accounts_exact_both_ways :
    let msg : Message := ⟨[12, 0, 1, 0, 2, 0x80, 1, 0, 1, 0, 0, 0]⟩
    let moves := bound ++ [.call (.send default msg), .answer .agree, .call (.deliver 0 0 msg),
      .call (.setHandler default (some ⟨7, .custom 0⟩)), .call (.deliver 0 0 msg),
      .call (.receive default), .answer .agree]
    let m := (Machine.new ⟨2, 2⟩).after moves
    let history := (Machine.new ⟨2, 2⟩).events moves
    transfers history = [.sent 0 0 msg.traffic, .delivered 0 msg.traffic, .fetched 0 msg.traffic,
      .delivered 0 msg.traffic] ∧
    ((m.registry.devices.get 0).usage.received.value .bytes).toNat =
      (((transfers history).filterMap (·.deliveredBy? 0)).map (·.amount .bytes)).sum % 2 ^ 64 ∧
    ∑ d ∈ Finset.range m.registry.devices.size,
        ((m.registry.devices.get d).usage.received.value .packets).toNat ≡
      ∑ a ∈ Finset.range m.registry.appls.size,
        (((m.registry.appls.get a).usage.received.value .packets).toNat +
          (m.registry.appls.get a).queue.length + (history.flatMap (·.dropped a)).length)
        [MOD 2 ^ 64] := by
  intro msg moves m history
  have hrun : Run ⟨2, 2⟩ history m := Run.of_moves ⟨2, 2⟩ moves (by decide +kernel)
  obtain ⟨-, hdevices, -, hreceived⟩ := accounts_exact hrun
  exact ⟨by decide +kernel, (hdevices 0 .bytes).2, hreceived (by decide +kernel) (by decide +kernel)⟩

end Machine

end Switchboard
