import Switchboard.Proofs.Callbacks
import Switchboard.Proofs.Mailbox

/-! # Queues are first in, first out

The messages that are brought to an application wait in its queue until they are fetched, or dropped
when its release ends. Whatever is called in between, and from inside whichever wake-up, no message
is lost, doubled or overtaken: what has been appended is what has been fetched, then what has been
dropped, then what waits. -/

namespace Switchboard

/-- Whether a call has ended with a message being refused. -/
def Outcome.isRefusal : Outcome → Bool
  | ends (.accepted false) => true
  | _ => false

/-- The message that a call has ended with. -/
def Outcome.message? : Outcome → Option Message
  | ends (.received (.ok msg)) => some msg
  | ends (.fetched (.ok msg)) => some msg
  | _ => none

/-- The message that a posting appends. -/
def Posting.appended? : Posting → Option Message
  | append msg => some msg
  | _ => none

/-- The message that a posting fetches. -/
def Posting.fetched? : Posting → Option Message
  | fetch msg => some msg
  | _ => none

/-- A posting appends a message exactly when it is that one. -/
theorem Posting.bind_appended? {p : Option Posting} {msg : Message} :
    p.bind appended? = some msg ↔ p = some (.append msg) := by
  rcases p with - | p
  · simp
  · cases p <;> simp [appended?]

/-- A posting fetches a message exactly when it is that one. -/
theorem Posting.bind_fetched? {p : Option Posting} {msg : Message} :
    p.bind fetched? = some msg ↔ p = some (.fetch msg) := by
  rcases p with - | p
  · simp
  · cases p <;> simp [fetched?]

namespace Machine

/-! ## What happens to a queue -/

/-- The message that an event appends to the queue of an application: one that is brought to it and
not refused. -/
def Event.appended? (e : Event) (a : Nat) : Option Message :=
  match e.move with
  | .call c => c.brings?.bind fun p =>
    if p.1 = a ∧ e.outcome.isRefusal = false then some p.2.1 else none
  | _ => none

/-- The message that an event fetches from the queue of an application: a call for the oldest
message of the application, made directly or through a facade, has ended with it. -/
def Event.fetched? (e : Event) (a : Nat) : Option Message :=
  match e.move with
  | .call c => match e.before.core? c with
    | some (_, .receive id) =>
      if e.before.registry.appl? id = some a then e.outcome.message? else none
    | _ => none
  | _ => none

/-- The messages that an event drops from the queue of an application: those that wait when its
release ends. -/
def Event.dropped (e : Event) (a : Nat) : List Message :=
  match e.move, e.before.frames with
  | .advance, .releasing a' _ none [] :: _ => if a' = a then (e.before.mail a).queue else []
  | _, _ => []

variable {config : Config} {history : List Event} {m : Machine} {a : Nat} {msg : Message}
  {e : Event}

/-- A call that brings a message appends it and wakes the application, or is refused. -/
theorem call_of_brings {c : Call} {w : Wake} (brings : c.brings? = some (a, msg, w)) :
    m.call c = match m.registry.append? a msg with
      | none => m.finish (.accepted false)
      | some r => (m.withRegistry r).wake a w := by
  cases c with
  | enqueue | deliver => cases brings; rfl
  | _ => cases brings

/-- Waking an application refuses nothing. -/
theorem isRefusal_wake (m : Machine) (a : Nat) (w : Wake) : (m.wake a w).2.isRefusal = false := by
  unfold wake
  split
  · rfl
  · cases w <;> rfl

/-- A message is refused by the applications that retire. -/
theorem isRefusal_of_brings {c : Call} {w : Wake} (brings : c.brings? = some (a, msg, w)) :
    (m.call c).2.isRefusal = (m.registry.appls.get a).isRetiring := by
  rw [call_of_brings brings]
  cases h : m.registry.append? a msg with
  | none =>
    exact ((Application.append?_eq_none_iff _ msg).1 (Option.map_eq_none_iff.1 h)).symm
  | some r =>
    rw [(Registry.mail_append? h).1]
    exact isRefusal_wake _ a w

/-- The message that a call for the oldest message ends with. -/
theorem message?_receive {origin : Origin} {id : ApplId} :
    (m.receive origin id).2.message? = some msg ↔ ∃ r, m.registry.receive id = .ok (msg, r) := by
  unfold receive
  cases m.registry.receive id <;> cases origin <;>
    simp [finish, Reply.ofReceived, Outcome.message?, Prod.ext_iff]

/-- What an event appends is what its move posts, as far as it is appended. -/
theorem Event.appended?_eq (outcome : e.outcome = (e.before.make e.move).2) (a : Nat) :
    e.appended? a = (e.before.postingFor? e.move a).bind Posting.appended? := by
  ext msg
  rw [Posting.bind_appended?, postingFor?_eq_some_iff, posts_append_iff]
  unfold Event.appended?
  constructor
  · intro h
    split at h
    · rename_i c hmove
      obtain ⟨⟨a', msg', w⟩, hbrings, hkept⟩ := Option.bind_eq_some_iff.1 h
      obtain ⟨⟨rfl, haccepted⟩, hmsg⟩ := Option.ite_none_right_eq_some.1 hkept
      cases hmsg
      rw [outcome, hmove] at haccepted
      exact ⟨c, w, hmove, hbrings, (isRefusal_of_brings hbrings).symm.trans haccepted⟩
    · cases h
  · rintro ⟨c, w, hmove, hbrings, hactive⟩
    have haccepted : e.outcome.isRefusal = false := by
      rw [outcome, hmove]
      exact (isRefusal_of_brings hbrings).trans hactive
    simp [hmove, hbrings, haccepted]

/-- What an event fetches is what its move posts, as far as it is fetched. -/
theorem Event.fetched?_eq (outcome : e.outcome = (e.before.make e.move).2) (a : Nat) :
    e.fetched? a = (e.before.postingFor? e.move a).bind Posting.fetched? := by
  ext msg
  rw [Posting.bind_fetched?, postingFor?_eq_some_iff, posts_fetch_iff]
  unfold Event.fetched?
  constructor
  · intro h
    split at h
    · rename_i c hmove
      split at h
      · rename_i origin id hcore
        obtain ⟨happl, hmsg⟩ := Option.ite_none_right_eq_some.1 h
        rw [outcome, hmove, make, call_of_core_receive hcore, message?_receive] at hmsg
        obtain ⟨r, hreceive⟩ := hmsg
        exact ⟨c, origin, id, r, hmove, hcore, hreceive, happl⟩
      · cases h
    · cases h
  · rintro ⟨c, origin, id, r, hmove, hcore, hreceive, happl⟩
    have hmsg : e.outcome.message? = some msg := by
      rw [outcome, hmove, make, call_of_core_receive hcore, message?_receive]
      exact ⟨r, hreceive⟩
    simp [hmove, hcore, happl, hmsg]

/-- Nothing is dropped but by the end of a release. -/
theorem Event.dropped_eq (a : Nat) :
    (e.before.postingFor? e.move a = some .purge ∧ e.dropped a = (e.before.mail a).queue) ∨
      ¬e.before.postingFor? e.move a = some .purge ∧ e.dropped a = [] := by
  rw [postingFor?_eq_some_iff, posts_purge_iff]
  unfold Event.dropped
  split
  · rename_i a' origin fs hmove hframes
    by_cases ha : a' = a
    · subst ha
      exact Or.inl ⟨⟨hmove, origin, fs, hframes⟩, if_pos rfl⟩
    · right
      refine ⟨?_, if_neg ha⟩
      rintro ⟨-, origin', fs', hframes'⟩
      rw [hframes] at hframes'
      cases hframes'
      exact ha rfl
  · rename_i hno
    right
    refine ⟨?_, rfl⟩
    rintro ⟨hmove, origin, fs, hframes⟩
    exact hno _ _ _ hmove hframes

/-- What an event appends, fetches and drops is what it does to the queue. -/
theorem Event.queue_make (h : Reachable config e.before)
    (outcome : e.outcome = (e.before.make e.move).2) (a : Nat) :
    (e.before.mail a).queue ++ (e.appended? a).toList =
      (e.fetched? a).toList ++ e.dropped a ++ ((e.before.make e.move).1.mail a).queue := by
  rw [e.appended?_eq outcome, e.fetched?_eq outcome, mail_make_apply h]
  rcases e.dropped_eq a with ⟨hpurge, hdropped⟩ | ⟨hkept, hdropped⟩
  · simp [hpurge, hdropped, Posting.appended?, Posting.fetched?, Mail.after]
  · rw [hdropped]
    cases hp : e.before.postingFor? e.move a with
    | none => simp
    | some p =>
      cases p with
      | fetch msg =>
        obtain ⟨-, rest, hqueue⟩ := (postingFor?_eq_some_iff.1 hp).fetched
        simp [Posting.appended?, Posting.fetched?, Mail.after, hqueue]
      | purge => exact absurd hp hkept
      | append | latch | equip | count =>
        simp [Posting.appended?, Posting.fetched?, Mail.after]

/-! ## The law of a queue -/

/-- A message is fetched for an application that is active. -/
theorem Event.active_of_fetched (outcome : e.outcome = (e.before.make e.move).2)
    (fetched : e.fetched? a = some msg) : e.before.ledger.applActive a = true := by
  rw [e.fetched?_eq outcome, Posting.bind_fetched?, postingFor?_eq_some_iff] at fetched
  show (!(e.before.registry.appls.get a).isRetiring) = true
  rw [fetched.fetched.1]
  rfl

/-- Messages are dropped of an application that has been retired. -/
theorem Event.retired_of_dropped (h : Reachable config e.before) (dropped : e.dropped a ≠ []) :
    a < e.before.ledger.applCount ∧ e.before.ledger.applActive a = false := by
  rcases e.dropped_eq a with ⟨hpurge, -⟩ | ⟨-, hnil⟩
  · obtain ⟨-, origin, fs, hframes⟩ := posts_purge_iff.1 (postingFor?_eq_some_iff.1 hpurge)
    have hf : Frame.releasing a origin none [] ∈ e.before.frames := by
      rw [hframes]
      exact List.mem_cons_self ..
    obtain ⟨hinUse, hretired, -⟩ := h.sound.of_unwinding hf rfl
    exact ⟨h.sound.appls.inUse_lt a hinUse, hretired⟩
  · exact absurd hnil dropped

/-- The last of a list comes last among what is picked from it. -/
theorem filterMap_concat {α β : Type} (f : α → Option β) (l : List α) (x : α) :
    (l ++ [x]).filterMap f = l.filterMap f ++ (f x).toList := by
  rw [List.filterMap_append]
  rfl

/-- A queue goes on: what is fetched now is fetched before anything is dropped. -/
theorem queue_append {α : Type} {appended fetched dropped queue appended' fetched' dropped' queue' :
    List α} (before : appended = fetched ++ dropped ++ queue)
    (now : queue ++ appended' = fetched' ++ dropped' ++ queue')
    (first : fetched' = [] ∨ dropped = []) :
    appended ++ appended' = fetched ++ fetched' ++ (dropped ++ dropped') ++ queue' := by
  have hcomm : dropped ++ fetched' = fetched' ++ dropped := by
    rcases first with rfl | rfl <;> simp
  calc appended ++ appended'
      = fetched ++ dropped ++ (queue ++ appended') := by rw [before, List.append_assoc]
    _ = fetched ++ (dropped ++ fetched') ++ dropped' ++ queue' := by
        rw [now]; simp only [List.append_assoc]
    _ = fetched ++ fetched' ++ (dropped ++ dropped') ++ queue' := by
        rw [hcomm]; simp only [List.append_assoc]

/-- What has been appended is what has been fetched, then what has been dropped, then what waits;
and nothing is dropped before an application is retired. -/
theorem Run.queue_eq (run : Run config history m) (a : Nat) :
    history.filterMap (·.appended? a) =
      history.filterMap (·.fetched? a) ++ history.flatMap (·.dropped a) ++ (m.mail a).queue ∧
    (history.flatMap (·.dropped a) ≠ [] →
      a < m.ledger.applCount ∧ m.ledger.applActive a = false) := by
  -- that an application is retired once something has been dropped is carried along, since the law
  -- fails if a message is fetched after others have been dropped
  induction run with
  | new => exact ⟨rfl, fun h => absurd rfl h⟩
  | @move history m mv run admitted ih =>
    obtain ⟨hlaw, hretired⟩ := ih
    rw [filterMap_concat, filterMap_concat, List.flatMap_append, List.flatMap_singleton]
    constructor
    · refine queue_append hlaw
        (Event.queue_make (e := ⟨m, mv, (m.make mv).2⟩) run.reachable rfl a) ?_
      by_cases hdropped : history.flatMap (·.dropped a) = []
      · exact Or.inr hdropped
      · -- an application of which messages have been dropped is not active, so that it fetches none
        left
        cases hmsg : Event.fetched? ⟨m, mv, (m.make mv).2⟩ a with
        | none => rfl
        | some msg =>
          have hactive : m.ledger.applActive a = true := Event.active_of_fetched rfl hmsg
          rw [(hretired hdropped).2] at hactive
          cases hactive
    · intro hdropped
      have hbefore : a < m.ledger.applCount ∧ m.ledger.applActive a = false := by
        by_cases hearlier : history.flatMap (·.dropped a) = []
        · rw [hearlier, List.nil_append] at hdropped
          exact Event.retired_of_dropped run.reachable hdropped
        · exact hretired hearlier
      exact (run.reachable.step admitted).appl_retired hbefore.1 hbefore.2

/-! ## Messages that are brought -/

/-- A message that is brought to an application that retires is refused, and changes nothing. -/
theorem call_of_retiring {c : Call} {w : Wake} (brings : c.brings? = some (a, msg, w))
    (retiring : (m.registry.appls.get a).isRetiring = true) :
    m.call c = (m, .ends (.accepted false)) := by
  have hnone : m.registry.append? a msg = none :=
    Option.map_eq_none_iff.2 ((Application.append?_eq_none_iff _ msg).2 retiring)
  rw [call_of_brings brings, hnone]
  rfl

/-- A message that is brought to another application is appended, and the application is woken. -/
theorem Run.wakes_of_brings (run : Run config history m) {h₁ h₂ : List Event}
    (split : history = h₁ ++ e :: h₂) {c : Call} {w : Wake} (move : e.move = .call c)
    (brings : c.brings? = some (a, msg, w))
    (active : (e.before.registry.appls.get a).isRetiring = false) :
    ((e.before.make e.move).1.mail a).queue = (e.before.mail a).queue ++ [msg] ∧
      e.Wakes h₂ m a w := by
  obtain ⟨hreach, -, -⟩ := run.event (e := e) (by simp [split])
  have hposting : e.before.postingFor? e.move a = some (.append msg) :=
    postingFor?_eq_some_iff.2 (posts_append_iff.2 ⟨c, w, move, brings, active⟩)
  refine ⟨by rw [mail_make_apply hreach, hposting]; rfl, ?_⟩
  cases h : e.before.registry.append? a msg with
  | none =>
    have hretiring := (Application.append?_eq_none_iff _ msg).1 (Option.map_eq_none_iff.1 h)
    rw [active] at hretiring
    cases hretiring
  | some r =>
    refine run.wakes split (r := r) ?_ ?_
    · rw [move, make, call_of_brings brings, h]
    · have hmail := congrFun (Registry.mail_append? h).2 a
      rw [Function.update_self] at hmail
      exact congrArg Mail.handler hmail

/-- **Queues are first in, first out.** The messages that have been appended to the queue of an
application are, in this order, those that have been fetched, those that its release has dropped and
those that wait. A message is refused exactly when the application that it is brought to is being
released, and nothing changes then; otherwise it comes last in the queue, and the handler that the
application has is called once. `peek` says whether a message can be fetched, and why not
otherwise. -/
theorem queue_fifo (run : Run config history m) (a : Nat) :
    history.filterMap (·.appended? a) =
      history.filterMap (·.fetched? a) ++ history.flatMap (·.dropped a) ++ (m.mail a).queue ∧
    (∀ h₁ e h₂ c msg w, history = h₁ ++ e :: h₂ → e.move = .call c →
      c.brings? = some (a, msg, w) →
      ((e.before.registry.appls.get a).isRetiring = true →
        e.before.make e.move = (e.before, .ends (.accepted false))) ∧
      ((e.before.registry.appls.get a).isRetiring = false →
        ((e.before.make e.move).1.mail a).queue = (e.before.mail a).queue ++ [msg] ∧
          e.Wakes h₂ m a w)) ∧
    ∀ id, ∃ r, (m.make (.call (.receive id))).2 = .ends (.received r) ∧
      m.registry.peek id = r.map fun _ => () := by
  refine ⟨(run.queue_eq a).1, ?_, ?_⟩
  · intro h₁ e h₂ c msg w hsplit hmove hbrings
    refine ⟨fun hretiring => ?_, run.wakes_of_brings hsplit hmove hbrings⟩
    rw [hmove]
    exact call_of_retiring hbrings hretiring
  · intro id
    rw [Registry.peek_eq_receive]
    simp only [make, call, receive]
    cases m.registry.receive id with
    | error fault => exact ⟨.error fault, rfl, rfl⟩
    | ok e => exact ⟨.ok e.1, rfl, rfl⟩

/-- While an application is woken for a message it is brought another and fetches the first; then it
is released. -/
theorem queue_fifo_while_woken :
    let m := (Machine.new ⟨2, 2⟩).after listening
    let m' := (m.make (.call (.enqueue 0 ⟨[1]⟩))).1
    let rest := [.call (.enqueue 0 ⟨[2]⟩), .call (.receive default), .answer .agree,
      .answer .agree, .call (.release default), .advance]
    let history := (Machine.new ⟨2, 2⟩).events (listening ++ .call (.enqueue 0 ⟨[1]⟩) :: rest)
    history.filterMap (·.fetched? 0) = [⟨[1]⟩] ∧ history.flatMap (·.dropped 0) = [⟨[2]⟩] ∧
      history.filterMap (·.appended? 0) = [⟨[1]⟩, ⟨[2]⟩] ∧
      (m.registry.appls.get 0).isRetiring = false ∧
      Event.Wakes ⟨m, .call (.enqueue 0 ⟨[1]⟩), (m.make (.call (.enqueue 0 ⟨[1]⟩))).2⟩
        (m'.events rest) (m'.after rest) 0 .queued := by
  intro m m' rest history
  have hrun := Run.of_moves ⟨2, 2⟩ (listening ++ .call (.enqueue 0 ⟨[1]⟩) :: rest)
    (by decide +kernel)
  rw [after_append_cons] at hrun
  have hfetched : history.filterMap (·.fetched? 0) = [⟨[1]⟩] := by decide +kernel
  have hdropped : history.flatMap (·.dropped 0) = [⟨[2]⟩] := by decide +kernel
  have hqueue : ((m'.after rest).mail 0).queue = [] := by decide +kernel
  have hactive : (m.registry.appls.get 0).isRetiring = false := by decide +kernel
  obtain ⟨hlaw, hbrought, -⟩ := queue_fifo hrun 0
  have hwakes :=
    ((hbrought _ _ _ _ _ .queued (events_append_cons ..) rfl rfl).2 hactive).2
  refine ⟨hfetched, hdropped, hlaw.trans ?_, hactive, hwakes⟩
  rw [hfetched, hdropped, hqueue]
  rfl

end Machine

end Switchboard
