import Switchboard.Proofs.Protocol.Courses
import Switchboard.Proofs.Protocol.Phases
import Switchboard.Proofs.Removal

/-! # The protocol of driver callbacks

What the driver of a device is told about an application number, until the device is retired, is a
prefix of a sequence of rounds; and every release that is called for, whether it has to wait or not,
tells every device that the application was linked to, in its turn, once, unless the device has been
retired, before it is answered. -/

namespace Switchboard

namespace Machine

/-- The signal that the driver of a device gets with an event about an application number, until the
device is retired. -/
def Event.signal? (e : Event) (d : Nat) (n : UInt16) : Option Signal :=
  if e.before.IsRetired d then none
  else (e.move.signal? d e.before.frames e.outcome).filter fun sg =>
    (e.before.registry.appls.get sg.appl).id.number = n

variable {config : Config} {history : List Event} {m : Machine}

/-- The signals of a run lead to a phase that says what goes on at its end. -/
theorem Run.tracked (run : Run config history m) (d : Nat) (n : UInt16) :
    ∃ p, Phase.after? (history.filterMap (·.signal? d n)) = some p ∧
      (¬m.IsRetired d → m.ledger.Tracks d n p) := by
  induction run with
  | new =>
    refine ⟨.idle, rfl, fun _ => ⟨fun a ha => absurd rfl ha, fun a ha => ?_⟩⟩
    exact absurd ha (Nat.not_lt_zero a)
  | @move history m mv run admitted ih =>
    obtain ⟨p, hafter, htracks⟩ := ih
    rw [List.filterMap_append]
    by_cases hretired : m.IsRetired d
    · -- signals are not listed any more
      have hretired' := isRetired_make run.reachable admitted hretired
      refine ⟨p, ?_, fun hno => absurd hretired' hno⟩
      simpa [Event.signal?, hretired] using hafter
    · have hevent : Event.signal? ⟨m, mv, (m.make mv).2⟩ d n =
          m.ledger.signal? d n mv (m.make mv).2 := if_neg hretired
      have hstep := (htracks hretired).step run.reachable.sound (run.reachable.step admitted) hretired
      rw [List.filterMap_cons, hevent]
      cases hsignal : m.ledger.signal? d n mv (m.make mv).2 with
      | none =>
        rw [hsignal] at hstep
        exact ⟨p, by simpa using hafter, fun _ => hstep⟩
      | some sg =>
        rw [hsignal] at hstep
        obtain ⟨q, hnext, htracks'⟩ := hstep
        exact ⟨q, by simp [hafter, hnext], fun _ => htracks'⟩

/-- **Drivers see a well-formed protocol.** The callbacks of the driver of a device about an
application number come in rounds while the device is not retired: register callbacks that fail, one
that succeeds, send callbacks for its application, and one release callback for it, with the next
round beginning once it has returned. And when an application begins to be unwound, the devices that
it is linked to have their turns, each once and in order, and no others at any other time; a release
callback is made on those, and only those, that are not retired when their turns come. Every release
of a registered application unwinds it, once, between the call and the end of the release; and a
release has no other reply before its end than that it is deferred. -/
theorem callback_protocol (run : Run config history m) :
    (∀ d n, ∃ rounds : List (List Signal), (∀ r ∈ rounds, Signal.IsRound r) ∧
      history.filterMap (·.signal? d n) <+: rounds.flatten) ∧
    (∀ e ∈ history, ∀ d a, e.outcome = .asks (.release d a) ↔
      e.turn? a = some d ∧ (e.before.registry.devices.get d).isRetiring = false) ∧
    (∀ a, ((∀ e ∈ history, ¬e.Unwinds a) → history.filterMap (·.turn? a) = []) ∧
      ∀ h₁ e h₂, history = h₁ ++ e :: h₂ → e.Unwinds a →
        (e.before.registry.appls.get a).links.keys.Nodup ∧ h₁.filterMap (·.turn? a) = [] ∧
        h₂.filterMap (·.turn? a) ++ m.due a = (e.before.registry.appls.get a).links.keys ∧
        (¬m.Unwinding a → m.due a = [])) ∧
    ∀ h₁ e h₂ a origin, history = h₁ ++ e :: h₂ →
      (∀ c id, e.move = .call c → e.before.core? c = some (origin, .release id) →
        e.before.registry.appl? id = some a → ReleaseCourse (e :: h₂) m a origin) ∧
      ∀ reply, e.Pursues a origin → e.outcome = .ends reply →
        reply = .deferred ∧ (∃ c, e.move = .call c) ∧
          Teardown.appl a origin ∈ (e.before.make e.move).1.waiting ∨ e.EndsRelease a origin := by
  -- the rounds, the callbacks that are turns, the turns of one application, and releases
  refine ⟨fun d n => ?_, fun e he d a => ?_, fun a => ⟨fun never => (run.no_turn never).1, ?_⟩, ?_⟩
  · obtain ⟨p, hafter, -⟩ := run.tracked d n
    exact Phase.isPrefix_rounds hafter
  · obtain ⟨hreach, hadmitted, houtcome⟩ := run.event he
    rw [houtcome]
    exact bids_iff_turn hreach hadmitted d a
  · intro h₁ e h₂ split unwinds
    obtain ⟨hreach, -, -⟩ := run.event (e := e) (by simp [split])
    exact ⟨hreach.sound.nodup_keys a, run.no_turn_before split unwinds,
      run.turns_append_due split unwinds, Ledger.due_eq_nil (s := m.ledger)⟩
  · intro h₁ e h₂ a origin split
    obtain ⟨-, -, houtcome⟩ := run.event (e := e) (by simp [split])
    exact ⟨fun c id move core appl => run.releaseCourse split move core appl,
      fun reply pursues ends => pursues.reply (houtcome.symm.trans ends)⟩

/-- An application is accepted by a driver and released: a round of callbacks, and a turn. And one
is released while a message of it is being sent: the release waits for the driver, and the device
has its turn when it is taken up again. -/
theorem callback_protocol_one_round :
    let m := (Machine.new ⟨2, 2⟩).after bound
    let m' := (m.make (.call (.release default))).1
    let rest := [.advance, .answer .agree, .advance]
    let msg : Message := ⟨[12, 0, 1, 0, 2, 0x80, 1, 0, 1, 0, 0, 0]⟩
    let n := (m.make (.call (.send default msg))).1
    let e : Event := ⟨n, .call (.release default), (n.make (.call (.release default))).2⟩
    let n' := (n.make (.call (.release default))).1
    let later := .answer .agree :: .resume 0 :: rest
    (Event.Unwinds ⟨m, .call (.release default), (m.make (.call (.release default))).2⟩ 0 ∧
      (m'.events rest).filterMap (·.turn? 0) = [0] ∧
      ∃ rounds : List (List Signal), (∀ r ∈ rounds, Signal.IsRound r) ∧
        [.asked 0, .answered 0 true, .bid 0, .bidden 0] <+: rounds.flatten) ∧
    e.outcome = .ends .deferred ∧ Teardown.appl 0 .direct ∈ n'.waiting ∧
      ReleaseCourse (e :: n'.events later) (n'.after later) 0 .direct ∧
      (n'.after later).waiting = [] ∧ (n'.after later).frames = [] ∧
      (n'.events later).filterMap (·.turn? 0) = [0] := by
  intro m m' rest msg n e n' later
  refine ⟨?_, ?_⟩
  -- at once
  · have hrun := Run.of_moves ⟨2, 2⟩ (bound ++ .call (.release default) :: rest) (by decide +kernel)
    obtain ⟨hrounds, -, hturns, -⟩ := callback_protocol hrun
    have hsignals : ((Machine.new ⟨2, 2⟩).events
        (bound ++ .call (.release default) :: rest)).filterMap (·.signal? 0 1) =
          [.asked 0, .answered 0 true, .bid 0, .bidden 0] := by decide +kernel
    have hunwinds : Event.Unwinds ⟨m, .call (.release default),
        (m.make (.call (.release default))).2⟩ 0 := by decide +kernel
    obtain ⟨-, -, hall, hnone⟩ := (hturns 0).2 _ _ _ (events_append_cons ..) hunwinds
    rw [hnone (by decide +kernel), List.append_nil] at hall
    refine ⟨hunwinds, hall.trans (by decide +kernel), ?_⟩
    rw [← hsignals]
    exact hrounds 0 1
  -- after a wait
  · have hrun : Run ⟨2, 2⟩ ((Machine.new ⟨2, 2⟩).events (bound ++ [.call (.send default msg)]) ++
        e :: n'.events later) (n'.after later) := by
      have hrun := Run.of_moves ⟨2, 2⟩
        ((bound ++ [.call (.send default msg)]) ++ .call (.release default) :: later)
        (by decide +kernel)
      rw [after_append_cons, events_append_cons, after_append_cons] at hrun
      exact hrun
    obtain ⟨hcourse, hreply⟩ := (callback_protocol hrun).2.2.2 _ e _ 0 .direct rfl
    have happl : n.registry.appl? default = some 0 := by decide +kernel
    -- the call has ended with some reply, and the protocol says which
    obtain ⟨reply, hends⟩ : ∃ reply, e.outcome = .ends reply := by
      have hsome : e.outcome.reply?.isSome = true := by decide +kernel
      cases h : e.outcome with
      | ends reply => exact ⟨reply, rfl⟩
      | _ => rw [h] at hsome; cases hsome
    obtain ⟨rfl, -, hwaits⟩ := (hreply reply (.calls rfl rfl happl) hends).resolve_right
      fun ⟨hmove, _⟩ => by cases hmove
    exact ⟨hends, hwaits, hcourse _ default rfl rfl happl, by decide +kernel, by decide +kernel,
      by decide +kernel⟩

end Machine

end Switchboard
