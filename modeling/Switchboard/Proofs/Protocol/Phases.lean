import Switchboard.Proofs.Protocol.Pairing

/-! # Phases follow what goes on

For a device and an application number there is at every time one phase that says of all
applications with the number what goes on between them and the device: `Ledger.Tracks`. While the
device is not retired, every step leads to the phase that comes next with the signal that the driver
gets (`Ledger.Tracks.step`); a signal out of turn would contradict what goes on. -/

namespace Switchboard

namespace Phase

/-- What goes on with an application in a phase. -/
def pairing (a : Nat) : Phase → Pairing
  | idle => .none
  | asking b => if b = a then ⟨1, 0, 0, 0⟩ else .none
  | serving b k => if b = a then ⟨0, k, 1, 0⟩ else .none
  | releasing b => if b = a then ⟨0, 0, 0, 1⟩ else .none

/-- A phase is idle when no driver is asked, no link is there and no driver is told of a release. -/
theorem eq_idle {p : Phase}
    (quiet : ∀ a, (p.pairing a).asked = 0 ∧ (p.pairing a).linked = 0 ∧ (p.pairing a).told = 0) :
    p = idle := by
  cases p with
  | idle => rfl
  | asking b | serving b k | releasing b => simpa [pairing] using quiet b

/-- A driver is asked about an application in the asking phase alone. -/
theorem eq_asking {p : Phase} {a : Nat} (h : (p.pairing a).asked ≠ 0) : p = asking a := by
  cases p with
  | asking b =>
    by_cases e : b = a
    · rw [e]
    · simp [pairing, Pairing.none, e] at h
  | idle => exact absurd rfl h
  | serving b k | releasing b => by_cases e : b = a <;> simp [pairing, Pairing.none, e] at h

/-- An application is linked in the serving phase alone. -/
theorem eq_serving {p : Phase} {a : Nat} (h : (p.pairing a).linked ≠ 0) :
    ∃ k, p = serving a k := by
  cases p with
  | serving b k =>
    by_cases e : b = a
    · exact ⟨k, by rw [e]⟩
    · simp [pairing, Pairing.none, e] at h
  | idle => exact absurd rfl h
  | asking b | releasing b => by_cases e : b = a <;> simp [pairing, Pairing.none, e] at h

/-- A send callback is in progress only while an application is served. -/
theorem linked_of_sent {p : Phase} {a : Nat} (h : (p.pairing a).sent ≠ 0) :
    (p.pairing a).linked ≠ 0 := by
  cases p with
  | idle => exact absurd rfl h
  | asking b | serving b k | releasing b =>
    by_cases e : b = a <;> simp [pairing, Pairing.none, e] at h ⊢

/-- A driver is told of a release in the releasing phase alone. -/
theorem eq_releasing {p : Phase} {a : Nat} (h : (p.pairing a).told ≠ 0) : p = releasing a := by
  cases p with
  | releasing b =>
    by_cases e : b = a
    · rw [e]
    · simp [pairing, Pairing.none, e] at h
  | idle => exact absurd rfl h
  | asking b | serving b k => by_cases e : b = a <;> simp [pairing, Pairing.none, e] at h

/-- A signal that what goes on allows may come in the phase that says so. -/
theorem next?_of_enabled {p : Phase} {sg : Signal} (enabled : sg.Enabled (p.pairing sg.appl))
    (fresh : ∀ a, sg = .asked a → p = idle) :
    ∃ q, p.next? sg = some q ∧ ∀ a, q.pairing a = (p.pairing a).after a (some sg) := by
  cases sg with
  | asked a =>
    obtain rfl := fresh a rfl
    refine ⟨asking a, rfl, fun a' => ?_⟩
    by_cases e : a = a' <;> simp [pairing, Pairing.after, Signal.appl, Signal.act, Pairing.none, e]
  | answered a accepted =>
    obtain rfl := eq_asking enabled
    refine ⟨if accepted then serving a 0 else idle, if_pos rfl, fun a' => ?_⟩
    by_cases e : a = a' <;> cases accepted <;>
      simp [pairing, Pairing.after, Signal.appl, Signal.act, Pairing.none, e]
  | handed a =>
    obtain ⟨k, rfl⟩ := eq_serving enabled
    refine ⟨serving a (k + 1), if_pos rfl, fun a' => ?_⟩
    by_cases e : a = a' <;> simp [pairing, Pairing.after, Signal.appl, Signal.act, e]
  | sent a =>
    -- a send callback that returns is one of those in progress
    obtain ⟨k, rfl⟩ := eq_serving (linked_of_sent enabled)
    obtain ⟨k, rfl⟩ : ∃ k', k = k' + 1 :=
      Nat.exists_eq_succ_of_ne_zero (by simpa [Signal.Enabled, pairing, Signal.appl] using enabled)
    refine ⟨serving a k, if_pos rfl, fun a' => ?_⟩
    by_cases e : a = a' <;> simp [pairing, Pairing.after, Signal.appl, Signal.act, e]
  | bid a =>
    obtain ⟨k, rfl⟩ := eq_serving enabled.1
    obtain rfl : k = 0 := by simpa [pairing, Signal.appl] using enabled.2
    refine ⟨releasing a, if_pos rfl, fun a' => ?_⟩
    by_cases e : a = a' <;> simp [pairing, Pairing.after, Signal.appl, Signal.act, e]
  | bidden a =>
    obtain rfl := eq_releasing enabled
    refine ⟨idle, if_pos rfl, fun a' => ?_⟩
    by_cases e : a = a' <;> simp [pairing, Pairing.after, Signal.appl, Signal.act, Pairing.none, e]

end Phase

namespace Ledger

/-- A phase says what goes on between a device and the applications with a number. -/
structure Tracks (s : Ledger) (d : Nat) (n : UInt16) (p : Phase) : Prop where
  arrived : ∀ a, p.pairing a ≠ .none → a < s.applCount ∧ (s.applId a).number = n
  pairing : ∀ a, a < s.applCount → (s.applId a).number = n → s.pairing d a = p.pairing a

variable {s t : Ledger} {mv : Move} {o : Outcome} {d : Nat} {n : UInt16} {p : Phase}

/-- The signal that the driver of a device gets with a step about an application number. -/
def signal? (s : Ledger) (d : Nat) (n : UInt16) (mv : Move) (o : Outcome) : Option Signal :=
  (mv.signal? d s.frames o).filter fun sg => (s.applId sg.appl).number = n

/-- Nothing goes on with an application that has not arrived. -/
theorem Sound.pairing_of_le (h : s.Sound) {a : Nat} (ha : s.applCount ≤ a) :
    s.pairing d a = .none := by
  by_contra hp
  exact Nat.not_lt.2 ha (h.appls.inUse_lt a (h.inUse_of_pairing hp))

/-- The signal that a register callback starts comes with the callback. -/
theorem asks_of_asked {fs : List Frame} {a : Nat} (signal : mv.signal? d fs o = some (.asked a)) :
    o = .asks (.register d a) := by
  cases mv with
  | answer ans =>
    obtain ⟨cb, -, hreturned⟩ := Option.bind_eq_some_iff.1 signal
    rcases Callback.returned?_eq_some hreturned with ⟨_, _, e⟩ | ⟨_, _, _, e⟩ | ⟨_, _, e⟩ <;> cases e
  | call | resume | advance =>
    cases o with
    | asks cb =>
      rcases Callback.started?_eq_some signal with ⟨_, rfl, e⟩ | ⟨_, _, _, e⟩ | ⟨_, _, e⟩ <;> cases e
      rfl
    | _ => cases signal

/-- A driver is asked about active applications only. -/
theorem Step.active_of_asked (step : Step s mv o t) {a : Nat}
    (signal : mv.signal? d s.frames o = some (.asked a)) : s.applActive a = true := by
  obtain rfl := asks_of_asked signal
  cases step with
  | ask _ _ _ applJoins => exact applJoins.2.1
  | tell _ _ outcome => rcases outcome with e | ⟨_, e⟩ <;> cases e

/-- Signals are about applications that have their numbers still. -/
theorem Sound.inUse_of_signal (h : s.Sound) (step : Step s mv o t) {sg : Signal}
    (signal : mv.signal? d s.frames o = some sg) : s.appls.InUse sg.appl := by
  have henabled := h.enabled_of_signal step signal
  cases sg with
  | asked a => exact Or.inl (step.active_of_asked signal)
  | bid a =>
    refine h.inUse_of_pairing (d := d) fun hnone => henabled.1 ?_
    exact congrArg Pairing.linked hnone
  | answered | handed | sent | bidden =>
    refine h.inUse_of_pairing (d := d) fun hnone => henabled ?_
    rw [hnone]
    rfl

/-- A driver is asked about a number only when nothing goes on with an application that has it. -/
theorem Tracks.fresh (tracks : s.Tracks d n p) (h : s.Sound) (step : Step s mv o t) {a : Nat}
    (signal : mv.signal? d s.frames o = some (.asked a)) (number : (s.applId a).number = n) :
    p = .idle := by
  have hinUse : s.appls.InUse a := Or.inl (step.active_of_asked signal)
  have hquiet := h.enabled_of_signal step signal
  refine Phase.eq_idle fun b => ?_
  by_cases hb : p.pairing b = .none
  · rw [hb]
    exact ⟨rfl, rfl, rfl⟩
  · -- something goes on with `b`, so it has the number still, and is the application asked about
    obtain ⟨hlt, hnumber⟩ := tracks.arrived b hb
    rw [← tracks.pairing b hlt hnumber] at hb ⊢
    obtain rfl := h.appls.number_inj b a (h.inUse_of_pairing hb) hinUse (hnumber.trans number.symm)
    exact hquiet

/-- A phase that says what has changed with a signal tracks what goes on after it. -/
theorem Sound.tracks_step (h : s.Sound) (step : Step s mv o t) (present : ¬s.Retired d) {q : Phase}
    (arrived : ∀ a, q.pairing a ≠ .none → a < s.applCount ∧ (s.applId a).number = n)
    (after : ∀ a, a < s.applCount → (s.applId a).number = n →
      q.pairing a = (s.pairing d a).after a (mv.signal? d s.frames o)) : t.Tracks d n q := by
  constructor
  · intro a ha
    obtain ⟨hlt, hnumber⟩ := arrived a ha
    obtain ⟨hlt', hnumber'⟩ := step.appls.number_eq hlt
    exact ⟨hlt', hnumber'.trans hnumber⟩
  · intro a ha hnumber
    rw [h.pairing_step step present a]
    by_cases hlt : a < s.applCount
    · exact (after a hlt ((step.appls.number_eq hlt).2.symm.trans hnumber)).symm
    · -- nothing goes on with an application that arrives with this step
      have hq : q.pairing a = .none := by
        by_contra hne
        exact hlt (arrived a hne).1
      rw [h.pairing_of_le (Nat.not_lt.1 hlt), hq]
      cases hsignal : mv.signal? d s.frames o with
      | none => rfl
      | some sg =>
        have hsg := h.appls.inUse_lt _ (h.inUse_of_signal step hsignal)
        exact if_neg fun e : sg.appl = a => hlt (e ▸ hsg)

/-- The phase goes with the signal that the driver gets. -/
theorem Tracks.step (tracks : s.Tracks d n p) (h : s.Sound) (step : Step s mv o t)
    (present : ¬s.Retired d) :
    match s.signal? d n mv o with
    | some sg => ∃ q, p.next? sg = some q ∧ t.Tracks d n q
    | none => t.Tracks d n p := by
  cases hsignal : s.signal? d n mv o with
  | none =>
    refine h.tracks_step step present tracks.arrived fun a ha hnumber => ?_
    rw [tracks.pairing a ha hnumber]
    cases hraw : mv.signal? d s.frames o with
    | none => rfl
    | some sg =>
      -- the signal is about an application with another number
      refine (if_neg fun e : sg.appl = a => ?_).symm
      rw [signal?, hraw] at hsignal
      simp [e, hnumber] at hsignal
  | some sg =>
    obtain ⟨hraw, hnumber⟩ := Option.filter_eq_some_iff.1 hsignal
    have hnumber := of_decide_eq_true hnumber
    have hlt := h.appls.inUse_lt _ (h.inUse_of_signal step hraw)
    have henabled := h.enabled_of_signal step hraw
    rw [tracks.pairing _ hlt hnumber] at henabled
    obtain ⟨q, hnext, hafter⟩ := Phase.next?_of_enabled henabled fun a e =>
      tracks.fresh h step (e ▸ hraw) (by simpa [e, Signal.appl] using hnumber)
    refine ⟨q, hnext, h.tracks_step step present ?_ ?_⟩
    · intro a ha
      by_cases e : sg.appl = a
      · exact e ▸ ⟨hlt, hnumber⟩
      · refine tracks.arrived a fun hnone => ha ?_
        rw [hafter a, Pairing.after, if_neg e, hnone]
    · intro a ha hnumber
      rw [hafter a, tracks.pairing a ha hnumber, hraw]

end Ledger

end Switchboard
