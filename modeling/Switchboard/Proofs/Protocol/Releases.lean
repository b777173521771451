import Switchboard.Proofs.Ledger.Invariant
import Switchboard.Proofs.Protocol.Pairing
import Switchboard.Proofs.Runs

/-! # Every linked device has its turn

When an application is released its links are taken, and the devices they lead to have their turns,
one after the other and each of them once. A device whose turn it is is told of the release, unless
it has been retired meanwhile. An application is unwound once at most, so that no device has a turn
before the links are taken, or a second one later. -/

namespace Switchboard

/-- The device whose turn it is to be told by a call that an application is released. -/
def Frame.turn? (a : Nat) : Frame → Option Nat
  | releasing a' _ none (d :: _) => if a' = a then some d else none
  | _ => none

namespace Frame

variable (a a' d : Nat) (o : Origin)

/-- A walk has no device's turn to be told of a release. -/
@[simp] theorem turn?_walk (w : Walk) (c : Cursor) (k : Option Nat) : (w.frame c k).turn? a = none := by
  cases w <;> rfl

/-- An announcement has no device's turn to be told of a release. -/
@[simp] theorem turn?_announcing (news : News) (l : Option Listener) (ns : List Notice)
    (os : List Observer) : (announcing d news l ns os).turn? a = none := rfl

/-- An unwinding is at the turn of the device that is told next. -/
@[simp] theorem turn?_releasing (rest : List Nat) :
    (releasing a' o none (d :: rest)).turn? a = if a' = a then some d else none := rfl

/-- An unwinding that has told every device is at no turn. -/
@[simp] theorem turn?_releasing_nil : (releasing a' o none []).turn? a = none := rfl

end Frame

/-- The device that has its turn in a move made while calls are in progress. -/
def Move.turn? (a : Nat) (frames : List Frame) : Move → Option Nat
  | .advance => frames.head?.bind (·.turn? a)
  | _ => none

/-- A device has its turn in the work of a call that unwinds the application. -/
theorem Move.turn?_eq_some {mv : Move} {a d : Nat} {frames : List Frame}
    (h : mv.turn? a frames = some d) :
    mv = .advance ∧ ∃ origin rest fs, frames = .releasing a origin none (d :: rest) :: fs := by
  cases mv with
  | call | answer | resume => cases h
  | advance =>
    obtain ⟨f, hf, hturn⟩ := Option.bind_eq_some_iff.1 h
    obtain ⟨fs, rfl⟩ := List.head?_eq_some_iff.1 hf
    refine ⟨rfl, ?_⟩
    revert hturn
    fun_cases Frame.turn? a f with
    | case1 origin d' rest =>
      rintro ⟨⟩
      exact ⟨origin, rest, fs, rfl⟩
    | _ => rintro ⟨⟩

namespace Ledger

variable {s t : Ledger} {mv : Move} {o : Outcome} {a : Nat}

/-- Whether the links of an application are being unwound. -/
def Unwinding (s : Ledger) (a : Nat) : Prop := ∃ f ∈ s.frames, f.unwinding? = some a

/-- A device is due to be told only while the application is unwound. -/
theorem due_eq_nil (h : ¬s.Unwinding a) : s.due a = [] :=
  List.eq_nil_iff_forall_not_mem.2 fun _ hd => h (unwinding_of_mem_due hd)

/-- The links of an application that is not unwound yet are taken to be due. -/
theorem due_unwind_self (origin : Origin) (h : ¬s.Unwinding a) :
    (s.unwind a origin).due a = (s.links a).keys := by
  rw [due, unwind_frames, List.flatMap_cons, Frame.due_releasing, if_pos rfl]
  show (s.links a).keys ++ s.due a = (s.links a).keys
  rw [due_eq_nil h, List.append_nil]

/-- A step begins to unwind an application that was active or has waited, and takes its links; or
the device whose turn it is is due no more. -/
theorem Sound.due_step (h : s.Sound) (step : Step s mv o t) (a : Nat) :
    (¬s.Unwinding a ∧ t.due a = (s.links a).keys ∧
        (s.applActive a = true ∨ s.waitingReleases a ≠ 0)) ∨
      ((t.Unwinding a → s.Unwinding a) ∧ (mv.turn? a s.frames).toList ++ t.due a = s.due a) := by
  cases step with
  | @release _ a' table removed unheld _ origin =>
    by_cases e : a' = a
    · -- an active application is not unwound yet
      subst e
      left
      have hactive : s.applActive a' = true := (h.appls.of_removed removed).1
      have hno : ¬s.Unwinding a' := by
        rintro ⟨f, hf, hunwind⟩
        rw [(h.of_unwinding hf hunwind).2.1] at hactive
        cases hactive
      exact ⟨hno, due_unwind_self (s := s.retireAppl a' table) origin hno, Or.inl hactive⟩
    · right
      simp [Unwinding, due, Move.turn?, e]
  | @unwound i a' origin waits =>
    by_cases e : a' = a
    · -- an application that waits is not unwound yet
      subst e
      left
      have hwaits : s.waitingReleases a' ≠ 0 := by simp [waitingReleases, countP_eraseIdx _ waits]
      have hno : ¬s.Unwinding a' := by
        rintro ⟨f, hf, hunwind⟩
        exact hwaits (h.of_unwinding hf hunwind).2.2
      exact ⟨hno, due_unwind_self (s := s.withWaiting _) origin hno, Or.inr hwaits⟩
    · right
      simp [Unwinding, due, Move.turn?, e]
  -- neither does it unwind anything nor is it a device's turn
  | still | wake | install | register | remove | releaseLater | send | freed =>
    right
    simp [Unwinding, due, Move.turn?]
  | woken frames | ask frames | skip frames | installed frames | registered frames | accept frames
      | decline frames | announced frames | sent frames | removed frames | removeLater frames
      | bidden frames =>
    right
    simp [Unwinding, due, Move.turn?, frames]
  -- the unwinding is over, and no device was left
  | released frames =>
    right
    constructor
    · rintro ⟨f, hf, hunwind⟩
      exact ⟨f, frames ▸ List.mem_cons_of_mem _ hf, hunwind⟩
    · simp [due, Move.turn?, frames]
  | tell frames goesOn =>
    right
    rcases goesOn with rfl | ⟨ans, rfl⟩ <;>
      simp [Unwinding, due, Move.turn?, frames]
  -- the device whose turn it is is passed over if it is retired, and told otherwise
  | @passOver a' _ _ _ _ frames | @bid a' _ _ _ _ frames =>
    right
    by_cases e : a' = a <;> simp [Unwinding, due, Move.turn?, frames, e]

/-- A driver is told of a release when its device has its turn and is active. -/
theorem Step.turn_of_bid {d : Nat} (step : Step s mv (.asks (.release d a)) t) :
    mv.turn? a s.frames = some d ∧ s.deviceActive d = true := by
  cases step with
  | bid frames active =>
    refine ⟨?_, active⟩
    simp [Move.turn?, frames]
  | tell _ _ outcome => rcases outcome with e | ⟨_, e⟩ <;> cases e

/-! ## Applications that have been unwound -/

/-- Whether an application is retired and waits no longer to be unwound. -/
def Unwound (s : Ledger) (a : Nat) : Prop :=
  a < s.applCount ∧ s.applActive a = false ∧ s.waitingReleases a = 0

/-- An application that is being unwound does not wait for it any more. -/
theorem Sound.unwound (h : s.Sound) (unwinding : s.Unwinding a) : s.Unwound a := by
  obtain ⟨f, hf, hunwind⟩ := unwinding
  obtain ⟨hinUse, hretired, hwaits⟩ := h.of_unwinding hf hunwind
  exact ⟨h.appls.inUse_lt a hinUse, hretired, hwaits⟩

/-- A retired application does not begin to wait. -/
theorem Sound.waitingReleases_le (h : s.Sound) (step : Step s mv o t)
    (retired : s.applActive a = false) : t.waitingReleases a ≤ s.waitingReleases a := by
  cases step with
  | still | wake | woken | install | register | remove | release | send | ask | skip | installed
      | registered | accept | decline | tell | announced | passOver | bid | bidden | released
      | sent => exact Nat.le_refl _
  | removed | removeLater =>
    rw [unlinkAll_eq]
    simp [waitingReleases]
  | @releaseLater _ a' _ removed =>
    have e : a' ≠ a := by
      rintro rfl
      have hactive : s.applActive a' = true := (h.appls.of_removed removed).1
      rw [retired] at hactive
      cases hactive
    simp [waitingReleases, e]
  | freed waits | unwound waits => simp [waitingReleases, countP_eraseIdx _ waits]

/-- An application that has been unwound stays so. -/
theorem Sound.unwound_step (h : s.Sound) (step : Step s mv o t) (unwound : s.Unwound a) :
    t.Unwound a := by
  obtain ⟨hlt, hretired, hwaits⟩ := unwound
  obtain ⟨hlt', hretired'⟩ := step.appl_retired hlt hretired
  have hle := h.waitingReleases_le step hretired
  rw [hwaits] at hle
  exact ⟨hlt', hretired', Nat.le_zero.1 hle⟩

end Ledger

namespace Machine

/-! ## Releases in runs -/

/-- The device whose turn it is, with an event, to be told that an application is released. -/
def Event.turn? (e : Event) (a : Nat) : Option Nat := e.move.turn? a e.before.frames

/-- Whether the links of an application are being unwound. -/
def Unwinding (m : Machine) (a : Nat) : Prop := ∃ f ∈ m.frames, f.unwinding? = some a

instance (m : Machine) (a : Nat) : Decidable (m.Unwinding a) :=
  inferInstanceAs (Decidable (∃ f ∈ m.frames, _))

/-- The devices that have still to have their turns to be told that an application is released. -/
def due (m : Machine) (a : Nat) : List Nat := m.frames.flatMap (·.due a)

/-- An event with which an application begins to be unwound. -/
def Event.Unwinds (e : Event) (a : Nat) : Prop :=
  ¬e.before.Unwinding a ∧ (e.before.make e.move).1.Unwinding a

instance (e : Event) (a : Nat) : Decidable (e.Unwinds a) := inferInstanceAs (Decidable (_ ∧ _))

variable {config : Config} {history : List Event} {m : Machine} {a : Nat}

/-- The driver of a device is told of a release when the device has its turn and is not retired. -/
theorem bids_iff_turn (h : Reachable config m) {mv : Move} (admitted : m.admits mv = true)
    (d a : Nat) : (m.make mv).2 = .asks (.release d a) ↔
      mv.turn? a m.frames = some d ∧ (m.registry.devices.get d).isRetiring = false := by
  constructor
  · intro hasks
    have hstep := h.step admitted
    rw [hasks] at hstep
    obtain ⟨hturn, hactive⟩ := hstep.turn_of_bid
    exact ⟨hturn, by simpa [ledger, Registry.ledger] using hactive⟩
  · rintro ⟨hturn, hactive⟩
    obtain ⟨rfl, origin, rest, fs, hframes⟩ := Move.turn?_eq_some hturn
    simp [make, advance, work, hframes, hactive, enter, Frame.outcome, Frame.callback?]

/-- A device has its turn only while the application is unwound. -/
theorem unwinding_of_turn {mv : Move} {d : Nat} (turn : mv.turn? a m.frames = some d) :
    m.Unwinding a := by
  obtain ⟨-, origin, rest, fs, hframes⟩ := Move.turn?_eq_some turn
  exact ⟨_, hframes ▸ List.mem_cons_self .., rfl⟩

/-- An application that has been unwound is so from then on. -/
theorem unwound_make (h : Reachable config m) {mv : Move} (admitted : m.admits mv = true)
    (unwound : m.ledger.Unwound a) : (m.make mv).1.ledger.Unwound a :=
  h.sound.unwound_step (h.step admitted) unwound

/-- An application that begins to be unwound has not been unwound before, and its links are due. -/
theorem Event.Unwinds.due_make {e : Event} (unwinds : e.Unwinds a) (h : Reachable config e.before)
    (admitted : e.before.admits e.move = true) :
    (e.before.make e.move).1.due a = (e.before.registry.appls.get a).links.keys ∧
      ¬e.before.ledger.Unwound a := by
  rcases h.sound.due_step (h.step admitted) a with ⟨-, hdue, hbegins⟩ | ⟨hunwinding, -⟩
  · refine ⟨hdue, fun ⟨_, hretired, hwaits⟩ => ?_⟩
    rcases hbegins with hactive | hwaits'
    · rw [hretired] at hactive
      cases hactive
    · exact hwaits' hwaits
  · exact absurd (hunwinding unwinds.2) unwinds.1

/-- Once an application has begun to be unwound, devices are due until they have had their turns. -/
theorem Reachable.due_make (h : Reachable config m) {mv : Move} (admitted : m.admits mv = true)
    (unwound : m.ledger.Unwound a) : (mv.turn? a m.frames).toList ++ (m.make mv).1.due a = m.due a := by
  rcases h.sound.due_step (h.step admitted) a with ⟨-, -, hbegins⟩ | ⟨-, hdue⟩
  · rcases hbegins with hactive | hwaits
    · rw [unwound.2.1] at hactive
      cases hactive
    · exact absurd unwound.2.2 hwaits
  · exact hdue

/-- An application that has begun to be unwound counts as unwound from then on. -/
theorem Run.unwound_since (run : Run config history m) {h₁ h₂ : List Event} {e : Event}
    (split : history = h₁ ++ e :: h₂) (unwinds : e.Unwinds a) :
    m.ledger.Unwound a ∧ ∀ e' ∈ h₂, e'.before.ledger.Unwound a := by
  obtain ⟨hreach, hadmitted, -⟩ := run.event (e := e) (by simp [split])
  exact run.since (P := fun m => m.ledger.Unwound a) split
    ((hreach.make hadmitted).sound.unwound unwinds.2) fun m mv h admitted => unwound_make h admitted

/-- The devices that have had their turns since an application began to be unwound, and those that
are due, are the devices that it was linked to. -/
theorem Run.turns_append_due (run : Run config history m) {h₁ h₂ : List Event} {e : Event}
    (split : history = h₁ ++ e :: h₂) (unwinds : e.Unwinds a) :
    h₂.filterMap (·.turn? a) ++ m.due a = (e.before.registry.appls.get a).links.keys := by
  -- each later event moves one device from those that are due to those that have had their turns
  induction run generalizing h₂ with
  | new => simp at split
  | @move history m mv run admitted ih =>
    rcases append_singleton_eq_split split with ⟨-, rfl, rfl⟩ | ⟨h₃, hsplit, rfl⟩
    · exact (unwinds.due_make run.reachable admitted).1
    · have hunwound := (run.unwound_since hsplit unwinds).1
      rw [← ih hsplit, ← run.reachable.due_make admitted hunwound, List.filterMap_append,
        List.append_assoc]
      rfl

/-- An application does not begin to be unwound again. -/
theorem Run.unwinds_once (run : Run config history m) {h₁ h₂ : List Event} {e : Event}
    (split : history = h₁ ++ e :: h₂) (unwinds : e.Unwinds a) :
    (∀ e' ∈ h₁, ¬e'.Unwinds a) ∧ ∀ e' ∈ h₂, ¬e'.Unwinds a := by
  -- what comes after an event that unwinds the application finds it unwound
  have hlater : ∀ {h h' : List Event} {e e' : Event}, history = h ++ e :: h' → e.Unwinds a →
      e' ∈ h' → ¬e'.Unwinds a := by
    intro h h' e e' hsplit hunwinds he' hunwinds'
    obtain ⟨hreach, hadmitted, -⟩ := run.event (e := e') (by simp [hsplit, he'])
    exact (hunwinds'.due_make hreach hadmitted).2 ((run.unwound_since hsplit hunwinds).2 e' he')
  refine ⟨fun e' he' hunwinds' => ?_, fun e' => hlater split unwinds⟩
  obtain ⟨h₃, h₄, rfl⟩ := List.append_of_mem he'
  exact hlater (by simpa using split) hunwinds' (by simp) unwinds

/-- No device has a turn unless the application has begun to be unwound. -/
theorem Run.no_turn (run : Run config history m) (never : ∀ e ∈ history, ¬e.Unwinds a) :
    history.filterMap (·.turn? a) = [] ∧ ¬m.Unwinding a := by
  induction run with
  | new => exact ⟨rfl, fun ⟨f, hf, _⟩ => absurd hf List.not_mem_nil⟩
  | @move history m mv run admitted ih =>
    obtain ⟨hturns, hno⟩ := ih fun e he => never e (List.mem_append_left _ he)
    constructor
    · have hturn : mv.turn? a m.frames = none :=
        Option.eq_none_iff_forall_ne_some.2 fun d hturn => hno (unwinding_of_turn hturn)
      rw [List.filterMap_append, hturns, List.nil_append]
      simp [Event.turn?, hturn]
    · exact fun hunwinding => never ⟨m, mv, (m.make mv).2⟩ (by simp) ⟨hno, hunwinding⟩

/-- No device has a turn before the application begins to be unwound. -/
theorem Run.no_turn_before (run : Run config history m) {h₁ h₂ : List Event} {e : Event}
    (split : history = h₁ ++ e :: h₂) (unwinds : e.Unwinds a) :
    h₁.filterMap (·.turn? a) = [] :=
  ((run.before split).no_turn (run.unwinds_once split unwinds).1).1

end Machine

end Switchboard
