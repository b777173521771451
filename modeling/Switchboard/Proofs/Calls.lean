import Mathlib.Data.List.Forall2
import Switchboard.Proofs.Mailbox

/-! # Calls and their returns

Calls nest: whatever is called while a call waits for a callback returns before the callback is
answered. So the calls in progress are a stack, and what ends is always the innermost. `Calls` keeps
that stack as a history tells it, with every call that has returned and the event in which it did;
`Run.frames_began` ties it to the frames of the machine. Which call a frame comes from is said by
`Machine.Begins`. -/

namespace Switchboard

/-! ## What a call in progress is about -/

/-- What a call in progress is about, however far it has come. -/
inductive Task where
  | install (d : Nat)
  | remove (d : Nat)
  | register (a : Nat) (origin : Origin)
  | release (a : Nat) (origin : Origin)
  | send (d a : Nat) (origin : Origin) (msg : Message)
  | wake (a : Nat) (h : SignalHandler) (w : Wake)
deriving DecidableEq

/-- What the call of a frame is about. -/
def Frame.task : Frame → Task
  | installing d _ _ => .install d
  | registering a origin _ _ => .register a origin
  | announcing d .added _ _ _ => .install d
  | announcing d .removed _ _ _ => .remove d
  | releasing a origin _ _ => .release a origin
  | sending d a origin msg => .send d a origin msg
  | waking a h w => .wake a h w

/-- Whatever a walk has come to, its call is about the same. -/
theorem Walk.task_frame (w : Walk) (c c' : Cursor) (k k' : Option Nat) :
    (w.frame c k).task = (w.frame c' k').task := by
  cases w <;> rfl

/-- Whether a move starts something, a call or the rest of a teardown that has waited. -/
def Move.starts : Move → Bool
  | call _ | resume _ => true
  | answer _ | advance => false

/-- What a call has ended with. -/
def Outcome.reply? : Outcome → Option Reply
  | ends reply => some reply
  | _ => none

/-! ## The stack of calls -/

/-- What a move does to the calls in progress, of which it knows nothing but the innermost. -/
inductive Progress : List Frame → Move → Outcome → List Frame → Prop where
  /-- A call ends at once. -/
  | atOnce {mv : Move} (starts : mv.starts = true) (reply : Reply) (fs : List Frame) :
      Progress fs mv (.ends reply) fs
  /-- A call begins and is in progress. -/
  | begins {mv : Move} (starts : mv.starts = true) {o : Outcome} (endless : o.reply? = none)
      (f : Frame) (fs : List Frame) : Progress fs mv o (f :: fs)
  /-- The innermost call goes on. -/
  | goesOn {mv : Move} (inside : mv.starts = false) {o : Outcome} (endless : o.reply? = none)
      {f g : Frame} (same : g.task = f.task) (fs : List Frame) : Progress (f :: fs) mv o (g :: fs)
  /-- The innermost call returns. -/
  | returns {mv : Move} (inside : mv.starts = false) (reply : Reply) (f : Frame) (fs : List Frame) :
      Progress (f :: fs) mv (.ends reply) fs

/-- Every step either leaves all calls but the innermost alone or starts another. -/
theorem Ledger.Step.progress {s t : Ledger} {mv : Move} {o : Outcome} (step : Step s mv o t) :
    Progress s.frames mv o t.frames := by
  cases step with
  | still c reply | releaseLater _ _ c => exact .atOnce rfl _ _
  | freed waits unheld => exact .atOnce rfl _ _
  | wake | install | register | remove | release | send | unwound => exact .begins rfl rfl _ _
  | woken frames | registered frames | announced frames | removed frames | removeLater frames
      | released frames | sent frames => rw [frames]; exact .returns rfl _ _ _
  | ask frames | skip frames | accept frames | decline frames =>
    rw [frames]
    exact .goesOn (by rfl) (by rfl) (Walk.task_frame ..) _
  | installed frames | passOver frames | bid frames | bidden frames =>
    rw [frames]
    exact .goesOn (by rfl) (by rfl) (by rfl) _
  | @tell d news _ _ _ _ _ _ fs frames _ o goesOn outcome =>
    rw [frames]
    have hinside : mv.starts = false := by
      rcases goesOn with h | ⟨ans, h⟩ <;> rw [h] <;> rfl
    have hendless : o.reply? = none := by
      rcases outcome with rfl | ⟨l, rfl⟩ <;> rfl
    exact .goesOn hinside hendless (by cases news <;> rfl) _

namespace Machine

variable {config : Config} {history : List Event} {m : Machine}

/-- The calls of a history: the starts of those in progress, innermost first, and those that have
returned, in the order of their returns, each with the event in which it did. -/
structure Calls where
  inProgress : List Event
  returned : List (Event × Event)

namespace Calls

/-- The call that returns in an event. -/
def returning? (l : Calls) (e : Event) : Option (Event × Event) :=
  match e.outcome.reply? with
  | none => none
  | some _ => if e.move.starts then some (e, e) else l.inProgress.head?.map fun s => (s, e)

/-- The calls once another event has happened. -/
def note (l : Calls) (e : Event) : Calls where
  inProgress := match e.outcome.reply?, e.move.starts with
    | none, true => e :: l.inProgress
    | none, false | some _, true => l.inProgress
    | some _, false => l.inProgress.tail
  returned := l.returned ++ (l.returning? e).toList

end Calls

/-- The calls of a history. -/
def calls (history : List Event) : Calls := history.foldl Calls.note ⟨[], []⟩

/-- One more event is noted after the others. -/
theorem calls_concat (history : List Event) (e : Event) :
    calls (history ++ [e]) = (calls history).note e := by
  rw [calls, List.foldl_append]
  rfl

/-- A call that began with an event and is in progress still, as a frame says. -/
def Event.Began (e : Event) (f : Frame) : Prop :=
  e.move.starts = true ∧
    ∃ g, (e.before.make e.move).1.frames = g :: e.before.frames ∧ g.task = f.task

/-- What a move does to the calls in progress, in a machine that can be reached. -/
theorem Reachable.progress (h : Reachable config m) {mv : Move} (admitted : m.admits mv = true) :
    Progress m.frames mv (m.make mv).2 (m.make mv).1.frames :=
  (h.step admitted).progress

/-- **The calls in progress are those of the frames**, in the same order. -/
theorem Run.frames_began (run : Run config history m) :
    List.Forall₂ Event.Began (calls history).inProgress m.frames := by
  induction run with
  | new => exact .nil
  | @move history m mv run admitted ih =>
    rw [calls_concat]
    have hprogress := run.reachable.progress admitted
    generalize hafter : (m.make mv).1.frames = after at hprogress ⊢
    generalize houtcome : (m.make mv).2 = o at hprogress ⊢
    generalize hbefore : m.frames = before at hprogress ih
    cases hprogress with
    | atOnce starts reply => simpa only [Calls.note, Outcome.reply?, starts] using ih
    | begins starts endless f =>
      simp only [Calls.note, endless, starts]
      exact .cons ⟨starts, f, hafter.trans (hbefore ▸ rfl), rfl⟩ ih
    | goesOn inside endless same =>
      obtain ⟨s, rest, ⟨hs, g, hg, htask⟩, hrest, hopen⟩ := List.forall₂_cons_right_iff.1 ih
      simp only [Calls.note, endless, inside, hopen]
      exact .cons ⟨hs, g, hg, htask.trans same.symm⟩ hrest
    | returns inside reply f =>
      obtain ⟨s, rest, -, hrest, hopen⟩ := List.forall₂_cons_right_iff.1 ih
      simpa only [Calls.note, Outcome.reply?, inside, hopen, List.tail_cons] using hrest

end Machine

/-! ## Which call a frame comes from -/

/-- The application that a call wakes, and what the wake-up is part of. -/
def Call.wakes? : Call → Option (Nat × Wake)
  | enqueue a _ => some (a, .queued)
  | deliver d a msg => some (a, .delivered d msg.traffic)
  | signal a | signalError a _ => some (a, .signalled)
  | _ => none

namespace Machine

/-- Which calls begin and are then in progress, with the frames they begin with. -/
inductive Begins (m : Machine) : Call → Frame → Prop where
  | install (info : DeviceInfo) (driver : Driver) (d : Nat) :
      Begins m (.install info driver) (.installing d .start none)
  | remove (id : DeviceId) (d : Nat) (rest : List Observer) :
      Begins m (.remove id) (.announcing d .removed none [] rest)
  | register {c : Call} {origin : Origin} (registers : c.registrar? = some origin) (a : Nat) :
      Begins m c (.registering a origin .start none)
  | release {c : Call} {origin : Origin} {n : UInt16} (releases : c.releases? = some (origin, n))
      (a : Nat) (links : List Nat) : Begins m c (.releasing a origin none links)
  | send {c : Call} {origin : Origin} {id : ApplId} {msg : Message} {d a : Nat} {r : Registry}
      (core : m.core? c = some (origin, .send id msg))
      (route : m.registry.route id msg = .ok (d, a, r)) : Begins m c (.sending d a origin msg)
  | wake {c : Call} {a : Nat} {w : Wake} (wakes : c.wakes? = some (a, w)) (h : SignalHandler) :
      Begins m c (.waking a h w)

/-- What a piece of a call leaves in progress: what was, or a frame on top of it. -/
def Leaves (m m' : Machine) (P : Frame → Prop) : Prop :=
  m'.frames = m.frames ∨ ∃ f, P f ∧ m'.frames = f :: m.frames

variable {m : Machine} {P : Frame → Prop}

/-- A call that is entered is on top of the others. -/
theorem leaves_enter (r : Registry) {f : Frame} (hf : P f) :
    m.Leaves ((m.withRegistry r).enter f).1 P := Or.inr ⟨f, hf, rfl⟩

/-- A wake-up leaves the handler's call in progress, or nothing more than there was. -/
theorem leaves_wake (r : Registry) {a : Nat} {w : Wake} (h : ∀ h, P (.waking a h w)) :
    m.Leaves ((m.withRegistry r).wake a w).1 P := by
  unfold wake
  split
  · exact leaves_enter r (h _)
  · left
    cases w <;> rfl

/-- A registration leaves a walk in progress, or nothing more than there was. -/
theorem leaves_register {origin : Origin} {params : RegisterParams}
    (h : ∀ a, P (.registering a origin .start none)) : m.Leaves (m.register origin params).1 P := by
  unfold register
  split
  · exact Or.inl rfl
  · exact leaves_enter _ (h _)

/-- A release leaves an unwinding in progress, or nothing more than there was. -/
theorem leaves_release {r : Registry} {origin : Origin} {id : ApplId}
    (h : ∀ a links, P (.releasing a origin none links)) :
    m.Leaves ((m.withRegistry r).release origin id).1 P := by
  unfold release
  split
  · exact Or.inl rfl
  · unfold closeAppl
    dsimp only
    split
    · exact Or.inr ⟨_, h _ _, rfl⟩
    · exact Or.inl rfl

/-- A message leaves its routing's call in progress, or nothing more than there was. -/
theorem leaves_send {origin : Origin} {id : ApplId} {msg : Message}
    (h : ∀ d a r, m.registry.route id msg = .ok (d, a, r) → P (.sending d a origin msg)) :
    m.Leaves (m.send origin id msg).1 P := by
  unfold send
  split
  · exact Or.inl rfl
  · rename_i hroute
    exact leaves_enter _ (h _ _ _ hroute)

/-- A message is fetched without a call in progress. -/
theorem frames_receive (m : Machine) (origin : Origin) (id : ApplId) :
    (m.receive origin id).1.frames = m.frames := by
  unfold receive
  split <;> rfl

/-- A handler is set without a call in progress. -/
theorem frames_setHandler (m : Machine) (origin : Origin) (id : ApplId) (h : Option SignalHandler) :
    (m.setHandler origin id h).1.frames = m.frames := by
  unfold setHandler
  split <;> rfl

/-- **What a call leaves in progress.** -/
theorem leaves_call (m : Machine) (c : Call) : m.Leaves (m.call c).1 (m.Begins c) := by
  cases c with
  -- a call that is refused leaves what was in progress, and any other enters one frame
  | install info driver =>
    simp only [call]
    split
    · exact Or.inl rfl
    · exact leaves_enter _ (.install info driver _)
  | remove id =>
    simp only [call]
    split
    · exact Or.inl rfl
    · exact leaves_enter _ (.remove id _ _)
  | register params => exact leaves_register (.register rfl)
  | release id => exact leaves_release (r := m.registry) (.release rfl)
  | send id msg => exact leaves_send fun _ _ _ => .send rfl
  | receive id => exact Or.inl (m.frames_receive _ id)
  | setHandler id h => exact Or.inl (m.frames_setHandler _ id h)
  | enqueue a msg | deliver d a msg =>
    simp only [call]
    split
    · exact Or.inl rfl
    · exact leaves_wake _ (.wake rfl)
  | signal a => exact leaves_wake m.registry (.wake rfl)
  | signalError a fault => exact leaves_wake _ (.wake rfl)
  | attach tag | detach id | openFacade => exact Or.inl rfl
  | closeFacade k =>
    left
    simp only [call]
    cases m.registry.facade? k <;> rfl
  -- a facade leaves what the call does that it passes on
  | facade k fc =>
    cases hf : m.registry.facade? k with
    | none => exact Or.inl (by simp only [call, hf]; rfl)
    | some f =>
      simp only [call, hf]
      cases fc with
      | register params => exact leaves_register (.register rfl)
      | subscribe s | unsubscribe name => exact Or.inl rfl
      | release n =>
        cases hn : f.appl? n with
        | none => exact Or.inl (by simp only [facadeCall, hn]; rfl)
        | some id =>
          simp only [facadeCall, hn]
          exact leaves_release (.release rfl)
      | send n msg =>
        cases hn : f.appl? n with
        | none => exact Or.inl (by simp only [facadeCall, hn]; rfl)
        | some id =>
          simp only [facadeCall, hn]
          exact leaves_send fun _ _ _ => .send (by simp [core?, hf, FacadeCall.direct?, hn])
      | receive n =>
        cases hn : f.appl? n with
        | none => exact Or.inl (by simp only [facadeCall, hn]; rfl)
        | some id => exact Or.inl (by simp only [facadeCall, hn]; exact m.frames_receive _ id)
      | setHandler n function param =>
        cases hn : f.appl? n with
        | none => exact Or.inl (by simp only [facadeCall, hn]; rfl)
        | some id => exact Or.inl (by simp only [facadeCall, hn]; exact m.frames_setHandler _ id _)

/-- What the resumption of a teardown leaves in progress. -/
theorem leaves_resume (m : Machine) (i : Nat) :
    m.Leaves (m.resume i).1 fun f => ∃ a origin links, f = .releasing a origin none links := by
  unfold resume
  split
  · exact Or.inl rfl
  · dsimp only
    split
    · split
      · exact Or.inl rfl
      · exact Or.inr ⟨_, ⟨_, _, _, rfl⟩, rfl⟩
    · exact Or.inl rfl

/-- A frame that comes on top of the others is the one that is left. -/
theorem Leaves.of_frames {m' : Machine} (h : m.Leaves m' P) {f : Frame}
    (frames : m'.frames = f :: m.frames) : P f := by
  rcases h with hsame | ⟨g, hg, hframes⟩
  · exact absurd (hsame.symm.trans frames) (List.cons_ne_self f m.frames).symm
  · obtain ⟨rfl, -⟩ := List.cons.inj (hframes.symm.trans frames)
    exact hg

end Machine

end Switchboard
