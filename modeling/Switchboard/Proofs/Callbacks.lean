import Switchboard.Proofs.Binding

/-! # Callbacks in progress

A call that makes a callback waits for the answer. Whatever is called meanwhile comes on top of it:
its frame and those below stay as they are until the callback is answered, which is the next thing
that happens to the call. `Machine.Awaited` says so of what follows a callback in a run, and
`Machine.Event.Wakes` of a wake-up. -/

namespace Switchboard

/-! ## Steps -/

namespace Ledger

variable {s t : Ledger} {mv : Move} {o : Outcome} {f : Frame} {fs : List Frame}

/-- A step leaves the calls in progress as they are, but for the innermost, which works or is
answered. -/
theorem Step.frames_after (step : Step s mv o t) :
    s.frames <:+ t.frames ∨
      ∃ g gs, s.frames = g :: gs ∧ gs <:+ t.frames ∧ (mv = .advance ∨ ∃ ans, mv = .answer ans) := by
  cases step with
  | still | wake | install | register | remove | release | releaseLater | send | freed | unwound =>
    left
    simp
  | ask frames | skip frames | installed frames | registered frames | announced frames
      | removed frames | removeLater frames | passOver frames | bid frames | released frames =>
    exact Or.inr ⟨_, _, frames, by simp, Or.inl rfl⟩
  | woken frames ans | bidden frames ans | sent frames ans =>
    exact Or.inr ⟨_, _, frames, by simp, Or.inr ⟨ans, rfl⟩⟩
  | accept frames | decline frames => exact Or.inr ⟨_, _, frames, by simp, Or.inr ⟨_, rfl⟩⟩
  | tell frames goesOn => exact Or.inr ⟨_, _, frames, by simp, goesOn⟩

/-- A call that waits for an answer stays where it is until the answer is given. -/
theorem Step.awaits (step : Step s mv o t) (works : mv = .advance → s.callback? = none)
    (waits : f.callback?.isSome = true) (below : f :: fs <:+ s.frames) :
    f :: fs <:+ t.frames ∨ (∃ ans, mv = .answer ans) ∧ s.frames = f :: fs := by
  rcases step.frames_after with hkept | ⟨g, gs, hframes, hgs, hmove⟩
  · exact Or.inl (below.trans hkept)
  · rw [hframes] at below
    rcases List.suffix_cons_iff.1 below with heq | hbelow
    · right
      refine ⟨hmove.resolve_left fun hadvance => ?_, hframes.trans heq.symm⟩
      -- a call that waits for an answer has no work to do
      have hnone : g.callback? = none := by simpa [callback?, hframes] using works hadvance
      obtain ⟨rfl, -⟩ := List.cons.inj heq
      rw [hnone] at waits
      cases waits
    · exact Or.inl (hbelow.trans hgs)

end Ledger

/-- What the call ends with that a wake-up is part of. -/
def Wake.reply : Wake → Reply
  | signalled => .done
  | queued | delivered _ _ => .accepted true

/-! ## Runs -/

namespace Machine

variable {config : Config} {history : List Event} {m : Machine} {f : Frame} {fs : List Frame}

/-- What follows a callback in a run, of which `frames` are the calls in progress. The callback has
been answered, once: `returns` holds of the answer and of the event with which it was given. Or it
has not, and the call waits. In between, all that is called comes on top of those calls. -/
def Awaited (frames : List Frame) (later : List Event) (m : Machine)
    (returns : Answer → Event → Prop) : Prop :=
  ((∀ e ∈ later, frames <:+ e.before.frames) ∧ frames <:+ m.frames) ∨
    ∃ h₁ e h₂ ans, later = h₁ ++ e :: h₂ ∧ (∀ e' ∈ h₁, frames <:+ e'.before.frames) ∧
      e.before.frames = frames ∧ e.move = .answer ans ∧ returns ans e

/-- A callback that has been made is awaited. -/
theorem Run.awaited (run : Run config history m) {h₁ h₂ : List Event} {e : Event}
    (split : history = h₁ ++ e :: h₂) (frames : (e.before.make e.move).1.frames = f :: fs)
    (waits : f.callback?.isSome = true) : Awaited (f :: fs) h₂ m fun _ _ => True := by
  induction run generalizing h₂ with
  | new => simp at split
  | @move history m mv run admitted ih =>
    -- the callback is made by the last move, or it has been awaited since an earlier one
    rcases append_singleton_eq_split split with ⟨-, rfl, rfl⟩ | ⟨h₃, hsplit, rfl⟩
    · exact Or.inl ⟨by simp, frames ▸ List.suffix_refl _⟩
    · rcases ih hsplit with ⟨hbelow, hm⟩ | ⟨h, e', h', ans, rfl, hrest⟩
      · have hall : ∀ e' ∈ h₃ ++ [⟨m, mv, (m.make mv).2⟩], f :: fs <:+ e'.before.frames := by
          intro e' he'
          rcases List.mem_append.1 he' with he' | he'
          · exact hbelow e' he'
          · obtain rfl := List.mem_singleton.1 he'
            exact hm
        -- a piece of work is done only while no callback is awaited
        have hworks : mv = .advance → m.ledger.callback? = none := by
          rintro rfl
          rw [ledger_callback?]
          cases hframes : m.frames with
          | nil => simp [callback?, hframes]
          | cons g gs => simpa [admits, isOpen, callback?, hframes] using admitted
        rcases (run.reachable.step admitted).awaits hworks waits hm with
          hkept | ⟨⟨ans, rfl⟩, hframes⟩
        · exact Or.inl ⟨hall, hkept⟩
        · exact Or.inr ⟨h₃, _, [], ans, rfl, hbelow, hframes, rfl, trivial⟩
      · exact Or.inr ⟨h, e', h' ++ [⟨m, mv, (m.make mv).2⟩], ans, by simp, hrest⟩

/-- What holds of the event with which a callback is answered. -/
theorem Awaited.imp {frames : List Frame} {later : List Event} {P Q : Answer → Event → Prop}
    (h : Awaited frames later m P)
    (imp : ∀ ans e, e ∈ later → e.before.frames = frames → e.move = .answer ans → P ans e →
      Q ans e) :
    Awaited frames later m Q := by
  refine h.imp_right ?_
  rintro ⟨h₁, e, h₂, ans, rfl, hbelow, hframes, hmove, hp⟩
  exact ⟨h₁, e, h₂, ans, rfl, hbelow, hframes, hmove, imp ans e (by simp) hframes hmove hp⟩

/-! ## Wake-ups -/

/-- A call that wakes an application. The handler that the application has is called, once, and the
call ends when it returns; without a handler the call ends at once. -/
def Event.Wakes (e : Event) (later : List Event) (m : Machine) (a : Nat) (w : Wake) : Prop :=
  match (e.before.registry.appls.get a).handler with
  | none => e.outcome = .ends w.reply
  | some h => e.outcome = .asks (.wake a h) ∧
      Awaited (.waking a h w :: e.before.frames) later m fun _ e' => e'.outcome = .ends w.reply

/-- A wake-up that is over ends its call with the wake-up's reply. -/
theorem woken_outcome (m : Machine) (w : Wake) : (m.woken w).2 = .ends w.reply := by
  cases w <;> rfl

/-- A call wakes an application with the handler that it had before. -/
theorem Run.wakes (run : Run config history m) {h₁ h₂ : List Event} {e : Event}
    (split : history = h₁ ++ e :: h₂) {r : Registry} {a : Nat} {w : Wake}
    (make : e.before.make e.move = (e.before.withRegistry r).wake a w)
    (handler : (r.appls.get a).handler = (e.before.registry.appls.get a).handler) :
    e.Wakes h₂ m a w := by
  obtain ⟨-, -, houtcome⟩ := run.event (e := e) (by simp [split])
  unfold Event.Wakes
  rw [houtcome, make, ← handler]
  split
  · rename_i hnone
    simp only [wake, withRegistry, hnone]
    exact woken_outcome _ w
  · rename_i h hsome
    have hwake : (e.before.withRegistry r).wake a w =
        (e.before.withRegistry r).enter (.waking a h w) := by simp only [wake, withRegistry, hsome]
    rw [hwake]
    refine ⟨rfl, (run.awaited split (by rw [make, hwake]; rfl) rfl).imp ?_⟩
    rintro ans e' he' hframes hmove -
    obtain ⟨-, -, houtcome'⟩ := run.event (e := e') (by simp [split, he'])
    simp only [houtcome', hmove, Machine.make, answer, hframes, answered]
    exact woken_outcome _ w

end Machine

end Switchboard
