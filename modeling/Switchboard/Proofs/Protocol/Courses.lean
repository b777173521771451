import Switchboard.Proofs.Calls
import Switchboard.Proofs.Latch
import Switchboard.Proofs.Protocol.Releases

/-! # The course of a release

A release that is called for of a registered application may have to wait until nobody refers to the
application. Then the application is unwound: its links are taken, the devices that they lead to
have their turns, and the release ends. `ReleaseCourse` says how far a release has come. Whether it
waits or not, it is unwound once before it ends, and nothing but its end is answered as one. -/

namespace Switchboard

/-- An application whose release waits is not unwound yet. -/
theorem Ledger.not_unwound_of_waiting {s : Ledger} {a : Nat} {origin : Origin}
    (waiting : Teardown.appl a origin ∈ s.waiting) : ¬s.Unwound a := fun ⟨_, _, hnone⟩ => by
  have hsome : 0 < s.waitingReleases a := List.countP_pos_iff.2 ⟨_, waiting, by simp⟩
  exact absurd hnone (Nat.ne_of_gt hsome)

/-- A frame that goes on with a release unwinds the application. -/
theorem Frame.unwinding?_of_release? {f : Frame} {a : Nat} {origin : Origin}
    (release : f.release? = some (a, origin)) : f.unwinding? = some a := by
  cases f <;> cases release
  rfl

namespace Machine

/-! ## Courses -/

/-- An event that unwinds an application among other events, which do not. -/
structure UnwindsOnce (h₁ : List Event) (u : Event) (h₂ : List Event) (a : Nat) : Prop where
  unwinds : u.Unwinds a
  before : ∀ e ∈ h₁, ¬e.Unwinds a ∧ e.turn? a = none
  after : ∀ e ∈ h₂, ¬e.Unwinds a

/-- How far a release has come with the events that begin with the call for it. -/
inductive ReleaseCourse (events : List Event) (m : Machine) (a : Nat) (origin : Origin) : Prop where
  /-- The release waits, the application has not been unwound, and no device has had its turn. -/
  | waits (waiting : Teardown.appl a origin ∈ m.waiting)
      (untouched : ∀ e ∈ events, ¬e.Unwinds a ∧ e.turn? a = none)
  /-- The application has been unwound, and the devices that it was linked to are having their
  turns. -/
  | unwinds {h₁ h₂ : List Event} {u : Event} (split : events = h₁ ++ u :: h₂)
      (once : UnwindsOnce h₁ u h₂ a) (inProgress : ∃ f ∈ m.frames, f.release? = some (a, origin))
      (turns : h₂.filterMap (·.turn? a) ++ m.due a =
        (u.before.registry.appls.get a).links.keys)
  /-- The application has been unwound, the devices that it was linked to have had their turns, and
  the release has ended with what was latched. -/
  | ended {h₁ h₂ h₃ : List Event} {u r : Event} (split : events = h₁ ++ u :: (h₂ ++ r :: h₃))
      (once : UnwindsOnce h₁ u (h₂ ++ r :: h₃) a) (ends : r.EndsRelease a origin)
      (reply : r.outcome =
        .ends (.ofReleased origin (.ok (r.before.registry.appls.get a).latched)))
      (turns : h₂.filterMap (·.turn? a) = (u.before.registry.appls.get a).links.keys)
      (afterwards : (r :: h₃).filterMap (·.turn? a) = [])

variable {config : Config} {history h₁ h₂ : List Event} {m : Machine} {e u : Event} {a : Nat}
  {origin : Origin}

/-- An application that is registered before an event has not begun to be unwound by then. -/
theorem Run.not_unwinds_of_appl? (run : Run config history m) {id : ApplId}
    (appl : m.registry.appl? id = some a) : ∀ e ∈ history, ¬e.Unwinds a := by
  intro e he hunwinds
  obtain ⟨h₁, h₂, rfl⟩ := List.append_of_mem he
  obtain ⟨-, hretired, -⟩ := (run.unwound_since rfl hunwinds).1
  have hactive := ((run.reachable.sound.appls.listed id.number a).1 appl).1
  exact absurd (hretired.symm.trans hactive) Bool.false_ne_true

/-- What unwinds an application in a run does so once. -/
theorem Run.unwindsOnce (run : Run config history m) (split : history = h₁ ++ u :: h₂)
    (unwinds : u.Unwinds a) : UnwindsOnce h₁ u h₂ a where
  unwinds := unwinds
  before e he := by
    have hturns := List.filterMap_eq_nil_iff.1 (run.no_turn_before split unwinds)
    exact ⟨(run.unwinds_once split unwinds).1 e he, hturns e he⟩
  after := (run.unwinds_once split unwinds).2

/-- The event that unwinds an application that is being unwound came after the application was
called to be released. -/
theorem Run.unwound_later (run : Run config history m) (split : history = h₁ ++ e :: h₂)
    (untouched : ∀ e ∈ h₁, ¬e.Unwinds a) (unwinding : m.Unwinding a) :
    ∃ h₃ u h₄, e :: h₂ = h₃ ++ u :: h₄ ∧ history = (h₁ ++ h₃) ++ u :: h₄ ∧ u.Unwinds a := by
  have hsome : ∃ u ∈ history, u.Unwinds a := by
    by_contra hnever
    exact (run.no_turn fun u hu hunwinds => hnever ⟨u, hu, hunwinds⟩).2 unwinding
  obtain ⟨u, hu, hunwinds⟩ := hsome
  have hlater : u ∈ e :: h₂ := by
    rw [split] at hu
    exact (List.mem_append.1 hu).resolve_left fun hbefore => untouched u hbefore hunwinds
  obtain ⟨h₃, h₄, hsplit⟩ := List.append_of_mem hlater
  exact ⟨h₃, u, h₄, hsplit, by rw [split, hsplit, List.append_assoc], hunwinds⟩

/-- No device is due any more when a release ends. -/
theorem Event.EndsRelease.due_eq_nil (ends : e.EndsRelease a origin)
    (h : Reachable config e.before) (admitted : e.before.admits e.move = true) :
    e.before.due a = [] := by
  obtain ⟨hmove, fs, hframes⟩ := ends
  have hunwinding : e.before.Unwinding a := ⟨_, hframes ▸ List.mem_cons_self .., rfl⟩
  have hnot : ¬(e.before.make e.move).1.ledger.Unwinding a := by
    rintro ⟨f, hf, hunwind⟩
    exact (h.step admitted).not_inUse_of_released h.sound hmove hframes
      ((h.make admitted).sound.of_unwinding hf hunwind).1
  have hafter : (e.before.make e.move).1.due a = [] := Ledger.due_eq_nil hnot
  rw [← h.due_make admitted (h.sound.unwound hunwinding), hafter, hmove, hframes]
  rfl

/-- **The course of a release.** A release that is called for of a registered application waits, or
the application has been unwound, once, and the devices that it was linked to have had their turns,
are having them, or have them still to come. The release ends when all have had them. -/
theorem Run.releaseCourse (run : Run config history m) (split : history = h₁ ++ e :: h₂)
    {c : Call} {id : ApplId} (move : e.move = .call c)
    (core : e.before.core? c = some (origin, .release id))
    (appl : e.before.registry.appl? id = some a) : ReleaseCourse (e :: h₂) m a origin := by
  have huntouched := (run.before split).not_unwinds_of_appl? appl
  have hbegins : (e.before.make e.move).1.ledger.Releasing a origin := by
    rw [move]
    exact releasing_call core appl
  rcases run.releases split hbegins with (hframe | hwaits) | ⟨h₅, r, h₆, rfl, hends, -⟩
  · -- the links have been taken
    obtain ⟨f, hf, hrelease⟩ := hframe
    obtain ⟨h₃, u, h₄, hcourse, hsplit, hunwinds⟩ := run.unwound_later split huntouched
      ⟨f, hf, Frame.unwinding?_of_release? hrelease⟩
    have honce := run.unwindsOnce hsplit hunwinds
    exact .unwinds hcourse ⟨hunwinds, fun e he => honce.before e (List.mem_append_right _ he),
      honce.after⟩ ⟨f, hf, hrelease⟩ (run.turns_append_due hsplit hunwinds)
  · -- an application that has been unwound would not wait
    have hnever : ∀ u ∈ history, ¬u.Unwinds a := by
      intro u hu hunwinds
      obtain ⟨h₃, h₄, hsplit⟩ := List.append_of_mem hu
      exact Ledger.not_unwound_of_waiting hwaits (run.unwound_since hsplit hunwinds).1
    have hturns := List.filterMap_eq_nil_iff.1 (run.no_turn hnever).1
    have hmem : ∀ e' ∈ e :: h₂, e' ∈ history := fun e' he' => split ▸ List.mem_append_right _ he'
    exact .waits hwaits fun e' he' => ⟨hnever e' (hmem e' he'), hturns e' (hmem e' he')⟩
  · -- the event that unwinds the application is found in the run up to the end of the release
    have hsplit : history = (h₁ ++ e :: h₅) ++ r :: h₆ := by simp [split]
    obtain ⟨hreach, hadmitted, houtcome⟩ := run.event (e := r) (by simp [hsplit])
    have hunwinding : r.before.Unwinding a := by
      obtain ⟨-, fs, hframes⟩ := hends
      exact ⟨_, hframes ▸ List.mem_cons_self .., rfl⟩
    obtain ⟨h₃, u, h₄, hcourse, hbefore, hunwinds⟩ :=
      (run.before hsplit).unwound_later rfl huntouched hunwinding
    have hwhole : history = (h₁ ++ h₃) ++ u :: (h₄ ++ r :: h₆) := by rw [hsplit, hbefore]; simp
    have honce := run.unwindsOnce hwhole hunwinds
    have hturns := (run.before hsplit).turns_append_due hbefore hunwinds
    rw [hends.due_eq_nil hreach hadmitted, List.append_nil] at hturns
    have hall := run.turns_append_due hwhole hunwinds
    rw [List.filterMap_append, List.append_assoc, ← hturns, List.append_right_eq_self] at hall
    have hcourse' : e :: (h₅ ++ r :: h₆) = h₃ ++ u :: (h₄ ++ r :: h₆) := by
      rw [← List.cons_append, hcourse]
      simp
    exact .ended hcourse' ⟨hunwinds, fun e he => honce.before e (List.mem_append_right _ he),
      honce.after⟩ hends (houtcome.trans hends.outcome) hturns (List.append_eq_nil_iff.1 hall).1

/-! ## Replies -/

/-- An event that has to do with a release: it is called for, taken up again or gone on with. -/
inductive Event.Pursues (e : Event) (a : Nat) (origin : Origin) : Prop where
  | calls {c : Call} {id : ApplId} (move : e.move = .call c)
      (core : e.before.core? c = some (origin, .release id))
      (appl : e.before.registry.appl? id = some a)
  | resumes {i : Nat} (move : e.move = .resume i)
      (waits : e.before.waiting[i]? = some (.appl a origin))
  | goesOn {f : Frame} {fs : List Frame} (inside : e.move.starts = false)
      (frames : e.before.frames = f :: fs) (release : f.release? = some (a, origin))

/-- A call for a release that ends at once is deferred, and the release waits. -/
theorem release_ends_deferred {id : ApplId} (appl : m.registry.appl? id = some a) {reply : Reply}
    (ends : (m.release origin id).2 = .ends reply) :
    reply = .deferred ∧ Teardown.appl a origin ∈ (m.release origin id).1.waiting := by
  obtain ⟨table, hremove⟩ := Roster.remove?_of_get? appl
  simp only [release, Registry.retireAppl?, hremove, closeAppl] at ends ⊢
  split at ends
  · cases ends
  · rename_i hheld
    rw [if_neg hheld]
    cases ends
    exact ⟨rfl, List.mem_append_right _ (List.mem_singleton_self _)⟩

/-- A frame that goes on with a release ends it when all devices have had their turns, and does not
end before. -/
theorem ends_of_release? {f : Frame} {fs : List Frame} {mv : Move} (inside : mv.starts = false)
    (frames : m.frames = f :: fs) (release : f.release? = some (a, origin)) {reply : Reply}
    (ends : (m.make mv).2 = .ends reply) : mv = .advance ∧ f = .releasing a origin none [] := by
  cases f <;> cases release
  rename_i telling rest
  cases mv with
  | call | resume => cases inside
  | answer ans =>
    simp only [make, answer, frames] at ends
    cases telling <;> cases ends
  | advance =>
    simp only [make, advance, frames] at ends
    cases telling with
    | some d => cases ends
    | none =>
      cases rest with
      | nil => exact ⟨rfl, rfl⟩
      | cons d rest =>
        -- one more device has its turn, be it told or passed over
        simp only [work] at ends
        split at ends <;> cases ends

/-- A release that is taken up again has its devices to tell, and does not end at once. -/
theorem resume_ne_ends {i : Nat} (waits : m.waiting[i]? = some (.appl a origin)) (reply : Reply) :
    (m.resume i).2 ≠ .ends reply := by
  simp only [resume, waits]
  split <;> exact Outcome.noConfusion

/-- **A release has no reply before it ends.** What has to do with it ends in no other way, but for
the call for it, which may end before the release does and is told that it is deferred. -/
theorem Event.Pursues.reply (pursues : e.Pursues a origin) {reply : Reply}
    (ends : (e.before.make e.move).2 = .ends reply) :
    reply = .deferred ∧ (∃ c, e.move = .call c) ∧
        Teardown.appl a origin ∈ (e.before.make e.move).1.waiting ∨ e.EndsRelease a origin := by
  cases pursues with
  | @calls c id move core appl =>
    left
    obtain ⟨r, hr, hcall⟩ := call_of_core_release core
    rw [move] at ends ⊢
    simp only [make, hcall] at ends ⊢
    obtain ⟨hreply, hwaits⟩ := release_ends_deferred (m := e.before.withRegistry r) (a := a)
      (by rw [withRegistry, Registry.appl?, hr, ← Registry.appl?, appl]) ends
    exact ⟨hreply, ⟨c, rfl⟩, hwaits⟩
  | resumes move waits =>
    rw [move] at ends
    exact absurd ends (resume_ne_ends waits reply)
  | goesOn inside frames release =>
    obtain ⟨hmove, rfl⟩ := ends_of_release? inside frames release ends
    exact Or.inr ⟨hmove, _, frames⟩

end Machine

end Switchboard
