import Switchboard.Text.Layout

/-! # Lifecycles

A record that others refer to has a lifecycle: how many references to it are counted, and whether
it is retiring. It starts with the one reference of its owner. While it is not retiring anyone may
`join?`; afterwards only a holder may `share` its reference. Its teardown is complete when the last
reference has been given up. -/

namespace Switchboard

/-- Counted references to a record, and whether it is retiring. -/
structure Lifecycle where
  refs : Nat
  retiring : Bool
deriving DecidableEq

namespace Lifecycle

/-- The owner's reference to a new record. -/
def fresh : Lifecycle := ⟨1, false⟩

instance : Inhabited Lifecycle := ⟨fresh⟩

/-- Takes a reference, unless the record is retiring or nothing refers to it any more. -/
def join? (l : Lifecycle) : Option Lifecycle :=
  if l.retiring ∨ l.refs = 0 then none else some { l with refs := l.refs + 1 }

/-- Takes another reference for one who holds one. -/
def share (l : Lifecycle) : Lifecycle := { l with refs := l.refs + 1 }

/-- Gives up a reference. -/
def leave (l : Lifecycle) : Lifecycle := { l with refs := l.refs - 1 }

/-- Starts the retirement. -/
def retire (l : Lifecycle) : Lifecycle := { l with retiring := true }

/-- The description of a lifecycle. -/
def describe (l : Lifecycle) : String :=
  Text.recordText "LifecycleGuard"
    [("refs", Text.natText l.refs), ("retiring", Text.boolText l.retiring)] false

/-! ## Basic facts -/

/-- Sharing adds a reference. -/
@[simp] theorem refs_share (l : Lifecycle) : l.share.refs = l.refs + 1 := rfl

/-- Sharing does not retire. -/
@[simp] theorem retiring_share (l : Lifecycle) : l.share.retiring = l.retiring := rfl

/-- Leaving gives a reference up. -/
@[simp] theorem refs_leave (l : Lifecycle) : l.leave.refs = l.refs - 1 := rfl

/-- Leaving does not retire. -/
@[simp] theorem retiring_leave (l : Lifecycle) : l.leave.retiring = l.retiring := rfl

/-- Retiring gives no reference up. -/
@[simp] theorem refs_retire (l : Lifecycle) : l.retire.refs = l.refs := rfl

/-- Retiring sets the flag, and it stays set. -/
@[simp] theorem retiring_retire (l : Lifecycle) : l.retire.retiring = true := rfl

/-- A reference that is taken and given up leaves things as they were. -/
@[simp] theorem leave_share (l : Lifecycle) : l.share.leave = l := rfl

/-- A reference is had exactly from a record that is referred to and not retiring. -/
theorem join?_isSome (l : Lifecycle) : l.join?.isSome = (!l.retiring && l.refs != 0) := by
  obtain ⟨n, r⟩ := l
  cases r <;> cases n <;> simp [join?]

/-- A reference is had of what is neither retiring nor unreferenced. -/
theorem join?_eq_some_iff {l m : Lifecycle} :
    l.join? = some m ↔ l.retiring = false ∧ l.refs ≠ 0 ∧ m = l.share := by
  unfold join? share
  split
  · rename_i h; constructor
    · intro h'; cases h'
    · rintro ⟨h₁, h₂, _⟩; rcases h with h | h <;> simp_all
  · rename_i h; constructor
    · intro h'; cases h'; simp_all
    · rintro ⟨_, _, rfl⟩; rfl

end Lifecycle

end Switchboard
