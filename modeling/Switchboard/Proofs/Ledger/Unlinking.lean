import Switchboard.Proofs.Ledger.Basic
import Switchboard.Proofs.Links

/-! # Dropping links

When a device is removed the applications in the table drop the links that they have under its
number, one after the other. This changes references to devices and links, and nothing else:
the lemmas of this module say of each part of a ledger what becomes of it. -/

namespace Switchboard

namespace Links

/-- The links without the one under a number. -/
def drop (l : Links) (id : DeviceId) : Links := (l.unlink? id).elim l Prod.snd

variable (l : Links) (id : DeviceId)

/-- The links under other numbers stay. -/
theorem linked_drop : (l.drop id).linked = l.linked.filter fun e => e.1 ≠ id := by
  unfold drop
  cases hu : l.unlink? id with
  | none =>
    have hne := unlink?_eq_none hu
    exact (List.filter_eq_self.2 fun e he => decide_eq_true (hne e he)).symm
  | some e => exact (unlink?_eq_some hu).2.2.1

/-- What is reserved stays reserved. -/
theorem pending_drop : (l.drop id).pending = l.pending := by
  unfold drop
  cases hu : l.unlink? id with
  | none => rfl
  | some e => exact (unlink?_eq_some hu).2.1

/-- The capacity stays. -/
theorem capacity_drop : (l.drop id).bound.capacity = l.bound.capacity := by
  unfold drop
  cases hu : l.unlink? id with
  | none => rfl
  | some e =>
    obtain ⟨-, -, -, hbound⟩ := unlink?_eq_some hu
    rw [Option.elim_some, hbound, NumberSet.capacity_erase]

variable {l}

/-- Links stay coherent when one of them is dropped. -/
theorem Coherent.drop (h : l.Coherent) : (l.drop id).Coherent := by
  unfold Links.drop
  cases hu : l.unlink? id with
  | none => exact h
  | some e => exact h.unlink? hu

end Links

namespace Ledger

variable (s : Ledger) (id : DeviceId)

/-! ## One application -/

/-- Nothing changes but references to devices and links. -/
theorem unlink_eq (a : Nat) :
    s.unlink id a = { s with
      deviceRefs := (s.unlink id a).deviceRefs
      links := (s.unlink id a).links } := by
  unfold unlink
  split <;> rfl

/-- One application drops its link, and the links of the others stay. -/
theorem links_unlink (a : Nat) :
    (s.unlink id a).links = Function.update s.links a ((s.links a).drop id) := by
  unfold unlink Links.drop
  cases (s.links a).unlink? id with
  | none => exact (Function.update_eq_self a s.links).symm
  | some e => rfl

/-- What the links of all applications have in common stays so. -/
theorem links_unlink_of {P : Nat → Links → Prop} (h : ∀ a, P a (s.links a))
    (drop : ∀ a l, P a l → P a (l.drop id)) (a a' : Nat) : P a' ((s.unlink id a).links a') := by
  rw [links_unlink]
  by_cases ha : a' = a
  · subst ha
    rw [Function.update_self]
    exact drop a' _ (h a')
  · rw [Function.update_of_ne ha]
    exact h a'

/-- No reference is taken. -/
theorem deviceRefs_unlink_le (a d : Nat) : (s.unlink id a).deviceRefs d ≤ s.deviceRefs d := by
  unfold unlink
  cases (s.links a).unlink? id with
  | none => exact Nat.le_refl _
  | some e => exact (s.setLinks a e.2).deviceRefs_leaveDevice_le e.1 d

/-! ## All applications in the table -/

/-- What holds of a ledger and is kept when one application drops a link holds once all have. -/
theorem unlinkAll_induction {P : Ledger → Prop} (h : P s)
    (keep : ∀ s a, P s → P (s.unlink id a)) : P (s.unlinkAll id) := by
  unfold unlinkAll
  generalize s.applTable.values = keys
  induction keys generalizing s with
  | nil => exact h
  | cons a rest ih => exact ih (s.unlink id a) (keep s a h)

/-- Dropping links changes references to devices and links, and nothing else. -/
theorem unlinkAll_eq :
    s.unlinkAll id = { s with
      deviceRefs := (s.unlinkAll id).deviceRefs
      links := (s.unlinkAll id).links } := by
  refine unlinkAll_induction s id (P := fun t => t = { s with
    deviceRefs := t.deviceRefs
    links := t.links }) rfl fun t a ht => ?_
  rw [unlink_eq, ht]

/-- What the links of all applications have in common stays so. -/
theorem links_unlinkAll_of {P : Nat → Links → Prop} (h : ∀ a, P a (s.links a))
    (drop : ∀ a l, P a l → P a (l.drop id)) (a : Nat) : P a ((s.unlinkAll id).links a) :=
  unlinkAll_induction s id (P := fun t => ∀ a, P a (t.links a)) h
    (fun t b ht => t.links_unlink_of id ht drop b) a

/-- Links stay coherent when a number is dropped everywhere. -/
theorem coherent_unlinkAll (h : ∀ a, (s.links a).Coherent) (a : Nat) :
    ((s.unlinkAll id).links a).Coherent :=
  s.links_unlinkAll_of id (P := fun _ l => l.Coherent) h (fun _ _ hl => hl.drop id) a

/-- What is reserved stays reserved everywhere. -/
theorem pending_unlinkAll (a : Nat) :
    ((s.unlinkAll id).links a).pending = (s.links a).pending :=
  s.links_unlinkAll_of id (P := fun a l => l.pending = (s.links a).pending) (fun _ => rfl)
    (fun _ l hl => (l.pending_drop id).trans hl) a

/-- The capacities stay. -/
theorem capacity_unlinkAll (a : Nat) :
    ((s.unlinkAll id).links a).bound.capacity = (s.links a).bound.capacity :=
  s.links_unlinkAll_of id (P := fun a l => l.bound.capacity = (s.links a).bound.capacity)
    (fun _ => rfl) (fun _ l hl => (l.capacity_drop id).trans hl) a

/-- No device gets a reference by it. -/
theorem deviceRefs_unlinkAll_le (d : Nat) : (s.unlinkAll id).deviceRefs d ≤ s.deviceRefs d :=
  unlinkAll_induction s id (P := fun t => t.deviceRefs d ≤ s.deviceRefs d) (Nat.le_refl _)
    fun t b ht => Nat.le_trans (t.deviceRefs_unlink_le id b d) ht

/-- The applications in the table drop the links that they have under a number, and the others drop
none. -/
theorem linked_unlinkAll (a : Nat) :
    ((s.unlinkAll id).links a).linked =
      if a ∈ s.applTable.values then (s.links a).linked.filter fun e => e.1 ≠ id
      else (s.links a).linked := by
  unfold unlinkAll
  generalize s.applTable.values = keys
  induction keys generalizing s with
  | nil => rfl
  | cons b rest ih =>
    rw [List.foldl_cons, ih, links_unlink]
    by_cases hb : a = b
    · -- dropping what is gone already makes no difference
      subst hb
      rw [Function.update_self, Links.linked_drop]
      by_cases ha : a ∈ rest <;> simp [ha, List.filter_filter]
    · rw [Function.update_of_ne hb]
      simp [hb]

/-- No link is made. -/
theorem linked_of_linked_unlinkAll (a : Nat) :
    ∀ e ∈ ((s.unlinkAll id).links a).linked, e ∈ (s.links a).linked := by
  intro e he
  rw [linked_unlinkAll] at he
  split at he
  · exact (List.mem_filter.1 he).1
  · exact he

end Ledger

end Switchboard
