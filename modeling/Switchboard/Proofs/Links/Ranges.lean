import Switchboard.Proofs.Links

/-! # Links beyond the range of their set

The set of linked numbers has room for the numbers up to its capacity, while the list of links takes
any. Links that are coherent with a set that has room for all numbers are `Kept` with the set that
they have: this holds the numbers of the links up to its capacity, whichever they are, and every
operation keeps it so. -/

namespace Switchboard.Links

/-- The links with another set beside them. -/
def withBound (l : Links) (s : NumberSet) : Links := { l with bound := s }

/-- Coherent links, the set of which holds their numbers as far as it reaches. -/
structure Kept (c : UInt16) (l : Links) : Prop where
  sized : l.bound.Sized
  capacity : l.bound.capacity = c
  /-- The set is that of coherent links, cut off at the capacity. -/
  wide : ∃ w : NumberSet, w.capacity = 65535 ∧ (l.withBound w).Coherent ∧
    ∀ n, l.bound.contains n = true ↔ n ≤ c ∧ w.contains n = true

variable {c : UInt16} {l l' : Links} {w : NumberSet} {id : DeviceId}

/-! ## The set does not decide -/

/-- The set of numbers has no say in a reservation. -/
theorem reserve?_withBound : (l.withBound w).reserve? id = (l.reserve? id).map (·.withBound w) := by
  have hfind : (l.withBound w).find? id = l.find? id := rfl
  have hpending : (l.withBound w).pending = l.pending := rfl
  unfold reserve?
  rw [hfind, hpending]
  split <;> rfl

/-- The set of numbers has no say in what is unlinked. -/
theorem unlink?_withBound : (l.withBound w).unlink? id =
    (l.unlink? id).map fun e => (e.1, e.2.withBound (w.erase id.number)) := by
  have hfind : (l.withBound w).find? id = l.find? id := rfl
  unfold unlink?
  rw [hfind]
  cases l.find? id <;> rfl

/-- Every device's number is in the range of the widest set. -/
theorem inRange_of_wide (h : w.capacity = 65535) (id : DeviceId) : w.InRange id.number := by
  refine ⟨id.number_ne_zero, ?_⟩
  rw [h]
  exact Nat.le_of_lt_succ id.number.toNat_lt

/-! ## Every operation keeps the links -/

/-- An empty set of links is kept. -/
theorem kept_empty (c : UInt16) : (empty c).Kept c where
  sized := NumberSet.sized_empty c
  capacity := rfl
  wide := ⟨.empty 65535, rfl, coherent_empty 65535, by simp [empty]⟩

/-- A reservation keeps the links kept. -/
theorem Kept.reserve? (h : l.Kept c) (hr : l.reserve? id = some l') : l'.Kept c := by
  obtain ⟨w, hw, hcoherent, hbound⟩ := h.wide
  -- claims are made in the lists, and both sets stay as they are
  have hwide : (l.withBound w).reserve? id = some (l'.withBound w) := by
    rw [reserve?_withBound, hr]
    rfl
  obtain ⟨-, -, rfl⟩ := reserve?_eq_some hr
  exact ⟨h.sized, h.capacity, w, hw, hcoherent.reserve? hwide, hbound⟩

/-- A cancelled reservation keeps the links kept. -/
theorem Kept.cancel (h : l.Kept c) (id : DeviceId) : (l.cancel id).Kept c := by
  obtain ⟨w, hw, hcoherent, hbound⟩ := h.wide
  exact ⟨h.sized, h.capacity, w, hw, hcoherent.cancel id, hbound⟩

/-- A confirmed reservation keeps the links kept. -/
theorem Kept.confirm (h : l.Kept c) (key : Nat) (new : ∀ e ∈ l.linked, e.1 ≠ id) :
    (l.confirm id key false).2.Kept c := by
  obtain ⟨w, hw, hcoherent, hbound⟩ := h.wide
  have hrange := inRange_of_wide hw id
  have hsized : w.Sized := hcoherent.sized
  refine ⟨h.sized.insert _, (NumberSet.capacity_insert ..).trans h.capacity, w.insert id.number,
    (NumberSet.capacity_insert ..).trans hw, hcoherent.confirm key new hrange, fun n => ?_⟩
  -- the wide set has room for the new number, and the set has it up to its capacity
  have hown : l.bound.InRange id.number ↔ id.number ≤ c := by
    rw [NumberSet.InRange, h.capacity, UInt16.le_iff_toNat_le]
    exact and_iff_right id.number_ne_zero
  show (l.bound.insert id.number).contains n = true ↔ _
  rw [NumberSet.contains_insert h.sized, NumberSet.contains_insert hsized, hbound n]
  constructor
  · rintro (⟨rfl, hn⟩ | ⟨hn, hold⟩)
    · exact ⟨hown.1 hn, Or.inl ⟨rfl, hrange⟩⟩
    · exact ⟨hn, Or.inr hold⟩
  · rintro ⟨hn, ⟨rfl, -⟩ | hold⟩
    · exact Or.inl ⟨rfl, hown.2 hn⟩
    · exact Or.inr ⟨hn, hold⟩

/-- Unlinking keeps the links kept. -/
theorem Kept.unlink? (h : l.Kept c) {key : Nat} (hu : l.unlink? id = some (key, l')) :
    l'.Kept c := by
  obtain ⟨w, hw, hcoherent, hbound⟩ := h.wide
  have hwide : (l.withBound w).unlink? id = some (key, l'.withBound (w.erase id.number)) := by
    rw [unlink?_withBound, hu]
    rfl
  have hsized : w.Sized := hcoherent.sized
  obtain ⟨-, -, -, hset⟩ := unlink?_eq_some hu
  refine ⟨hset ▸ h.sized.erase _, ?_, w.erase id.number, (NumberSet.capacity_erase ..).trans hw,
    hcoherent.unlink? hwide, fun n => ?_⟩
  · rw [hset, NumberSet.capacity_erase, h.capacity]
  · rw [hset, NumberSet.contains_erase h.sized, NumberSet.contains_erase hsized, hbound n]
    exact and_left_comm

/-- Erasing numbers one by one does not change the capacity. -/
theorem capacity_foldl_erase (links : List (DeviceId × Nat)) (s : NumberSet) :
    (links.foldl (fun s e => s.erase e.1.number) s).capacity = s.capacity := by
  induction links generalizing s with
  | nil => rfl
  | cons e links ih => rw [List.foldl_cons, ih, NumberSet.capacity_erase]

/-- Clearing keeps the links kept. -/
theorem Kept.clear (h : l.Kept c) : l.clear.Kept c := by
  obtain ⟨w, hw, hcoherent, hbound⟩ := h.wide
  have hsized : w.Sized := hcoherent.sized
  have hclear : (l.clear.withBound
      (l.linked.foldl (fun (s : NumberSet) e => s.erase e.1.number) w)).Coherent := hcoherent.clear
  refine ⟨(contains_foldl_erase h.sized 0).1, (capacity_foldl_erase ..).trans h.capacity, _,
    (capacity_foldl_erase ..).trans hw, hclear, fun n => ?_⟩
  refine (contains_foldl_erase h.sized n).2.trans ?_
  rw [(contains_foldl_erase hsized n).2, hbound n]
  exact and_assoc

/-! ## What is kept -/

/-- The linked devices stand in ascending order of their numbers. -/
theorem Kept.ascending (h : l.Kept c) :
    l.linked.Pairwise fun e f => e.1.number < f.1.number := by
  obtain ⟨w, -, hcoherent, -⟩ := h.wide
  exact hcoherent.ascending

/-- No device is reserved twice. -/
theorem Kept.pending_nodup (h : l.Kept c) : l.pending.Nodup := by
  obtain ⟨w, -, hcoherent, -⟩ := h.wide
  exact hcoherent.pending_nodup

/-- A linked device is not reserved as well. -/
theorem Kept.apart (h : l.Kept c) : ∀ e ∈ l.linked, e.1 ∉ l.pending := by
  obtain ⟨w, -, hcoherent, -⟩ := h.wide
  exact hcoherent.apart

/-- The set holds the numbers of the links up to its capacity. -/
theorem Kept.isBound_iff (h : l.Kept c) (id : DeviceId) :
    l.isBound id = true ↔ id.number ≤ c ∧ ∃ key, (id, key) ∈ l.linked := by
  obtain ⟨w, -, hcoherent, hbound⟩ := h.wide
  exact (hbound id.number).trans (and_congr_right fun _ => hcoherent.bound_iff id)

end Switchboard.Links
