/-! # Stores of records

A store keeps every record it was ever given. A record is known by its key, its place in the order
of arrival, so a key names the same record for good, while the numbers that clients see are used
again. Looking up a key that was never given out yields a blank record. -/

namespace Switchboard

/-- Records in order of arrival. -/
structure Store (α : Type) where
  records : Array α

namespace Store

variable {α : Type}

/-- No records. -/
def empty : Store α := ⟨#[]⟩

instance : Inhabited (Store α) := ⟨empty⟩

/-- How many records there are; also the key of the next. -/
def size (s : Store α) : Nat := s.records.size

/-- The record with a key. -/
def get [Inhabited α] (s : Store α) (key : Nat) : α := s.records.getD key default

/-- The store with another record, whose key is the former size. -/
def add (s : Store α) (a : α) : Store α := ⟨s.records.push a⟩

/-- The store with one record changed. -/
def update [Inhabited α] (s : Store α) (key : Nat) (f : α → α) : Store α :=
  ⟨s.records.setIfInBounds key (f (s.get key))⟩

/-- An empty store has no records. -/
@[simp] theorem size_empty : (empty : Store α).size = 0 := rfl

/-- A store has one record more once one is added. -/
@[simp] theorem size_add (s : Store α) (a : α) : (s.add a).size = s.size + 1 := by
  simp [add, size]

variable [Inhabited α]

/-- An update leaves as many records. -/
@[simp] theorem size_update (s : Store α) (key : Nat) (f : α → α) :
    (s.update key f).size = s.size := by
  simp [update, size]

/-- A record that is added has the next key, and the others keep theirs. -/
theorem get_add (s : Store α) (a : α) (key : Nat) :
    (s.add a).get key = if key = s.size then a else s.get key := by
  simp only [add, get, size, Array.getD_eq_getD_getElem?, Array.getElem?_push]
  split <;> rfl

/-- The record that was added is found under the key it was given. -/
@[simp] theorem get_add_size (s : Store α) (a : α) : (s.add a).get s.size = a := by
  simp [get_add]

/-- An update is seen under its key alone, and not where there is no record. -/
theorem get_update (s : Store α) (key other : Nat) (f : α → α) :
    (s.update key f).get other =
      if other = key ∧ key < s.size then f (s.get key) else s.get other := by
  simp only [update, get, size, Array.getD_eq_getD_getElem?, Array.getElem?_setIfInBounds]
  by_cases h : key = other
  · subst h
    by_cases hk : key < s.records.size
    · simp [hk]
    · simp [hk]
  · simp [h, Ne.symm h]

/-- Where there is no record the default one is found. -/
theorem get_of_size_le (s : Store α) {key : Nat} (h : s.size ≤ key) : s.get key = default := by
  simp only [get, size, Array.getD_eq_getD_getElem?] at h ⊢
  simp [h]

end Store

end Switchboard
