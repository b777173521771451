import Mathlib.Logic.Function.Basic
import Switchboard.NumberPool
import Switchboard.Proofs.NumberSet
import Switchboard.Proofs.Roster

/-! # Directories

Devices and applications are kept in the same way. Records are known by keys and have numbers; a
table leads from numbers to the keys of the records that are there, and a pool knows the numbers in
use, also those of records that have left the table and are closing. Such a `Directory` is `Sound`
when table, pool and records agree, and every `Change` of a directory keeps it sound. -/

namespace Switchboard

open Function (update)

/-- Records under numbers: those that are there, and those that are closing. -/
@[ext] structure Directory where
  table : Roster Nat
  pool : NumberPool
  size : Nat
  number : Nat → UInt16
  active : Nat → Bool
  /-- How many teardowns of a record are under way. -/
  closing : Nat → Nat

/-- The lowest number from 1 to a limit that is not taken. -/
structure IsLowestFree (taken : UInt16 → Prop) (limit n : UInt16) : Prop where
  pos : 1 ≤ n
  le : n ≤ limit
  free : ¬taken n
  lowest : ∀ k, 1 ≤ k → k < n → taken k

namespace NumberPool

/-- The numbers of a pool, by themselves and as numbers in the range of its set. -/
theorem inRange_iff (p : NumberPool) (n : UInt16) :
    p.inUse.InRange n ↔ 1 ≤ n ∧ n ≤ p.capacity := by
  unfold NumberSet.InRange capacity
  rw [UInt16.le_iff_toNat_le, UInt16.le_iff_toNat_le, Ne, ← UInt16.toNat_inj]
  exact and_congr_left' (Nat.pos_iff_ne_zero (n := n.toNat)).symm

/-- A pool gives out the lowest number that is free. -/
theorem allocate_eq_ok_iff {p : NumberPool} (h : p.inUse.Sized) {n : UInt16} :
    (∃ pool, p.allocate = .ok (n, pool)) ↔
      IsLowestFree (fun k => p.isAllocated k = true) p.capacity n := by
  constructor
  · rintro ⟨pool, hpool⟩
    unfold allocate at hpool
    split at hpool
    · rename_i n' set htake
      cases hpool
      obtain ⟨hrange, hfree, -⟩ := NumberSet.takeLowest?_eq_some htake
      obtain ⟨hpos, hle⟩ := (p.inRange_iff n).1 hrange
      refine ⟨hpos, hle, Bool.eq_false_iff.1 hfree, fun k hk hlt => ?_⟩
      by_contra hno
      have hkrange := (p.inRange_iff k).2 ⟨hk, UInt16.le_trans (UInt16.le_of_lt hlt) hle⟩
      have hle := NumberSet.takeLowest?_le htake hkrange (Bool.eq_false_iff.2 hno)
      exact absurd (UInt16.lt_iff_toNat_lt.1 hlt) (Nat.not_lt.2 hle)
    · cases hpool
  · intro hn
    have hrange := (p.inRange_iff n).2 ⟨hn.pos, hn.le⟩
    cases htake : p.inUse.takeLowest? with
    | none => exact absurd ((NumberSet.takeLowest?_eq_none_iff h).1 htake n hrange) hn.free
    | some e =>
      obtain ⟨n', set⟩ := e
      obtain ⟨hrange', hfree', -⟩ := NumberSet.takeLowest?_eq_some htake
      -- the number that is taken is at most this one, and no lower one is free
      have hle := NumberSet.takeLowest?_le htake hrange (Bool.eq_false_iff.2 hn.free)
      have hge : ¬n' < n := fun hlt =>
        Bool.eq_false_iff.1 hfree' (hn.lowest n' ((p.inRange_iff n').1 hrange').1 hlt)
      obtain rfl : n' = n :=
        UInt16.le_antisymm (UInt16.le_iff_toNat_le.2 hle) (UInt16.not_lt.1 hge)
      exact ⟨⟨set⟩, by simp [allocate, htake]⟩

/-- A pool gives out no number exactly when all are in use. -/
theorem allocate_eq_error_iff {p : NumberPool} (h : p.inUse.Sized) :
    (∃ e, p.allocate = .error e) ↔ ∀ n, 1 ≤ n → n ≤ p.capacity → p.isAllocated n = true := by
  have hnone : (∃ e, p.allocate = .error e) ↔ p.inUse.takeLowest? = none := by
    unfold allocate
    cases p.inUse.takeLowest? <;> simp
  rw [hnone, NumberSet.takeLowest?_eq_none_iff h]
  exact forall_congr' fun n => (imp_congr_left (p.inRange_iff n)).trans and_imp

end NumberPool

namespace Directory

/-- Whether the number of a record is taken by it. -/
def InUse (s : Directory) (k : Nat) : Prop := s.active k = true ∨ s.closing k ≠ 0

/-- Table, pool and records agree. -/
structure Sound (s : Directory) : Prop where
  /-- The table is in order. -/
  ordered : s.table.Ordered
  /-- The pool has room for its numbers. -/
  sized : s.pool.inUse.Sized
  /-- The table lists the active records under their numbers. -/
  listed : ∀ n k, s.table.get? n = some k ↔ s.active k = true ∧ s.number k = n
  /-- Only records that have arrived take a number. -/
  inUse_lt : ∀ k, s.InUse k → k < s.size
  /-- No record is torn down twice. -/
  closing_le : ∀ k, s.closing k ≤ 1
  /-- A closing record is not active any more. -/
  apart : ∀ k, s.closing k ≠ 0 → s.active k = false
  /-- The pool knows the numbers that are taken. -/
  allocated : ∀ n, s.pool.isAllocated n = true ↔ ∃ k, s.InUse k ∧ s.number k = n
  /-- No number is taken twice. -/
  number_inj : ∀ k k', s.InUse k → s.InUse k' → s.number k = s.number k' → k = k'

/-- The directory with a new record. -/
def add (s : Directory) (n : UInt16) (pool : NumberPool) (table : Roster Nat) : Directory :=
  { s with
    table := table
    pool := pool
    size := s.size + 1
    number := update s.number s.size n
    active := update s.active s.size true }

/-- The directory with a record taken out of the table, which is closing from then on. -/
def retire (s : Directory) (k : Nat) (table : Roster Nat) : Directory :=
  { s with
    table := table
    active := update s.active k false
    closing := update s.closing k (s.closing k + 1) }

/-- The directory with a record closed and its number given back. -/
def free (s : Directory) (k : Nat) : Directory :=
  { s with
    pool := s.pool.free (s.number k)
    closing := update s.closing k (s.closing k - 1) }

/-- What can happen to a directory. -/
inductive Change (s : Directory) : Directory → Prop where
  /-- Nothing. -/
  | same : Change s s
  /-- A record arrives under the lowest free number. -/
  | add {n : UInt16} {pool : NumberPool} {table : Roster Nat}
      (allocated : s.pool.allocate = .ok (n, pool))
      (inserted : s.table.insert? n s.size = some table) : Change s (s.add n pool table)
  /-- A record leaves the table and is closing from then on. -/
  | retire {n : UInt16} {k : Nat} {table : Roster Nat}
      (removed : s.table.remove? n = some (k, table)) : Change s (s.retire k table)
  /-- A record is closed, and its number is free again. -/
  | free {k : Nat} (closing : s.closing k ≠ 0) : Change s (s.free k)

/-- A change may be stated with its end spelled another way. -/
theorem Change.of_eq {s t u : Directory} (h : Change s t) (e : u = t) : Change s u := e ▸ h

variable {s t : Directory}

/-- One more teardown of a record is under way. -/
theorem closing_succ {f g : Nat → Nat} {k : Nat} (h : ∀ k', g k' = f k' + if k = k' then 1 else 0) :
    g = update f k (f k + 1) := by
  funext k'
  rw [h]
  by_cases hk : k' = k
  · subst hk
    rw [Function.update_self, if_pos rfl]
  · rw [Function.update_of_ne hk, if_neg (Ne.symm hk), Nat.add_zero]

/-- One teardown of a record has ended. -/
theorem closing_pred {f g : Nat → Nat} {k : Nat} (h : ∀ k', f k' = g k' + if k = k' then 1 else 0) :
    g = update f k (f k - 1) := by
  funext k'
  by_cases hk : k' = k
  · subst hk
    rw [Function.update_self, h, if_pos rfl, Nat.add_sub_cancel]
  · rw [Function.update_of_ne hk, h, if_neg (Ne.symm hk), Nat.add_zero]

/-! ## Arrival -/

/-- The number that a pool gives out was free, and is taken afterwards. -/
theorem allocate_eq_ok {p pool : NumberPool} {n : UInt16} (h : p.allocate = .ok (n, pool)) :
    p.inUse.InRange n ∧ p.isAllocated n = false ∧ pool = ⟨p.inUse.insert n⟩ := by
  unfold NumberPool.allocate at h
  split at h
  · rename_i n' set htake
    cases h
    obtain ⟨hrange, hfree, rfl⟩ := NumberSet.takeLowest?_eq_some htake
    exact ⟨hrange, hfree, rfl⟩
  · cases h

/-- The records in the table are the active ones. -/
theorem Sound.mem_table (h : s.Sound) (k : Nat) : k ∈ s.table.values ↔ s.active k = true := by
  refine (h.ordered.mem_values k).trans ?_
  constructor
  · rintro ⟨n, hn⟩
    exact ((h.listed n k).1 hn).1
  · intro hk
    exact ⟨_, (h.listed _ k).2 ⟨hk, rfl⟩⟩

/-- A record that has not arrived is neither active nor closing. -/
theorem Sound.new (h : s.Sound) : s.active s.size = false ∧ s.closing s.size = 0 := by
  have hnot : ¬s.InUse s.size := fun hin => Nat.lt_irrefl _ (h.inUse_lt _ hin)
  constructor
  · exact Bool.eq_false_iff.2 fun ha => hnot (Or.inl ha)
  · by_contra hc
    exact hnot (Or.inr hc)

/-- The records that take a number after an arrival. -/
theorem inUse_add (n : UInt16) (pool : NumberPool) (table : Roster Nat) (k : Nat) :
    (s.add n pool table).InUse k ↔ k = s.size ∨ s.InUse k := by
  by_cases hk : k = s.size
  · subst hk
    simp [InUse, add]
  · simp [InUse, add, hk]

/-- A number that the pool has free is not that of a record in use. -/
theorem Sound.number_ne (h : s.Sound) {n : UInt16} (free : s.pool.isAllocated n = false) {k : Nat}
    (hk : s.InUse k) : s.number k ≠ n := by
  rintro rfl
  have htaken := (h.allocated _).2 ⟨k, hk, rfl⟩
  rw [free] at htaken
  cases htaken

/-- A directory stays sound when a record arrives under a number that was allocated. -/
theorem Sound.add (h : s.Sound) {n : UInt16} {pool : NumberPool} {table : Roster Nat}
    (allocated : s.pool.allocate = .ok (n, pool))
    (inserted : s.table.insert? n s.size = some table) : (s.add n pool table).Sound := by
  obtain ⟨hrange, hfree, rfl⟩ := allocate_eq_ok allocated
  have hclosing := h.new.2
  have hnew : ¬s.InUse s.size := fun hin => Nat.lt_irrefl _ (h.inUse_lt _ hin)
  -- the records in use keep their numbers, and the new one has the number given out
  have hnumber : ∀ k, s.InUse k → update s.number s.size n k = s.number k := fun k hk =>
    Function.update_of_ne (fun e : k = s.size => hnew (e ▸ hk)) ..
  have hself : update s.number s.size n s.size = n := Function.update_self ..
  constructor
  case ordered => exact h.ordered.insert? inserted
  case sized => exact h.sized.insert n
  -- the new record is active under the number given out, and the others as before
  case listed =>
    intro n' k
    dsimp only [Directory.add]
    rw [Roster.get?_insert? inserted, h.listed]
    by_cases hk : k = s.size
    · subst hk
      rw [Function.update_self, hself, h.new.1]
      simpa using eq_comm
    · rw [Function.update_of_ne hk, Function.update_of_ne hk]
      simp [hk]
  case inUse_lt =>
    intro k hk
    dsimp only [Directory.add]
    rcases (inUse_add n _ table k).1 hk with rfl | hk
    · exact Nat.lt_succ_self _
    · exact Nat.lt_succ_of_lt (h.inUse_lt k hk)
  case closing_le => exact h.closing_le
  case apart =>
    intro k hk
    dsimp only [Directory.add] at hk ⊢
    have hne : k ≠ s.size := fun e => hk (e ▸ hclosing)
    rw [Function.update_of_ne hne]
    exact h.apart k hk
  -- a number is taken if it was before, or if it is the one given out
  case allocated =>
    intro n'
    simp only [inUse_add n _ table]
    refine (NumberSet.contains_insert h.sized n n').trans ?_
    constructor
    · rintro (⟨rfl, -⟩ | hold)
      · exact ⟨s.size, Or.inl rfl, hself⟩
      · obtain ⟨k, hk, hn⟩ := (h.allocated n').1 hold
        exact ⟨k, Or.inr hk, (hnumber k hk).trans hn⟩
    · rintro ⟨k, rfl | hk, hn⟩
      · exact Or.inl ⟨hn.symm.trans hself, hrange⟩
      · exact Or.inr ((h.allocated n').2 ⟨k, hk, (hnumber k hk).symm.trans hn⟩)
  case number_inj =>
    intro k k' hk hk' e
    dsimp only [Directory.add] at e
    -- two records of before are told apart as before, and the number of the new one was free
    rcases (inUse_add n _ table k).1 hk with rfl | hk <;>
      rcases (inUse_add n _ table k').1 hk' with rfl | hk'
    · rfl
    · rw [hself, hnumber k' hk'] at e
      exact absurd e.symm (h.number_ne hfree hk')
    · rw [hself, hnumber k hk] at e
      exact absurd e (h.number_ne hfree hk)
    · rw [hnumber k hk, hnumber k' hk'] at e
      exact h.number_inj k k' hk hk' e

/-! ## Retirement -/

/-- A record that leaves the table is active and stands there under its number. -/
theorem Sound.of_removed (h : s.Sound) {n : UInt16} {k : Nat} {table : Roster Nat}
    (removed : s.table.remove? n = some (k, table)) : s.active k = true ∧ s.number k = n := by
  obtain ⟨⟨serial, he⟩, -⟩ := Roster.entry_remove? removed
  exact (h.listed n k).1 (Roster.get?_eq_some_iff.2 ⟨serial, he⟩)

/-- A record that leaves the table takes its number still. -/
theorem inUse_retire {k : Nat} (active : s.active k = true) (table : Roster Nat) (k' : Nat) :
    (s.retire k table).InUse k' ↔ s.InUse k' := by
  by_cases hk : k' = k
  · subst hk
    simp [InUse, retire, active]
  · simp [InUse, retire, hk]

/-- A directory stays sound when a record is taken out of the table. -/
theorem Sound.retire (h : s.Sound) {n : UInt16} {k : Nat} {table : Roster Nat}
    (removed : s.table.remove? n = some (k, table)) : (s.retire k table).Sound := by
  obtain ⟨hactive, hnumber⟩ := h.of_removed removed
  -- what stands in the table is not being closed
  have hclosing : s.closing k = 0 := by
    by_contra hc
    rw [h.apart k hc] at hactive
    cases hactive
  have hinUse := inUse_retire hactive table
  constructor
  case ordered => exact h.ordered.remove? removed
  case sized => exact h.sized
  case listed =>
    intro n' k'
    dsimp only [Directory.retire]
    rw [Roster.get?_remove? removed, h.listed]
    by_cases hk : k' = k
    · -- the number that the record had is not listed any more
      subst hk
      rw [Function.update_self, hnumber]
      simpa using fun hne _ e => hne e.symm
    · rw [Function.update_of_ne hk]
      -- another record with the number would be the same record
      refine and_iff_right_of_imp ?_
      rintro ⟨ha, hn⟩ rfl
      exact hk (h.number_inj k' k (Or.inl ha) (Or.inl hactive) (hn.trans hnumber.symm))
  case inUse_lt => exact fun k' hk' => h.inUse_lt k' ((hinUse k').1 hk')
  case closing_le =>
    intro k'
    dsimp only [Directory.retire]
    by_cases hk : k' = k
    · subst hk
      simp [hclosing]
    · simp only [Function.update_of_ne hk]
      exact h.closing_le k'
  case apart =>
    intro k' hc
    dsimp only [Directory.retire] at hc ⊢
    by_cases hk : k' = k
    · subst hk
      exact Function.update_self ..
    · rw [Function.update_of_ne hk] at hc ⊢
      exact h.apart k' hc
  case allocated =>
    intro n'
    simp only [hinUse]
    exact h.allocated n'
  case number_inj =>
    exact fun k' k'' hk' hk'' => h.number_inj k' k'' ((hinUse k').1 hk') ((hinUse k'').1 hk'')

/-! ## Closing -/

/-- The records that take a number after one has been closed. -/
theorem Sound.inUse_free (h : s.Sound) {k : Nat} (closing : s.closing k ≠ 0) (k' : Nat) :
    (s.free k).InUse k' ↔ k' ≠ k ∧ s.InUse k' := by
  have hle := h.closing_le k
  have hone : s.closing k - 1 = 0 := by omega
  by_cases hk : k' = k
  · subst hk
    simp [InUse, Directory.free, h.apart k' closing, hone]
  · simp [InUse, Directory.free, hk]

/-- A directory stays sound when a record that is closing gives its number back. -/
theorem Sound.free (h : s.Sound) {k : Nat} (closing : s.closing k ≠ 0) : (s.free k).Sound := by
  have hinUse := h.inUse_free closing
  constructor
  case ordered => exact h.ordered
  case sized => exact h.sized.erase _
  case listed => exact h.listed
  case inUse_lt => exact fun k' hk' => h.inUse_lt k' ((hinUse k').1 hk').2
  case closing_le =>
    intro k'
    dsimp only [Directory.free]
    by_cases hk : k' = k
    · subst hk
      rw [Function.update_self]
      exact Nat.le_trans (Nat.sub_le _ _) (h.closing_le k')
    · rw [Function.update_of_ne hk]
      exact h.closing_le k'
  case apart =>
    intro k' hc
    dsimp only [Directory.free] at hc ⊢
    by_cases hk : k' = k
    · subst hk
      exact h.apart k' closing
    · rw [Function.update_of_ne hk] at hc
      exact h.apart k' hc
  -- a number is taken still when another record has it than the one that is closed
  case allocated =>
    intro n'
    simp only [hinUse]
    refine (NumberSet.contains_erase h.sized (s.number k) n').trans ?_
    constructor
    · rintro ⟨hne, hold⟩
      obtain ⟨k', hk', hn⟩ := (h.allocated n').1 hold
      refine ⟨k', ⟨?_, hk'⟩, hn⟩
      rintro rfl
      exact hne hn.symm
    · rintro ⟨k', ⟨hne, hk'⟩, rfl⟩
      exact ⟨fun e => hne (h.number_inj k' k hk' (Or.inr closing) e),
        (h.allocated _).2 ⟨k', hk', rfl⟩⟩
  case number_inj =>
    exact fun k' k'' hk' hk'' => h.number_inj k' k'' ((hinUse k').1 hk').2 ((hinUse k'').1 hk'').2

/-- Every change keeps a directory sound. -/
theorem Sound.change (h : s.Sound) (c : Change s t) : t.Sound := by
  cases c with
  | same => exact h
  | add allocated inserted => exact h.add allocated inserted
  | retire removed => exact h.retire removed
  | free closing => exact h.free closing

/-- A record that has arrived and is not active stays so. -/
theorem Change.retired (c : Change s t) {k : Nat} (hk : k < s.size) (retired : s.active k = false) :
    k < t.size ∧ t.active k = false := by
  cases c with
  | same => exact ⟨hk, retired⟩
  | add => exact ⟨Nat.lt_succ_of_lt hk, (Function.update_of_ne (Nat.ne_of_lt hk) ..).trans retired⟩
  | @retire n k' table =>
    refine ⟨hk, ?_⟩
    by_cases e : k = k'
    · subst e
      exact Function.update_self ..
    · exact (Function.update_of_ne e ..).trans retired
  | free => exact ⟨hk, retired⟩

/-- A record that has arrived keeps its number. -/
theorem Change.number_eq (c : Change s t) {k : Nat} (hk : k < s.size) :
    k < t.size ∧ t.number k = s.number k := by
  cases c with
  | same | retire | free => exact ⟨hk, rfl⟩
  | add => exact ⟨Nat.lt_succ_of_lt hk, Function.update_of_ne (Nat.ne_of_lt hk) ..⟩

/-- Records stay. -/
theorem Change.size_le (c : Change s t) : s.size ≤ t.size := by
  cases c with
  | same | retire | free => exact Nat.le_refl _
  | add => exact Nat.le_succ _

/-- A record that has arrived and has its number no more does not have it again. -/
theorem Sound.not_inUse_change (h : s.Sound) (c : Change s t) {k : Nat} (hk : k < s.size)
    (unused : ¬s.InUse k) : ¬t.InUse k := by
  cases c with
  | same => exact unused
  | @add n pool table =>
    intro hin
    rcases (inUse_add n pool table k).1 hin with rfl | hin
    · exact Nat.lt_irrefl _ hk
    · exact unused hin
  | @retire n k' table removed =>
    exact fun hin => unused ((inUse_retire (h.of_removed removed).1 table k).1 hin)
  | free closing => exact fun hin => unused ((h.inUse_free closing k).1 hin).2

/-- A record that is neither active nor closing was not active before. -/
theorem Change.retired_before (c : Change s t) {k : Nat} (retired : t.active k = false)
    (closed : t.closing k = 0) : s.active k = false := by
  cases c with
  | same => exact retired
  | add =>
    have e : k ≠ s.size := by
      rintro rfl
      simp [Directory.add] at retired
    simpa [Directory.add, e] using retired
  | @retire n k' table =>
    have e : k ≠ k' := by
      rintro rfl
      simp [Directory.retire] at closed
    simpa [Directory.retire, e] using retired
  | free => exact retired

/-! ## Capacity -/

/-- Table and pool have room for the numbers up to a capacity. -/
structure HasCapacity (s : Directory) (c : UInt16) : Prop where
  pool : s.pool.inUse.capacity = c
  slots : s.table.slots.size = c.toNat

/-- A directory keeps its capacity. -/
theorem Change.hasCapacity (ch : Change s t) {c : UInt16} (h : s.HasCapacity c) :
    t.HasCapacity c := by
  cases ch with
  | same => exact h
  | add allocated inserted =>
    obtain ⟨-, -, rfl⟩ := allocate_eq_ok allocated
    exact ⟨(NumberSet.capacity_insert ..).trans h.pool,
      (Roster.size_slots_insert? inserted).trans h.slots⟩
  | retire removed =>
    obtain ⟨⟨serial, hentry⟩, -⟩ := Roster.entry_remove? removed
    exact ⟨h.pool, (Roster.order_remove? removed hentry).2.2.trans h.slots⟩
  | free => exact ⟨(NumberSet.capacity_erase ..).trans h.pool, h.slots⟩

/-- A number is taken by a record that has it still. -/
def Taken (s : Directory) (n : UInt16) : Prop := ∃ k, s.InUse k ∧ s.number k = n

/-- The number given out is the lowest that no record has. -/
theorem Sound.allocate_iff (h : s.Sound) {c : UInt16} (cap : s.HasCapacity c) {n : UInt16} :
    (∃ pool, s.pool.allocate = .ok (n, pool)) ↔ IsLowestFree s.Taken c n := by
  rw [NumberPool.allocate_eq_ok_iff h.sized, NumberPool.capacity, cap.pool]
  exact iff_of_eq (congrArg (IsLowestFree · c n) (funext fun k => propext (h.allocated k)))

/-- No number is given out exactly when records have them all. -/
theorem Sound.allocate_error_iff (h : s.Sound) {c : UInt16} (cap : s.HasCapacity c) :
    (∃ e, s.pool.allocate = .error e) ↔ ∀ n, 1 ≤ n → n ≤ c → s.Taken n := by
  rw [NumberPool.allocate_eq_error_iff h.sized, NumberPool.capacity, cap.pool]
  exact forall_congr' fun n => imp_congr_right fun _ => imp_congr_right fun _ => h.allocated n

/-- A number that the pool gives out can be entered in the table. -/
theorem Sound.insert?_of_allocate (h : s.Sound) {c : UInt16} (cap : s.HasCapacity c) {n : UInt16}
    {pool : NumberPool} (allocated : s.pool.allocate = .ok (n, pool)) (k : Nat) :
    ∃ table, s.table.insert? n k = some table := by
  obtain ⟨hrange, hfree, -⟩ := allocate_eq_ok allocated
  have hlt : n.toNat - 1 < s.table.slots.size := by
    rw [cap.slots, ← cap.pool]
    exact hrange.pred_lt
  refine Roster.insert?_of_get? hrange.1 hlt ?_ k
  -- a record under the number would take it
  cases hget : s.table.get? n with
  | none => rfl
  | some k' =>
    obtain ⟨hactive, hnumber⟩ := (h.listed n k').1 hget
    exact absurd hnumber (h.number_ne hfree (Or.inl hactive))

/-- Nothing has arrived yet. -/
theorem sound_new (capacity : UInt16) (number : Nat → UInt16) :
    Sound ⟨.empty capacity, .full capacity, 0, number, fun _ => false, fun _ => 0⟩ where
  ordered := Roster.ordered_empty capacity
  sized := NumberSet.sized_empty capacity
  listed n k := by simp [Roster.get?_eq_some_iff]
  inUse_lt k hk := by simp [InUse] at hk
  closing_le k := Nat.zero_le 1
  apart k hk := by simp at hk
  allocated n := by simp [InUse, NumberPool.isAllocated, NumberPool.full]
  number_inj k k' hk := by simp [InUse] at hk

/-- A new directory has the capacity that it is made for. -/
theorem hasCapacity_new (capacity : UInt16) (number : Nat → UInt16) :
    HasCapacity ⟨.empty capacity, .full capacity, 0, number, fun _ => false, fun _ => 0⟩ capacity where
  pool := rfl
  slots := Array.size_replicate ..

/-! ## Entries -/

variable {serial : Nat} {n : UInt16} {k : Nat}

/-- A record that has arrived is not entered again. -/
theorem Change.entry_before (c : Change s t) (hk : k < s.size) (h : t.table.Entry serial n k) :
    s.table.Entry serial n k := by
  cases c with
  | same | free => exact h
  | add _ inserted =>
    rcases ((Roster.entry_insert? inserted).2 serial n k).1 h with ⟨-, -, rfl⟩ | h
    · exact absurd hk (Nat.lt_irrefl _)
    · exact h
  | retire removed => exact (((Roster.entry_remove? removed).2 serial n k).1 h).2

/-- A record is entered once. -/
theorem Sound.serial_inj (h : s.Sound) {serial' : Nat} {n' : UInt16}
    (entry : s.table.Entry serial n k) (entry' : s.table.Entry serial' n' k) :
    serial = serial' := by
  have hn := ((h.listed n k).1 (Roster.get?_eq_some_iff.2 ⟨serial, entry⟩)).2
  have hn' := ((h.listed n' k).1 (Roster.get?_eq_some_iff.2 ⟨serial', entry'⟩)).2
  obtain rfl := hn.symm.trans hn'
  exact (Roster.entry_inj entry entry').1

/-- A walk leaves the record that it comes to behind it, which it had ahead. -/
theorem Sound.next?_passes (h : s.Sound) {c c' : Cursor}
    (next : s.table.next? c = some (c', n, k)) : s.table.Ahead c k ∧ ¬s.table.Ahead c' k := by
  obtain ⟨hentry, hlt, -⟩ := h.ordered.next?_eq_some next
  refine ⟨⟨c'.serial, n, hentry, hlt⟩, ?_⟩
  rintro ⟨serial, n', hentry', hlater⟩
  rw [h.serial_inj hentry hentry'] at hlater
  exact Nat.lt_irrefl _ hlater

end Directory

end Switchboard
