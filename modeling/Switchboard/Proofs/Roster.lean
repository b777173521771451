import Mathlib.Data.List.Basic
import Switchboard.Proofs.NumberSet
import Switchboard.Roster

/-! # Rosters as ordered tables

A roster keeps its entries twice, by number and in order of entry. It is *ordered* when the two
records agree and the serial numbers ascend. `Entry` is the view of a roster in which its operations
are described: which value stands under which number since which serial number. Main statements:
`entry_insert?`, `entry_remove?` and, for walks, `next?_eq_some` and `next?_eq_none`. -/

namespace Switchboard

namespace Roster

variable {α : Type}

/-- A value stands under a number, entered with a serial number. -/
def Entry (r : Roster α) (serial : Nat) (n : UInt16) (a : α) : Prop := r.slot? n = some ⟨serial, a⟩

/-- The two records of a roster agree, and the order of entry ascends. -/
structure Ordered (r : Roster α) : Prop where
  /-- Serial numbers ascend in the order of entry. -/
  ascending : r.order.toList.Pairwise fun e f => e.1 < f.1
  /-- Serial numbers in use lie between the first position and the next serial number. -/
  bounded : ∀ e ∈ r.order.toList, 0 < e.1 ∧ e.1 < r.nextSerial
  /-- The first serial number to come is later than the first position. -/
  next_pos : 0 < r.nextSerial
  /-- What stands in the order of entry stands under its number. -/
  slot_of_mem : ∀ e ∈ r.order.toList, ∃ a, r.Entry e.1 e.2 a
  /-- What stands under a number stands in the order of entry. -/
  mem_of_slot : ∀ serial n a, r.Entry serial n a → (serial, n) ∈ r.order.toList

/-- A number has one entry at most: the serial and the value are settled by it. -/
theorem entry_inj {r : Roster α} {s t : Nat} {n : UInt16} {a b : α} (h : r.Entry s n a)
    (h' : r.Entry t n b) : s = t ∧ a = b := by
  have := h.symm.trans h'
  simpa using this

/-- A lookup finds exactly the value of the number's entry. -/
theorem get?_eq_some_iff {r : Roster α} {n : UInt16} {a : α} :
    r.get? n = some a ↔ ∃ serial, r.Entry serial n a := by
  unfold get? Entry
  constructor
  · intro h
    obtain ⟨⟨serial, b⟩, hs, rfl⟩ := Option.map_eq_some_iff.1 h
    exact ⟨serial, hs⟩
  · rintro ⟨serial, h⟩
    rw [h]
    rfl

/-! ## Places -/

/-- A number that is not zero has its place one below. -/
theorem place?_of_ne {n : UInt16} (h : n ≠ 0) : place? n = some (n.toNat - 1) := by
  rw [place?, if_neg h]

/-- Filling or emptying the place of a number changes what stands under that number alone. -/
theorem slot?_set (r : Roster α) {n : UInt16} (hn : n ≠ 0) (hlt : n.toNat - 1 < r.slots.size)
    (v : Option (Slot α)) (order : Array (Nat × UInt16)) (next : Nat) (k : UInt16) :
    Roster.slot? ⟨r.slots.setIfInBounds (n.toNat - 1) v, order, next⟩ k =
      if k = n then v else r.slot? k := by
  by_cases hk : k = 0
  · subst hk
    rw [if_neg (Ne.symm hn)]
    rfl
  · simp only [slot?, place?_of_ne hk, Array.getElem?_setIfInBounds]
    by_cases hkn : k = n
    · subst hkn
      simp [hlt]
    · simp [hkn, NumberSet.pred_toNat_inj hn hk, Ne.symm hkn]

/-- A free number is one with a place in the table and nothing in the slot. -/
theorem isFree_iff {r : Roster α} {n : UInt16} (h : r.isFree n = true) :
    n ≠ 0 ∧ n.toNat - 1 < r.slots.size ∧ r.slot? n = none := by
  unfold isFree at h
  split at h
  · cases h
  · rename_i i hp
    have hn : n ≠ 0 := by
      rintro rfl
      cases hp
    have hi : i = n.toNat - 1 := by
      rw [place?_of_ne hn] at hp
      exact (Option.some.inj hp).symm
    split at h
    · rename_i hs
      have hlt : i < r.slots.size := by
        by_contra hge
        rw [Array.getElem?_eq_none (Nat.not_lt.1 hge)] at hs
        cases hs
      refine ⟨hn, hi ▸ hlt, ?_⟩
      rw [slot?, hp]
      dsimp only
      rw [hs]
      rfl
    · cases h

/-- A number in range under which nothing stands is free. -/
theorem isFree_of_get? {r : Roster α} {n : UInt16} (hn : n ≠ 0) (hlt : n.toNat - 1 < r.slots.size)
    (h : r.get? n = none) : r.isFree n = true := by
  rw [get?, Option.map_eq_none_iff, slot?, place?_of_ne hn] at h
  simp only [Array.getElem?_eq_getElem hlt, Option.join_some] at h
  simp only [isFree, place?_of_ne hn, Array.getElem?_eq_getElem hlt, h]

/-- An occupied slot lies within the table. -/
theorem lt_size_of_slot? {r : Roster α} {n : UInt16} {s : Slot α} (h : r.slot? n = some s) :
    n ≠ 0 ∧ n.toNat - 1 < r.slots.size := by
  have hn : n ≠ 0 := by
    rintro rfl
    cases h
  refine ⟨hn, ?_⟩
  rw [slot?, place?_of_ne hn] at h
  dsimp only at h
  by_contra hge
  rw [Array.getElem?_eq_none (Nat.not_lt.1 hge)] at h
  cases h

/-- An empty roster is in order. -/
theorem ordered_empty (c : UInt16) : (empty c : Roster α).Ordered where
  ascending := List.Pairwise.nil
  bounded := by simp [empty]
  next_pos := Nat.one_pos
  slot_of_mem := by simp [empty]
  mem_of_slot := by
    intro serial n a h
    obtain ⟨hn, hlt⟩ := lt_size_of_slot? h
    rw [Entry, slot?, place?_of_ne hn] at h
    simp only [empty, Array.getElem?_replicate] at h
    split at h <;> cases h

/-- An empty roster has no entry. -/
@[simp] theorem not_entry_empty (c : UInt16) (serial : Nat) (n : UInt16) (a : α) :
    ¬(empty c : Roster α).Entry serial n a := by
  intro h
  have := (ordered_empty c).mem_of_slot serial n a h
  simp [empty] at this

/-! ## Entering -/

/-- **A value is entered** under a number that was free, after all others. -/
theorem entry_insert? {r r' : Roster α} {n : UInt16} {a : α} (h : r.insert? n a = some r') :
    (∀ serial b, ¬r.Entry serial n b) ∧
      ∀ serial k b, r'.Entry serial k b ↔
        (k = n ∧ serial = r.nextSerial ∧ b = a) ∨ r.Entry serial k b := by
  unfold insert? at h
  split at h
  · rename_i hfree
    obtain ⟨hn, hlt, hnone⟩ := isFree_iff hfree
    cases h
    -- the slot was empty
    have hno : ∀ serial b, ¬r.Entry serial n b := by
      intro serial b hb
      rw [Entry, hnone] at hb
      cases hb
    refine ⟨hno, fun serial k b => ?_⟩
    rw [Entry, slot?_set r hn hlt]
    -- under the number stands what is entered, and nothing that stood there before
    by_cases hk : k = n
    · subst hk
      simp only [if_true, Option.some.injEq, Slot.mk.injEq, true_and]
      constructor
      · rintro ⟨rfl, rfl⟩
        exact Or.inl ⟨rfl, rfl⟩
      · rintro (⟨rfl, rfl⟩ | hb)
        · exact ⟨rfl, rfl⟩
        · exact absurd hb (hno serial b)
    · rw [if_neg hk]
      simp only [hk, false_and, false_or, Entry]
  · cases h

/-- After an insertion the new number finds the new value, and the others find what they did. -/
theorem get?_insert? {r r' : Roster α} {n : UInt16} {a : α} (h : r.insert? n a = some r')
    (k : UInt16) (b : α) : r'.get? k = some b ↔ (k = n ∧ b = a) ∨ r.get? k = some b := by
  simp only [get?_eq_some_iff, (entry_insert? h).2, exists_or]
  refine or_congr_left ⟨?_, ?_⟩
  · rintro ⟨-, rfl, -, rfl⟩
    exact ⟨rfl, rfl⟩
  · rintro ⟨rfl, rfl⟩
    exact ⟨r.nextSerial, rfl, rfl, rfl⟩

/-- A value can be entered under a number in range under which nothing stands. -/
theorem insert?_of_get? {r : Roster α} {n : UInt16} (hn : n ≠ 0) (hlt : n.toNat - 1 < r.slots.size)
    (h : r.get? n = none) (a : α) : ∃ r', r.insert? n a = some r' := by
  rw [insert?, if_pos (isFree_of_get? hn hlt h)]
  exact ⟨_, rfl⟩

/-- An entry leaves the range of numbers alone. -/
theorem size_slots_insert? {r r' : Roster α} {n : UInt16} {a : α} (h : r.insert? n a = some r') :
    r'.slots.size = r.slots.size := by
  unfold insert? at h
  split at h
  · cases h
    exact Array.size_setIfInBounds ..
  · cases h

/-- The serial numbers move on by one with every entry. -/
theorem nextSerial_insert? {r r' : Roster α} {n : UInt16} {a : α} (h : r.insert? n a = some r') :
    r'.order = r.order.push (r.nextSerial, n) ∧ r'.nextSerial = r.nextSerial + 1 := by
  unfold insert? at h
  split at h
  · cases h
    exact ⟨rfl, rfl⟩
  · cases h

/-- An insertion adds one entry to the size. -/
theorem size_insert? {r r' : Roster α} {n : UInt16} {a : α} (h : r.insert? n a = some r') :
    r'.size = r.size + 1 := by
  rw [size, (nextSerial_insert? h).1, Array.size_push]
  rfl

/-- An insertion keeps the roster in order. -/
theorem Ordered.insert? {r r' : Roster α} (o : r.Ordered) {n : UInt16} {a : α}
    (h : r.insert? n a = some r') : r'.Ordered := by
  obtain ⟨_, hentry⟩ := entry_insert? h
  obtain ⟨horder, hnext⟩ := nextSerial_insert? h
  have hlist : r'.order.toList = r.order.toList ++ [(r.nextSerial, n)] := by
    rw [horder, Array.toList_push]
  constructor
  -- the new entry has the largest serial number
  case ascending =>
    rw [hlist, List.pairwise_append]
    refine ⟨o.ascending, List.pairwise_singleton _ _, ?_⟩
    intro e he f hf
    rw [List.mem_singleton.1 hf]
    exact (o.bounded e he).2
  case bounded =>
    intro e he
    rw [hnext]
    rw [hlist, List.mem_append, List.mem_singleton] at he
    rcases he with he | rfl
    · have := o.bounded e he
      omega
    · exact ⟨o.next_pos, Nat.lt_succ_self _⟩
  case next_pos =>
    rw [hnext]
    exact Nat.succ_pos _
  -- the new entry has a slot, and the others keep theirs
  case slot_of_mem =>
    intro e he
    rw [hlist, List.mem_append, List.mem_singleton] at he
    rcases he with he | rfl
    · obtain ⟨b, hb⟩ := o.slot_of_mem e he
      exact ⟨b, (hentry _ _ _).2 (Or.inr hb)⟩
    · exact ⟨a, (hentry _ _ _).2 (Or.inl ⟨rfl, rfl, rfl⟩)⟩
  case mem_of_slot =>
    intro serial k b hb
    rw [hlist, List.mem_append, List.mem_singleton]
    rcases (hentry _ _ _).1 hb with ⟨rfl, rfl, _⟩ | hb
    · exact Or.inr rfl
    · exact Or.inl (o.mem_of_slot _ _ _ hb)

/-! ## Seeking -/

/-- The bisection divides the order of entry at a serial number: entries before the place found are
at most it, those from there on are larger. -/
theorem seekFrom_spec {order : Array (Nat × UInt16)} {serial : Nat}
    (ascending : ∀ i j, i < j → j < order.size → (order.getD i (0, 0)).1 < (order.getD j (0, 0)).1)
    {lo hi : Nat} (hle : lo ≤ hi) (hhi : hi ≤ order.size)
    (below : ∀ i, i < lo → (order.getD i (0, 0)).1 ≤ serial)
    (above : ∀ i, hi ≤ i → i < order.size → serial < (order.getD i (0, 0)).1) :
    (∀ i, i < seekFrom order serial lo hi → (order.getD i (0, 0)).1 ≤ serial) ∧
      ∀ i, seekFrom order serial lo hi ≤ i → i < order.size →
        serial < (order.getD i (0, 0)).1 := by
  -- the bounds hold of every interval that the bisection comes to
  fun_induction seekFrom order serial lo hi with
  | case1 lo hi hlt mid hmid ih =>
    -- the entry in the middle is at most the serial number, and so are all before it
    have hm : mid = (lo + hi) / 2 := rfl
    refine ih (by omega) hhi ?_ above
    intro i hi'
    rcases Nat.lt_or_ge i mid with hlt' | hge
    · exact Nat.le_trans (Nat.le_of_lt (ascending i mid hlt' (by omega))) hmid
    · have : i = mid := by omega
      rw [this]
      exact hmid
  | case2 lo hi hlt mid hmid ih =>
    -- the entry in the middle is larger, and so are all after it
    have hm : mid = (lo + hi) / 2 := rfl
    refine ih (by omega) (by omega) below ?_
    intro i hi' hsize
    rcases Nat.lt_or_ge mid i with hlt' | hge
    · exact Nat.lt_trans (Nat.not_le.1 hmid) (ascending mid i hlt' hsize)
    · have : i = mid := by omega
      rw [this]
      exact Nat.not_le.1 hmid
  | case3 lo hi hge =>
    obtain rfl : lo = hi := by omega
    exact ⟨below, above⟩

/-- Serials ascend along the order. -/
theorem Ordered.getD_lt {r : Roster α} (o : r.Ordered) {i j : Nat} (hij : i < j)
    (hj : j < r.order.size) : (r.order.getD i (0, 0)).1 < (r.order.getD j (0, 0)).1 := by
  have hi : i < r.order.size := Nat.lt_trans hij hj
  have := (List.pairwise_iff_getElem.1 o.ascending) i j (by simpa using hi) (by simpa using hj) hij
  simpa [Array.getD_eq_getD_getElem?, hi, hj] using this

/-- The place of a serial number divides the order of entry. -/
theorem Ordered.seek_spec {r : Roster α} (o : r.Ordered) (serial : Nat) :
    (∀ i, i < r.seek serial → (r.order.getD i (0, 0)).1 ≤ serial) ∧
      ∀ i, r.seek serial ≤ i → i < r.order.size → serial < (r.order.getD i (0, 0)).1 :=
  seekFrom_spec (fun _ _ hij hj => o.getD_lt hij hj) (Nat.zero_le _) (Nat.le_refl _)
    (fun _ h => absurd h (Nat.not_lt_zero _)) (fun _ h h' => absurd h' (Nat.not_lt.2 h))

/-- Everything in the order of entry stands at an index. -/
theorem exists_index {r : Roster α} {e : Nat × UInt16} (h : e ∈ r.order.toList) :
    ∃ i, i < r.order.size ∧ r.order.getD i (0, 0) = e ∧ r.order[i]? = some e := by
  obtain ⟨i, hi, he⟩ := List.getElem_of_mem h
  have hi' : i < r.order.size := by simpa using hi
  have hget : r.order[i]? = some e := by
    rw [Array.getElem?_eq_getElem hi', ← he, Array.getElem_toList]
  exact ⟨i, hi', by rw [Array.getD_eq_getD_getElem?, hget]; rfl, hget⟩

/-- A serial number stands at one index. -/
theorem Ordered.index_inj {r : Roster α} (o : r.Ordered) {i j : Nat} (hi : i < r.order.size)
    (hj : j < r.order.size) (h : (r.order.getD i (0, 0)).1 = (r.order.getD j (0, 0)).1) : i = j := by
  rcases Nat.lt_trichotomy i j with hlt | heq | hgt
  · exact absurd h (Nat.ne_of_lt (o.getD_lt hlt hj))
  · exact heq
  · exact absurd h (Nat.ne_of_gt (o.getD_lt hgt hi))

/-- A serial number stands in the order of entry once. -/
theorem Ordered.mem_inj {r : Roster α} (o : r.Ordered) {e f : Nat × UInt16}
    (he : e ∈ r.order.toList) (hf : f ∈ r.order.toList) (h : e.1 = f.1) : e = f := by
  obtain ⟨i, hi, hie, _⟩ := exists_index he
  obtain ⟨j, hj, hjf, _⟩ := exists_index hf
  have hij : i = j := o.index_inj hi hj (by rw [hie, hjf, h])
  rw [← hie, hij, hjf]

/-! ## Removing -/

/-- The place right after the serial numbers below one in use is that of its entry. -/
theorem Ordered.seek_pred {r : Roster α} (o : r.Ordered) {j : Nat} (hj : j < r.order.size) :
    r.seek ((r.order.getD j (0, 0)).1 - 1) = j := by
  have hmem : r.order.getD j (0, 0) ∈ r.order.toList := by
    rw [Array.getD_eq_getD_getElem?, Array.getElem?_eq_getElem hj]
    exact Array.mem_toList_iff.2 (Array.getElem_mem hj)
  have hpos := (o.bounded _ hmem).1
  obtain ⟨hbelow, habove⟩ := o.seek_spec ((r.order.getD j (0, 0)).1 - 1)
  -- between a serial number and the one before it there is no entry
  rcases Nat.lt_trichotomy (r.seek ((r.order.getD j (0, 0)).1 - 1)) j with hlt | heq | hgt
  · have hlarger := habove _ (Nat.le_refl _) (Nat.lt_trans hlt hj)
    have hsmaller := o.getD_lt hlt hj
    omega
  · exact heq
  · have hle := hbelow j hgt
    omega

/-- Erasing a serial number in use erases the place where it stands. -/
theorem Ordered.toList_eraseSerial {r : Roster α} (o : r.Ordered) {serial : Nat} {n : UInt16}
    (h : (serial, n) ∈ r.order.toList) :
    ∃ j, j < r.order.size ∧ r.order.getD j (0, 0) = (serial, n) ∧
      (r.eraseSerial serial).toList = r.order.toList.eraseIdx j := by
  obtain ⟨j, hj, hjD, _⟩ := exists_index h
  have hseek := o.seek_pred hj
  rw [hjD] at hseek
  refine ⟨j, hj, hjD, ?_⟩
  rw [eraseSerial]
  simp only [hseek, hjD, if_true]

/-- Erasing a serial number in use takes its entry out of the order and no other. -/
theorem Ordered.mem_eraseSerial {r : Roster α} (o : r.Ordered) {serial : Nat} {n : UInt16}
    (h : (serial, n) ∈ r.order.toList) (e : Nat × UInt16) :
    e ∈ (r.eraseSerial serial).toList ↔ e ∈ r.order.toList ∧ e.1 ≠ serial := by
  obtain ⟨j, hj, hjD, herase⟩ := o.toList_eraseSerial h
  have hget : ∀ i (hi : i < r.order.toList.length),
      r.order.getD i (0, 0) = r.order.toList[i] := fun i hi => by
    have hi' : i < r.order.size := by simpa using hi
    rw [Array.getD_eq_getD_getElem?, Array.getElem?_eq_getElem hi']
    simp
  rw [herase, List.mem_eraseIdx_iff_getElem]
  constructor
  · rintro ⟨i, hi, hne, rfl⟩
    refine ⟨List.getElem_mem hi, fun hs => hne ?_⟩
    exact o.index_inj (by simpa using hi) hj (by rw [hget i hi, hjD, hs])
  · rintro ⟨he, hne⟩
    obtain ⟨i, hi, rfl⟩ := List.getElem_of_mem he
    refine ⟨i, hi, ?_, rfl⟩
    rintro rfl
    exact hne (by rw [← hget i hi, hjD])

/-- Erasing a serial keeps the rest of the order as it was. -/
theorem eraseSerial_sublist (r : Roster α) (serial : Nat) :
    (r.eraseSerial serial).toList.Sublist r.order.toList := by
  unfold eraseSerial
  extract_lets i
  split
  · exact List.eraseIdx_sublist _ _
  · exact List.Sublist.refl _

/-- **A value is removed** from its number; all others stay where they are. -/
theorem entry_remove? {r r' : Roster α} {n : UInt16} {a : α} (h : r.remove? n = some (a, r')) :
    (∃ serial, r.Entry serial n a) ∧
      ∀ serial k b, r'.Entry serial k b ↔ k ≠ n ∧ r.Entry serial k b := by
  unfold remove? at h
  split at h
  · cases h
  · rename_i s hs
    obtain ⟨hn, hlt⟩ := lt_size_of_slot? hs
    cases h
    refine ⟨⟨s.serial, hs⟩, fun serial k b => ?_⟩
    rw [Entry, slot?_set r hn hlt]
    by_cases hk : k = n
    · simp [hk]
    · rw [if_neg hk]
      simp only [hk, ne_eq, not_false_eq_true, true_and, Entry]

/-- After a removal the number finds nothing, and the others find what they did. -/
theorem get?_remove? {r r' : Roster α} {n : UInt16} {a : α} (h : r.remove? n = some (a, r'))
    (k : UInt16) (b : α) : r'.get? k = some b ↔ k ≠ n ∧ r.get? k = some b := by
  simp only [get?_eq_some_iff, (entry_remove? h).2, exists_and_left]

/-- What is there can be taken out. -/
theorem remove?_of_get? {r : Roster α} {n : UInt16} {a : α} (h : r.get? n = some a) :
    ∃ r', r.remove? n = some (a, r') := by
  obtain ⟨slot, hslot, rfl⟩ := Option.map_eq_some_iff.1 h
  rw [Roster.remove?, hslot]
  exact ⟨_, rfl⟩

/-- A removal erases the serial number of the entry, and leaves the range of numbers alone. -/
theorem order_remove? {r r' : Roster α} {n : UInt16} {a : α} {serial : Nat}
    (h : r.remove? n = some (a, r')) (entry : r.Entry serial n a) :
    r'.order = r.eraseSerial serial ∧ r'.nextSerial = r.nextSerial ∧
      r'.slots.size = r.slots.size := by
  unfold Roster.remove? at h
  rw [show r.slot? n = some ⟨serial, a⟩ from entry] at h
  cases h
  exact ⟨rfl, rfl, Array.size_setIfInBounds ..⟩

/-- A removal takes one entry from the size. -/
theorem Ordered.size_remove? {r r' : Roster α} (o : r.Ordered) {n : UInt16} {a : α}
    (h : r.remove? n = some (a, r')) : r'.size + 1 = r.size := by
  obtain ⟨⟨serial, hmem⟩, -⟩ := entry_remove? h
  obtain ⟨j, hj, -, herase⟩ := o.toList_eraseSerial (o.mem_of_slot _ _ _ hmem)
  have hlength := congrArg List.length herase
  rw [List.length_eraseIdx_of_lt (by simpa using hj)] at hlength
  simp only [Array.length_toList] at hlength
  rw [size, size, (order_remove? h hmem).1, hlength]
  omega

/-- A removal keeps the roster in order. -/
theorem Ordered.remove? {r r' : Roster α} (o : r.Ordered) {n : UInt16} {a : α}
    (h : r.remove? n = some (a, r')) : r'.Ordered := by
  obtain ⟨⟨serial, hmem⟩, hentry⟩ := entry_remove? h
  obtain ⟨horder, hnext, -⟩ := order_remove? h hmem
  have hin := o.mem_of_slot _ _ _ hmem
  constructor
  case ascending =>
    rw [horder]
    exact o.ascending.sublist (r.eraseSerial_sublist serial)
  case bounded =>
    intro e he
    rw [horder, o.mem_eraseSerial hin] at he
    rw [hnext]
    exact o.bounded e he.1
  case next_pos =>
    rw [hnext]
    exact o.next_pos
  -- an entry that stays has another number than the one taken out
  case slot_of_mem =>
    intro e he
    rw [horder, o.mem_eraseSerial hin] at he
    obtain ⟨b, hb⟩ := o.slot_of_mem e he.1
    refine ⟨b, (hentry _ _ _).2 ⟨?_, hb⟩⟩
    intro hk
    rw [hk] at hb
    exact he.2 (entry_inj hb hmem).1
  -- a slot that stays has another serial number than the one taken out
  case mem_of_slot =>
    intro t k b hb
    obtain ⟨hk, hb⟩ := (hentry _ _ _).1 hb
    have hb' := o.mem_of_slot _ _ _ hb
    rw [horder, o.mem_eraseSerial hin]
    refine ⟨hb', fun hs => hk ?_⟩
    dsimp only at hs
    subst hs
    exact congrArg Prod.snd (o.mem_inj hb' hin rfl)

/-! ## Walks -/

/-- **A step of a walk** goes to the first entry that is later than its position. -/
theorem Ordered.next?_eq_some {r : Roster α} (o : r.Ordered) {c c' : Cursor} {n : UInt16} {a : α}
    (h : r.next? c = some (c', n, a)) :
    r.Entry c'.serial n a ∧ c.serial < c'.serial ∧
      ∀ serial k b, r.Entry serial k b → c.serial < serial → c'.serial ≤ serial := by
  obtain ⟨hbelow, habove⟩ := o.seek_spec c.serial
  unfold next? at h
  split at h
  · cases h
  · rename_i serial k hget
    split at h
    · cases h
    · rename_i b hb
      cases h
      -- the place found lies in the order, and its entry is the one reported
      have hlt : r.seek c.serial < r.order.size := by
        by_contra hge
        rw [Array.getElem?_eq_none (Nat.not_lt.1 hge)] at hget
        cases hget
      have hD : r.order.getD (r.seek c.serial) (0, 0) = (serial, n) := by
        rw [Array.getD_eq_getD_getElem?, hget]
        rfl
      have hmem : (serial, n) ∈ r.order.toList := by
        rw [Array.mem_toList_iff]
        exact Array.mem_of_getElem? hget
      refine ⟨?_, ?_, ?_⟩
      · obtain ⟨a', ha'⟩ := o.slot_of_mem _ hmem
        obtain ⟨t, ht⟩ := get?_eq_some_iff.1 hb
        rwa [(entry_inj ht ha').2]
      · have := habove _ (Nat.le_refl _) hlt
        rwa [hD] at this
      -- an entry behind the position stands at the place found or after it
      · intro t k b' hb' hpos
        obtain ⟨j, hj, hjD, _⟩ := exists_index (o.mem_of_slot _ _ _ hb')
        have hge : r.seek c.serial ≤ j := by
          by_contra hjlt
          have := hbelow j (Nat.not_le.1 hjlt)
          rw [hjD] at this
          exact absurd hpos (Nat.not_lt.2 this)
        rcases Nat.lt_or_eq_of_le hge with hlt' | heq
        · have := o.getD_lt hlt' hj
          rw [hD, hjD] at this
          exact Nat.le_of_lt this
        · rw [heq, hjD] at hD
          cases hD
          exact Nat.le_refl _

/-- **A walk ends** when no entry is later than its position. -/
theorem Ordered.next?_eq_none {r : Roster α} (o : r.Ordered) {c : Cursor} (h : r.next? c = none)
    {serial : Nat} {n : UInt16} {a : α} (ha : r.Entry serial n a) : serial ≤ c.serial := by
  obtain ⟨hbelow, _⟩ := o.seek_spec c.serial
  unfold next? at h
  split at h
  · rename_i hget
    obtain ⟨j, hj, hjD, _⟩ := exists_index (o.mem_of_slot _ _ _ ha)
    have hlt : j < r.seek c.serial := by
      by_contra hge
      rw [Array.getElem?_eq_none_iff] at hget
      omega
    have := hbelow j hlt
    rwa [hjD] at this
  · rename_i t k hget
    have hmem : (t, k) ∈ r.order.toList := by
      rw [Array.mem_toList_iff]
      exact Array.mem_of_getElem? hget
    obtain ⟨b, hb⟩ := o.slot_of_mem _ hmem
    rw [get?_eq_some_iff.2 ⟨t, hb⟩] at h
    cases h

/-- A serial number belongs to one entry. -/
theorem Ordered.entry_number_inj {r : Roster α} (o : r.Ordered) {serial : Nat} {n k : UInt16}
    {a b : α} (ha : r.Entry serial n a) (hb : r.Entry serial k b) : n = k := by
  have := o.mem_inj (o.mem_of_slot _ _ _ ha) (o.mem_of_slot _ _ _ hb) rfl
  exact congrArg Prod.snd this

/-- Whether a value lies ahead of a position: a walk that is there has still to come to it. -/
def Ahead (r : Roster α) (c : Cursor) (a : α) : Prop :=
  ∃ serial n, r.Entry serial n a ∧ c.serial < serial

/-- A value that is entered lies ahead of the start. -/
theorem Ordered.ahead_start {r : Roster α} (o : r.Ordered) {n : UInt16} {a : α}
    (h : r.get? n = some a) : r.Ahead .start a := by
  obtain ⟨serial, he⟩ := get?_eq_some_iff.1 h
  exact ⟨serial, n, he, (o.bounded _ (o.mem_of_slot _ _ _ he)).1⟩

/-- What lies ahead stays ahead when something is entered. -/
theorem Ahead.insert? {r r' : Roster α} {c : Cursor} {n : UInt16} {a b : α} (h : r.Ahead c b)
    (inserted : r.insert? n a = some r') : r'.Ahead c b := by
  obtain ⟨serial, k, he, hlt⟩ := h
  exact ⟨serial, k, ((entry_insert? inserted).2 serial k b).2 (Or.inr he), hlt⟩

/-- What lies ahead stays ahead when something else is removed. -/
theorem Ahead.remove? {r r' : Roster α} {c : Cursor} {n : UInt16} {a b : α} (h : r.Ahead c b)
    (removed : r.remove? n = some (a, r')) (other : b ≠ a) : r'.Ahead c b := by
  obtain ⟨serial, k, he, hlt⟩ := h
  obtain ⟨⟨serial', he'⟩, hentry⟩ := entry_remove? removed
  refine ⟨serial, k, (hentry serial k b).2 ⟨?_, he⟩, hlt⟩
  rintro rfl
  exact other (entry_inj he he').2

/-- A step of a walk leaves nothing behind but the value it comes to. -/
theorem Ordered.ahead_next? {r : Roster α} (o : r.Ordered) {c c' : Cursor} {n : UInt16} {a b : α}
    (h : r.next? c = some (c', n, a)) (ahead : r.Ahead c b) : b = a ∨ r.Ahead c' b := by
  obtain ⟨serial, k, he, hlt⟩ := ahead
  obtain ⟨he', -, hfirst⟩ := o.next?_eq_some h
  rcases Nat.lt_or_eq_of_le (hfirst serial k b he hlt) with hlater | rfl
  · exact Or.inr ⟨serial, k, he, hlater⟩
  · left
    obtain rfl := o.entry_number_inj he he'
    exact (entry_inj he he').2

/-- Nothing lies ahead of a walk that ends. -/
theorem Ordered.not_ahead {r : Roster α} (o : r.Ordered) {c : Cursor} (h : r.next? c = none)
    (a : α) : ¬r.Ahead c a := by
  rintro ⟨serial, n, he, hlt⟩
  exact Nat.not_lt.2 (o.next?_eq_none h he) hlt

/-- The values of a roster are those that stand under a number. -/
theorem Ordered.mem_values {r : Roster α} (o : r.Ordered) (a : α) :
    a ∈ r.values ↔ ∃ n, r.get? n = some a := by
  simp only [values, toList, List.mem_map, List.mem_filterMap, Option.map_eq_some_iff]
  constructor
  · rintro ⟨_, ⟨e, _, b, hb, rfl⟩, rfl⟩
    exact ⟨e.2, hb⟩
  · rintro ⟨n, hn⟩
    obtain ⟨serial, hs⟩ := get?_eq_some_iff.1 hn
    exact ⟨(n, a), ⟨(serial, n), o.mem_of_slot _ _ _ hs, a, hn, rfl⟩, rfl⟩

end Roster

end Switchboard
