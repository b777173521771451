import Mathlib.Data.List.Nodup
import Switchboard.Proofs.Dialogue
import Switchboard.Proofs.Roster

/-! # Rosters as lists

To anyone who enters, removes, looks up and lists, a roster is a list of pairs in order of entry.
The list is the plain one: insertion appends a pair, removal takes the pair of a number out. That a
roster keeps its entries twice, and finds the one in its order of entry by bisection, shows in no
answer. Main statement: `roster_listing`. -/

namespace Switchboard

namespace Roster

variable {α : Type}

/-! ## Requests -/

/-- What is asked of values under numbers. -/
inductive Request (α : Type) where
  | insert (n : UInt16) (a : α)
  | remove (n : UInt16)
  | get (n : UInt16)
  | list
  | size
  | isEmpty

/-- What is answered. -/
inductive Response (α : Type) where
  | entered
  /-- The value is handed back. -/
  | refused (a : α)
  | value (a : Option α)
  | entries (l : List (UInt16 × α))
  | count (k : Nat)
  | truth (b : Bool)
deriving DecidableEq

/-- What a roster answers, and the roster after it. -/
def serve (r : Roster α) : Request α → Response α × Roster α
  | .insert n a => match r.insert? n a with
    | some r' => (.entered, r')
    | none => (.refused a, r)
  | .remove n => match r.remove? n with
    | some (a, r') => (.value (some a), r')
    | none => (.value none, r)
  | .get n => (.value (r.get? n), r)
  | .list => (.entries r.toList, r)
  | .size => (.count r.size, r)
  | .isEmpty => (.truth r.isEmpty, r)

/-- What a list of pairs with different numbers up to `capacity` answers, and the list after it. -/
def serveListing (capacity : UInt16) (l : List (UInt16 × α)) :
    Request α → Response α × List (UInt16 × α)
  | .insert n a =>
    if n ≠ 0 ∧ n ≤ capacity ∧ n ∉ l.map Prod.fst then (.entered, l ++ [(n, a)]) else (.refused a, l)
  | .remove n => match l.lookup n with
    | some a => (.value (some a), l.filter fun e => e.1 ≠ n)
    | none => (.value none, l)
  | .get n => (.value (l.lookup n), l)
  | .list => (.entries l, l)
  | .size => (.count l.length, l)
  | .isEmpty => (.truth l.isEmpty, l)

/-! ## The list of a roster -/

/-- No entry stands twice in the order. -/
theorem Ordered.nodup_order {r : Roster α} (o : r.Ordered) : r.order.toList.Nodup :=
  o.ascending.imp fun hlt h => Nat.ne_of_lt hlt (congrArg Prod.fst h)

/-- A number stands in the order of entry once. -/
theorem Ordered.nodup_numbers {r : Roster α} (o : r.Ordered) :
    (r.order.toList.map Prod.snd).Nodup := by
  refine List.Nodup.map_on ?_ o.nodup_order
  intro e he f hf hnumber
  obtain ⟨a, ha⟩ := o.slot_of_mem e he
  obtain ⟨b, hb⟩ := o.slot_of_mem f hf
  rw [hnumber] at ha
  exact Prod.ext (entry_inj ha hb).1 hnumber

/-- Whatever stands in the order is found under its number. -/
theorem Ordered.get?_of_mem {r : Roster α} (o : r.Ordered) {e : Nat × UInt16}
    (h : e ∈ r.order.toList) : ∃ a, r.get? e.2 = some a := by
  obtain ⟨a, ha⟩ := o.slot_of_mem e h
  exact ⟨a, get?_eq_some_iff.2 ⟨e.1, ha⟩⟩

/-- The numbers listed are those in the order of entry. -/
theorem Ordered.map_fst_toList {r : Roster α} (o : r.Ordered) :
    r.toList.map Prod.fst = r.order.toList.map Prod.snd := by
  rw [toList, List.map_filterMap, ← List.filterMap_eq_map]
  refine List.filterMap_congr fun e he => ?_
  obtain ⟨a, ha⟩ := o.get?_of_mem he
  simp [ha]

/-- No number is listed twice. -/
theorem Ordered.nodup_toList {r : Roster α} (o : r.Ordered) : (r.toList.map Prod.fst).Nodup := by
  rw [o.map_fst_toList]
  exact o.nodup_numbers

/-- As many pairs are listed as the roster counts. -/
theorem Ordered.length_toList {r : Roster α} (o : r.Ordered) : r.toList.length = r.size := by
  rw [← List.length_map Prod.fst, o.map_fst_toList, List.length_map, Array.length_toList, size]

/-- A pair is listed exactly when its value is found under its number. -/
theorem Ordered.mem_toList {r : Roster α} (o : r.Ordered) {n : UInt16} {a : α} :
    (n, a) ∈ r.toList ↔ r.get? n = some a := by
  simp only [toList, List.mem_filterMap, Option.map_eq_some_iff, Prod.mk.injEq]
  constructor
  · rintro ⟨e, -, b, hb, rfl, rfl⟩
    exact hb
  · intro h
    obtain ⟨serial, hs⟩ := get?_eq_some_iff.1 h
    exact ⟨(serial, n), o.mem_of_slot _ _ _ hs, a, h, rfl, rfl⟩

/-- Looking a number up in the list is looking it up in the roster. -/
theorem Ordered.lookup_toList {r : Roster α} (o : r.Ordered) (n : UInt16) :
    r.toList.lookup n = r.get? n := by
  cases h : r.toList.lookup n with
  | none =>
    rw [eq_comm, Option.eq_none_iff_forall_ne_some]
    intro a ha
    have := List.lookup_eq_none_iff.1 h _ (o.mem_toList.2 ha)
    simp at this
  | some a =>
    obtain ⟨before, rest, hlist, -⟩ := List.lookup_eq_some_iff.1 h
    rw [eq_comm, ← o.mem_toList, hlist]
    exact List.mem_append_right _ List.mem_cons_self

/-- A number is listed exactly when something is found under it. -/
theorem Ordered.mem_map_fst {r : Roster α} (o : r.Ordered) (n : UInt16) :
    n ∈ r.toList.map Prod.fst ↔ r.get? n ≠ none := by
  rw [List.mem_map, Option.ne_none_iff_exists']
  constructor
  · rintro ⟨⟨_, a⟩, h, rfl⟩
    exact ⟨a, o.mem_toList.1 h⟩
  · rintro ⟨a, h⟩
    exact ⟨(n, a), o.mem_toList.2 h, rfl⟩

/-- **An insertion appends** to the list. -/
theorem Ordered.toList_insert? {r r' : Roster α} (o : r.Ordered) {n : UInt16} {a : α}
    (h : r.insert? n a = some r') : r'.toList = r.toList ++ [(n, a)] := by
  have hget := get?_insert? h
  have hnew : r'.get? n = some a := (hget n a).2 (Or.inl ⟨rfl, rfl⟩)
  rw [toList, (nextSerial_insert? h).1, Array.toList_push, List.filterMap_append]
  congr 1
  · -- what was there stands under other numbers
    refine List.filterMap_congr fun e he => ?_
    obtain ⟨b, hb⟩ := o.get?_of_mem he
    rw [(hget e.2 b).2 (Or.inr hb), hb]
  · simp [hnew]

/-- Erasing a serial number in use takes the pair of its number out of the order of entry. -/
theorem Ordered.toList_eraseSerial_eq_filter {r : Roster α} (o : r.Ordered) {serial : Nat}
    {n : UInt16} (h : (serial, n) ∈ r.order.toList) :
    (r.eraseSerial serial).toList = r.order.toList.filter fun e => e.2 ≠ n := by
  obtain ⟨j, hj, hjD, herase⟩ := o.toList_eraseSerial h
  have hj' : j < r.order.toList.length := by simpa using hj
  have hget : r.order.toList[j] = (serial, n) := by
    rw [← hjD, Array.getD_eq_getD_getElem?, Array.getElem?_eq_getElem hj]
    simp
  rw [herase, ← o.nodup_order.erase_getElem j hj', hget, o.nodup_order.erase_eq_filter]
  refine List.filter_congr fun e he => ?_
  -- a number stands once, so that the pairs are told apart by it
  have := List.inj_on_of_nodup_map o.nodup_numbers he h
  simp only [bne, beq_eq_decide, ne_eq, decide_not]
  congr 1
  rw [decide_eq_decide]
  exact ⟨fun heq => by rw [heq], this⟩

/-- **A removal takes out** the pair of the number. -/
theorem Ordered.toList_remove? {r r' : Roster α} (o : r.Ordered) {n : UInt16} {a : α}
    (h : r.remove? n = some (a, r')) : r'.toList = r.toList.filter fun e => e.1 ≠ n := by
  obtain ⟨⟨serial, hmem⟩, -⟩ := entry_remove? h
  have hget := get?_remove? h
  rw [toList, (order_remove? h hmem).1, o.toList_eraseSerial_eq_filter (o.mem_of_slot _ _ _ hmem),
    List.filterMap_filter, toList, List.filter_filterMap]
  refine List.filterMap_congr fun e he => ?_
  obtain ⟨b, hb⟩ := o.get?_of_mem he
  by_cases hn : e.2 = n
  · rw [hn] at hb
    simp [hb, hn, Option.filter]
  · simp [(hget e.2 b).2 ⟨hn, hb⟩, hb, hn, Option.filter]

/-! ## Dialogues -/

/-- A roster with places for the numbers up to `capacity` lists the pairs of a list. -/
structure Lists (capacity : UInt16) (r : Roster α) (l : List (UInt16 × α)) : Prop where
  ordered : r.Ordered
  size : r.slots.size = capacity.toNat
  toList : r.toList = l

/-- An empty roster lists nothing. -/
theorem lists_empty (capacity : UInt16) : (empty capacity : Roster α).Lists capacity [] where
  ordered := ordered_empty capacity
  size := Array.size_replicate
  toList := rfl

/-- The list is looked up as the roster is. -/
theorem Lists.lookup {capacity : UInt16} {r : Roster α} {l : List (UInt16 × α)}
    (h : r.Lists capacity l) (n : UInt16) : l.lookup n = r.get? n := by
  rw [← h.toList, h.ordered.lookup_toList]

/-- The numbers in the list have places. -/
theorem Lists.inRange {capacity : UInt16} {r : Roster α} {l : List (UInt16 × α)}
    (h : r.Lists capacity l) {e : UInt16 × α} (he : e ∈ l) : e.1 ≠ 0 ∧ e.1 ≤ capacity := by
  rw [← h.toList, h.ordered.mem_toList] at he
  obtain ⟨serial, hentry⟩ := get?_eq_some_iff.1 he
  obtain ⟨hn, hlt⟩ := lt_size_of_slot? hentry
  have hsize := h.size
  exact ⟨hn, UInt16.le_iff_toNat_le.2 (by omega)⟩

/-- An insertion is refused unless the number is in range and not in the list. -/
theorem Lists.insert?_eq_none_iff {capacity : UInt16} {r : Roster α} {l : List (UInt16 × α)}
    (h : r.Lists capacity l) (n : UInt16) (a : α) :
    r.insert? n a = none ↔ ¬(n ≠ 0 ∧ n ≤ capacity ∧ n ∉ l.map Prod.fst) := by
  rw [← h.toList, h.ordered.mem_map_fst, not_not, UInt16.le_iff_toNat_le]
  constructor
  · rintro hnone ⟨hn, hle, hget⟩
    have hlt : n.toNat - 1 < r.slots.size := by
      have := (show r.slots.size = capacity.toNat from h.size)
      have : n.toNat ≠ 0 := fun h0 => hn (UInt16.toNat_inj.1 h0)
      omega
    obtain ⟨r', hr'⟩ := insert?_of_get? hn hlt hget a
    rw [hnone] at hr'
    cases hr'
  · intro hno
    rw [Roster.insert?, if_neg]
    intro hfree
    obtain ⟨hn, hlt, hslot⟩ := isFree_iff hfree
    have hsize := h.size
    exact hno ⟨hn, by omega, by rw [get?, hslot]; rfl⟩

/-- **Every request** is answered by a roster as by the list of its pairs. -/
theorem Lists.serve {capacity : UInt16} {r : Roster α} {l : List (UInt16 × α)}
    (h : r.Lists capacity l) (q : Request α) :
    (r.serve q).1 = (serveListing capacity l q).1 ∧
      (r.serve q).2.Lists capacity (serveListing capacity l q).2 := by
  cases q with
  -- an insertion is refused where the list refuses it, and adds the pair at the end otherwise
  | insert n a =>
    rw [Roster.serve, serveListing]
    cases hr : r.insert? n a with
    | none =>
      rw [if_neg ((h.insert?_eq_none_iff n a).1 hr)]
      exact ⟨rfl, h⟩
    | some r' =>
      have hfree : n ≠ 0 ∧ n ≤ capacity ∧ n ∉ l.map Prod.fst := by
        by_contra hno
        rw [(h.insert?_eq_none_iff n a).2 hno] at hr
        cases hr
      rw [if_pos hfree]
      refine ⟨rfl, h.ordered.insert? hr, ?_, ?_⟩
      · rw [size_slots_insert? hr, h.size]
      · rw [h.ordered.toList_insert? hr, h.toList]
  -- a removal takes the pair of the number out of the list if there is one
  | remove n =>
    rw [Roster.serve, serveListing, h.lookup]
    cases hr : r.remove? n with
    | none =>
      have hget : r.get? n = none := by
        rw [Option.eq_none_iff_forall_ne_some]
        intro a ha
        obtain ⟨r', hr'⟩ := remove?_of_get? ha
        rw [hr] at hr'
        cases hr'
      rw [hget]
      exact ⟨rfl, h⟩
    | some removed =>
      obtain ⟨a, r'⟩ := removed
      obtain ⟨⟨serial, hentry⟩, -⟩ := entry_remove? hr
      rw [get?_eq_some_iff.2 ⟨serial, hentry⟩]
      refine ⟨rfl, h.ordered.remove? hr, ?_, ?_⟩
      · rw [(order_remove? hr hentry).2.2, h.size]
      · rw [h.ordered.toList_remove? hr, h.toList]
  | get n => exact ⟨by rw [Roster.serve, serveListing, h.lookup], h⟩
  | list => exact ⟨by rw [Roster.serve, serveListing, h.toList], h⟩
  | size => exact ⟨by rw [Roster.serve, serveListing, ← h.toList, h.ordered.length_toList], h⟩
  | isEmpty =>
    refine ⟨?_, h⟩
    have hempty : r.isEmpty = l.isEmpty := by
      rw [Bool.eq_iff_iff, Roster.isEmpty, Array.isEmpty_iff_size_eq_zero,
        List.isEmpty_iff_length_eq_zero, ← h.toList, h.ordered.length_toList, Roster.size]
    rw [Roster.serve, serveListing, hempty]

/-- A request uses up one serial number at most. -/
theorem nextSerial_serve_le (r : Roster α) (q : Request α) :
    (r.serve q).2.nextSerial ≤ r.nextSerial + 1 := by
  cases q with
  | insert n a =>
    rw [serve]
    split
    · rename_i r' hr
      exact Nat.le_of_eq (nextSerial_insert? hr).2
    · exact Nat.le_succ _
  | remove n =>
    rw [serve]
    split
    · rename_i a r' hr
      obtain ⟨⟨serial, hentry⟩, -⟩ := entry_remove? hr
      rw [(order_remove? hr hentry).2.1]
      exact Nat.le_succ _
    · exact Nat.le_succ _
  | get n => exact Nat.le_succ _
  | list => exact Nat.le_succ _
  | size => exact Nat.le_succ _
  | isEmpty => exact Nat.le_succ _

/-- No more serial numbers are given out than requests are made. -/
theorem nextSerial_after_le (r : Roster α) (requests : List (Request α)) :
    (Dialogue.after serve r requests).nextSerial ≤ r.nextSerial + requests.length := by
  induction requests generalizing r with
  | nil => exact Nat.le_refl _
  | cons q rest ih =>
    have := ih (r.serve q).2
    have := nextSerial_serve_le r q
    rw [Dialogue.after_cons, List.length_cons]
    omega

/-- What stands under a number is found by bisection in the order of entry, at the one place. -/
theorem Ordered.getElem?_seek {r : Roster α} (o : r.Ordered) {n : UInt16} {slot : Slot α}
    (h : r.slot? n = some slot) :
    r.order[r.seek (slot.serial - 1)]? = some (slot.serial, n) := by
  obtain ⟨j, hj, hjD, hget⟩ := exists_index (o.mem_of_slot slot.serial n slot.value h)
  have hseek := o.seek_pred hj
  rw [hjD] at hseek
  rw [hseek, hget]

/-- **A roster is a list** of pairs in order of entry to all who use it. Whatever is asked of it, it
answers as the list does, and lists the pairs of that list, under different numbers in range. The
order of entry ascends strictly in the serial numbers; what stands in it and what stands under a
number are the same, one by one, and are found from the number by bisection. Serial numbers count
the requests at most. -/
theorem roster_listing (capacity : UInt16) (requests : List (Request α)) :
    let r := Dialogue.after serve (empty capacity : Roster α) requests
    let l := Dialogue.after (serveListing capacity) [] requests
    Dialogue.answers serve (empty capacity) requests =
      Dialogue.answers (serveListing capacity) [] requests ∧
    (r.toList = l ∧ (l.map Prod.fst).Nodup ∧ ∀ e ∈ l, e.1 ≠ 0 ∧ e.1 ≤ capacity) ∧
    -- the two records of the roster
    r.slots.size = capacity.toNat ∧ r.order.toList.Pairwise (fun e f => e.1 < f.1) ∧
    (r.order.toList.map Prod.snd).Nodup ∧
    (∀ serial n, (serial, n) ∈ r.order.toList ↔ ∃ a, r.slot? n = some ⟨serial, a⟩) ∧
    (∀ n slot, r.slot? n = some slot →
      r.order[r.seek (slot.serial - 1)]? = some (slot.serial, n)) ∧
    r.nextSerial ≤ requests.length + 1 := by
  intro r l
  obtain ⟨hanswers, h⟩ : _ ∧ r.Lists capacity l :=
    Dialogue.answers_eq (fun _ _ q h _ => h.serve q) (lists_empty capacity)
      (Dialogue.orderly_of_forall (fun _ _ => trivial) [] requests)
  have o := h.ordered
  refine ⟨hanswers, ⟨h.toList, h.toList ▸ o.nodup_toList, ?range⟩, h.size, o.ascending,
    o.nodup_numbers, ?records, fun _ _ => o.getElem?_seek, ?serials⟩
  case range => exact fun e he => h.inRange he
  case records =>
    intro serial n
    constructor
    · exact o.slot_of_mem (serial, n)
    · rintro ⟨a, ha⟩
      exact o.mem_of_slot serial n a ha
  case serials =>
    have := nextSerial_after_le (empty capacity : Roster α) requests
    rw [Nat.add_comm] at this
    exact this

/-- A number that is used again stands at a new place. -/
example : Dialogue.answers serve (empty 2) [.insert 1 'a', .insert 2 'b', .insert 1 'c', .remove 1,
    .insert 1 'z', .list] = [.entered, .entered, .refused 'c', .value (some 'a'), .entered,
      .entries [(2, 'b'), (1, 'z')]] := by
  decide +kernel

end Roster

end Switchboard
