import Mathlib.Data.Finset.Max
import Mathlib.Data.Nat.Count
import Mathlib.Order.Interval.Finset.Nat
import Switchboard.NumberPool
import Switchboard.Proofs.Dialogue
import Switchboard.Proofs.NumberSet

/-! # Sets of numbers as finite sets

A set of numbers and a pool answer as a finite set does whose elements lie in `1..=capacity`:
`Holds` says which set the bits of the words stand for, and has one lemma per operation. That
nothing else is in the words, no bit beyond the capacity in particular, is what makes counting bits
count members and keeps all arithmetic on words and numbers in its range (`Exact`). Main statement:
`numbers_as_sets`. -/

namespace Switchboard

namespace NumberSet

/-! ## The set that the bits stand for -/

/-- The words are those of the capacity, and their bits are the elements of a set of numbers in
range. -/
structure Holds (s : NumberSet) (A : Finset ℕ) : Prop where
  sized : s.Sized
  bounded : A ⊆ Finset.Icc 1 s.capacity.toNat
  bit_iff : ∀ j, s.bitAt j = true ↔ j + 1 ∈ A

/-- An empty set holds the empty set of numbers. -/
theorem holds_empty (c : UInt16) : (empty c).Holds ∅ where
  sized := sized_empty c
  bounded := Finset.empty_subset _
  bit_iff j := by simp [bitAt_empty]

/-- A tidy set of the right size holds the numbers of its bits. -/
theorem exists_holds {s : NumberSet} (sized : s.Sized) (tidy : s.Tidy) : ∃ A, s.Holds A := by
  refine ⟨((Finset.range s.capacity.toNat).filter fun j => s.bitAt j = true).map
    (addRightEmbedding 1), sized, fun n hn => ?_, fun j => ?_⟩
  · obtain ⟨j, hj, rfl⟩ := Finset.mem_map.1 hn
    have hlt := Finset.mem_range.1 (Finset.mem_filter.1 hj).1
    exact Finset.mem_Icc.2 ⟨Nat.succ_pos j, hlt⟩
  · rw [Finset.mem_map]
    constructor
    · intro hj
      exact ⟨j, Finset.mem_filter.2 ⟨Finset.mem_range.2 (tidy j hj), hj⟩, rfl⟩
    · rintro ⟨k, hk, hkj⟩
      obtain rfl : k = j := Nat.succ.inj hkj
      exact (Finset.mem_filter.1 hk).2

/-- A bit that is set lies below the capacity. -/
theorem Holds.lt_capacity {s : NumberSet} {A : Finset ℕ} (h : s.Holds A) {j : Nat}
    (hj : s.bitAt j = true) : j < s.capacity.toNat :=
  (Finset.mem_Icc.1 (h.bounded ((h.bit_iff j).1 hj))).2

/-- The numbers from one up to the capacity are the numbers in range. -/
theorem mem_Icc_iff (s : NumberSet) (n : UInt16) :
    n.toNat ∈ Finset.Icc 1 s.capacity.toNat ↔ s.InRange n := by
  rw [Finset.mem_Icc, Nat.one_le_iff_ne_zero, InRange, Ne, Ne, ← UInt16.toNat_inj]
  rfl

/-- The members are the elements. -/
theorem Holds.contains_iff {s : NumberSet} {A : Finset ℕ} (h : s.Holds A) (n : UInt16) :
    s.contains n = true ↔ n.toNat ∈ A := by
  rw [NumberSet.contains_iff, ← s.mem_Icc_iff, h.bit_iff]
  constructor
  · rintro ⟨hn, hmem⟩
    rwa [Nat.sub_add_cancel (Finset.mem_Icc.1 hn).1] at hmem
  · intro hmem
    have hn := h.bounded hmem
    rw [Nat.sub_add_cancel (Finset.mem_Icc.1 hn).1]
    exact ⟨hn, hmem⟩

/-- Adding a number makes a difference when it is in range and no member. -/
theorem accepts_iff (s : NumberSet) (n : UInt16) :
    s.accepts n = true ↔ s.InRange n ∧ s.contains n = false := by
  by_cases hn : s.InRange n
  · rw [accepts, contains, place?_of_inRange hn]
    simp [hn]
  · rw [accepts, place?_of_not_inRange hn]
    simp [hn]

/-- Inserting a number in range adds it to the set of numbers. -/
theorem Holds.insert {s : NumberSet} {A : Finset ℕ} (h : s.Holds A) {n : UInt16}
    (hn : s.InRange n) : (s.insert n).Holds (Insert.insert n.toNat A) where
  sized := h.sized.insert n
  bounded := by
    rw [capacity_insert]
    exact Finset.insert_subset ((s.mem_Icc_iff n).2 hn) h.bounded
  bit_iff j := by
    rw [NumberSet.insert, place?_of_inRange hn]
    have hpos := hn.pos
    rw [bitAt_or_bit h.sized hn.pred_lt, Bool.or_eq_true, decide_eq_true_iff, h.bit_iff,
      Finset.mem_insert]
    refine or_congr_left ?_
    omega

/-- Inserting a number out of range does nothing. -/
theorem insert_of_not_inRange {s : NumberSet} {n : UInt16} (hn : ¬s.InRange n) :
    s.insert n = s := by
  rw [NumberSet.insert, place?_of_not_inRange hn]

/-- Erasing a number out of range does nothing. -/
theorem erase_of_not_inRange {s : NumberSet} {n : UInt16} (hn : ¬s.InRange n) :
    s.erase n = s := by
  rw [NumberSet.erase, place?_of_not_inRange hn]

/-- Erasing a number takes it from the set of numbers. -/
theorem Holds.erase {s : NumberSet} {A : Finset ℕ} (h : s.Holds A) (n : UInt16) :
    (s.erase n).Holds (A.erase n.toNat) := by
  by_cases hn : s.InRange n
  · refine ⟨h.sized.erase n, ?_, fun j => ?_⟩
    · rw [capacity_erase]
      exact (Finset.erase_subset _ _).trans h.bounded
    · have hpos := hn.pos
      rw [NumberSet.erase, place?_of_inRange hn, bitAt_and_not_bit h.sized hn.pred_lt,
        Bool.and_eq_true, decide_eq_true_iff, Finset.mem_erase, h.bit_iff, and_comm]
      refine and_congr_left' ?_
      omega
  · have hnot : n.toNat ∉ A := fun hmem => hn ((s.mem_Icc_iff n).1 (h.bounded hmem))
    rw [erase_of_not_inRange hn, Finset.erase_eq_of_notMem hnot]
    exact h

/-! ## Counting -/

/-- How many numbers below a bound pass a test is counted along the list of them. -/
theorem card_filter_range (p : ℕ → Bool) (n : ℕ) :
    ((Finset.range n).filter fun i => p i = true).card = (List.range n).countP p := by
  rw [← Nat.count_eq_card_filter_range, Nat.count]
  exact List.countP_congr fun i _ => decide_eq_true_iff

/-- The bits of the words one by one are the bits counted through all words. -/
theorem foldl_bitCount (ws : List UInt64) (n : ℕ) :
    ws.foldl (fun n w => n + bitCount w) n = n + (List.range (wordBits * ws.length)).countP fun j =>
      (ws.getD (j / wordBits) 0).toNat.testBit (j % wordBits) := by
  induction ws generalizing n with
  | nil => rfl
  | cons w ws ih =>
    have hfirst : bitCount w = (List.range wordBits).countP fun j =>
        ((w :: ws).getD (j / wordBits) 0).toNat.testBit (j % wordBits) := by
      refine List.countP_congr fun j hj => ?_
      have hlt := List.mem_range.1 hj
      rw [Nat.div_eq_of_lt hlt, Nat.mod_eq_of_lt hlt]
      rfl
    have hrest : (List.range (wordBits * ws.length)).countP ((fun j =>
          ((w :: ws).getD (j / wordBits) 0).toNat.testBit (j % wordBits)) ∘ (wordBits + ·)) =
        (List.range (wordBits * ws.length)).countP fun j =>
          (ws.getD (j / wordBits) 0).toNat.testBit (j % wordBits) := by
      refine List.countP_congr fun j _ => ?_
      have hdiv : (wordBits + j) / wordBits = j / wordBits + 1 := by unfold wordBits; omega
      have hmod : (wordBits + j) % wordBits = j % wordBits := by unfold wordBits; omega
      rw [Function.comp_apply, hdiv, hmod, List.getD_cons_succ]
    rw [List.foldl_cons, ih, List.length_cons, Nat.mul_add_one, Nat.add_comm (wordBits * _),
      List.range_add, List.countP_append, List.countP_map, ← hfirst, hrest, Nat.add_assoc]

/-- The elements are the places of the bits, counted from one. -/
theorem Holds.eq_map {s : NumberSet} {A : Finset ℕ} (h : s.Holds A) :
    A = ((Finset.range (wordBits * s.words.size)).filter fun j => s.bitAt j = true).map
      ⟨Nat.succ, Nat.succ_injective⟩ := by
  ext n
  simp only [Finset.mem_map, Finset.mem_filter, Finset.mem_range, Function.Embedding.coeFn_mk]
  constructor
  · intro hn
    have hbounds := Finset.mem_Icc.1 (h.bounded hn)
    have hplace : n - 1 + 1 = n := Nat.sub_add_cancel hbounds.1
    have hword : (n - 1) / wordBits < s.words.size := h.sized.lt_size (by omega)
    refine ⟨n - 1, ⟨?_, (h.bit_iff _).2 (hplace.symm ▸ hn)⟩, hplace⟩
    unfold wordBits at *
    omega
  · rintro ⟨j, ⟨-, hj⟩, rfl⟩
    exact (h.bit_iff j).1 hj

/-- **The size counts the members.** -/
theorem Holds.size_eq {s : NumberSet} {A : Finset ℕ} (h : s.Holds A) : s.size = A.card := by
  rw [h.eq_map, Finset.card_map, card_filter_range, size, ← Array.foldl_toList, foldl_bitCount,
    Nat.zero_add, Array.length_toList]
  refine List.countP_congr fun j _ => ?_
  rw [bitAt, word, Array.getD_eq_getD_getElem?, List.getD_eq_getElem?_getD, Array.getElem?_toList]
  rfl

/-- A bit of a word, counted through all words. -/
theorem bitAt_add (s : NumberSet) (i : Nat) {b : Nat} (hb : b < wordBits) :
    s.bitAt (i * wordBits + b) = (s.word i).toNat.testBit b := by
  have hdiv : (i * wordBits + b) / wordBits = i := by unfold wordBits at *; omega
  have hmod : (i * wordBits + b) % wordBits = b := by unfold wordBits at *; omega
  rw [bitAt, hdiv, hmod]
  rfl

/-- A word is zero when it has no bits. -/
theorem word_eq_zero_iff (s : NumberSet) (i : Nat) :
    s.word i = 0 ↔ ∀ b < wordBits, s.bitAt (i * wordBits + b) = false := by
  constructor
  · intro h b hb
    rw [s.bitAt_add i hb, h]
    exact Nat.zero_testBit b
  · intro h
    refine UInt64.toBitVec_inj.1 (BitVec.eq_of_getLsbD_eq fun b hb => ?_)
    have hbit := h b hb
    rw [s.bitAt_add i hb] at hbit
    exact hbit.trans BitVec.getLsbD_zero.symm

/-- A set is found empty exactly when it holds no number. -/
theorem Holds.isEmpty_iff {s : NumberSet} {A : Finset ℕ} (h : s.Holds A) :
    s.isEmpty = true ↔ A = ∅ := by
  have hwords : s.isEmpty = true ↔ ∀ i < s.words.size, s.word i = 0 := by
    rw [isEmpty, Array.all_eq_true]
    refine forall_congr' fun i => forall_congr' fun hi => ?_
    rw [beq_iff_eq, word, Array.getD_eq_getD_getElem?, Array.getElem?_eq_getElem hi]
    rfl
  rw [hwords, Finset.eq_empty_iff_forall_notMem]
  constructor
  · intro hzero n hn
    have hbounds := Finset.mem_Icc.1 (h.bounded hn)
    have hplace : (n - 1) / wordBits * wordBits + (n - 1) % wordBits = n - 1 :=
      Nat.div_add_mod' _ _
    have hword : (n - 1) / wordBits < s.words.size := h.sized.lt_size (by omega)
    have hbit := (s.word_eq_zero_iff _).1 (hzero _ hword) _ (Nat.mod_lt (n - 1) (by decide))
    rw [hplace, ← Bool.not_eq_true, h.bit_iff, Nat.sub_add_cancel hbounds.1] at hbit
    exact hbit hn
  · intro hnone i _
    rw [word_eq_zero_iff]
    intro b _
    rw [Bool.eq_false_iff]
    exact fun hb => hnone _ ((h.bit_iff _).1 hb)

/-! ## Arithmetic on words and numbers -/

/-- The arithmetic on words, places and numbers of a set is exact: nothing is subtracted from less,
no shift goes beyond a word and no index beyond the words, and no number is cut off at 16 bits. -/
structure Exact (s : NumberSet) : Prop where
  /-- The word and the bit of a number in range. -/
  place : ∀ n, s.InRange n → 1 ≤ n.toNat ∧ (n - 1).toNat = n.toNat - 1 ∧
    (n - 1).toNat / wordBits < s.words.size ∧ (n - 1).toNat % wordBits < 64
  /-- How many numbers are left from a word on, and the mask of a partial last word. -/
  left : ∀ i < s.words.size, i * wordBits ≤ s.capacity.toNat ∧
    (s.capacity.toNat - i * wordBits < 64 → 1 ≤ (bit (s.capacity.toNat - i * wordBits)).toNat)
  /-- The number of the lowest free bit. -/
  free : ∀ i < s.words.size, ∀ b, lowestBit? (~~~(s.word i) &&& s.usable i) = some b →
    b < 64 ∧ i * wordBits < 2 ^ 16 ∧ (numberAt i b).toNat = i * wordBits + b + 1
  /-- The number of a bit that is set. -/
  listed : ∀ i b, b < 64 → (s.word i).toNat.testBit b = true →
    i * wordBits + b < 2 ^ 16 ∧
      (UInt16.ofNat (i * wordBits + b) + 1).toNat = i * wordBits + b + 1

/-- The number of a place that is below the capacity. -/
theorem toNat_ofNat_add_one {s : NumberSet} {j : Nat} (hj : j < s.capacity.toNat) :
    (UInt16.ofNat j + 1).toNat = j + 1 := by
  have hcapacity := s.capacity.toNat_lt
  rw [UInt16.toNat_add, UInt16.toNat_ofNat', UInt16.toNat_one]
  omega

/-- A set that holds a set of numbers answers every query as that set does. -/
theorem Holds.exact {s : NumberSet} {A : Finset ℕ} (h : s.Holds A) : s.Exact where
  place n hn := by
    have hpred : (n - 1).toNat = n.toNat - 1 :=
      UInt16.toNat_sub_of_le _ _ (UInt16.le_iff_toNat_le.2 hn.pos)
    rw [hpred]
    exact ⟨hn.pos, rfl, h.sized.lt_size hn.pred_lt, Nat.mod_lt _ (by decide)⟩
  left i hi := by
    have hsized : s.words.size = (s.capacity.toNat + 63) / wordBits := h.sized
    refine ⟨by unfold wordBits at *; omega, fun hlt => ?_⟩
    rw [← UInt64.toNat_toBitVec, toBitVec_bit hlt, BitVec.toNat_twoPow_of_lt hlt]
    exact Nat.one_le_two_pow
  free i _ b hb := by
    obtain ⟨hb64, hbit, -⟩ := lowestBit?_eq_some hb
    obtain ⟨hlt, -⟩ := (getLsbD_free s i hb64).1 hbit
    have hcapacity := s.capacity.toNat_lt
    exact ⟨hb64, by omega, toNat_numberAt (by omega)⟩
  listed i b hb hbit := by
    rw [← s.bitAt_add i hb] at hbit
    have hlt := h.lt_capacity hbit
    have hcapacity := s.capacity.toNat_lt
    exact ⟨by omega, toNat_ofNat_add_one hlt⟩

/-! ## Dialogues with sets -/

/-- What is asked of a set. -/
inductive Request where
  | insert (n : UInt16)
  | remove (n : UInt16)
  | contains (n : UInt16)
  | size
  | isEmpty

/-- What is answered. -/
inductive Response where
  | truth (b : Bool)
  | count (k : Nat)
deriving DecidableEq

/-- What a set of numbers answers, and the set after it. -/
def serve (s : NumberSet) : Request → Response × NumberSet
  | .insert n => (.truth (s.accepts n), s.insert n)
  | .remove n => (.truth (s.contains n), s.erase n)
  | .contains n => (.truth (s.contains n), s)
  | .size => (.count s.size, s)
  | .isEmpty => (.truth s.isEmpty, s)

/-- What a finite set of numbers up to `capacity` answers, and the set after it. -/
def serveFinset (capacity : UInt16) (A : Finset ℕ) : Request → Response × Finset ℕ
  | .insert n =>
    if n.toNat ∈ Finset.Icc 1 capacity.toNat then (.truth (n.toNat ∉ A), Insert.insert n.toNat A)
    else (.truth false, A)
  | .remove n => (.truth (n.toNat ∈ A), A.erase n.toNat)
  | .contains n => (.truth (n.toNat ∈ A), A)
  | .size => (.count A.card, A)
  | .isEmpty => (.truth (A = ∅), A)

/-- No request changes the capacity. -/
@[simp] theorem capacity_serve (s : NumberSet) (q : Request) :
    (s.serve q).2.capacity = s.capacity := by
  cases q with
  | insert n => exact s.capacity_insert n
  | remove n => exact s.capacity_erase n
  | _ => rfl

/-- **Every request** is answered by the bits as by the set that they stand for. -/
theorem Holds.serve {s : NumberSet} {A : Finset ℕ} (h : s.Holds A) (q : Request) :
    (s.serve q).1 = (serveFinset s.capacity A q).1 ∧
      (s.serve q).2.Holds (serveFinset s.capacity A q).2 := by
  have hcontains (n : UInt16) : s.contains n = decide (n.toNat ∈ A) := by
    rw [Bool.eq_iff_iff, h.contains_iff, decide_eq_true_iff]
  cases q with
  -- a number out of range is refused by both
  | insert n =>
    rw [NumberSet.serve, serveFinset]
    by_cases hn : s.InRange n
    · rw [if_pos ((s.mem_Icc_iff n).2 hn)]
      refine ⟨?_, h.insert hn⟩
      rw [Response.truth.injEq, Bool.eq_iff_iff, accepts_iff, hcontains, decide_eq_true_iff,
        decide_eq_false_iff_not]
      exact and_iff_right hn
    · rw [if_neg (mt (s.mem_Icc_iff n).1 hn), insert_of_not_inRange hn]
      refine ⟨?_, h⟩
      rw [Response.truth.injEq, ← Bool.not_eq_true, accepts_iff]
      exact fun hno => hn hno.1
  | remove n => exact ⟨by rw [NumberSet.serve, serveFinset, hcontains], h.erase n⟩
  | contains n => exact ⟨by rw [NumberSet.serve, serveFinset, hcontains], h⟩
  | size => exact ⟨by rw [NumberSet.serve, serveFinset, h.size_eq], h⟩
  | isEmpty =>
    refine ⟨?_, h⟩
    rw [NumberSet.serve, serveFinset, Response.truth.injEq, Bool.eq_iff_iff, h.isEmpty_iff,
      decide_eq_true_iff]

/-- After any requests the set has answered as a finite set does, and holds what that holds. -/
theorem holds_after (capacity : UInt16) (requests : List Request) :
    let s := Dialogue.after serve (empty capacity) requests
    let A := Dialogue.after (serveFinset capacity) ∅ requests
    Dialogue.answers serve (empty capacity) requests =
      Dialogue.answers (serveFinset capacity) ∅ requests ∧ s.Holds A ∧ s.capacity = capacity := by
  have step : ∀ (s : NumberSet) (A : Finset ℕ) (q : Request), s.Holds A ∧ s.capacity = capacity →
      True → (s.serve q).1 = (serveFinset capacity A q).1 ∧
        (s.serve q).2.Holds (serveFinset capacity A q).2 ∧ (s.serve q).2.capacity = capacity := by
    rintro s A q ⟨h, rfl⟩ -
    exact ⟨(h.serve q).1, (h.serve q).2, s.capacity_serve q⟩
  exact Dialogue.answers_eq step ⟨holds_empty capacity, rfl⟩
    (Dialogue.orderly_of_forall (fun _ _ => trivial) ∅ requests)

end NumberSet

/-! ## Dialogues with pools -/

namespace NumberPool

/-- What is asked of a pool. -/
inductive Request where
  | allocate
  | free (n : UInt16)

/-- What is answered. -/
inductive Response where
  | given (n : ℕ)
  | exhausted (e : PoolExhausted)
  | done
deriving DecidableEq

/-- What a pool answers, and the pool after it. -/
def serve (p : NumberPool) : Request → Response × NumberPool
  | .allocate => match p.allocate with
    | .ok (n, q) => (.given n.toNat, q)
    | .error e => (.exhausted e, p)
  | .free n => (.done, p.free n)

/-- What the numbers in use answer by themselves, and the numbers in use after it. -/
def serveFinset (capacity : UInt16) (A : Finset ℕ) : Request → Response × Finset ℕ
  | .allocate =>
    if h : (Finset.Icc 1 capacity.toNat \ A).Nonempty then
      (.given ((Finset.Icc 1 capacity.toNat \ A).min' h),
        insert ((Finset.Icc 1 capacity.toNat \ A).min' h) A)
    else (.exhausted ⟨capacity⟩, A)
  | .free n => (.done, A.erase n.toNat)

/-- A pool allocates the lowest number that is not in use. -/
theorem serve_allocate {p : NumberPool} {A : Finset ℕ} (h : p.inUse.Holds A) :
    (p.serve .allocate).1 = (serveFinset p.capacity A .allocate).1 ∧
      (p.serve .allocate).2.inUse.Holds (serveFinset p.capacity A .allocate).2 ∧
      (p.serve .allocate).2.capacity = p.capacity := by
  have hmem (n : UInt16) : n.toNat ∈ Finset.Icc 1 p.capacity.toNat \ A ↔
      p.inUse.InRange n ∧ p.inUse.contains n = false := by
    rw [Finset.mem_sdiff, ← h.contains_iff, Bool.not_eq_true]
    exact and_congr_left' (p.inUse.mem_Icc_iff n)
  have hnumber {k : ℕ} (hk : k ∈ Finset.Icc 1 p.capacity.toNat \ A) : ∃ n : UInt16, n.toNat = k := by
    have hle := (Finset.mem_Icc.1 (Finset.mem_sdiff.1 hk).1).2
    exact ⟨.ofNat k, UInt16.toNat_ofNat_of_lt' (Nat.lt_of_le_of_lt hle p.capacity.toNat_lt)⟩
  rw [serve, serveFinset, allocate]
  -- nothing is free
  cases htake : p.inUse.takeLowest? with
  | none =>
    have hall := (NumberSet.takeLowest?_eq_none_iff h.sized).1 htake
    have hempty : ¬(Finset.Icc 1 p.capacity.toNat \ A).Nonempty := by
      rintro ⟨k, hk⟩
      obtain ⟨n, rfl⟩ := hnumber hk
      obtain ⟨hrange, hfree⟩ := (hmem n).1 hk
      rw [hall n hrange] at hfree
      cases hfree
    rw [dif_neg hempty]
    exact ⟨rfl, h, rfl⟩
  -- the number taken is the least of those that are free
  | some e =>
    obtain ⟨n, s⟩ := e
    obtain ⟨hrange, hfree, rfl⟩ := NumberSet.takeLowest?_eq_some htake
    have hn := (hmem n).2 ⟨hrange, hfree⟩
    have hmin : (Finset.Icc 1 p.capacity.toNat \ A).min' ⟨_, hn⟩ = n.toNat := by
      refine Nat.le_antisymm (Finset.min'_le _ _ hn) (Finset.le_min' _ _ _ fun k hk => ?_)
      obtain ⟨m, rfl⟩ := hnumber hk
      obtain ⟨hm, hmfree⟩ := (hmem m).1 hk
      exact NumberSet.takeLowest?_le htake hm hmfree
    rw [dif_pos ⟨_, hn⟩, hmin]
    exact ⟨rfl, h.insert hrange, p.inUse.capacity_insert n⟩

/-- After any requests the pool has answered as a finite set does, and has in use what that has. -/
theorem holds_after (capacity : UInt16) (requests : List Request) :
    let p := Dialogue.after serve (full capacity) requests
    let A := Dialogue.after (serveFinset capacity) ∅ requests
    Dialogue.answers serve (full capacity) requests =
      Dialogue.answers (serveFinset capacity) ∅ requests ∧
      p.inUse.Holds A ∧ p.capacity = capacity := by
  have step : ∀ (p : NumberPool) (A : Finset ℕ) (q : Request),
      p.inUse.Holds A ∧ p.capacity = capacity → True →
      (p.serve q).1 = (serveFinset capacity A q).1 ∧
        (p.serve q).2.inUse.Holds (serveFinset capacity A q).2 ∧
        (p.serve q).2.capacity = capacity := by
    rintro p A q ⟨h, rfl⟩ -
    cases q with
    | allocate => exact serve_allocate h
    | free n => exact ⟨rfl, h.erase n, p.capacity_free n⟩
  exact Dialogue.answers_eq step ⟨NumberSet.holds_empty capacity, rfl⟩
    (Dialogue.orderly_of_forall (fun _ _ => trivial) ∅ requests)

end NumberPool

/-- **Sets of numbers and pools are finite sets** at every capacity. Whatever is asked of a set, it
answers as a set does whose elements are the numbers added and not removed, out of those in
`1..=capacity`. Whatever is asked of a pool, it allocates the lowest number in `1..=capacity` that
is not in use, or reports exhaustion when all are in use; a number that is not in use may be freed
to no effect. No bit beyond the capacity is ever set, and the arithmetic on words and numbers is
exact. -/
theorem numbers_as_sets (capacity : UInt16) :
    (∀ requests : List NumberSet.Request,
      let s := Dialogue.after NumberSet.serve (.empty capacity) requests
      let A := Dialogue.after (NumberSet.serveFinset capacity) ∅ requests
      Dialogue.answers NumberSet.serve (.empty capacity) requests =
        Dialogue.answers (NumberSet.serveFinset capacity) ∅ requests ∧
      (∀ n, s.contains n = true ↔ n.toNat ∈ A) ∧ A ⊆ Finset.Icc 1 capacity.toNat ∧
      (∀ i b, b < 64 → (s.word i).toNat.testBit b = true → i * 64 + b < capacity.toNat) ∧
      s.Exact) ∧
    (∀ requests : List NumberPool.Request,
      let p := Dialogue.after NumberPool.serve (.full capacity) requests
      let A := Dialogue.after (NumberPool.serveFinset capacity) ∅ requests
      Dialogue.answers NumberPool.serve (.full capacity) requests =
        Dialogue.answers (NumberPool.serveFinset capacity) ∅ requests ∧
      (∀ n, p.isAllocated n = true ↔ n.toNat ∈ A) ∧ A ⊆ Finset.Icc 1 capacity.toNat ∧
      (∀ i b, b < 64 → (p.inUse.word i).toNat.testBit b = true → i * 64 + b < capacity.toNat) ∧
      p.inUse.Exact) := by
  -- a bit of a word, counted through the words
  have bits {s : NumberSet} {A : Finset ℕ} (h : s.Holds A) {i b : Nat} (hb : b < 64)
      (hbit : (s.word i).toNat.testBit b = true) : i * 64 + b < s.capacity.toNat := by
    rw [← s.bitAt_add i hb] at hbit
    exact h.lt_capacity hbit
  constructor
  · intro requests s A
    obtain ⟨hanswers, h, hcapacity⟩ := NumberSet.holds_after capacity requests
    exact ⟨hanswers, h.contains_iff, hcapacity ▸ h.bounded,
      fun i b hb hbit => hcapacity ▸ bits h hb hbit, h.exact⟩
  · intro requests p A
    obtain ⟨hanswers, h, hcapacity⟩ := NumberPool.holds_after capacity requests
    exact ⟨hanswers, h.contains_iff, hcapacity ▸ h.bounded,
      fun i b hb hbit => hcapacity ▸ bits h hb hbit, h.exact⟩

/-- A pool that has run out allocates again what is freed. -/
example : Dialogue.answers NumberPool.serve (.full 3) [.allocate, .allocate, .allocate, .allocate,
    .free 2, .allocate] = [.given 1, .given 2, .given 3, .exhausted ⟨3⟩, .done, .given 2] := by
  decide +kernel

end Switchboard
