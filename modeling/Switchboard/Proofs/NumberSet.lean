import Switchboard.NumberPool

/-! # Membership in sets of numbers

What the operations of a set do to its members, read off the bits. The bit of a number is reached
through `bitAt`, which counts bits through all words; a set is *sized* when it has the words that
its capacity asks for. Main statements: `contains_insert`, `contains_erase` and, for the lowest free
number, `takeLowest?_eq_some`, `takeLowest?_le` and `takeLowest?_eq_none_iff`. -/

namespace Switchboard

namespace NumberSet

/-! ## Words and bits -/

/-- The bit at a place, counted through all words. -/
def bitAt (s : NumberSet) (i : Nat) : Bool := (s.word (i / wordBits)).toBitVec.getLsbD (i % wordBits)

/-- The set has a word for each of its numbers. -/
def Sized (s : NumberSet) : Prop := s.words.size = (s.capacity.toNat + 63) / wordBits

/-- A bit is a power of two. -/
theorem toBitVec_bit {i : Nat} (hi : i < 64) : (bit i).toBitVec = BitVec.twoPow 64 i := by
  -- the shift is taken modulo the width of a word, which changes nothing here
  have hn : ((UInt64.ofNat i).toBitVec % 64).toNat = i := by
    rw [BitVec.toNat_umod, UInt64.toNat_toBitVec, UInt64.toNat_ofNat',
      show (64 : BitVec 64).toNat = 64 from rfl]
    omega
  rw [bit, UInt64.toBitVec_shiftLeft, BitVec.twoPow_eq, BitVec.shiftLeft_eq', hn]
  rfl

/-- A single bit is set at its own place. -/
theorem getLsbD_bit {i : Nat} (hi : i < 64) (j : Nat) :
    (bit i).toBitVec.getLsbD j = decide (i = j) := by
  rw [toBitVec_bit hi, BitVec.getLsbD_twoPow]
  simp [hi]

/-- A word meets a single bit exactly when it has that bit. -/
theorem and_bit_ne_zero (w : UInt64) {i : Nat} (hi : i < 64) :
    (w &&& bit i != 0) = w.toBitVec.getLsbD i := by
  have hand : ∀ j, (w &&& bit i).toBitVec.getLsbD j = (w.toBitVec.getLsbD j && decide (i = j)) := by
    intro j
    rw [UInt64.toBitVec_and, BitVec.getLsbD_and, getLsbD_bit hi]
  cases hw : w.toBitVec.getLsbD i with
  | true =>
    rw [bne_iff_ne]
    intro h0
    have := hand i
    rw [h0, hw] at this
    simp at this
  | false =>
    rw [bne_eq_false_iff_eq]
    apply UInt64.toBitVec_inj.1
    apply BitVec.eq_of_getLsbD_eq
    intro j _
    rw [hand]
    by_cases hij : i = j
    · subst hij; simp [hw]
    · simp [hij]

/-- The numbers that may be members. -/
def InRange (s : NumberSet) (n : UInt16) : Prop := n ≠ 0 ∧ n.toNat ≤ s.capacity.toNat

/-- A number in range is not zero. -/
theorem InRange.pos {s : NumberSet} {n : UInt16} (h : s.InRange n) : 0 < n.toNat :=
  Nat.pos_of_ne_zero fun h0 => h.1 (UInt16.toNat_inj.1 h0)

/-- The place of a number in range lies below the capacity. -/
theorem InRange.pred_lt {s : NumberSet} {n : UInt16} (h : s.InRange n) :
    n.toNat - 1 < s.capacity.toNat := by
  have hpos := h.pos
  have hle := h.2
  omega

/-- The place of a number in range tells its bit. -/
theorem place?_of_inRange {s : NumberSet} {n : UInt16} (h : s.InRange n) :
    s.place? n = some ((n.toNat - 1) / wordBits, bit ((n.toNat - 1) % wordBits)) := by
  have hpred : (n - 1).toNat = n.toNat - 1 := by
    rw [UInt16.toNat_sub_of_le]
    · rfl
    · exact UInt16.le_iff_toNat_le.2 h.pos
  have hout : ¬(n = 0 ∨ s.capacity < n) := by
    rintro (h0 | hlt)
    · exact h.1 h0
    · exact absurd (UInt16.lt_iff_toNat_lt.1 hlt) (Nat.not_lt.2 h.2)
  rw [place?, if_neg hout, hpred]

/-- A number out of range has no place. -/
theorem place?_of_not_inRange {s : NumberSet} {n : UInt16} (h : ¬s.InRange n) :
    s.place? n = none := by
  rw [place?, if_pos]
  by_cases h0 : n = 0
  · exact Or.inl h0
  · exact Or.inr (UInt16.lt_iff_toNat_lt.2 (Nat.not_le.1 fun hle => h ⟨h0, hle⟩))

/-- A number is a member when it is in range and its bit is set. -/
theorem contains_iff (s : NumberSet) (n : UInt16) :
    s.contains n = true ↔ s.InRange n ∧ s.bitAt (n.toNat - 1) = true := by
  by_cases h : s.InRange n
  · have hmod : (n.toNat - 1) % wordBits < 64 := Nat.mod_lt _ (by decide)
    rw [contains, place?_of_inRange h]
    dsimp only
    rw [and_bit_ne_zero _ hmod, bitAt]
    exact ⟨fun hb => ⟨h, hb⟩, And.right⟩
  · rw [contains, place?_of_not_inRange h]
    exact ⟨fun hf => absurd hf Bool.false_ne_true, fun hr => absurd hr.1 h⟩

/-- Replacing a word changes the bits of that word alone. -/
theorem bitAt_setWord (s : NumberSet) {i : Nat} (hi : i < s.words.size) (w : UInt64) (j : Nat) :
    (s.setWord i w).bitAt j =
      if j / wordBits = i then w.toBitVec.getLsbD (j % wordBits) else s.bitAt j := by
  unfold bitAt setWord word
  simp only [Array.getD_eq_getD_getElem?, Array.getElem?_setIfInBounds]
  by_cases hj : j / wordBits = i
  · subst hj
    simp [hi]
  · simp [hj, Ne.symm hj]

/-- The word of a number in range is there. -/
theorem Sized.lt_size {s : NumberSet} (h : s.Sized) {i : Nat} (hi : i < s.capacity.toNat) :
    i / wordBits < s.words.size := by
  unfold Sized wordBits at *
  omega

/-- Setting a word leaves as many words. -/
@[simp] theorem size_words_setWord (s : NumberSet) (i : Nat) (w : UInt64) :
    (s.setWord i w).words.size = s.words.size := by
  simp [setWord]

/-- An empty set has the words that it needs. -/
theorem sized_empty (c : UInt16) : (empty c).Sized := by
  simp [Sized, empty]

/-- Setting a word keeps the words that there are. -/
theorem Sized.setWord {s : NumberSet} (h : s.Sized) (i : Nat) (w : UInt64) :
    (s.setWord i w).Sized := by
  unfold Sized at *
  rw [size_words_setWord, h, capacity_setWord]

/-! ## Insertion and removal -/

/-- Inserting keeps the words that there are. -/
theorem Sized.insert {s : NumberSet} (h : s.Sized) (n : UInt16) : (s.insert n).Sized := by
  unfold NumberSet.insert
  split
  · exact h
  · exact h.setWord _ _

/-- Erasing keeps the words that there are. -/
theorem Sized.erase {s : NumberSet} (h : s.Sized) (n : UInt16) : (s.erase n).Sized := by
  unfold NumberSet.erase
  split
  · exact h
  · exact h.setWord _ _

/-- No bit of the empty set is set. -/
theorem bitAt_empty (c : UInt16) (j : Nat) : (empty c).bitAt j = false := by
  simp only [bitAt, word, empty, Array.getD_eq_getD_getElem?, Array.getElem?_replicate]
  split <;> simp

/-- The empty set has no members. -/
@[simp] theorem contains_empty (c n : UInt16) : (empty c).contains n = false := by
  rw [← Bool.not_eq_true, contains_iff]
  rintro ⟨_, h⟩
  rw [bitAt_empty] at h
  cases h

/-- Setting the bit of a number in range sets that bit alone. -/
theorem bitAt_or_bit {s : NumberSet} (h : s.Sized) {i : Nat} (hi : i < s.capacity.toNat) (j : Nat) :
    (s.setWord (i / wordBits) (s.word (i / wordBits) ||| bit (i % wordBits))).bitAt j =
      (decide (j = i) || s.bitAt j) := by
  rw [bitAt_setWord _ (h.lt_size hi)]
  have hmod : i % wordBits < 64 := Nat.mod_lt _ (by decide)
  split
  · rename_i hw
    rw [UInt64.toBitVec_or, BitVec.getLsbD_or, getLsbD_bit hmod, bitAt, hw, Bool.or_comm]
    congr 2
    unfold wordBits at *
    simp only [eq_iff_iff]
    omega
  · rename_i hw
    have hne : j ≠ i := fun e => hw (by rw [e])
    simp [hne]

/-- Clearing the bit of a number in range clears that bit alone. -/
theorem bitAt_and_not_bit {s : NumberSet} (h : s.Sized) {i : Nat} (hi : i < s.capacity.toNat)
    (j : Nat) :
    (s.setWord (i / wordBits) (s.word (i / wordBits) &&& ~~~(bit (i % wordBits)))).bitAt j =
      (s.bitAt j && decide (j ≠ i)) := by
  rw [bitAt_setWord _ (h.lt_size hi)]
  have hmod : i % wordBits < 64 := Nat.mod_lt _ (by decide)
  split
  · rename_i hw
    have hj : j % wordBits < 64 := Nat.mod_lt _ (by decide)
    have heq : (i % wordBits = j % wordBits) ↔ (j = i) := by
      unfold wordBits at *
      omega
    rw [UInt64.toBitVec_and, UInt64.toBitVec_not, BitVec.getLsbD_and, BitVec.getLsbD_not,
      getLsbD_bit hmod, bitAt, hw]
    simp [hj, heq]
  · rename_i hw
    have hne : j ≠ i := fun e => hw (by rw [e])
    simp [hne]

/-- No bit is set but those of the numbers in range. -/
def Tidy (s : NumberSet) : Prop := ∀ j, s.bitAt j = true → j < s.capacity.toNat

/-- The empty set has no bits set at all. -/
theorem tidy_empty (c : UInt16) : (empty c).Tidy := by
  intro j hj
  rw [bitAt_empty] at hj
  cases hj

/-- An insertion sets no bit but that of a number in range. -/
theorem Tidy.insert {s : NumberSet} (h : s.Tidy) (sized : s.Sized) (n : UInt16) :
    (s.insert n).Tidy := by
  intro j hj
  rw [capacity_insert]
  by_cases hn : s.InRange n
  · rw [NumberSet.insert, place?_of_inRange hn] at hj
    simp only [bitAt_or_bit sized hn.pred_lt, Bool.or_eq_true, decide_eq_true_eq] at hj
    rcases hj with rfl | hj
    · exact hn.pred_lt
    · exact h j hj
  · rw [NumberSet.insert, place?_of_not_inRange hn] at hj
    exact h j hj

/-- A removal sets no bit. -/
theorem Tidy.erase {s : NumberSet} (h : s.Tidy) (sized : s.Sized) (n : UInt16) :
    (s.erase n).Tidy := by
  intro j hj
  rw [capacity_erase]
  by_cases hn : s.InRange n
  · rw [NumberSet.erase, place?_of_inRange hn] at hj
    simp only [bitAt_and_not_bit sized hn.pred_lt, Bool.and_eq_true] at hj
    exact h j hj.1
  · rw [NumberSet.erase, place?_of_not_inRange hn] at hj
    exact h j hj

/-- Numbers in range are told apart by their places. -/
theorem pred_toNat_inj {n k : UInt16} (hn : n ≠ 0) (hk : k ≠ 0) :
    n.toNat - 1 = k.toNat - 1 ↔ n = k := by
  have hn' : n.toNat ≠ 0 := fun h => hn (UInt16.toNat_inj.1 h)
  have hk' : k.toNat ≠ 0 := fun h => hk (UInt16.toNat_inj.1 h)
  rw [← UInt16.toNat_inj]
  omega

/-- **The members after an insertion** are those before and the number inserted, if it is in
range. -/
theorem contains_insert {s : NumberSet} (h : s.Sized) (n k : UInt16) :
    (s.insert n).contains k = true ↔ (k = n ∧ s.InRange n) ∨ s.contains k = true := by
  by_cases hn : s.InRange n
  · rw [contains_iff, contains_iff, InRange, capacity_insert, NumberSet.insert,
      place?_of_inRange hn]
    simp only [bitAt_or_bit h hn.pred_lt, Bool.or_eq_true, decide_eq_true_eq]
    constructor
    · rintro ⟨hk, heq | hbit⟩
      · exact Or.inl ⟨(pred_toNat_inj hk.1 hn.1).1 heq, hn⟩
      · exact Or.inr ⟨hk, hbit⟩
    · rintro (⟨rfl, hr⟩ | ⟨hk, hbit⟩)
      · exact ⟨hr, Or.inl rfl⟩
      · exact ⟨hk, Or.inr hbit⟩
  · rw [NumberSet.insert, place?_of_not_inRange hn]
    constructor
    · exact Or.inr
    · rintro (⟨_, hr⟩ | hk)
      · exact absurd hr hn
      · exact hk

/-- **The members after a removal** are those before without the number removed. -/
theorem contains_erase {s : NumberSet} (h : s.Sized) (n k : UInt16) :
    (s.erase n).contains k = true ↔ k ≠ n ∧ s.contains k = true := by
  by_cases hn : s.InRange n
  · rw [contains_iff, contains_iff, InRange, capacity_erase, NumberSet.erase,
      place?_of_inRange hn]
    simp only [bitAt_and_not_bit h hn.pred_lt, Bool.and_eq_true, decide_eq_true_eq]
    constructor
    · rintro ⟨hk, hbit, hne⟩
      exact ⟨fun e => hne (by rw [e]), hk, hbit⟩
    · rintro ⟨hkn, hk, hbit⟩
      exact ⟨hk, hbit, fun e => hkn ((pred_toNat_inj hk.1 hn.1).1 e)⟩
  · rw [NumberSet.erase, place?_of_not_inRange hn]
    constructor
    · intro hk
      refine ⟨?_, hk⟩
      rintro rfl
      exact hn ((contains_iff s k).1 hk).1
    · exact And.right

/-! ## The lowest free number -/

/-- The bit that is found lowest is set, in the word, and has no set bit below it. -/
theorem lowestBit?_eq_some {w : UInt64} {b : Nat} (h : lowestBit? w = some b) :
    b < 64 ∧ w.toBitVec.getLsbD b = true ∧ ∀ j < b, w.toBitVec.getLsbD j = false := by
  unfold lowestBit? at h
  split at h
  · cases h
  · obtain ⟨hbit, hb, hbelow⟩ := List.find?_range_eq_some.1 h
    exact ⟨List.mem_range.1 hb, hbit, fun j hj => Bool.not_inj (hbelow j hj)⟩

/-- A word in which no bit is found has none. -/
theorem lowestBit?_eq_none {w : UInt64} (h : lowestBit? w = none) {j : Nat} (hj : j < 64) :
    w.toBitVec.getLsbD j = false := by
  unfold lowestBit? at h
  split at h
  · rename_i hw
    simp [hw]
  · exact Bool.not_inj (List.find?_range_eq_none.1 h j hj)

/-- The usable bits of a word are those of numbers in range. -/
theorem getLsbD_usable (s : NumberSet) (i : Nat) {b : Nat} (hb : b < 64) :
    (s.usable i).toBitVec.getLsbD b = decide (i * wordBits + b < s.capacity.toNat) := by
  unfold usable wordBits
  dsimp only
  split
  · have hones : (~~~(0 : UInt64)).toBitVec.getLsbD b = true := by
      rw [UInt64.toBitVec_not, BitVec.getLsbD_not]
      simp [hb]
    rw [hones, eq_comm, decide_eq_true_eq]
    omega
  · rename_i hlt
    have hleft : s.capacity.toNat - i * 64 < 64 := by omega
    generalize hl : s.capacity.toNat - i * 64 = left at *
    -- in the last word the usable bits are those below `left`
    have hbit : (bit left - 1).toNat = 2 ^ left - 1 := by
      have hpow : (bit left).toNat = 2 ^ left := by
        rw [← UInt64.toNat_toBitVec, toBitVec_bit hleft, BitVec.toNat_twoPow_of_lt hleft]
      rw [UInt64.toNat_sub_of_le]
      · rw [hpow]; rfl
      · rw [UInt64.le_iff_toNat_le, hpow]
        exact Nat.one_le_two_pow
    rw [BitVec.getLsbD, UInt64.toNat_toBitVec, hbit, Nat.testBit_two_pow_sub_one]
    exact decide_eq_decide.2 (by omega)

/-- The bits from which the lowest is taken are those of the numbers that are in range and free. -/
theorem getLsbD_free (s : NumberSet) (i : Nat) {b : Nat} (hb : b < 64) :
    (~~~(s.word i) &&& s.usable i).toBitVec.getLsbD b = true ↔
      i * wordBits + b < s.capacity.toNat ∧ s.bitAt (i * wordBits + b) = false := by
  have hdiv : (i * wordBits + b) / wordBits = i := by unfold wordBits; omega
  have hmod : (i * wordBits + b) % wordBits = b := by unfold wordBits; omega
  rw [UInt64.toBitVec_and, UInt64.toBitVec_not, BitVec.getLsbD_and, BitVec.getLsbD_not,
    getLsbD_usable s i hb, bitAt, hdiv, hmod]
  simp [hb, and_comm]

/-- The same of a bit that is counted through all words. -/
theorem getLsbD_free_place {s : NumberSet} {j : Nat} (hj : j < s.capacity.toNat)
    (free : s.bitAt j = false) :
    (~~~(s.word (j / wordBits)) &&& s.usable (j / wordBits)).toBitVec.getLsbD (j % wordBits) =
      true := by
  have hmod : j % wordBits < 64 := Nat.mod_lt _ (by decide)
  have hsplit : j / wordBits * wordBits + j % wordBits = j := by unfold wordBits; omega
  refine (getLsbD_free s (j / wordBits) hmod).2 ?_
  rw [hsplit]
  exact ⟨hj, free⟩

/-- A word with a free bit of a number in range has a lowest one. -/
theorem lowestBit?_ne_none {s : NumberSet} {j : Nat} (hj : j < s.capacity.toNat)
    (free : s.bitAt j = false) :
    lowestBit? (~~~(s.word (j / wordBits)) &&& s.usable (j / wordBits)) ≠ none := by
  intro hnone
  have hmod : j % wordBits < 64 := Nat.mod_lt _ (by decide)
  have hfree := getLsbD_free_place hj free
  rw [lowestBit?_eq_none hnone hmod] at hfree
  cases hfree

/-- The number of a bit in range. -/
theorem toNat_numberAt {i b : Nat} (h : i * wordBits + b < 65535) :
    (numberAt i b).toNat = i * wordBits + b + 1 := by
  unfold numberAt wordBits at *
  simp only [UInt16.toNat_add, UInt16.toNat_ofNat', UInt16.toNat_one]
  omega

/-- What stands before a number in a range is what is less. -/
theorem mem_of_range_eq_append {n i j : Nat} {before after : List Nat}
    (h : List.range n = before ++ i :: after) (hj : j < i) : j ∈ before := by
  have hi : i ∈ List.range n := h ▸ List.mem_append_right before (List.mem_cons_self ..)
  have hmem : j ∈ before ++ i :: after :=
    h ▸ List.mem_range.2 (Nat.lt_trans hj (List.mem_range.1 hi))
  have hsorted : (before ++ i :: after).Pairwise (· < ·) := h ▸ List.pairwise_lt_range
  have hafter := (List.pairwise_cons.1 (List.pairwise_append.1 hsorted).2.1).1
  rcases List.mem_append.1 hmem with hbefore | hrest
  · exact hbefore
  · rcases List.mem_cons.1 hrest with rfl | hlater
    · exact absurd hj (Nat.lt_irrefl _)
    · exact absurd (hafter j hlater) (Nat.lt_asymm hj)

/-- The bit of the number taken is free, and no bit before it is. -/
theorem exists_bit_of_takeLowest? {s t : NumberSet} {n : UInt16}
    (ht : s.takeLowest? = some (n, t)) :
    ∃ i b, b < 64 ∧ n.toNat = i * wordBits + b + 1 ∧ t = s.setWord i (s.word i ||| bit b) ∧
      i * wordBits + b < s.capacity.toNat ∧ s.bitAt (i * wordBits + b) = false ∧
      ∀ j < i * wordBits + b, s.bitAt j = true := by
  obtain ⟨before, i, after, hrange, hi, hbefore⟩ := List.findSome?_eq_some_iff.1 ht
  obtain ⟨b, hb, hnt⟩ := Option.map_eq_some_iff.1 hi
  obtain ⟨rfl, rfl⟩ := Prod.mk.inj hnt
  obtain ⟨hb64, hbit, hbelow⟩ := lowestBit?_eq_some hb
  obtain ⟨hlt, hfree⟩ := (getLsbD_free s i hb64).1 hbit
  have hcap : s.capacity.toNat < 65536 := s.capacity.toNat_lt
  refine ⟨i, b, hb64, toNat_numberAt (by omega), rfl, hlt, hfree, fun j hj => ?_⟩
  cases hset : s.bitAt j with
  | true => rfl
  | false =>
    -- a free bit before would stand in an earlier word, or below in the same word
    have hjrange := Nat.lt_trans hj hlt
    have hword : j / wordBits < i ∨ j / wordBits = i ∧ j % wordBits < b := by
      unfold wordBits at *
      omega
    rcases hword with hearlier | ⟨hsame, hlow⟩
    · have hnone := hbefore _ (mem_of_range_eq_append hrange hearlier)
      exact absurd (Option.map_eq_none_iff.1 hnone) (lowestBit?_ne_none hjrange hset)
    · have hjfree := getLsbD_free_place hjrange hset
      rw [hsame, hbelow _ hlow] at hjfree
      cases hjfree

/-- **The number taken** is in range, was free, and is the one that is added. -/
theorem takeLowest?_eq_some {s t : NumberSet} {n : UInt16} (ht : s.takeLowest? = some (n, t)) :
    s.InRange n ∧ s.contains n = false ∧ t = s.insert n := by
  obtain ⟨i, b, hb64, hnum, rfl, hrange, hfree, -⟩ := exists_bit_of_takeLowest? ht
  -- the place of the number is the very bit that was found
  have hdiv : (i * wordBits + b) / wordBits = i := by unfold wordBits; omega
  have hmod : (i * wordBits + b) % wordBits = b := by unfold wordBits; omega
  have hin : s.InRange n := by
    refine ⟨fun h0 => ?_, by omega⟩
    rw [h0] at hnum
    simp at hnum
  refine ⟨hin, ?_, ?_⟩
  · rw [← Bool.not_eq_true, contains_iff]
    rintro ⟨_, hset⟩
    rw [hnum, Nat.add_sub_cancel, hfree] at hset
    cases hset
  · rw [NumberSet.insert, place?_of_inRange hin, hnum]
    simp only [Nat.add_sub_cancel, hdiv, hmod]

/-- **The number taken** is the lowest that was free. -/
theorem takeLowest?_le {s t : NumberSet} {n k : UInt16} (ht : s.takeLowest? = some (n, t))
    (hk : s.InRange k) (free : s.contains k = false) : n.toNat ≤ k.toNat := by
  obtain ⟨i, b, -, hnum, -, -, -, hbefore⟩ := exists_bit_of_takeLowest? ht
  refine Nat.le_of_not_lt fun hlt => ?_
  have hset : s.bitAt (k.toNat - 1) = true := hbefore _ (by have := hk.pos; omega)
  rw [(contains_iff s k).2 ⟨hk, hset⟩] at free
  cases free

/-- **No number is taken** exactly when none is free. -/
theorem takeLowest?_eq_none_iff {s : NumberSet} (h : s.Sized) :
    s.takeLowest? = none ↔ ∀ k, s.InRange k → s.contains k = true := by
  constructor
  · intro hnone k hk
    rw [contains_iff]
    refine ⟨hk, ?_⟩
    cases hset : s.bitAt (k.toNat - 1) with
    | true => rfl
    | false =>
      have hword := List.findSome?_eq_none_iff.1 hnone _ (List.mem_range.2 (h.lt_size hk.pred_lt))
      exact absurd (Option.map_eq_none_iff.1 hword) (lowestBit?_ne_none hk.pred_lt hset)
  · intro hall
    cases ht : s.takeLowest? with
    | none => rfl
    | some e =>
      obtain ⟨hin, hfree, -⟩ := takeLowest?_eq_some ht
      rw [hall _ hin] at hfree
      cases hfree

end NumberSet

end Switchboard
