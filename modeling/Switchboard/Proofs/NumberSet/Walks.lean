import Mathlib.Data.List.Infix
import Switchboard.Proofs.NumberSet.Members

/-! # Walks over a set that changes

A walk lists the members of a set one at a time, and between its steps numbers may be added and
removed. It copies a word when it reaches it and lists the bits of the copy, so that a change shows
in the words ahead and not in the one at hand. A *tour* is a set together with one walk over it;
`Tour.Sound` says what a walk has done at any moment: it has listed, or has still in its copy,
whatever was a member all the time in the words up to the one reached, and it has listed and copied
nothing that never was a member. Main statement: `listing_exact`. -/

namespace Switchboard

namespace NumberSet

/-! ## Clearing the lowest bit -/

/-- A word that is not zero has a lowest bit. -/
theorem lowestBit?_eq_none_iff {w : UInt64} : lowestBit? w = none ↔ w = 0 := by
  constructor
  · intro h
    refine UInt64.toBitVec_inj.1 (BitVec.eq_of_getLsbD_eq fun j hj => ?_)
    rw [lowestBit?_eq_none h hj]
    exact BitVec.getLsbD_zero.symm
  · rintro rfl
    rfl

/-- A number is what stands above its lowest bit, and that bit. -/
theorem exists_eq_add_two_pow {x b : ℕ} (bit : x.testBit b = true)
    (below : ∀ j < b, x.testBit j = false) : ∃ q, x = 2 ^ (b + 1) * q + 2 ^ b := by
  have hmod : x % 2 ^ (b + 1) = 2 ^ b := by
    refine Nat.eq_of_testBit_eq fun j => ?_
    rw [Nat.testBit_mod_two_pow, Nat.testBit_two_pow]
    rcases Nat.lt_trichotomy j b with hlt | rfl | hgt
    · rw [below j hlt, Bool.and_false, decide_eq_false (Nat.ne_of_gt hlt)]
    · rw [bit, Bool.and_true, decide_eq_true rfl, decide_eq_true (Nat.lt_succ_self _)]
    · rw [decide_eq_false (by omega), Bool.false_and, decide_eq_false (Nat.ne_of_lt hgt)]
  refine ⟨x / 2 ^ (b + 1), ?_⟩
  rw [← hmod, Nat.div_add_mod]

/-- What a number and the number before it have in common is the number without its lowest bit. -/
theorem testBit_and_sub_one {x b : ℕ} (bit : x.testBit b = true)
    (below : ∀ j < b, x.testBit j = false) (j : ℕ) :
    (x &&& (x - 1)).testBit j = (x.testBit j && decide (j ≠ b)) := by
  obtain ⟨q, rfl⟩ := exists_eq_add_two_pow bit below
  have hpow : 1 ≤ 2 ^ b := Nat.one_le_two_pow
  have hlt : 2 ^ b < 2 ^ (b + 1) := Nat.pow_lt_pow_right (by decide) (Nat.lt_succ_self b)
  have hpred : 2 ^ (b + 1) * q + 2 ^ b - 1 = 2 ^ (b + 1) * q + (2 ^ b - 1) := by omega
  rw [hpred, Nat.testBit_and, Nat.testBit_two_pow_mul_add _ hlt,
    Nat.testBit_two_pow_mul_add _ (Nat.lt_of_le_of_lt (Nat.sub_le _ _) hlt)]
  by_cases hj : j < b + 1
  · rw [if_pos hj, if_pos hj, Nat.testBit_two_pow, Nat.testBit_two_pow_sub_one]
    by_cases hb : b = j
    · simp [hb]
    · simp [hb]
  · have hne : j ≠ b := by omega
    rw [if_neg hj, if_neg hj, Bool.and_self, decide_eq_true hne, Bool.and_true]

/-- The bits that remain in a word when its lowest has been cleared. -/
theorem getLsbD_and_sub_one {w : UInt64} {b : ℕ} (h : lowestBit? w = some b) (j : ℕ) :
    (w &&& (w - 1)).toBitVec.getLsbD j = (w.toBitVec.getLsbD j && decide (j ≠ b)) := by
  obtain ⟨-, hbit, hbelow⟩ := lowestBit?_eq_some h
  have hne : w ≠ 0 := fun h0 => by
    rw [lowestBit?_eq_none_iff.2 h0] at h
    cases h
  have hle : (1 : UInt64) ≤ w := UInt64.le_iff_toNat_le.2
    (Nat.one_le_iff_ne_zero.2 fun h0 => hne (UInt64.toNat_inj.1 h0))
  have hand : (w &&& (w - 1)).toNat = w.toNat &&& (w.toNat - 1) := by
    rw [UInt64.toNat_and, UInt64.toNat_sub_of_le _ _ hle, UInt64.toNat_one]
  rw [BitVec.getLsbD, UInt64.toNat_toBitVec, hand]
  exact testBit_and_sub_one hbit hbelow j

/-! ## Arriving at a word -/

/-- There is nothing in the words beyond the last. -/
theorem word_of_size_le (s : NumberSet) {i : ℕ} (h : s.words.size ≤ i) : s.word i = 0 := by
  rw [word, Array.getD_eq_getD_getElem?, Array.getElem?_eq_none h]
  rfl

/-- An insertion adds no word. -/
theorem size_words_insert (s : NumberSet) (n : UInt16) :
    (s.insert n).words.size = s.words.size := by
  unfold insert
  split
  · rfl
  · exact size_words_setWord ..

/-- A removal drops no word. -/
theorem size_words_erase (s : NumberSet) (n : UInt16) :
    (s.erase n).words.size = s.words.size := by
  unfold erase
  split
  · rfl
  · exact size_words_setWord ..

namespace Walk

/-- A place that a walk has copied and not yet listed. -/
def Pending (w : Walk) (j : ℕ) : Prop :=
  j / wordBits = w.word ∧ w.bits.toBitVec.getLsbD (j % wordBits) = true

/-- The walk with a word at hand that has something to list, or at the end. -/
def arrive (s : NumberSet) (w : Walk) : Walk := if w.bits = 0 then sample s (w.word + 1) else w

/-- A walk that has come to its end. -/
def Ended (s : NumberSet) (w : Walk) : Prop := w.bits = 0 ∧ s.words.size ≤ w.word

/-- Sampling skips words without members, and copies the first one with members as it is. -/
theorem sample_spec (s : NumberSet) (i : ℕ) :
    i ≤ (sample s i).word ∧ (sample s i).bits = s.word (sample s i).word ∧
      (∀ k, i ≤ k → k < (sample s i).word → s.word k = 0) ∧
      ((sample s i).bits = 0 → s.words.size ≤ (sample s i).word) := by
  fun_induction sample s i with
  | case1 i hlt hzero ih =>
    obtain ⟨hle, hbits, hskipped, hend⟩ := ih
    refine ⟨by omega, hbits, fun k hk hlt => ?_, hend⟩
    rcases Nat.lt_or_eq_of_le hk with hgt | rfl
    · exact hskipped k hgt hlt
    · exact hzero
  | case2 i hlt hne =>
    exact ⟨Nat.le_refl _, rfl, fun k hk hlt => absurd hlt (Nat.not_lt.2 hk), fun h => absurd h hne⟩
  | case3 i hge =>
    have hsize := Nat.not_lt.1 hge
    exact ⟨Nat.le_refl _, (s.word_of_size_le hsize).symm,
      fun k hk hlt => absurd hlt (Nat.not_lt.2 hk), fun _ => hsize⟩

/-- Nothing is pending in an empty word. -/
theorem not_pending_of_bits {w : Walk} (h : w.bits = 0) (j : ℕ) : ¬w.Pending j := by
  rintro ⟨-, hbit⟩
  rw [h] at hbit
  exact absurd hbit (by simp)

/-- The lowest bit of the copy is the next place to be listed. -/
theorem pending_lowest {w : Walk} {b : ℕ} (hb : lowestBit? w.bits = some b) :
    w.Pending (w.word * wordBits + b) ∧ ∀ j, w.Pending j → w.word * wordBits + b ≤ j := by
  obtain ⟨hlt, hbit, hbelow⟩ := lowestBit?_eq_some hb
  have hdiv : (w.word * wordBits + b) / wordBits = w.word := by unfold wordBits; omega
  have hmod : (w.word * wordBits + b) % wordBits = b := by unfold wordBits; omega
  refine ⟨⟨hdiv, by rwa [hmod]⟩, fun j hj => ?_⟩
  obtain ⟨hword, hj⟩ := hj
  have hle : b ≤ j % wordBits := by
    refine Nat.not_lt.1 fun hlow => ?_
    rw [hbelow _ hlow] at hj
    cases hj
  rw [← Nat.div_add_mod' j wordBits, hword]
  exact Nat.add_le_add_left hle _

/-- Clearing the lowest bit of the copy leaves the other places. -/
theorem pending_cleared {w : Walk} {b : ℕ} (hb : lowestBit? w.bits = some b) (j : ℕ) :
    Pending ⟨w.word, w.bits &&& (w.bits - 1)⟩ j ↔
      w.Pending j ∧ j ≠ w.word * wordBits + b := by
  obtain ⟨hlt, -, -⟩ := lowestBit?_eq_some hb
  have hplace (hword : j / wordBits = w.word) :
      j % wordBits ≠ b ↔ j ≠ w.word * wordBits + b := by
    rw [← hword]
    unfold wordBits
    omega
  rw [Pending, Pending, getLsbD_and_sub_one hb, Bool.and_eq_true, decide_eq_true_iff, and_assoc]
  exact and_congr_right fun hword => and_congr_right fun _ => hplace hword

/-- The next number is the lowest bit of the word that the walk has arrived at. -/
theorem next_eq (s : NumberSet) (w : Walk) : w.next s =
    match lowestBit? (w.arrive s).bits with
    | none => (none, w.arrive s)
    | some b => (some (UInt16.ofNat ((w.arrive s).word * wordBits + b) + 1),
      ⟨(w.arrive s).word, (w.arrive s).bits &&& ((w.arrive s).bits - 1)⟩) := rfl

/-- A walk that arrives at an empty word lists nothing. -/
theorem next_of_none {s : NumberSet} {w : Walk} (h : lowestBit? (w.arrive s).bits = none) :
    w.next s = (none, w.arrive s) := by
  rw [next_eq, h]

/-- A walk that arrives at a bit lists its number and clears it. -/
theorem next_of_some {s : NumberSet} {w : Walk} {b : ℕ}
    (h : lowestBit? (w.arrive s).bits = some b) :
    w.next s = (some (UInt16.ofNat ((w.arrive s).word * wordBits + b) + 1),
      ⟨(w.arrive s).word, (w.arrive s).bits &&& ((w.arrive s).bits - 1)⟩) := by
  rw [next_eq, h]

/-- A step that lists nothing finds the walk at its end. -/
theorem ended_of_next {s : NumberSet} {w : Walk} (h : (w.next s).1 = none) :
    (w.arrive s).Ended s ∧ w.next s = (none, w.arrive s) := by
  cases hb : lowestBit? (w.arrive s).bits with
  | some b =>
    rw [next_of_some hb] at h
    cases h
  | none =>
    have hzero := lowestBit?_eq_none_iff.1 hb
    refine ⟨⟨hzero, ?_⟩, next_of_none hb⟩
    -- the copy was empty, so that the walk has looked for another word
    by_cases hw : w.bits = 0
    · rw [arrive, if_pos hw] at hzero ⊢
      exact (sample_spec s _).2.2.2 hzero
    · rw [arrive, if_neg hw] at hzero
      exact absurd hzero hw

/-- A walk stays at its end. -/
theorem Ended.next {s : NumberSet} {w : Walk} (h : w.Ended s) :
    (w.next s).1 = none ∧ (w.next s).2.Ended s := by
  have harrive : w.arrive s = ⟨w.word + 1, 0⟩ := by
    rw [arrive, if_pos h.1, sample, if_neg (by have := h.2; omega)]
  have hnext : w.next s = (none, ⟨w.word + 1, 0⟩) := by
    rw [← harrive]
    exact next_of_none (by rw [harrive]; rfl)
  rw [hnext]
  exact ⟨rfl, rfl, Nat.le_succ_of_le h.2⟩

end Walk

/-! ## Tours -/

/-- What is done to a set, or by the walk over it. -/
inductive Action where
  | insert (n : UInt16)
  | remove (n : UInt16)
  | step

/-- A set and the position of a walk over it, with the numbers listed so far. -/
structure Tour where
  set : NumberSet
  walk : Walk
  listed : List UInt16

namespace Tour

/-- The tour of a set whose walk has just been started. -/
def start (s : NumberSet) : Tour := ⟨s, .start s, []⟩

/-- Performs an action. -/
def perform (t : Tour) : Action → Tour
  | .insert n => { t with set := t.set.insert n }
  | .remove n => { t with set := t.set.erase n }
  | .step => { t with
      walk := (t.walk.next t.set).2
      listed := t.listed ++ (t.walk.next t.set).1.toList }

/-- The tour after some actions. -/
def after (s : NumberSet) (actions : List Action) : Tour := actions.foldl perform (start s)

/-- A tour begins at its start. -/
@[simp] theorem after_nil (s : NumberSet) : after s [] = start s := rfl

/-- A tour goes on from where it has come to. -/
theorem after_append (s : NumberSet) (actions more : List Action) :
    after s (actions ++ more) = more.foldl perform (after s actions) :=
  List.foldl_append

/-- One more action comes after the others. -/
theorem after_concat (s : NumberSet) (actions : List Action) (a : Action) :
    after s (actions ++ [a]) = (after s actions).perform a := after_append ..

/-- A place was that of a member at some moment of a tour. -/
def Ever (s : NumberSet) (actions : List Action) (j : ℕ) : Prop :=
  ∃ l, l <+: actions ∧ (after s l).set.bitAt j = true

/-- A place was that of a member all the time. -/
def Always (s : NumberSet) (actions : List Action) (j : ℕ) : Prop :=
  ∀ l, l <+: actions → (after s l).set.bitAt j = true

/-- What is a member now has been one at some moment. -/
theorem Ever.of_now {s : NumberSet} {actions : List Action} {j : ℕ}
    (h : (after s actions).set.bitAt j = true) : Ever s actions j :=
  ⟨actions, List.prefix_rfl, h⟩

/-- What has been a member at some moment remains one that has been. -/
theorem Ever.concat {s : NumberSet} {actions : List Action} {j : ℕ} (h : Ever s actions j)
    (a : Action) : Ever s (actions ++ [a]) j := by
  obtain ⟨l, hl, hj⟩ := h
  exact ⟨l, hl.trans (List.prefix_append _ _), hj⟩

/-- What has always been a member is one now. -/
theorem Always.now {s : NumberSet} {actions : List Action} {j : ℕ} (h : Always s actions j) :
    (after s actions).set.bitAt j = true := h _ List.prefix_rfl

/-- What has always been a member was one all the time before. -/
theorem Always.of_concat {s : NumberSet} {actions : List Action} {a : Action} {j : ℕ}
    (h : Always s (actions ++ [a]) j) : Always s actions j :=
  fun l hl => h l (hl.trans (List.prefix_append _ _))

/-! ## What a walk has done -/

/-- A walk that has listed some numbers in a tour. -/
structure Sound (s : NumberSet) (actions : List Action) (w : Walk) (listed : List UInt16) :
    Prop where
  /-- What is still to be listed was a member. -/
  pending : ∀ j, w.Pending j → Ever s actions j
  /-- What has been listed was a member. -/
  members : ∀ n ∈ listed, n ≠ 0 ∧ Ever s actions (n.toNat - 1)
  /-- What has been listed lies before what is still to be listed. -/
  before : ∀ n ∈ listed, ∀ j, w.Pending j → n.toNat ≤ j
  /-- Nothing beyond the word reached has been listed. -/
  reached : ∀ n ∈ listed, n.toNat ≤ (w.word + 1) * wordBits
  /-- Numbers are listed in ascending order. -/
  ascending : listed.Pairwise (· < ·)
  /-- What was a member all the time, in the words up to the one reached, has been listed or is
  still to be listed. -/
  covered : ∀ j, Always s actions j → j / wordBits ≤ w.word →
    (∃ n ∈ listed, n.toNat = j + 1) ∨ w.Pending j

/-- A walk that starts has listed nothing and has everything ahead. -/
theorem sound_start (s : NumberSet) : Sound s [] (.start s) [] where
  pending := by
    rintro j ⟨hj, hbit⟩
    refine Ever.of_now ?_
    rw [after_nil, bitAt, hj]
    exact hbit
  members := by simp
  before := by simp
  reached := by simp
  ascending := List.Pairwise.nil
  covered := by
    intro j hj hle
    have hnow := hj.now
    have hzero : j / wordBits = 0 := Nat.le_zero.1 hle
    rw [after_nil, bitAt, hzero] at hnow
    exact Or.inr ⟨hzero, hnow⟩

/-- Anything that is done leaves a walk sound that does not move. -/
theorem Sound.concat {s : NumberSet} {actions : List Action} {w : Walk} {listed : List UInt16}
    (h : Sound s actions w listed) (a : Action) : Sound s (actions ++ [a]) w listed where
  pending j hj := (h.pending j hj).concat a
  members n hn := ⟨(h.members n hn).1, (h.members n hn).2.concat a⟩
  before := h.before
  reached := h.reached
  ascending := h.ascending
  covered j hj := h.covered j hj.of_concat

/-- Arriving at another word copies its members, and leaves out nothing that is a member then. -/
theorem Sound.arrive {s : NumberSet} {actions : List Action} {w : Walk} {listed : List UInt16}
    (h : Sound s actions w listed) : Sound s actions (w.arrive (after s actions).set) listed := by
  by_cases hw : w.bits = 0
  · obtain ⟨hle, hbits, hskipped, -⟩ := Walk.sample_spec (after s actions).set (w.word + 1)
    rw [Walk.arrive, if_pos hw]
    generalize Walk.sample (after s actions).set (w.word + 1) = v at *
    have hreached : (w.word + 1) * wordBits ≤ v.word * wordBits := Nat.mul_le_mul_right _ hle
    constructor
    -- what is pending in the copy is a member at this moment
    case pending =>
      rintro j ⟨hj, hbit⟩
      refine Ever.of_now ?_
      rw [bitAt, hj, ← hbits]
      exact hbit
    case members => exact h.members
    -- all that has been listed lies before the word that the walk arrives at
    case before =>
      rintro n hn j ⟨hj, -⟩
      have := h.reached n hn
      have : j / wordBits * wordBits ≤ j := Nat.div_mul_le_self j wordBits
      rw [hj] at this
      omega
    case reached =>
      intro n hn
      have := h.reached n hn
      rw [Nat.add_one_mul]
      omega
    case ascending => exact h.ascending
    case covered =>
      intro j hj hword
      have hnow := hj.now
      rcases Nat.lt_or_ge w.word (j / wordBits) with hlater | hearlier
      · rw [bitAt] at hnow
        rcases Nat.lt_or_eq_of_le hword with hbetween | hhere
        · -- a word that was skipped had no members
          rw [hskipped _ hlater hbetween] at hnow
          exact absurd hnow (by simp)
        · rw [hhere, ← hbits] at hnow
          exact Or.inr ⟨hhere, hnow⟩
      · rcases h.covered j hj hearlier with hlisted | hpending
        · exact Or.inl hlisted
        · exact absurd hpending (Walk.not_pending_of_bits hw j)
  · rw [Walk.arrive, if_neg hw]
    exact h

/-- Listing the lowest bit of the copy. -/
theorem Sound.take {s : NumberSet} {actions : List Action} {w : Walk} {listed : List UInt16}
    (h : Sound s actions w listed) {b : ℕ} (hb : lowestBit? w.bits = some b) {n : UInt16}
    (hn : n.toNat = w.word * wordBits + b + 1) :
    Sound s actions ⟨w.word, w.bits &&& (w.bits - 1)⟩ (listed ++ [n]) := by
  obtain ⟨hlowest, hleast⟩ := Walk.pending_lowest hb
  have hcleared := Walk.pending_cleared hb
  have hmem {m : UInt16} (hm : m ∈ listed ++ [n]) : m ∈ listed ∨ m = n :=
    (List.mem_append.1 hm).imp_right List.mem_singleton.1
  constructor
  -- what is pending still was pending before
  case pending => exact fun j hj => h.pending j ((hcleared j).1 hj).1
  case members =>
    intro m hm
    rcases hmem hm with hold | rfl
    -- the lowest bit is a member at some moment
    · exact h.members m hold
    · refine ⟨?_, ?_⟩
      · rintro rfl
        cases hn
      · rw [hn]
        exact h.pending _ hlowest
  -- what is pending still lies above the lowest bit
  case before =>
    intro m hm j hj
    obtain ⟨hpending, hne⟩ := (hcleared j).1 hj
    rcases hmem hm with hold | rfl
    · exact h.before m hold j hpending
    · have := hleast j hpending
      omega
  -- the number listed lies in the word at hand
  case reached =>
    intro m hm
    rcases hmem hm with hold | rfl
    · exact h.reached m hold
    · have hlt := (lowestBit?_eq_some hb).1
      change m.toNat ≤ (w.word + 1) * wordBits
      unfold wordBits at *
      omega
  case ascending =>
    refine List.pairwise_append.2 ⟨h.ascending, List.pairwise_singleton _ _, fun m hm k hk => ?_⟩
    obtain rfl := List.mem_singleton.1 hk
    have := h.before m hm _ hlowest
    exact UInt16.lt_iff_toNat_lt.2 (by omega)
  -- the lowest bit is listed now, and the others of the word are pending still
  case covered =>
    intro j hj hword
    rcases h.covered j hj hword with ⟨m, hm, hplace⟩ | hpending
    · exact Or.inl ⟨m, List.mem_append_left _ hm, hplace⟩
    · by_cases hne : j = w.word * wordBits + b
      · exact Or.inl ⟨n, List.mem_append_right _ (List.mem_singleton_self n), by rw [hn, hne]⟩
      · exact Or.inr ((hcleared j).2 ⟨hpending, hne⟩)

/-- The set of a tour stays a set of numbers of the same range. -/
theorem holds_after {s : NumberSet} {A : Finset ℕ} (h : s.Holds A) (actions : List Action) :
    (∃ B, (after s actions).set.Holds B) ∧ (after s actions).set.capacity = s.capacity := by
  induction actions using List.reverseRecOn with
  | nil => exact ⟨⟨A, h⟩, rfl⟩
  | append_singleton actions a ih =>
    obtain ⟨⟨B, hB⟩, hcapacity⟩ := ih
    rw [after_concat]
    cases a with
    | insert n =>
      refine ⟨?_, (capacity_insert ..).trans hcapacity⟩
      by_cases hn : (after s actions).set.InRange n
      · exact ⟨_, hB.insert hn⟩
      · rw [perform, insert_of_not_inRange hn]
        exact ⟨B, hB⟩
    | remove n => exact ⟨⟨_, hB.erase n⟩, (capacity_erase ..).trans hcapacity⟩
    | step => exact ⟨⟨B, hB⟩, hcapacity⟩

/-- What has ever been a member is in range. -/
theorem Ever.lt_capacity {s : NumberSet} {A : Finset ℕ} (hs : s.Holds A) {actions : List Action}
    {j : ℕ} (h : Ever s actions j) : j < s.capacity.toNat := by
  obtain ⟨l, -, hj⟩ := h
  obtain ⟨⟨B, hB⟩, hcapacity⟩ := holds_after hs l
  rw [← hcapacity]
  exact hB.lt_capacity hj

/-- A number whose place was that of a member was one. -/
theorem Ever.contains {s : NumberSet} {A : Finset ℕ} (hs : s.Holds A) {actions : List Action}
    {n : UInt16} (hn : n ≠ 0) (h : Ever s actions (n.toNat - 1)) :
    s.InRange n ∧ ∃ l, l <+: actions ∧ (after s l).set.contains n = true := by
  have hlt := h.lt_capacity hs
  have hpos : n.toNat ≠ 0 := fun hzero => hn (UInt16.toNat_inj.1 hzero)
  have hrange : s.InRange n := (s.mem_Icc_iff n).1 (Finset.mem_Icc.2 (by omega))
  obtain ⟨l, hl, hj⟩ := h
  refine ⟨hrange, l, hl, (NumberSet.contains_iff _ n).2 ⟨?_, hj⟩⟩
  rw [InRange, (holds_after hs l).2]
  exact hrange

/-- The step of a walk keeps it sound. -/
theorem Sound.next {s : NumberSet} {A : Finset ℕ} (hs : s.Holds A) {actions : List Action}
    {w : Walk} {listed : List UInt16} (h : Sound s actions w listed) :
    Sound s actions (w.next (after s actions).set).2
      (listed ++ (w.next (after s actions).set).1.toList) := by
  cases hb : lowestBit? (w.arrive (after s actions).set).bits with
  | none =>
    rw [Walk.next_of_none hb, Option.toList_none, List.append_nil]
    exact h.arrive
  | some b =>
    rw [Walk.next_of_some hb]
    refine h.arrive.take hb (toNat_ofNat_add_one (s := s) ?_)
    exact (h.arrive.pending _ (Walk.pending_lowest hb).1).lt_capacity hs

/-- **At any moment** of a tour its walk is sound. -/
theorem sound_after {s : NumberSet} {A : Finset ℕ} (hs : s.Holds A) (actions : List Action) :
    Sound s actions (after s actions).walk (after s actions).listed := by
  induction actions using List.reverseRecOn with
  | nil => exact sound_start s
  | append_singleton actions a ih =>
    rw [after_concat]
    cases a with
    | insert n => exact ih.concat _
    | remove n => exact ih.concat _
    | step => exact (ih.next hs).concat _

/-- No number is listed twice. -/
theorem Sound.nodup {s : NumberSet} {actions : List Action} {w : Walk} {listed : List UInt16}
    (h : Sound s actions w listed) : listed.Nodup :=
  h.ascending.imp fun hlt => UInt16.ne_of_lt hlt

/-- A walk lists no more numbers than there are. -/
theorem Sound.length_le {s : NumberSet} {A : Finset ℕ} (hs : s.Holds A) {actions : List Action}
    {w : Walk} {listed : List UInt16} (h : Sound s actions w listed) :
    listed.length ≤ s.capacity.toNat := by
  have hnodup : (listed.map UInt16.toNat).Nodup := h.nodup.map fun _ _ => UInt16.toNat_inj.1
  have hsub : (listed.map UInt16.toNat).toFinset ⊆ Finset.Icc 1 s.capacity.toNat := by
    intro k hk
    obtain ⟨n, hn, rfl⟩ := List.mem_map.1 (List.mem_toFinset.1 hk)
    exact (s.mem_Icc_iff n).2 ((h.members n hn).2.contains hs (h.members n hn).1).1
  calc listed.length = (listed.map UInt16.toNat).toFinset.card := by
        rw [List.toFinset_card_of_nodup hnodup, List.length_map]
    _ ≤ (Finset.Icc 1 s.capacity.toNat).card := Finset.card_le_card hsub
    _ = s.capacity.toNat := by rw [Nat.card_Icc, Nat.add_sub_cancel]

/-! ## The end of a walk -/

/-- Whatever is done, a walk at its end stays there. -/
theorem ended_perform {t : Tour} (h : t.walk.Ended t.set) (a : Action) :
    (t.perform a).walk.Ended (t.perform a).set ∧ (t.perform a).listed = t.listed := by
  cases a with
  | insert n => exact ⟨⟨h.1, (size_words_insert ..).le.trans h.2⟩, rfl⟩
  | remove n => exact ⟨⟨h.1, (size_words_erase ..).le.trans h.2⟩, rfl⟩
  | step =>
    refine ⟨h.next.2, ?_⟩
    rw [perform, h.next.1, Option.toList_none, List.append_nil]

/-- A walk that has ended stays so, whatever else is done, and lists nothing more. -/
theorem ended_foldl {t : Tour} (h : t.walk.Ended t.set) (more : List Action) :
    (more.foldl perform t).walk.Ended (more.foldl perform t).set ∧
      (more.foldl perform t).listed = t.listed := by
  induction more generalizing t with
  | nil => exact ⟨h, rfl⟩
  | cons a more ih =>
    obtain ⟨hended, hlisted⟩ := ended_perform h a
    obtain ⟨hlast, hsame⟩ := ih hended
    exact ⟨hlast, hsame.trans hlisted⟩

/-- The first step that lists nothing brings the walk to its end. -/
theorem ended_step {t : Tour} (h : (t.walk.next t.set).1 = none) :
    (t.perform .step).walk.Ended (t.perform .step).set ∧
      (t.perform .step).listed = t.listed := by
  obtain ⟨hended, hnext⟩ := Walk.ended_of_next h
  rw [perform, hnext, Option.toList_none, List.append_nil]
  exact ⟨hended, rfl⟩

/-- When nothing more is listed, everything has been that was a member all the time. -/
theorem mem_listed_of_always {s : NumberSet} {A : Finset ℕ} (hs : s.Holds A)
    {actions : List Action}
    (h : ((after s actions).walk.next (after s actions).set).1 = none) {n : UInt16}
    (always : ∀ l, l <+: actions → (after s l).set.contains n = true) :
    n ∈ (after s actions).listed := by
  obtain ⟨⟨hbits, hsize⟩, -⟩ := Walk.ended_of_next h
  obtain ⟨⟨B, hB⟩, -⟩ := holds_after hs actions
  have hrange := ((NumberSet.contains_iff _ n).1 (always _ List.prefix_rfl)).1
  have hword := Nat.le_of_lt (Nat.lt_of_lt_of_le (hB.sized.lt_size hrange.pred_lt) hsize)
  have hplace : Always s actions (n.toNat - 1) :=
    fun l hl => ((NumberSet.contains_iff _ n).1 (always l hl)).2
  rcases (sound_after hs actions).arrive.covered _ hplace hword with ⟨m, hm, heq⟩ | hpending
  · rw [Nat.sub_add_cancel hrange.pos] at heq
    rwa [← UInt16.toNat_inj.1 heq]
  · exact absurd hpending (Walk.not_pending_of_bits hbits _)

/-! ## Walks over a set that stays as it is -/

/-- The tour after some steps of the walk and nothing else. -/
def undisturbed (s : NumberSet) (k : ℕ) : Tour := after s (.replicate k .step)

/-- One more step of an undisturbed walk comes after the others. -/
theorem undisturbed_succ (s : NumberSet) (k : ℕ) :
    undisturbed s (k + 1) = (undisturbed s k).perform .step := by
  rw [undisturbed, List.replicate_succ', after_concat, undisturbed]

/-- An undisturbed walk leaves the set as it is. -/
@[simp] theorem set_undisturbed (s : NumberSet) (k : ℕ) : (undisturbed s k).set = s := by
  induction k with
  | zero => rfl
  | succ k ih => rw [undisturbed_succ, perform, ih]

/-- As many numbers have been listed as there were steps, while there are more to come. -/
theorem length_undisturbed (s : NumberSet) (k : ℕ) : (undisturbed s k).listed.length ≤ k ∧
    ∀ n, ((undisturbed s k).walk.next s).1 = some n → (undisturbed s k).listed.length = k := by
  induction k with
  | zero => exact ⟨Nat.le_refl _, fun _ _ => rfl⟩
  | succ k ih =>
    have hset := set_undisturbed s k
    rw [undisturbed_succ]
    cases hnext : ((undisturbed s k).walk.next s).1 with
    | none =>
      obtain ⟨hended, hlisted⟩ := ended_step (t := undisturbed s k) (by rwa [hset])
      rw [hlisted]
      refine ⟨Nat.le_succ_of_le ih.1, fun n hn => ?_⟩
      rw [← undisturbed_succ] at hended hn
      rw [set_undisturbed] at hended
      rw [hended.next.1] at hn
      cases hn
    | some m =>
      have hlength : ((undisturbed s k).perform .step).listed.length = k + 1 := by
        rw [perform, hset, hnext, Option.toList_some, List.length_append, ih.2 m hnext,
          List.length_singleton]
      exact ⟨hlength.le, fun _ _ => hlength⟩

/-- Each step has listed its number, for good. -/
theorem getElem?_undisturbed (s : NumberSet) {j k : ℕ} (h : j < k) :
    (undisturbed s k).listed[j]? = ((undisturbed s j).walk.next s).1 := by
  induction k with
  | zero => exact absurd h (Nat.not_lt_zero j)
  | succ k ih =>
    obtain ⟨hle, hlength⟩ := length_undisturbed s k
    rw [undisturbed_succ, perform, set_undisturbed]
    cases hnext : ((undisturbed s k).walk.next s).1 with
    | none =>
      rw [Option.toList_none, List.append_nil]
      rcases Nat.lt_succ_iff_lt_or_eq.1 h with hlt | rfl
      · exact ih hlt
      · rw [hnext]
        exact List.getElem?_eq_none hle
    | some n =>
      rw [Option.toList_some]
      have hk := hlength n hnext
      rcases Nat.lt_succ_iff_lt_or_eq.1 h with hlt | rfl
      · rw [List.getElem?_append_left (by omega)]
        exact ih hlt
      · rw [hnext, List.getElem?_append_right (by omega), hk, Nat.sub_self]
        rfl

/-- Listing all at once is listing step by step. -/
theorem listed_steps (t : Tour) (k : ℕ) :
    ((List.replicate k Action.step).foldl perform t).listed =
      t.listed ++ (t.walk.take t.set k).1 := by
  induction k generalizing t with
  | zero => exact (List.append_nil _).symm
  | succ k ih =>
    rw [List.replicate_succ, List.foldl_cons]
    cases hnext : t.walk.next t.set with
    | mk o w =>
      cases o with
      | none =>
        obtain ⟨hended, hlisted⟩ := ended_step (t := t) (by rw [hnext])
        rw [(ended_foldl hended _).2, hlisted, Walk.take, hnext, List.append_nil]
      | some n =>
        rw [ih, perform, hnext, Walk.take, hnext, Option.toList_some, List.append_assoc]
        rfl

/-- All members at once are those that an undisturbed walk lists. -/
theorem toList_eq (s : NumberSet) : s.toList = (undisturbed s s.capacity.toNat).listed :=
  (listed_steps (start s) _).symm

/-- An undisturbed walk is at its end after as many steps as there are numbers. -/
theorem next_undisturbed_eq_none {s : NumberSet} {A : Finset ℕ} (hs : s.Holds A) {k : ℕ}
    (h : s.capacity.toNat ≤ k) : ((undisturbed s k).walk.next s).1 = none := by
  cases hnext : ((undisturbed s k).walk.next s).1 with
  | none => rfl
  | some n =>
    have hle := ((sound_after hs (.replicate k .step)).next hs).length_le hs
    rw [← undisturbed, set_undisturbed, hnext, Option.toList_some, List.length_append,
      (length_undisturbed s k).2 n hnext, List.length_singleton] at hle
    omega

/-- A walk over a set that stays as it is lists its members. -/
theorem mem_toList_iff {s : NumberSet} {A : Finset ℕ} (hs : s.Holds A) (n : UInt16) :
    n ∈ s.toList ↔ s.contains n = true := by
  have hset {l : List Action} {k : ℕ} (h : l <+: .replicate k .step) : (after s l).set = s := by
    rw [(List.prefix_replicate_iff.1 h).2]
    exact set_undisturbed s _
  have hsound := sound_after hs (.replicate s.capacity.toNat .step)
  rw [toList_eq]
  constructor
  · intro hn
    obtain ⟨hne, hever⟩ := hsound.members n hn
    obtain ⟨-, l, hl, hmem⟩ := hever.contains hs hne
    rwa [hset hl] at hmem
  · intro hn
    refine mem_listed_of_always hs ?_ fun l hl => by rwa [hset hl]
    rw [← undisturbed, set_undisturbed]
    exact next_undisturbed_eq_none hs (Nat.le_refl _)

/-- The members of a set stand in ascending order. -/
theorem pairwise_toList {s : NumberSet} {A : Finset ℕ} (hs : s.Holds A) :
    s.toList.Pairwise (· < ·) := by
  rw [toList_eq]
  exact (sound_after hs _).ascending

/-- There is one ascending list of the members. -/
theorem toList_eq_of_ascending {s : NumberSet} {A : Finset ℕ} (hs : s.Holds A) {ns : List UInt16}
    (ascending : ns.Pairwise (· < ·)) (members : ∀ n, n ∈ ns ↔ s.contains n = true) :
    s.toList = ns := by
  have hne {k n : UInt16} (h : k < n) : k ≠ n := fun e => UInt16.lt_irrefl n (e ▸ h)
  have hperm : s.toList.Perm ns :=
    (List.perm_ext_iff_of_nodup ((pairwise_toList hs).imp hne) (ascending.imp hne)).2 fun n =>
      (mem_toList_iff hs n).trans (members n).symm
  exact hperm.eq_of_pairwise (fun _ _ _ _ h h' => absurd h' (UInt16.lt_asymm h))
    (pairwise_toList hs) ascending

end Tour

/-- **A walk lists the members** of a set in ascending order, whatever is added and removed between
its steps. Every number listed is in range and was a member at some moment since the walk started;
when nothing more is listed, every number that was a member all the time has been listed once, and
nothing is ever listed again. A walk over a set that stays as it is lists exactly the members. -/
theorem listing_exact (capacity : UInt16) (requests : List Request) :
    let s := Dialogue.after serve (empty capacity) requests
    (∀ actions : List Action,
      let t := Tour.after s actions
      let ever (n : UInt16) := ∃ l, l <+: actions ∧ (Tour.after s l).set.contains n = true
      let always (n : UInt16) := ∀ l, l <+: actions → (Tour.after s l).set.contains n = true
      t.listed.Pairwise (· < ·) ∧
      (∀ n ∈ t.listed, 1 ≤ n ∧ n ≤ capacity ∧ ever n) ∧
      (∀ n, (t.walk.next t.set).1 = some n →
        1 ≤ n ∧ n ≤ capacity ∧ ever n ∧ ∀ k ∈ t.listed, k < n) ∧
      ((t.walk.next t.set).1 = none →
        (∀ n, always n → t.listed.count n = 1) ∧
        ∀ more : List Action,
          let u := Tour.after s (actions ++ .step :: more)
          u.listed = t.listed ∧ (u.walk.next u.set).1 = none)) ∧
    s.toList.Pairwise (· < ·) ∧ (∀ n, n ∈ s.toList ↔ s.contains n = true) ∧
    ∀ k, ((Tour.after s (.replicate k .step)).walk.next s).1 = s.toList[k]? := by
  intro s
  obtain ⟨-, hs, hcapacity⟩ := holds_after capacity requests
  refine ⟨fun actions => ?_, Tour.pairwise_toList hs, Tour.mem_toList_iff hs, fun k => ?_⟩
  · intro t ever always
    have hsound := Tour.sound_after hs actions
    have hnext := hsound.next hs
    have bounds {n : UInt16} (hne : n ≠ 0) (hever : Tour.Ever s actions (n.toNat - 1)) :
        1 ≤ n ∧ n ≤ capacity ∧ ever n := by
      obtain ⟨hrange, hmem⟩ := hever.contains hs hne
      refine ⟨UInt16.le_iff_toNat_le.2 hrange.pos, UInt16.le_iff_toNat_le.2 ?_, hmem⟩
      rw [← hcapacity]
      exact hrange.2
    -- one more step keeps what holds of the numbers listed so far, and of the one it lists
    refine ⟨hsound.ascending, fun n hn => ?_, fun n hn => ?_, fun hnone => ⟨fun n hn => ?_, ?_⟩⟩
    · exact bounds (hsound.members n hn).1 (hsound.members n hn).2
    · rw [hn, Option.toList_some] at hnext
      have hlast := hnext.members n (List.mem_append_right _ (List.mem_singleton_self n))
      obtain ⟨hlow, hhigh, hever⟩ := bounds hlast.1 hlast.2
      exact ⟨hlow, hhigh, hever, fun k hk =>
        (List.pairwise_append.1 hnext.ascending).2.2 k hk n (List.mem_singleton_self n)⟩
    · exact List.count_eq_one_of_mem hsound.nodup (Tour.mem_listed_of_always hs hnone hn)
    -- a walk that has ended stays at its end, whatever is added
    · intro more u
      obtain ⟨hended, hlisted⟩ := Tour.ended_step hnone
      obtain ⟨hlast, hsame⟩ := Tour.ended_foldl hended more
      have hu : u = more.foldl Tour.perform (t.perform .step) := Tour.after_append ..
      rw [hu]
      exact ⟨hsame.trans hlisted, hlast.next.1⟩
  -- a walk that nothing disturbs comes to the k-th member with its k-th step
  · rw [← Tour.undisturbed, Tour.toList_eq]
    rcases Nat.lt_or_ge k s.capacity.toNat with hlt | hge
    · exact (Tour.getElem?_undisturbed s hlt).symm
    · rw [Tour.next_undisturbed_eq_none hs hge, List.getElem?_eq_none]
      exact ((Tour.sound_after hs _).length_le hs).trans hge

/-- What is added in the word at hand is passed over, what is added ahead is listed, and at the end
nothing is. -/
example : (Tour.after ((empty 70).insert 3) [.insert 5, .step, .insert 66, .step, .insert 67, .step,
    .step]).listed = [3, 66] := by
  decide +kernel

end NumberSet

end Switchboard
