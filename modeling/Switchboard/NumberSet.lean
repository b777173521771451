/-! # Sets of numbers

A set of numbers in `1..=capacity`, kept as one bit per number in 64-bit words: number `n` is bit
`(n - 1) % 64` of word `(n - 1) / 64`. Numbers outside the range are never members.

A `Walk` lists the members in ascending order while the set may change: it samples a word when it
reaches it, so a change is seen in the words that lie ahead and not in the one at hand. -/

namespace Switchboard

/-- A set of numbers in `1..=capacity`. -/
structure NumberSet where
  capacity : UInt16
  words : Array UInt64

namespace NumberSet

/-- Bits in a word. -/
def wordBits : Nat := 64

/-- The empty set of numbers up to `capacity`. -/
def empty (capacity : UInt16) : NumberSet :=
  ⟨capacity, Array.replicate ((capacity.toNat + 63) / wordBits) 0⟩

instance : Inhabited NumberSet := ⟨empty 0⟩

/-- The word with a single bit. -/
def bit (i : Nat) : UInt64 := 1 <<< UInt64.ofNat i

/-- The lowest bit that is set in a word. -/
def lowestBit? (w : UInt64) : Option Nat :=
  if w = 0 then none else (List.range wordBits).find? fun i => w.toNat.testBit i

/-- How many bits are set in a word. -/
def bitCount (w : UInt64) : Nat := (List.range wordBits).countP fun i => w.toNat.testBit i

/-- The word and the bit that stand for a number, if it is in range. -/
def place? (s : NumberSet) (n : UInt16) : Option (Nat × UInt64) :=
  if n = 0 ∨ s.capacity < n then none
  else some ((n - 1).toNat / wordBits, bit ((n - 1).toNat % wordBits))

/-- A word of the set. -/
def word (s : NumberSet) (i : Nat) : UInt64 := s.words.getD i 0

/-- The set with one word replaced. -/
def setWord (s : NumberSet) (i : Nat) (w : UInt64) : NumberSet :=
  { s with words := s.words.setIfInBounds i w }

/-- Whether a number is a member. -/
def contains (s : NumberSet) (n : UInt16) : Bool :=
  match s.place? n with
  | none => false
  | some (i, b) => s.word i &&& b != 0

/-- The set with a number added. A number out of range is not added. -/
def insert (s : NumberSet) (n : UInt16) : NumberSet :=
  match s.place? n with
  | none => s
  | some (i, b) => s.setWord i (s.word i ||| b)

/-- Whether adding a number makes a difference. -/
def accepts (s : NumberSet) (n : UInt16) : Bool :=
  match s.place? n with
  | none => false
  | some (i, b) => s.word i &&& b == 0

/-- The set with a number removed. -/
def erase (s : NumberSet) (n : UInt16) : NumberSet :=
  match s.place? n with
  | none => s
  | some (i, b) => s.setWord i (s.word i &&& ~~~b)

/-- The number of members. -/
def size (s : NumberSet) : Nat := s.words.foldl (fun n w => n + bitCount w) 0

/-- Whether there are no members. -/
def isEmpty (s : NumberSet) : Bool := s.words.all fun w => w == 0

/-! ## The lowest free number -/

/-- The bits of a word that stand for numbers in range. -/
def usable (s : NumberSet) (i : Nat) : UInt64 :=
  -- the last word may reach beyond the capacity
  let left := s.capacity.toNat - i * wordBits
  if wordBits ≤ left then ~~~0 else bit left - 1

/-- The number that a bit of a word stands for. -/
def numberAt (i b : Nat) : UInt16 := UInt16.ofNat (i * wordBits) + UInt16.ofNat b + 1

/-- Takes the lowest number in range that is not a member, if there is one. -/
def takeLowest? (s : NumberSet) : Option (UInt16 × NumberSet) :=
  (List.range s.words.size).findSome? fun i =>
    (lowestBit? (~~~(s.word i) &&& s.usable i)).map fun b =>
      (numberAt i b, s.setWord i (s.word i ||| bit b))

/-! ## Walks -/

/-- A position in an ascending walk: the word that has been reached and those of its sampled bits
that are still to be listed. -/
structure Walk where
  word : Nat
  bits : UInt64

namespace Walk

/-- The start of a walk, which samples the first word. -/
def start (s : NumberSet) : Walk := ⟨0, s.word 0⟩

/-- Samples the first word from `i` on that is not empty. -/
def sample (s : NumberSet) (i : Nat) : Walk :=
  if i < s.words.size then
    if s.word i = 0 then sample s (i + 1) else ⟨i, s.word i⟩
  else ⟨i, 0⟩
termination_by s.words.size - i

/-- The next number of the walk, if any, and the position after it. -/
def next (s : NumberSet) (w : Walk) : Option UInt16 × Walk :=
  -- the word at hand is left for good once all its sampled bits have been listed
  let w := if w.bits = 0 then sample s (w.word + 1) else w
  match lowestBit? w.bits with
  | none => (none, w)
  | some b => (some (UInt16.ofNat (w.word * wordBits + b) + 1), ⟨w.word, w.bits &&& (w.bits - 1)⟩)

/-- Up to `n` further numbers of the walk, and the position after them. The walk is asked no more
once it has come to its end. -/
def take (s : NumberSet) : Nat → Walk → List UInt16 × Walk
  | 0, w => ([], w)
  | n + 1, w => match next s w with
    | (none, w') => ([], w')
    | (some k, w') => let r := take s n w'; (k :: r.1, r.2)

end Walk

/-- The members in ascending order. -/
def toList (s : NumberSet) : List UInt16 := ((Walk.start s).take s s.capacity.toNat).1

/-! ## Basic facts -/

/-- An empty set has the capacity that it is made for. -/
@[simp] theorem capacity_empty (c : UInt16) : (empty c).capacity = c := rfl

/-- Setting a word does not change the capacity. -/
@[simp] theorem capacity_setWord (s : NumberSet) (i : Nat) (w : UInt64) :
    (s.setWord i w).capacity = s.capacity := rfl

/-- Inserting does not change the capacity. -/
@[simp] theorem capacity_insert (s : NumberSet) (n : UInt16) :
    (s.insert n).capacity = s.capacity := by
  unfold insert; split <;> rfl

/-- Erasing does not change the capacity. -/
@[simp] theorem capacity_erase (s : NumberSet) (n : UInt16) :
    (s.erase n).capacity = s.capacity := by
  unfold erase; split <;> rfl

/-- Zero is never a member. -/
@[simp] theorem contains_zero (s : NumberSet) : s.contains 0 = false := by
  simp [contains, place?]

end NumberSet

end Switchboard
