import Switchboard.Lifecycle

/-! # A lifecycle in one word

A lifecycle fits one 32-bit word: the highest bit is the retiring flag and the others count the
references. Every change is then one arithmetic operation on the whole word, and below 2^31
references it does what it does on the pair. -/

namespace Switchboard

/-- A lifecycle packed into a word. -/
structure LifecycleWord where
  word : UInt32
deriving DecidableEq

namespace LifecycleWord

/-- The bit that says the record is retiring. -/
def retiringBit : UInt32 := 0x80000000

/-- The bits that count references. -/
def countMask : UInt32 := retiringBit - 1

/-- The owner's reference to a new record. -/
def fresh : LifecycleWord := ⟨1⟩

instance : Inhabited LifecycleWord := ⟨fresh⟩

/-- How many references are counted. -/
def refs (l : LifecycleWord) : UInt32 := l.word &&& countMask

/-- Whether the record is retiring. -/
def isRetiring (l : LifecycleWord) : Bool := l.word &&& retiringBit != 0

/-- Takes a reference, unless the record is retiring or nothing refers to it any more. -/
def join? (l : LifecycleWord) : Option LifecycleWord :=
  if l.word &&& retiringBit != 0 || l.word &&& countMask == 0 then none else some ⟨l.word + 1⟩

/-- Takes another reference for one who holds one. -/
def share (l : LifecycleWord) : LifecycleWord := ⟨l.word + 1⟩

/-- Gives up a reference. -/
def leave (l : LifecycleWord) : LifecycleWord := ⟨l.word - 1⟩

/-- Whether the reference that is given up is the last. -/
def isLast (l : LifecycleWord) : Bool := l.word &&& countMask == 1

/-- Starts the retirement. -/
def retire (l : LifecycleWord) : LifecycleWord := ⟨l.word ||| retiringBit⟩

/-- The pair that the word stands for. -/
def unpack (l : LifecycleWord) : Lifecycle := ⟨l.refs.toNat, l.isRetiring⟩

/-- The fresh word stands for a fresh record. -/
@[simp] theorem unpack_fresh : fresh.unpack = Lifecycle.fresh := by decide

end LifecycleWord

end Switchboard
