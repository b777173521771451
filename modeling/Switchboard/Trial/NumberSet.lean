import Switchboard.Json.Basic
import Switchboard.NumberSet
import Switchboard.Text.Layout

/-! # Trials of number sets

A trial is a list of operations on one set, each of which yields an answer. -/

namespace Switchboard.NumberSet

/-- An operation on a set. -/
inductive Operation where
  | insert (n : UInt16)
  | erase (n : UInt16)
  | contains (n : UInt16)
  | size
  | isEmpty
  | capacity
  | list
  | describe
  /-- Inserts all numbers from `lo` to `hi` and counts those that were new. -/
  | insertRange (lo hi : UInt16)
  /-- Walks over up to `n` members, changes the set, and walks over the rest. -/
  | walk (n : Nat) (inserts erases : List UInt16)

/-- The description of a set. -/
def describe (s : NumberSet) : String :=
  Text.setText (s.toList.map fun n => Text.natText n.toNat)

/-- Inserts numbers and counts those that were new. -/
def insertCounting (s : NumberSet) (ns : List UInt16) : Nat × NumberSet :=
  ns.foldl (fun r n => (if r.2.accepts n then r.1 + 1 else r.1, r.2.insert n)) (0, s)

/-- The numbers from `lo` to `hi`. -/
def range (lo hi : UInt16) : List UInt16 :=
  (List.range' lo.toNat (hi.toNat + 1 - lo.toNat)).map UInt16.ofNat

/-- Performs an operation. -/
def operate (s : NumberSet) : Operation → Json × NumberSet
  | .insert n => (.bool (s.accepts n), s.insert n)
  | .erase n => (.bool (s.contains n), s.erase n)
  | .contains n => (.bool (s.contains n), s)
  | .size => (.nat s.size, s)
  | .isEmpty => (.bool s.isEmpty, s)
  | .capacity => (.nat s.capacity.toNat, s)
  | .list => (.numbers s.toList, s)
  | .describe => (.text s.describe, s)
  | .insertRange lo hi => let r := s.insertCounting (range lo hi); (.nat r.1, r.2)
  | .walk n inserts erases =>
    let first := (Walk.start s).take s n
    let s := erases.foldl erase (inserts.foldl insert s)
    let rest := first.2.take s s.capacity.toNat
    (.numbers (first.1 ++ rest.1), s)

/-- The answers of a trial. -/
def answers (s : NumberSet) : List Operation → List Json
  | [] => []
  | o :: rest => let r := s.operate o; r.1 :: r.2.answers rest

end Switchboard.NumberSet
