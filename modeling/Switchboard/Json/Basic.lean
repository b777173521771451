/-! # JSON values

The values that answers and reports are made of. Numbers are integers, and the members of an
object keep the order in which they were listed. -/

namespace Switchboard

/-- A JSON value whose numbers are integers. -/
inductive Json where
  | null
  | bool (b : Bool)
  | number (n : Int)
  | text (s : String)
  | list (items : List Json)
  | record (members : List (String × Json))

namespace Json

instance : Inhabited Json := ⟨.null⟩

/-- A natural number as a JSON value. -/
def nat (n : Nat) : Json := .number (n : Int)

/-- An optional value, `null` when there is none. -/
def ofOption (f : α → Json) : Option α → Json
  | none => .null
  | some x => f x

/-- What is missing is null. -/
@[simp] theorem ofOption_none (f : α → Json) : ofOption f none = .null := rfl

/-- What is there is written as itself. -/
@[simp] theorem ofOption_some (f : α → Json) (x : α) : ofOption f (some x) = f x := rfl

/-- A list of device or application numbers. -/
def numbers (ns : List UInt16) : Json := .list (ns.map fun n => nat n.toNat)

end Json

end Switchboard
