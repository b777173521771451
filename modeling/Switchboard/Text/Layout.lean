/-! # Layout of descriptions and tables

The shapes that descriptions and report tables are built from: a named record with its fields, a
single wrapped value, a set, a value padded to a width, and a byte in hexadecimal. -/

namespace Switchboard.Text

/-- A named record with its fields in order. An open record has fields that are not shown. -/
def recordText (name : String) (fields : List (String × String)) (isOpen : Bool) : String :=
  name ++ " \x7b " ++ String.intercalate ", " (fields.map fun f => f.1 ++ ": " ++ f.2) ++
    (if isOpen then ", .. \x7d" else " \x7d")

/-- A value inside its wrapper. -/
def wrapped (name inner : String) : String := name ++ "(" ++ inner ++ ")"

/-- An optional value. -/
def optionText : Option String → String
  | none => "None"
  | some s => wrapped "Some" s

/-- The elements of a set. -/
def setText (elements : List String) : String :=
  "\x7b" ++ String.intercalate ", " elements ++ "\x7d"

/-- A truth value. -/
def boolText (b : Bool) : String := if b then "true" else "false"

/-- A natural number in decimal. -/
def natText (n : Nat) : String := String.ofList (Nat.toDigits 10 n)

/-- A byte as two hexadecimal digits behind their marker. -/
def byteText (b : UInt8) : String :=
  String.ofList ['0', 'x', Nat.digitChar (b.toNat / 16), Nat.digitChar (b.toNat % 16)]

/-- A text followed by blanks up to a width. A text that is wider stands as it is. -/
def padRight (width : Nat) (s : List Char) : List Char :=
  s ++ List.replicate (width - s.length) ' '

/-- A text preceded by blanks up to a width. A text that is wider stands as it is. -/
def padLeft (width : Nat) (s : List Char) : List Char :=
  List.replicate (width - s.length) ' ' ++ s

end Switchboard.Text
