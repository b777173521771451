import Switchboard.Json.Basic
import Switchboard.Json.Text

/-! # Compact JSON text

A value is written without any blank: items and members are separated by a comma, a member's name
and value by a colon, and integers are decimal. -/

namespace Switchboard.Json

/-- An integer in decimal, with a leading minus sign if it is negative. -/
def renderInt : Int → List Char
  | .ofNat n => Nat.toDigits 10 n
  | .negSucc n => '-' :: Nat.toDigits 10 (n + 1)

mutual

/-- The compact text of a value. -/
def render : Json → List Char
  | .null => ['n', 'u', 'l', 'l']
  | .bool true => ['t', 'r', 'u', 'e']
  | .bool false => ['f', 'a', 'l', 's', 'e']
  | .number n => renderInt n
  | .text s => Text.quote s
  | .list [] => ['[', ']']
  | .list (x :: rest) => '[' :: (render x ++ renderItems rest)
  | .record [] => ['{', '}']
  | .record (m :: rest) => '{' :: (renderMember m ++ renderMembers rest)

/-- The items after the first, each after a comma, and the closing bracket. -/
def renderItems : List Json → List Char
  | [] => [']']
  | x :: rest => ',' :: (render x ++ renderItems rest)

/-- A member: its name, a colon and its value. -/
def renderMember : String × Json → List Char
  | (name, x) => Text.quote name ++ ':' :: render x

/-- The members after the first, each after a comma, and the closing brace. -/
def renderMembers : List (String × Json) → List Char
  | [] => ['}']
  | m :: rest => ',' :: (renderMember m ++ renderMembers rest)

end

/-- The compact text of a value. -/
def compact (x : Json) : String := String.ofList x.render

end Switchboard.Json
